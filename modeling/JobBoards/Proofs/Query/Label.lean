import JobBoards.Key
namespace JobBoards.Category

def Named {α : Type} [Category α] (key : Text) (label : α) : Prop :=
  Text.lower (name label) = Text.lower (Text.trim key)

instance {α : Type} [Category α] (key : Text) (label : α) : Decidable (Named key label) :=
  inferInstanceAs (Decidable (_ = _))

class Lawful (α : Type) [Category α] : Prop where
  mem_all : ∀ label : α, label ∈ all
  eq_of_lower_name : ∀ a b : α, Text.lower (name a) = Text.lower (name b) → a = b

instance : Lawful Location where
  mem_all label := by cases label <;> decide
  eq_of_lower_name a b := by cases a <;> cases b <;> decide

instance : Lawful Skill where
  mem_all label := by cases label <;> decide
  eq_of_lower_name a b := by cases a <;> cases b <;> decide

instance : Lawful Level where
  mem_all label := by cases label <;> decide
  eq_of_lower_name a b := by cases a <;> cases b <;> decide

variable {α : Type} [Category α] [Lawful α]

theorem Named.unique {key : Text} {a b : α} (ha : Named key a) (hb : Named key b) : a = b :=
  Lawful.eq_of_lower_name a b (Eq.trans ha (Eq.symm hb))

theorem like?_eq_some {key : Text} {label : α} (h : Named key label) :
    like? (Text.lower (Text.trim key)) = some label := by
  cases hfound : (like? (Text.lower (Text.trim key)) : Option α) with
  | none =>
    have hno := List.find?_eq_none.mp hfound label (Lawful.mem_all label)
    exact absurd (beq_iff_eq.mpr h) hno
  | some found =>
    have hbeq : (Text.lower (name found) == Text.lower (Text.trim key)) = true :=
      List.find?_some (p := fun label => Text.lower (name label) == _) hfound
    have hnamed : Named key found := beq_iff_eq.mp hbeq
    rw [hnamed.unique h]

omit [Lawful α] in
theorem like?_eq_none {key : Text} (h : ∀ label : α, ¬ Named key label) :
    (like? (Text.lower (Text.trim key)) : Option α) = none :=
  List.find?_eq_none.mpr fun label _ hbeq => h label (beq_iff_eq.mp hbeq)

end JobBoards.Category
