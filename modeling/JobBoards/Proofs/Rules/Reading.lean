import JobBoards.Proofs.Query.Label
import JobBoards.Proofs.Rules.Labels
import JobBoards.Proofs.Text.Letters
import JobBoards.Proofs.Yaml.Keys
namespace JobBoards

namespace Value

def entries : Value → List (Value × Value)
  | .map entries => entries
  | _ => []

def items : Value → List Value
  | .list items => items
  | .pair a b => [a, b]
  | _ => []

def at? (v : Value) (name : Text) : Option Value := field? name v.entries

def keyword (v : Value) : Text := Text.lower (Text.trim v.shown)

theorem entries_of_isEmpty {v : Value} (h : v.isEmpty = true) : v.entries = [] := by
  cases v with
  | map entries => exact List.isEmpty_iff.mp h
  | _ => rfl

theorem at?_of_isEmpty {v : Value} (h : v.isEmpty = true) (name : Text) : v.at? name = none := by
  rw [at?, entries_of_isEmpty h]
  rfl

@[simp] theorem at?_getD_null (v? : Option Value) (name : Text) :
    (v?.getD .null).at? name = v?.bind (·.at? name) := by
  cases v? <;> rfl

end Value

structure Keyword (k : Text) : Prop where
  ne_nil : k ≠ []
  tight : Text.Tight k
  small : Text.lower k = k

instance (k : Text) : Decidable (Keyword k) :=
  decidable_of_iff (k ≠ [] ∧ Text.Tight k ∧ Text.lower k = k)
    ⟨fun ⟨h₁, h₂, h₃⟩ => ⟨h₁, h₂, h₃⟩, fun h => ⟨h.ne_nil, h.tight, h.small⟩⟩

theorem Value.isKeyword {v : Value} (h : v.keyword ≠ []) : Keyword v.keyword where
  ne_nil := h
  tight := (Text.tight_trim v.shown).lowerAfter false
  small := Text.lower_lower (Text.trim v.shown)

theorem Category.name_injective {α : Type} [Category α] [Lawful α] :
    Function.Injective (name : α → Text) :=
  fun a b h => Lawful.eq_of_lower_name a b (congrArg Text.lower h)

namespace Rules
variable {α : Type} [Category α] {calls : Nat} {path : Text} {v : Value}

theorem keywords_eq_ok {name : Value} {items : List Value} {words : List Text}
    (h : keywords calls name items = .ok words) :
    words = items.map Value.keyword ∧ ∀ k ∈ words, Keyword k := by
  unfold keywords at h
  split at h
  · cases h
  · simp only at h
    split at h
    · rename_i hfull
      obtain rfl := Except.ok.inj h
      refine ⟨rfl, fun k hk => ?_⟩
      have hne : k ≠ [] := by simpa using List.all_eq_true.mp hfull k hk
      obtain ⟨v, -, rfl⟩ := List.mem_map.mp hk
      exact v.isKeyword hne
    · cases h

theorem labelOf_eq_ok {name : Value} {label : α} (h : labelOf calls name = .ok label) :
    name = .text (Category.name label) := by
  unfold labelOf at h
  split at h
  · rename_i s
    split at h
    · rename_i found hfound
      obtain rfl : found = label := Except.ok.inj h
      have hname : (Category.name found == s) = true :=
        List.find?_some (p := fun label => Category.name label == s) hfound
      rw [beq_iff_eq.mp hname]
    · cases h
  · cases h

theorem row_eq_ok {entry : Value × Value} {label : α} {words : List Text}
    (h : row calls entry = .ok (label, words)) :
    entry.1 = .text (Category.name label) ∧ words = entry.2.items.map Value.keyword ∧
      ∀ k ∈ words, Keyword k := by
  obtain ⟨found, hfound, h⟩ := Fault.bind_eq_ok.mp h
  split at h
  · rename_i items heq
    obtain ⟨ks, hks, h⟩ := Fault.bind_eq_ok.mp h
    obtain ⟨rfl, rfl⟩ := Prod.mk.inj (Except.ok.inj h)
    rw [heq]
    exact ⟨labelOf_eq_ok hfound, keywords_eq_ok hks⟩
  · rename_i a b heq
    obtain ⟨ks, hks, h⟩ := Fault.bind_eq_ok.mp h
    obtain ⟨rfl, rfl⟩ := Prod.mk.inj (Except.ok.inj h)
    rw [heq]
    exact ⟨labelOf_eq_ok hfound, keywords_eq_ok hks⟩
  · cases h

theorem label_of_overrideAll [DecidableEq α] {entries : List (Value × Value)} {table result : Table α}
    (h : entries.foldlM (overrideRow calls) table = .ok result) :
    ∀ e ∈ entries, ∃ label : α, e.1 = .text (Category.name label) := by
  induction entries generalizing table with
  | nil => simp
  | cons entry entries ih =>
    obtain ⟨label, words, hrow, h⟩ := overrideRow_cons h
    exact List.forall_mem_cons.mpr ⟨⟨label, (row_eq_ok hrow).1⟩, ih h⟩

theorem overridden_map_ne_ok [DecidableEq α] {name : Text} (hname : ∀ label : α, Category.name label ≠ name)
    {entries : List (Value × Value)} (hv : Value.field? name entries = some v) {table result : Table α} :
    overridden calls table (.map entries) ≠ .ok result := by
  intro h
  obtain ⟨e, he, -⟩ := Option.map_eq_some_iff.mp hv
  have hmem := List.mem_of_find?_eq_some he
  have hkey : e.1.sameKey (.text name) = true :=
    List.find?_some (p := fun e : Value × Value => e.1.sameKey (.text name)) he
  have hfull : (Value.map entries).isEmpty ≠ true := fun hempty =>
    List.ne_nil_of_mem hmem (List.isEmpty_iff.mp hempty)
  rw [overridden, if_neg hfull] at h
  obtain ⟨label, hlabel⟩ := label_of_overrideAll h e hmem
  rw [Value.sameKey_text.mp hkey, Value.text.injEq] at hlabel
  exact hname label hlabel.symm

theorem overridden_part_eq_ok [DecidableEq α] {name : Text} (hname : ∀ label : α, Category.name label ≠ name)
    {entries : List (Value × Value)} {table result : Table α} :
    overridden calls table (part name entries) = .ok result ↔
      overridden calls table ((Value.field? name entries).getD .null) = .ok result := by
  unfold part
  split
  · rename_i hv
    rw [hv]
    rfl
  · rename_i hv
    rw [hv]
    exact ⟨fun h => absurd h (overridden_map_ne_ok hname hv), fun h => nomatch h⟩
  · rename_i hv
    rw [hv]
    rfl

theorem name_ne_skills (label : Skill) : Category.name label ≠ "skills".toList := by
  cases label <;> decide

theorem name_ne_levels (label : Level) : Category.name label ≠ "levels".toList := by
  cases label <;> decide

theorem remoteKeywordOf_eq_ok {k : Text} (h : remoteKeywordOf calls v = .ok k) : k = v.keyword ∧ Keyword k := by
  obtain ⟨words, hwords, h⟩ := Fault.bind_eq_ok.mp h
  obtain ⟨rfl, hall⟩ := keywords_eq_ok hwords
  obtain rfl : v.keyword = k := Except.ok.inj h
  exact ⟨rfl, hall v.keyword (List.mem_singleton_self _)⟩

@[simp] theorem remoteKeywordOf_standard (calls : Nat) :
    remoteKeywordOf calls (.text standard.remoteKeyword) = .ok standard.remoteKeyword := by
  have hany : remoteKeywordOf calls (.text standard.remoteKeyword) =
      remoteKeywordOf 0 (.text standard.remoteKeyword) := rfl
  rw [hany]
  decide +kernel

inductive Setting where
  | skills | levels | remoteKeyword
  deriving DecidableEq

namespace Setting

def name : Setting → Text
  | .skills => "skills"
  | .levels => "levels"
  | .remoteKeyword => "remote_keyword"

theorem name_injective : Function.Injective name := by
  intro a b
  cases a <;> cases b <;> decide

def Reads (calls : Nat) (rules : Rules) (v? : Option Value) : Setting → Prop
  | .skills => overridden calls Table.defaultSkills (v?.getD .null) = .ok rules.skills
  | .levels => overridden calls Table.defaultLevels (v?.getD .null) = .ok rules.levels
  | .remoteKeyword => remoteKeywordOf calls (v?.getD (.text standard.remoteKeyword)) = .ok rules.remoteKeyword

theorem reads_none {rules : Rules} : (∀ setting : Setting, setting.Reads calls rules none) ↔ standard = rules := by
  constructor
  · intro h
    have hskills : standard.skills = rules.skills := Except.ok.inj (h .skills)
    have hlevels : standard.levels = rules.levels := Except.ok.inj (h .levels)
    have hremote : standard.remoteKeyword = rules.remoteKeyword :=
      Except.ok.inj ((remoteKeywordOf_standard calls).symm.trans (h .remoteKeyword))
    cases rules
    exact (Rules.mk.injEq ..).mpr ⟨hskills, hlevels, hremote⟩
  · rintro rfl setting
    cases setting with
    | skills => rfl
    | levels => rfl
    | remoteKeyword => exact remoteKeywordOf_standard calls

end Setting

theorem ofValue_map_eq_ok {entries : List (Value × Value)} {rules : Rules} :
    ofValue calls path (.map entries) = .ok rules ↔
      ∀ setting : Setting, setting.Reads calls rules (Value.field? setting.name entries) := by
  cases entries with
  | nil =>
    rw [show ofValue calls path (.map []) = .ok standard from rfl, Except.ok.injEq]
    exact Setting.reads_none.symm
  | cons entry entries =>
    simp only [ofValue, Value.isEmpty, List.isEmpty_cons, Bool.false_eq_true, if_false, Fault.bind_eq_ok]
    constructor
    · rintro ⟨skills, hskills, levels, hlevels, remote, hremote, h⟩ setting
      obtain rfl := Except.ok.inj h
      cases setting with
      | skills => exact (overridden_part_eq_ok name_ne_skills).mp hskills
      | levels => exact (overridden_part_eq_ok name_ne_levels).mp hlevels
      | remoteKeyword => exact hremote
    · intro h
      exact ⟨_, (overridden_part_eq_ok name_ne_skills).mpr (h .skills),
        _, (overridden_part_eq_ok name_ne_levels).mpr (h .levels), _, h .remoteKeyword, rfl⟩

theorem ofValue_eq_ok {rules : Rules} (h : ofValue calls path v = .ok rules) :
    ofValue calls path (.map v.entries) = .ok rules := by
  unfold ofValue at h
  split at h
  · rename_i hempty
    rw [Value.entries_of_isEmpty hempty]
    exact h
  · rename_i hempty
    split at h
    · rw [← h]
      exact if_neg hempty
    · cases h

end Rules
end JobBoards
