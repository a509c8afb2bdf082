import JobBoards.Rules
import Mathlib.Data.List.Infix
import Mathlib.Data.List.Nodup
namespace JobBoards

@[simp] theorem Text.has_iff_infix (part s : Text) : Text.has part s = true ↔ part <:+: s := by
  induction s with
  | nil => simp [Text.has]
  | cons c s ih =>
    rw [Text.has, Bool.or_eq_true, List.isPrefixOf_iff_prefix, ih, List.infix_cons_iff]

namespace Table

def Holds (keywords : List Text) (s : Text) : Prop :=
  ∃ k ∈ keywords, Text.lower k <:+: Text.lower s

@[simp] theorem holdsAny_iff (keywords : List Text) (s : Text) :
    holdsAny keywords s = true ↔ Holds keywords s := by
  simp [holdsAny, Holds]

instance (keywords : List Text) (s : Text) : Decidable (Holds keywords s) :=
  decidable_of_iff _ (holdsAny_iff keywords s)

variable {α : Type}

@[simp] theorem mem_labels (table : Table α) (s : Text) (label : α) :
    label ∈ table.labels s ↔ ∃ row ∈ table, row.1 = label ∧ Holds row.2 s := by
  simp only [labels, List.mem_map, List.mem_filter, holdsAny_iff]
  constructor
  · rintro ⟨row, ⟨hrow, hholds⟩, hlabel⟩
    exact ⟨row, hrow, hlabel, hholds⟩
  · rintro ⟨row, hrow, hlabel, hholds⟩
    exact ⟨row, ⟨hrow, hholds⟩, hlabel⟩

theorem count_labels [DecidableEq α] (table : Table α) (s : Text) (label : α) :
    (table.labels s).count label =
      table.countP fun row => decide (row.1 = label ∧ Holds row.2 s) := by
  rw [labels, List.count_eq_countP, List.countP_map, List.countP_filter]
  refine List.countP_congr fun row _ => ?_
  simp

theorem nodup_labels {table : Table α} (h : (table.map Prod.fst).Nodup) (s : Text) :
    (table.labels s).Nodup :=
  h.sublist (List.filter_sublist.map Prod.fst)

end Table
end JobBoards
