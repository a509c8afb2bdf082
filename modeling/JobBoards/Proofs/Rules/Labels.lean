import JobBoards.Proofs.Faults
import JobBoards.Rules.File
namespace JobBoards

namespace Table
variable {α : Type} [DecidableEq α]

theorem map_fst_override {label : α} {table : Table α} (h : label ∈ table.map Prod.fst)
    (keywords : List Text) : (override label keywords table).map Prod.fst = table.map Prod.fst := by
  induction table with
  | nil => cases h
  | cons row rows ih =>
    by_cases hrow : row.1 = label
    · simp [override, hrow]
    · have hmem : label ∈ rows.map Prod.fst :=
        (List.mem_cons.mp h).resolve_left (Ne.symm hrow)
      rw [override, if_neg hrow, List.map_cons, List.map_cons, ih hmem]

end Table

namespace Rules
variable {α : Type} [DecidableEq α] [Category α] {calls : Nat}

def overrideRow (calls : Nat) (table : Table α) (entry : Value × Value) : Except Fault (Table α) := do
  let (label, words) ← row calls entry
  .ok (table.override label words)

theorem overrideRow_cons {entry : Value × Value} {entries : List (Value × Value)} {table result : Table α}
    (h : (entry :: entries).foldlM (overrideRow calls) table = .ok result) :
    ∃ label words, row calls entry = .ok (label, words) ∧
      entries.foldlM (overrideRow calls) (table.override label words) = .ok result := by
  rw [List.foldlM_cons, Fault.bind_eq_ok] at h
  obtain ⟨next, hnext, h⟩ := h
  obtain ⟨⟨label, words⟩, hrow, hnext⟩ := Fault.bind_eq_ok.mp hnext
  obtain rfl : table.override label words = next := Except.ok.inj hnext
  exact ⟨label, words, hrow, h⟩

theorem map_fst_overrideAll {entries : List (Value × Value)} {table result : Table α}
    (hall : ∀ label, label ∈ table.map Prod.fst) (h : entries.foldlM (overrideRow calls) table = .ok result) :
    result.map Prod.fst = table.map Prod.fst := by
  induction entries generalizing table with
  | nil =>
    obtain rfl : table = result := Except.ok.inj h
    rfl
  | cons entry entries ih =>
    obtain ⟨label, words, -, h⟩ := overrideRow_cons h
    have hfst := Table.map_fst_override (hall label) words
    rw [ih (by rwa [hfst]) h, hfst]

theorem map_fst_overridden {table result : Table α} {v : Value}
    (hall : ∀ label, label ∈ table.map Prod.fst) (h : overridden calls table v = .ok result) :
    result.map Prod.fst = table.map Prod.fst := by
  unfold overridden at h
  split at h
  · rw [Except.ok.inj h]
  · split at h
    · exact map_fst_overrideAll hall h
    · cases h

theorem mem_defaultSkills (label : Skill) : label ∈ Table.defaultSkills.map Prod.fst := by
  cases label <;> decide

theorem mem_defaultLevels (label : Level) : label ∈ Table.defaultLevels.map Prod.fst := by
  cases label <;> decide

theorem labels_ofValue {path : Text} {v : Value} {rules : Rules} (h : ofValue calls path v = .ok rules) :
    rules.skills.map Prod.fst = Category.all ∧ rules.levels.map Prod.fst = Category.all := by
  unfold ofValue at h
  split at h
  · obtain rfl : standard = rules := Except.ok.inj h
    exact ⟨rfl, rfl⟩
  · split at h
    · obtain ⟨skills, hskills, h⟩ := Fault.bind_eq_ok.mp h
      obtain ⟨levels, hlevels, h⟩ := Fault.bind_eq_ok.mp h
      obtain ⟨remote, -, h⟩ := Fault.bind_eq_ok.mp h
      obtain rfl : ⟨skills, levels, remote⟩ = rules := Except.ok.inj h
      exact ⟨map_fst_overridden mem_defaultSkills hskills,
        map_fst_overridden mem_defaultLevels hlevels⟩
    · cases h

theorem load_eq_ok {path : Text} {content : FileContent} {rules : Rules} : load calls path content = .ok rules ↔
    ∃ s v, contentText (Path.normal path) content = .ok s ∧ Yaml.load calls s = .ok v ∧
      ofValue calls (Path.normal path) v = .ok rules := by
  constructor
  · intro h
    obtain ⟨b, hread, h⟩ := Fault.bind_eq_ok.mp h
    obtain ⟨v, hvalue, h⟩ := Fault.bind_eq_ok.mp h
    obtain ⟨s, hs, hload⟩ := Fault.bind_eq_ok.mp hvalue
    exact ⟨s, v, Fault.bind_eq_ok.mpr ⟨b, hread, hs⟩, hload, h⟩
  · rintro ⟨s, v, hs, hload, h⟩
    obtain ⟨b, hread, hs⟩ := Fault.bind_eq_ok.mp hs
    exact Fault.bind_eq_ok.mpr ⟨b, hread, Fault.bind_eq_ok.mpr ⟨v, Fault.bind_eq_ok.mpr ⟨s, hs, hload⟩, h⟩⟩

theorem labels_load {path : Text} {content : FileContent} {rules : Rules}
    (h : load calls path content = .ok rules) :
    rules.skills.map Prod.fst = Category.all ∧ rules.levels.map Prod.fst = Category.all := by
  obtain ⟨s, v, -, -, h⟩ := load_eq_ok.mp h
  exact labels_ofValue h

end Rules
end JobBoards
