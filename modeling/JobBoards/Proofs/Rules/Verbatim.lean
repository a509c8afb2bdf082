import JobBoards.Filter
import JobBoards.Proofs.Rules.Override
import JobBoards.Proofs.Text.Sigma
namespace JobBoards

theorem Filter.titleHas_of_holds {words : List Text} {title : Text} (h : Table.Holds words title) :
    titleHas words title = true := by
  rw [titleHas, Bool.or_eq_true]
  exact .inr ((Table.holdsAny_iff words title).mpr h)

theorem Filter.titleHas_singleton (k title : Text) : titleHas [k] title = true ↔ Table.Holds [k] title :=
  Table.holdsAny_iff [k] title

namespace Table
variable {k before after title : Text} {words : List Text}

theorem holds_singleton : Holds [k] title ↔ Text.lower k <:+: Text.lower title := by
  simp [Holds]

theorem holds_of_not_redrawn (hk : k ∈ words) (h : ¬ Text.Redrawn before k after) :
    Holds words (before ++ k ++ after) :=
  ⟨k, hk, Text.lower_infix_of_not_redrawn h⟩

theorem mem_labels_of_holds {α : Type} {table : Table α} {label : α} (hrow : (label, words) ∈ table)
    (h : Holds words title) : label ∈ table.labels title :=
  (mem_labels table title label).mpr ⟨(label, words), hrow, rfl, h⟩

theorem holds_everywhere_iff (k : Text) :
    (∀ title, k <:+: title → Holds [k] title) ↔ ¬ Text.Loose k := by
  constructor
  · intro h hloose
    obtain ⟨before, after, hnot⟩ := hloose.exists_not_infix
    exact hnot (holds_singleton.mp (h _ (List.infix_append before k after)))
  · rintro h _ ⟨before, after, rfl⟩
    exact holds_of_not_redrawn (List.mem_singleton_self k) fun hredrawn => h hredrawn.loose

end Table

/-- A keyword that stands in a title, or in a row of the rules, is found there unless the place it stands in redraws
one of its sigmas. The keywords that some place redraws so that they are not found are just the loose ones, and
those are in no settings file and have capitals. -/
theorem Rules.finds_verbatim_keyword (k : Text) :
    (∀ before after, ¬ Text.Redrawn before k after →
      (∀ words, k ∈ words → Filter.titleHas words (before ++ k ++ after) = true) ∧
      ∀ (rules : Rules) (posting : Posting), posting.title = before ++ k ++ after →
        (∀ label words, (label, words) ∈ rules.skills → k ∈ words → label ∈ rules.skillsOf posting) ∧
        ∀ label words, (label, words) ∈ rules.levels → k ∈ words → label ∈ rules.levelsOf posting) ∧
    ((∀ title, k <:+: title → Filter.titleHas [k] title = true) ↔ ¬ Text.Loose k) ∧
    (∀ before after, Text.Redrawn before k after → Text.Loose k) ∧
    (Text.Loose k → Text.lower k ≠ k ∧ ∀ calls path content rules, Rules.load calls path content = .ok rules →
      (∀ row ∈ rules.skills, k ∉ row.2) ∧ ∀ row ∈ rules.levels, k ∉ row.2) := by
  refine ⟨fun before after h => ⟨?_, ?_⟩, ?_, fun _ _ h => h.loose, fun hloose => ⟨?_, ?_⟩⟩
  · intro words hk
    exact Filter.titleHas_of_holds (Table.holds_of_not_redrawn hk h)
  · intro rules posting htitle
    simp only [skillsOf, levelsOf, htitle]
    constructor
    · intro label words hrow hk
      exact Table.mem_labels_of_holds hrow (Table.holds_of_not_redrawn hk h)
    · intro label words hrow hk
      exact Table.mem_labels_of_holds hrow (Table.holds_of_not_redrawn hk h)
  · simp only [Filter.titleHas_singleton]
    exact Table.holds_everywhere_iff k
  · intro hsmall
    exact Text.not_loose_of_small hsmall hloose
  · intro calls path content rules h
    obtain ⟨hskills, hlevels, -⟩ := keyword_of_load h
    constructor
    · intro row hrow hk
      exact Text.not_loose_of_small (hskills row hrow k hk).small hloose
    · intro row hrow hk
      exact Text.not_loose_of_small (hlevels row hrow k hk).small hloose

theorem Filter.not_titleHas_road : ¬ ∀ (words : List Text) (title : Text),
    (∃ k ∈ words, k <:+: title) → Filter.titleHas words title = true := by
  intro h
  have hstands : "ΟΔΟΣ".toList <:+: "ΟΔΟΣΑ".toList := ⟨[], ['Α'], by decide⟩
  have hfound := h ["ΟΔΟΣ"] "ΟΔΟΣΑ" ⟨_, List.mem_singleton_self _, hstands⟩
  revert hfound
  decide +kernel

end JobBoards
