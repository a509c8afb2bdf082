import JobBoards.Proofs.Rules.Keyword
import JobBoards.Proofs.Rules.Reading
import JobBoards.Proofs.Yaml.Keys
namespace JobBoards
open Category (Lawful)

namespace Table
variable {α : Type} [DecidableEq α] {table : Table α} {label : α} {words : List Text}

theorem lookup_cons (row : α × List Text) (rows : Table α) (label : α) :
    List.lookup label (row :: rows) = if label = row.1 then some row.2 else rows.lookup label := by
  rw [List.lookup_cons]
  by_cases h : label = row.1
  · rw [beq_iff_eq.mpr h, if_pos h]
  · rw [beq_eq_false_iff_ne.mpr h, if_neg h]

theorem lookup_override (label : α) (words : List Text) (table : Table α) (other : α) :
    (override label words table).lookup other = if other = label then some words else table.lookup other := by
  induction table with
  | nil => exact lookup_cons (label, words) [] other
  | cons row rows ih =>
    by_cases hrow : row.1 = label
    · rw [override, if_pos hrow, lookup_cons, lookup_cons, hrow]
      by_cases hother : other = label
      · rw [if_pos hother, if_pos hother]
      · rw [if_neg hother, if_neg hother, if_neg hother]
    · rw [override, if_neg hrow, lookup_cons, lookup_cons, ih]
      by_cases hother : other = row.1
      · rw [if_pos hother, if_pos hother, if_neg (hother ▸ hrow)]
      · rw [if_neg hother, if_neg hother]

theorem mem_override {row : α × List Text} (h : row ∈ override label words table) :
    row = (label, words) ∨ row ∈ table := by
  induction table with
  | nil => exact .inl (List.mem_singleton.mp h)
  | cons first rows ih =>
    rw [override] at h
    split at h
    · exact (List.mem_cons.mp h).imp_right (List.mem_cons_of_mem first)
    · rcases List.mem_cons.mp h with rfl | h
      · exact .inr List.mem_cons_self
      · exact (ih h).imp_right (List.mem_cons_of_mem first)

theorem mem_iff_lookup (h : (table.map Prod.fst).Nodup) :
    (label, words) ∈ table ↔ table.lookup label = some words := by
  induction table with
  | nil => simp
  | cons row rows ih =>
    obtain ⟨first, ks⟩ := row
    obtain ⟨hfirst, hrest⟩ := List.nodup_cons.mp h
    rw [lookup_cons, List.mem_cons, Prod.mk.injEq, ih hrest]
    by_cases hlabel : label = first
    · subst hlabel
      have hnone : rows.lookup label ≠ some words := fun hsome =>
        hfirst (List.mem_map.mpr ⟨(label, words), (ih hrest).mpr hsome, rfl⟩)
      simp [hnone, eq_comm]
    · simp [hlabel]

structure WellFormed (table : Table α) : Prop where
  nodup : (table.map Prod.fst).Nodup
  mem : ∀ label, label ∈ table.map Prod.fst
  keyword : ∀ row ∈ table, ∀ k ∈ row.2, Keyword k

/-- The labels stand in the order they stood in, each of them once. A label that is named has the keywords that
it is given, any other the keywords that it had. -/
structure Overrides (before : Table α) (named? : α → Option (List Text)) (after : Table α) : Prop where
  order : after.map Prod.fst = before.map Prod.fst
  once : ∀ label, (after.map Prod.fst).count label = 1
  named : ∀ label words, named? label = some words → ∀ ks, (label, ks) ∈ after ↔ ks = words
  unnamed : ∀ label, named? label = none → ∀ ks, (label, ks) ∈ after ↔ (label, ks) ∈ before
  keywords : ∀ row ∈ after, ∀ k ∈ row.2, Keyword k

/-- Labels that are found in a text, in the order of their kind and none of them twice; one that is not named is
among them just if it is expected. -/
structure Found [Category α] (named? : α → Option (List Text)) (expected found : List α) : Prop where
  order : found.Sublist Category.all
  nodup : found.Nodup
  unnamed : ∀ label, named? label = none → (label ∈ found ↔ label ∈ expected)

namespace Overrides
variable {before after : Table α} {named? : α → Option (List Text)}

theorem of_lookup (hbefore : before.WellFormed) (horder : after.map Prod.fst = before.map Prod.fst)
    (hlookup : ∀ label, after.lookup label = (named? label).or (before.lookup label))
    (hkeywords : ∀ row ∈ after, ∀ k ∈ row.2, Keyword k) : Overrides before named? after where
  order := horder
  once label := by
    rw [horder]
    exact List.count_eq_one_of_mem hbefore.nodup (hbefore.mem label)
  named label words hwords ks := by
    rw [mem_iff_lookup (horder ▸ hbefore.nodup), hlookup, hwords, Option.some_or, Option.some.injEq, eq_comm]
  unnamed label hnone ks := by
    rw [mem_iff_lookup (horder ▸ hbefore.nodup), mem_iff_lookup hbefore.nodup, hlookup, hnone, Option.none_or]
  keywords := hkeywords

theorem found [Category α] (h : Overrides before named? after) (hbefore : before.map Prod.fst = Category.all)
    (s : Text) : Found named? (before.labels s) (after.labels s) where
  order := by
    rw [← hbefore, ← h.order]
    exact List.filter_sublist.map Prod.fst
  nodup := by
    refine nodup_labels (List.nodup_iff_count_le_one.mpr fun label => ?_) s
    exact (h.once label).le
  unnamed label hnone := by
    rw [mem_labels, mem_labels]
    constructor
    · rintro ⟨⟨l, ks⟩, hmem, rfl, hholds⟩
      exact ⟨(l, ks), (h.unnamed l hnone ks).mp hmem, rfl, hholds⟩
    · rintro ⟨⟨l, ks⟩, hmem, rfl, hholds⟩
      exact ⟨(l, ks), (h.unnamed l hnone ks).mpr hmem, rfl, hholds⟩

end Overrides
end Table

namespace Value

def named? {α : Type} [Category α] (v : Value) (part : Text) (label : α) : Option (List Text) :=
  ((v.at? part).bind (·.at? (Category.name label))).map fun words => words.items.map keyword

end Value

namespace Yaml.Node.Means
variable {v w : Value} {name : Text}

theorem keyed_entries (h : Means v) : Value.Keyed v.entries := by
  cases v with
  | map entries => exact (means_map h).1
  | _ => exact .nil

theorem at? (h : Means v) (hw : v.at? name = some w) : Means w := by
  cases v with
  | map entries =>
    obtain ⟨e, he, rfl⟩ := Option.map_eq_some_iff.mp hw
    exact (means_map h).2 e (List.mem_of_find?_eq_some he)
  | _ => cases hw

end Yaml.Node.Means

namespace Rules
open Value (Keyed)
variable {α : Type} [DecidableEq α] [Category α] [Lawful α] {table result : Table α} {calls : Nat}

theorem lookup_overrideAll {entries : List (Value × Value)} (hkeyed : Keyed entries)
    (h : entries.foldlM (overrideRow calls) table = .ok result) (label : α) :
    result.lookup label =
      ((Value.field? (Category.name label) entries).map fun words => words.items.map Value.keyword).or
        (table.lookup label) := by
  induction entries generalizing table with
  | nil =>
    obtain rfl : table = result := Except.ok.inj h
    rfl
  | cons entry entries ih =>
    obtain ⟨key, value⟩ := entry
    obtain ⟨named, words, hrow, h⟩ := overrideRow_cons h
    obtain ⟨rfl, rfl, -⟩ := row_eq_ok hrow
    rw [ih (List.pairwise_cons.mp hkeyed).2 h, Table.lookup_override]
    by_cases hlabel : label = named
    · -- no later entry bears this name, so what is put here is still there in the end
      subst hlabel
      rw [Value.field?_eq_none_of_keyed hkeyed, Value.field?_cons_text, if_pos rfl]
      rfl
    · have hname : Value.text (Category.name named) ≠ .text (Category.name label) := fun heq =>
        hlabel (Category.name_injective (Value.text.inj heq)).symm
      rw [Value.field?_cons_of_ne hname, if_neg hlabel]

omit [Lawful α] in
theorem keyword_overrideAll {entries : List (Value × Value)} (htable : ∀ row ∈ table, ∀ k ∈ row.2, Keyword k)
    (h : entries.foldlM (overrideRow calls) table = .ok result) :
    ∀ row ∈ result, ∀ k ∈ row.2, Keyword k := by
  induction entries generalizing table with
  | nil =>
    obtain rfl : table = result := Except.ok.inj h
    exact htable
  | cons entry entries ih =>
    obtain ⟨named, words, hrow, h⟩ := overrideRow_cons h
    refine ih (fun row hmem => ?_) h
    rcases Table.mem_override hmem with rfl | hmem
    · exact (row_eq_ok hrow).2.2
    · exact htable row hmem

theorem overrides_overridden {v : Value} (htable : table.WellFormed) (hkeyed : Keyed v.entries)
    (h : overridden calls table v = .ok result) :
    table.Overrides
      (fun label => (v.at? (Category.name label)).map fun words => words.items.map Value.keyword) result := by
  have horder := map_fst_overridden htable.mem h
  unfold overridden at h
  split at h
  · rename_i hempty
    obtain rfl : table = result := Except.ok.inj h
    refine .of_lookup htable rfl (fun label => ?_) htable.keyword
    rw [Value.at?_of_isEmpty hempty]
    rfl
  · split at h
    · exact .of_lookup htable horder (lookup_overrideAll hkeyed h) (keyword_overrideAll htable.keyword h)
    · cases h

theorem overrides_part {v : Value} {part : Text} (htable : table.WellFormed)
    (hv : v = .null ∨ Yaml.Node.Means v) (h : overridden calls table ((v.at? part).getD .null) = .ok result) :
    table.Overrides (v.named? part) result := by
  have hkeyed : Keyed ((v.at? part).getD .null).entries := by
    cases hpart : v.at? part with
    | none => exact .nil
    | some w =>
      rcases hv with rfl | hv
      · cases hpart
      · exact (hv.at? hpart).keyed_entries
  have hover := overrides_overridden htable hkeyed h
  simp only [Value.at?_getD_null] at hover
  exact hover

theorem wellFormed_defaultSkills : Table.defaultSkills.WellFormed where
  nodup := by decide
  mem := mem_defaultSkills
  keyword := by decide +kernel

theorem wellFormed_defaultLevels : Table.defaultLevels.WellFormed where
  nodup := by decide
  mem := mem_defaultLevels
  keyword := by decide +kernel

theorem keyword_remote {entries : List (Value × Value)} {k : Text}
    (h : remoteKeywordOf calls ((Value.field? "remote_keyword" entries).getD (.text standard.remoteKeyword)) = .ok k) :
    Keyword k ∧ k = ((Value.field? "remote_keyword" entries).map Value.keyword).getD standard.remoteKeyword := by
  obtain ⟨rfl, hk⟩ := remoteKeywordOf_eq_ok h
  refine ⟨hk, ?_⟩
  cases Value.field? "remote_keyword" entries with
  | none => exact (remoteKeywordOf_eq_ok (remoteKeywordOf_standard calls)).1.symm
  | some v => rfl

theorem keyword_of_load {path : Text} {content : FileContent} {rules : Rules} (h : load calls path content = .ok rules) :
    (∀ row ∈ rules.skills, ∀ k ∈ row.2, Keyword k) ∧ (∀ row ∈ rules.levels, ∀ k ∈ row.2, Keyword k) ∧
      Keyword rules.remoteKeyword := by
  obtain ⟨s, v, -, hv, h⟩ := load_eq_ok.mp h
  have hreads := ofValue_map_eq_ok.mp (ofValue_eq_ok h)
  have hmeans := Yaml.means_of_load hv
  exact ⟨(overrides_part wellFormed_defaultSkills hmeans (hreads .skills)).keywords,
    (overrides_part wellFormed_defaultLevels hmeans (hreads .levels)).keywords,
    (keyword_remote (hreads .remoteKeyword)).1⟩

/-- A settings file that is accepted changes what it names and nothing else: the keywords of the labels it names
become the ones it gives, trimmed and in small letters, and any other label is found in a title just when the
standard rules find it. -/
theorem load_overrides {path : Text} {content : FileContent} {rules : Rules} (h : load calls path content = .ok rules) :
    ∃ s v, contentText (Path.normal path) content = .ok s ∧ Yaml.load calls s = .ok v ∧
      Table.defaultSkills.Overrides (v.named? "skills") rules.skills ∧
      Table.defaultLevels.Overrides (v.named? "levels") rules.levels ∧
      Keyword rules.remoteKeyword ∧
      rules.remoteKeyword = ((v.at? "remote_keyword").map Value.keyword).getD standard.remoteKeyword ∧
      ∀ posting,
        Table.Found (v.named? "skills") (standard.skillsOf posting) (rules.skillsOf posting) ∧
        Table.Found (v.named? "levels") (standard.levelsOf posting) (rules.levelsOf posting) := by
  obtain ⟨s, v, hs, hv, h⟩ := load_eq_ok.mp h
  have hreads := ofValue_map_eq_ok.mp (ofValue_eq_ok h)
  have hmeans := Yaml.means_of_load hv
  have hskills : Table.defaultSkills.Overrides (v.named? "skills") rules.skills :=
    overrides_part wellFormed_defaultSkills hmeans (hreads .skills)
  have hlevels : Table.defaultLevels.Overrides (v.named? "levels") rules.levels :=
    overrides_part wellFormed_defaultLevels hmeans (hreads .levels)
  obtain ⟨hkeyword, hremote⟩ := keyword_remote (hreads .remoteKeyword)
  exact ⟨s, v, hs, hv, hskills, hlevels, hkeyword, hremote, fun posting =>
    ⟨hskills.found rfl posting.title, hlevels.found rfl posting.title⟩⟩

def siteFile : FileContent := .bytes "skills:\n  DevOps: [\" SRE\", devops]\nlevels:\n  Senior: [senior]\n".toUTF8

def siteRules : Rules where
  skills := Table.defaultSkills.override .devops ["sre", "devops"]
  levels := Table.defaultLevels.override .senior ["senior"]
  remoteKeyword := "remote"

theorem load_siteFile : load 980 "rules.yml" siteFile = .ok siteRules ∧
    ∃ s v, contentText "rules.yml" siteFile = .ok s ∧ Yaml.load 980 s = .ok v ∧
      Table.defaultSkills.Overrides (v.named? "skills") siteRules.skills ∧
      Table.defaultLevels.Overrides (v.named? "levels") siteRules.levels ∧
      Keyword siteRules.remoteKeyword ∧
      siteRules.remoteKeyword = ((v.at? "remote_keyword").map Value.keyword).getD standard.remoteKeyword ∧
      ∀ posting,
        Table.Found (v.named? "skills") (standard.skillsOf posting) (siteRules.skillsOf posting) ∧
        Table.Found (v.named? "levels") (standard.levelsOf posting) (siteRules.levelsOf posting) := by
  have h : load 980 "rules.yml" siteFile = .ok siteRules := by decide +kernel
  exact ⟨h, load_overrides h⟩

end Rules
end JobBoards
