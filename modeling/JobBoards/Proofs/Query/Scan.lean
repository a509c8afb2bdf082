import JobBoards.Proofs.Index.Partition
import JobBoards.Proofs.Query.Label
import JobBoards.Proofs.Repository.Rounds
import JobBoards.Proofs.Rules.Labels
namespace JobBoards.Snapshot
open Category (Named)

def indexNames : List Text := ["date", "company", "location", "skill", "level"]

structure Scans {α : Type} [Category α] (has : Posting → α → Prop) [∀ p a, Decidable (has p a)]
    (key : Text) (entries answer : List Entry) : Prop where
  unique : ∀ a b : α, Named key a → Named key b → a = b
  named : ∀ label : α, Named key label → answer = entries.filter fun e => has e.posting label
  unnamed : (∀ label : α, ¬ Named key label) → answer = []

theorem scans_labelled {α : Type} [DecidableEq α] [Category α] [Category.Lawful α]
    {has : Posting → α → Prop} [∀ p a, Decidable (has p a)] {entries : List Entry}
    {buckets : Buckets α}
    (h : ∀ label, buckets.get label = entries.filter fun e => has e.posting label) (key : Text) :
    Scans has key entries
      (labelled (Category.like? (Text.lower (Text.trim key))) buckets) where
  unique a b ha hb := ha.unique hb
  named label hlabel := by
    rw [Category.like?_eq_some hlabel]
    exact h label
  unnamed hno := by
    rw [Category.like?_eq_none hno]
    rfl

theorem nodup_labels_of_loaded {rules : Rules}
    (hr : rules = .standard ∨ ∃ calls path content, Rules.load calls path content = .ok rules) :
    (rules.skills.map Prod.fst).Nodup ∧ (rules.levels.map Prod.fst).Nodup := by
  rcases hr with rfl | ⟨calls, path, content, h⟩
  · decide
  · obtain ⟨hskills, hlevels⟩ := Rules.labels_load h
    rw [hskills, hlevels]
    decide

section Get
variable (s : Snapshot) (key : Text)

theorem get_text :
    s.get (.plain (.text "date")) (.plain (.text key)) = .ok (s.index.date.get key) ∧
    s.get (.plain (.text "company")) (.plain (.text key)) = .ok (s.index.company.get key) ∧
    s.get (.plain (.text "location")) (.plain (.text key)) =
      .ok (labelled (Category.like? (Text.lower (Text.trim key))) s.index.location) ∧
    s.get (.plain (.text "skill")) (.plain (.text key)) =
      .ok (labelled (Category.like? (Text.lower (Text.trim key))) s.index.skill) ∧
    s.get (.plain (.text "level")) (.plain (.text key)) =
      .ok (labelled (Category.like? (Text.lower (Text.trim key))) s.index.level) :=
  ⟨rfl, rfl, rfl, rfl, rfl⟩

theorem get_unknown {name : Text} (h : name ∉ indexNames) :
    s.get (.plain (.text name)) (.plain (.text key)) =
      .error (.unknownIndex (Text.quoted name)) := by
  simp only [indexNames, List.mem_cons, List.not_mem_nil, or_false, not_or] at h
  obtain ⟨hdate, hcompany, hlocation, hskill, hlevel⟩ := h
  rw [get, if_neg hdate, if_neg hcompany, if_neg hlocation, if_neg hskill, if_neg hlevel]
  rfl

theorem get_known {name : Text} (h : name ∈ indexNames) :
    ∃ answer, s.get (.plain (.text name)) (.plain (.text key)) = .ok answer := by
  simp only [indexNames, List.mem_cons, List.not_mem_nil, or_false] at h
  obtain ⟨hdate, hcompany, hlocation, hskill, hlevel⟩ := s.get_text key
  rcases h with rfl | rfl | rfl | rfl | rfl
  · exact ⟨_, hdate⟩
  · exact ⟨_, hcompany⟩
  · exact ⟨_, hlocation⟩
  · exact ⟨_, hskill⟩
  · exact ⟨_, hlevel⟩

theorem get_error_iff (name : Text) :
    (∃ fault, s.get (.plain (.text name)) (.plain (.text key)) = .error fault ∧
      fault.kind = "ValueError".toList) ↔ name ∉ indexNames := by
  constructor
  · rintro ⟨fault, h, -⟩ hname
    obtain ⟨answer, hanswer⟩ := s.get_known key hname
    rw [hanswer] at h
    cases h
  · intro hname
    exact ⟨_, s.get_unknown key hname, rfl⟩

end Get

theorem get_agrees_with_scan {rules : Rules} {s : Snapshot}
    (hr : rules = .standard ∨ ∃ calls path content, Rules.load calls path content = .ok rules)
    (hs : s.Reachable rules) (key : Text) :
    s.all none false = .ok s.entries ∧
    s.get (.plain (.text "date")) (.plain (.text key)) =
      .ok (s.entries.filter fun e => e.posting.date = key) ∧
    s.get (.plain (.text "company")) (.plain (.text key)) =
      .ok (s.entries.filter fun e => e.posting.company = key) ∧
    (∃ answer, s.get (.plain (.text "location")) (.plain (.text key)) = .ok answer ∧
      Scans (fun posting label => rules.location posting = label) key s.entries answer) ∧
    (∃ answer, s.get (.plain (.text "skill")) (.plain (.text key)) = .ok answer ∧
      Scans (fun posting label => label ∈ rules.skillsOf posting) key s.entries answer) ∧
    (∃ answer, s.get (.plain (.text "level")) (.plain (.text key)) = .ok answer ∧
      Scans (fun posting label => label ∈ rules.levelsOf posting) key s.entries answer) ∧
    ∀ name,
      ((∃ answer, s.get (.plain (.text name)) (.plain (.text key)) = .ok answer) ↔
        name ∈ indexNames) ∧
      ((∃ fault, s.get (.plain (.text name)) (.plain (.text key)) = .error fault ∧
        fault.kind = "ValueError".toList) ↔ name ∉ indexNames) := by
  obtain ⟨hskills, hlevels⟩ := nodup_labels_of_loaded hr
  obtain ⟨hdate, hcompany, hlocation, hskill, hlevel⟩ := s.get_text key
  rw [hs.indexed] at hdate hcompany hlocation hskill hlevel
  refine ⟨rfl, ?_, ?_, ⟨_, hlocation, ?_⟩, ⟨_, hskill, ?_⟩, ⟨_, hlevel, ?_⟩, fun name => ⟨?_, ?_⟩⟩
  · rw [hdate]
    exact congrArg Except.ok (Buckets.get_build_single Posting.date s.entries key)
  · rw [hcompany]
    exact congrArg Except.ok (Buckets.get_build_single Posting.company s.entries key)
  · exact scans_labelled (Buckets.get_build_single rules.location s.entries) key
  · exact scans_labelled (Buckets.get_build_of_nodup rules.skillsOf s.entries
      fun posting => Table.nodup_labels hskills posting.title) key
  · exact scans_labelled (Buckets.get_build_of_nodup rules.levelsOf s.entries
      fun posting => Table.nodup_labels hlevels posting.title) key
  · constructor
    · rintro ⟨answer, h⟩
      by_contra hname
      rw [s.get_unknown key hname] at h
      cases h
    · exact s.get_known key
  · exact s.get_error_iff key name

def serverRules : Rules :=
  ⟨Table.override .backend ["server"] .defaultSkills, .defaultLevels, "remote"⟩

def serverPosting : Posting :=
  ⟨"Server developer", "company", "2022-01-01", "Remote", "", "board", ⟨[], true⟩, ""⟩

def serverBoard : Repository :=
  .new [⟨"board", fun _ => ⟨.ok [serverPosting], []⟩⟩] none serverRules none

theorem get_serverBoard :
    (serverBoard.after 1).snapshot.get (.plain (.text "skill")) (.plain (.text " bAckend")) =
        .ok [⟨0, serverPosting⟩] ∧
      (serverBoard.after 1).snapshot.get (.plain (.text "skill")) (.plain (.text "server")) =
        .ok [] := by
  have hload : Rules.load 980 "rules.yml" (.bytes "skills:\n  Backend: [server]\n".toUTF8) =
      .ok serverRules := by decide +kernel
  have hreachable : Reachable serverRules (serverBoard.after 1).snapshot :=
    ⟨_, _, _, 1, rfl⟩
  have hscan := get_agrees_with_scan (.inr ⟨_, _, _, hload⟩) hreachable
  constructor
  · obtain ⟨-, -, -, -, ⟨answer, hget, h⟩, -⟩ := hscan " bAckend"
    rw [hget, h.named .backend (by decide)]
    rfl
  · obtain ⟨-, -, -, -, ⟨answer, hget, h⟩, -⟩ := hscan "server"
    rw [hget, h.unnamed fun label => by cases label <;> decide]

end JobBoards.Snapshot
