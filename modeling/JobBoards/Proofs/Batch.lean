import JobBoards.Collect
import Mathlib.Data.List.Induction
import Mathlib.Data.List.Nodup
namespace JobBoards

section FirstOccurrences
variable {α : Type} [DecidableEq α]

theorem eraseDups_concat (xs : List α) (a : α) :
    (xs ++ [a]).eraseDups = if a ∈ xs then xs.eraseDups else xs.eraseDups ++ [a] := by
  rw [List.eraseDups_append]
  by_cases h : a ∈ xs
  · simp [List.removeAll, h]
  · simp [List.removeAll, h, List.eraseDups_cons]

theorem nodup_eraseDups (xs : List α) : xs.eraseDups.Nodup := by
  induction xs using List.reverseRecOn with
  | nil => simp
  | append_singleton xs a ih =>
    rw [eraseDups_concat]
    split
    · exact ih
    · rename_i h
      exact ih.append (List.nodup_singleton a) (by simpa [List.mem_eraseDups] using h)

end FirstOccurrences

namespace Entry
variable {entries kept : List Entry} {e : Entry}

def firsts (entries : List Entry) : List Entry := entries.foldl keepNew []

theorem firsts_concat (entries : List Entry) (e : Entry) :
    firsts (entries ++ [e]) =
      if (firsts entries).any (·.posting == e.posting) then firsts entries
      else firsts entries ++ [e] := by
  rw [firsts, List.foldl_append]
  rfl

@[simp] theorem map_posting_firsts (entries : List Entry) :
    (firsts entries).map Entry.posting = (entries.map Entry.posting).eraseDups := by
  induction entries using List.reverseRecOn with
  | nil => rfl
  | append_singleton entries e ih =>
    have hany : (firsts entries).any (·.posting == e.posting) = true ↔
        e.posting ∈ entries.map Entry.posting := by
      rw [← List.mem_eraseDups, ← ih]
      simp [List.any_eq_true]
    rw [firsts_concat, List.map_append, List.map_singleton, eraseDups_concat]
    by_cases h : e.posting ∈ entries.map Entry.posting
    · rw [if_pos (hany.mpr h), if_pos h, ih]
    · rw [if_neg (mt hany.mp h), if_neg h, List.map_append, ih, List.map_singleton]

theorem examine_of_settled (h : e.posting.tags.settled = true) : examine kept e = .ok (keepNew kept e) :=
  if_pos h

theorem examine_of_unsettled (h : e.posting.tags.settled = false) : examine kept e = .error .unsettledTags :=
  if_neg (Bool.eq_false_iff.mp h)

/-- One entry after the other is examined; the first that cannot be compared ends it, whatever is kept by then. -/
theorem foldlM_examine_of_settled (h : ∀ e ∈ entries, e.posting.tags.settled = true) :
    entries.foldlM examine kept = .ok (entries.foldl keepNew kept) := by
  induction entries generalizing kept with
  | nil => rfl
  | cons e entries ih =>
    obtain ⟨he, hentries⟩ := List.forall_mem_cons.mp h
    rw [List.foldlM_cons, examine_of_settled he]
    exact ih hentries

theorem foldlM_examine_of_unsettled (h : ∃ e ∈ entries, e.posting.tags.settled = false) :
    entries.foldlM examine kept = .error .unsettledTags := by
  induction entries generalizing kept with
  | nil =>
    obtain ⟨e, he, -⟩ := h
    cases he
  | cons e entries ih =>
    rw [List.foldlM_cons]
    cases he : e.posting.tags.settled with
    | false =>
      rw [examine_of_unsettled he]
      rfl
    | true =>
      obtain ⟨x, hx, hopen⟩ := h
      have hne : x ≠ e := by
        rintro rfl
        rw [he] at hopen
        cases hopen
      rw [examine_of_settled he]
      exact ih ⟨x, (List.mem_cons.mp hx).resolve_left hne, hopen⟩

theorem distinct_of_settled (h : ∀ e ∈ entries, e.posting.tags.settled = true) :
    distinct entries = .ok (firsts entries) :=
  foldlM_examine_of_settled h

theorem distinct_of_unsettled (h : ∃ e ∈ entries, e.posting.tags.settled = false) :
    distinct entries = .error .unsettledTags :=
  foldlM_examine_of_unsettled h

theorem settled_or_not (entries : List Entry) :
    (∃ e ∈ entries, e.posting.tags.settled = false) ∨ ∀ e ∈ entries, e.posting.tags.settled = true := by
  rw [or_iff_not_imp_left]
  intro h e he
  rw [← Bool.not_eq_false]
  exact fun hopen => h ⟨e, he, hopen⟩

theorem forall_number {p : Posting → Prop} {postings : List Posting} :
    (∀ e ∈ number postings, p e.posting) ↔ ∀ posting ∈ postings, p posting := by
  conv_rhs => rw [← posting_number postings, List.forall_mem_map]

end Entry

theorem distinctPostings_eq (postings : List Posting) :
    distinctPostings postings =
      if postings.all (·.tags.settled) then .ok postings.eraseDups else .error .unsettledTags := by
  have hall : (postings.all (·.tags.settled)) = true ↔
      ∀ e ∈ Entry.number postings, e.posting.tags.settled = true :=
    List.all_eq_true.trans Entry.forall_number.symm
  rw [distinctPostings]
  rcases Entry.settled_or_not (Entry.number postings) with hopen | hsettled
  · have hnot : ¬ postings.all (·.tags.settled) = true := by
      intro h
      obtain ⟨e, he, hfalse⟩ := hopen
      rw [hall.mp h e he] at hfalse
      cases hfalse
    rw [Entry.distinct_of_unsettled hopen, if_neg hnot]
    rfl
  · rw [Entry.distinct_of_settled hsettled, if_pos (hall.mpr hsettled), Except.map, Entry.map_posting_firsts,
      Entry.posting_number]

end JobBoards
