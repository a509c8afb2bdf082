import JobBoards.Posting
import JobBoards.Proofs.Text.Order
import Mathlib.Data.List.Basic
namespace JobBoards

/-- A stable sort keeps every relation of earlier to later elements between those that tie. -/
theorem pairwise_mergeSort_stable {α : Type} (le : α → α → Bool) {R : α → α → Prop} {l : List α}
    (htrans : ∀ a b c, le a b = true → le b c = true → le a c = true)
    (htotal : ∀ a b, (le a b || le b a) = true) (hl : l.Pairwise R) :
    (l.mergeSort le).Pairwise fun a b => le a b = true ∧ (le b a = true → R a b) := by
  induction l with
  | nil => simp
  | cons a l ih =>
    obtain ⟨hal, hl⟩ := List.pairwise_cons.mp hl
    obtain ⟨before, after, hcons, hsplit, hbefore⟩ := List.mergeSort_cons htrans htotal a l
    have hsorted := List.pairwise_mergeSort htrans htotal (a :: l)
    have ih := ih hl
    have hmem : ∀ b ∈ after, b ∈ l := by
      intro b hb
      have hsorted : b ∈ l.mergeSort le := hsplit ▸ List.mem_append_right before hb
      exact List.mem_mergeSort.mp hsorted
    rw [hsplit, List.pairwise_append] at ih
    obtain ⟨ihbefore, ihafter, ihcross⟩ := ih
    rw [hcons] at hsorted ⊢
    rw [List.pairwise_append, List.pairwise_cons] at hsorted ⊢
    obtain ⟨-, ⟨hafter, -⟩, hcross⟩ := hsorted
    refine ⟨ihbefore, ⟨?_, ihafter⟩, ?_⟩
    · intro b hb
      exact ⟨hafter b hb, fun _ => hal b (hmem b hb)⟩
    · intro b hb c hc
      rcases List.mem_cons.mp hc with rfl | hc
      · refine ⟨hcross b hb c List.mem_cons_self, fun hcb => ?_⟩
        have hnot := hbefore b hb
        simp [hcb] at hnot
      · exact ihcross b hb c hc

namespace Entry

/-- Later dates come first, one date in the order of the companies, and `tie` decides between the rest. -/
def Ranked (tie : Entry → Entry → Prop) (a b : Entry) : Prop :=
  b.posting.date < a.posting.date ∨
    a.posting.date = b.posting.date ∧
      (a.posting.company < b.posting.company ∨
        a.posting.company = b.posting.company ∧ tie a b)

def Precedes : Entry → Entry → Prop := Ranked fun a b => a.position < b.position

theorem Precedes.asymm {a b : Entry} (h : a.Precedes b) : ¬ b.Precedes a := by
  intro h'
  rcases h with hdate | ⟨hdate, hcompany | ⟨hcompany, hposition⟩⟩
  · rcases h' with hdate' | ⟨hdate', -⟩
    · exact lt_asymm hdate hdate'
    · exact hdate.ne hdate'
  · rcases h' with hdate' | ⟨-, hcompany' | ⟨hcompany', -⟩⟩
    · exact hdate'.ne hdate
    · exact lt_asymm hcompany hcompany'
    · exact hcompany.ne hcompany'.symm
  · rcases h' with hdate' | ⟨-, hcompany' | ⟨-, hposition'⟩⟩
    · exact hdate'.ne hdate
    · exact hcompany'.ne hcompany.symm
    · exact lt_asymm hposition hposition'

theorem Ranked.precedes {a b : Entry} (h : Ranked Precedes a b) : a.Precedes b := by
  rcases h with hdate | ⟨hdate, hcompany | ⟨-, h⟩⟩
  · exact .inl hdate
  · exact .inr ⟨hdate, .inl hcompany⟩
  · exact h

theorem eq_of_precedes {l m : List Entry} (hl : l.Pairwise Precedes) (hm : m.Pairwise Precedes)
    (hperm : l.Perm m) : l = m :=
  List.Perm.eq_of_pairwise (fun _ _ _ _ hab hba => absurd hba hab.asymm) hl hm hperm

theorem perm_newestFirst (entries : List Entry) : (newestFirst entries).Perm entries :=
  (List.mergeSort_perm _ _).trans (List.mergeSort_perm _ _)

theorem pairwise_newestFirst {tie : Entry → Entry → Prop} {entries : List Entry}
    (h : entries.Pairwise tie) : (newestFirst entries).Pairwise (Ranked tie) := by
  have htrans : ∀ r s t : Text, Text.le r s = true → Text.le s t = true → Text.le r t = true := by
    intro r s t hrs hst
    exact Text.le_iff.mpr (le_trans (Text.le_iff.mp hrs) (Text.le_iff.mp hst))
  have htotal : ∀ s t : Text, (Text.le s t || Text.le t s) = true := by
    intro s t
    simp only [Bool.or_eq_true, Text.le_iff]
    exact le_total s t
  have hcompany := pairwise_mergeSort_stable
    (fun a b : Entry => Text.le a.posting.company b.posting.company)
    (fun _ _ _ => htrans _ _ _) (fun _ _ => htotal _ _) h
  have hdate := pairwise_mergeSort_stable
    (fun a b : Entry => Text.le b.posting.date a.posting.date)
    (fun _ _ _ hab hbc => htrans _ _ _ hbc hab) (fun _ _ => htotal _ _) hcompany
  refine hdate.imp fun {a b} hranked => ?_
  obtain ⟨hge, htie⟩ := hranked
  simp only [Text.le_iff] at hge htie
  rcases hge.lt_or_eq with hlt | heq
  · exact .inl hlt
  · obtain ⟨hle, htie⟩ := htie heq.ge
    refine .inr ⟨heq.symm, ?_⟩
    rcases hle.lt_or_eq with hlt | heq
    · exact .inl hlt
    · exact .inr ⟨heq, htie heq.ge⟩

theorem pairwise_position_number (postings : List Posting) :
    (number postings).Pairwise fun a b => a.position < b.position := by
  rw [← List.pairwise_map, map_position_number]
  exact List.pairwise_lt_range

theorem precedes_newestFirst_number (postings : List Posting) :
    (newestFirst (number postings)).Pairwise Precedes :=
  pairwise_newestFirst (pairwise_position_number postings)

/-- The order in which postings are shown is the only one in which later dates come first, companies
follow each other within a date, and postings that agree in both keep their places. -/
theorem newestFirst_unique_stable (postings : List Posting) :
    (∀ arranged, arranged = newestFirst (number postings) ↔
      arranged.Perm (number postings) ∧ arranged.Pairwise Precedes) ∧
    newestFirst (newestFirst (number postings)) = newestFirst (number postings) ∧
    ∀ wanted : Entry → Bool, newestFirst ((number postings).filter wanted) =
      (newestFirst (number postings)).filter wanted := by
  have hperm := perm_newestFirst (number postings)
  have hsorted := precedes_newestFirst_number postings
  refine ⟨fun arranged => ⟨?_, ?_⟩, ?_, fun wanted => ?_⟩
  · rintro rfl
    exact ⟨hperm, hsorted⟩
  · rintro ⟨harranged, hprecedes⟩
    exact eq_of_precedes hprecedes hsorted (harranged.trans hperm.symm)
  · have hagain := (pairwise_newestFirst hsorted).imp Ranked.precedes
    exact eq_of_precedes hagain hsorted (perm_newestFirst _)
  · have hleft := pairwise_newestFirst ((pairwise_position_number postings).filter wanted)
    have hright := hsorted.filter wanted
    exact eq_of_precedes hleft hright ((perm_newestFirst _).trans (hperm.filter wanted).symm)

end Entry
end JobBoards
