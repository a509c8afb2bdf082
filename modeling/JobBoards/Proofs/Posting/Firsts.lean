import JobBoards.Posting.Field
import JobBoards.Proofs.Batch
namespace JobBoards

def Posting.Agree (p q : Posting) : Prop := ∀ f : Field, f.value p = f.value q

namespace Posting
variable {p q r : Posting}

theorem Agree.trans (h : p.Agree q) (h' : q.Agree r) : p.Agree r := fun f => (h f).trans (h' f)

/-- Tags are told apart by whether they may still change, which is not a value of theirs. -/
theorem agree_iff (h : p.tags.settled = q.tags.settled) : p.Agree q ↔ p = q := by
  constructor
  · intro hagree
    have htext {f : Field} {s t : Text} (hs : f.value p = [s]) (ht : f.value q = [t]) : s = t := by
      have hvalue := hagree f
      rw [hs, ht] at hvalue
      exact List.singleton_inj.mp hvalue
    have htags : p.tags.names = q.tags.names := hagree .tags
    rw [Posting.mk.injEq, Tags.mk.injEq]
    exact ⟨htext (f := .title) rfl rfl, htext (f := .company) rfl rfl, htext (f := .date) rfl rfl,
      htext (f := .location) rfl rfl, htext (f := .pay) rfl rfl, htext (f := .source) rfl rfl,
      ⟨htags, h⟩, htext (f := .link) rfl rfl⟩
  · rintro rfl f
    rfl

end Posting

namespace Entry
variable {entries kept : List Entry} {e k : Entry}

def IsFirst (entries : List Entry) (k : Entry) : Prop :=
  ∃ before after, entries = before ++ k :: after ∧ ∀ e ∈ before, ¬ e.posting.Agree k.posting

structure Firsts (entries kept : List Entry) : Prop where
  sublist : kept.Sublist entries
  mem_iff : ∀ k, k ∈ kept ↔ IsFirst entries k
  apart : kept.Pairwise fun a b => ¬ a.posting.Agree b.posting
  covers : ∀ e ∈ entries, ∃ k ∈ kept, k.posting.Agree e.posting

theorem isFirst_concat : IsFirst (entries ++ [e]) k ↔
    IsFirst entries k ∨ k = e ∧ ∀ x ∈ entries, ¬ x.posting.Agree e.posting := by
  constructor
  · rintro ⟨before, after, hsplit, hbefore⟩
    rcases List.eq_nil_or_concat after with rfl | ⟨after, a, rfl⟩
    · obtain ⟨rfl, hlast⟩ := List.append_inj' hsplit rfl
      obtain rfl := List.singleton_inj.mp hlast
      exact .inr ⟨rfl, hbefore⟩
    · rw [List.concat_eq_append, ← List.cons_append, ← List.append_assoc] at hsplit
      obtain ⟨hsplit, -⟩ := List.append_inj' hsplit rfl
      exact .inl ⟨before, after, hsplit, hbefore⟩
  · rintro (⟨before, after, rfl, hbefore⟩ | ⟨rfl, hnew⟩)
    · exact ⟨before, after ++ [e], by simp, hbefore⟩
    · exact ⟨entries, [], rfl, hnew⟩

theorem Firsts.nil : Firsts [] [] where
  sublist := .slnil
  mem_iff k := by simp [IsFirst]
  apart := .nil
  covers := by simp

theorem Firsts.pass (h : Firsts entries kept) (hk : k ∈ kept) (hagree : k.posting.Agree e.posting) :
    Firsts (entries ++ [e]) kept where
  sublist := h.sublist.trans (List.sublist_append_left _ _)
  mem_iff x := by
    have hold : ¬ ∀ x ∈ entries, ¬ x.posting.Agree e.posting := fun hnew => hnew k (h.sublist.subset hk) hagree
    rw [isFirst_concat, h.mem_iff]
    exact (or_iff_left fun hx => hold hx.2).symm
  apart := h.apart
  covers := by
    rw [List.forall_mem_append, List.forall_mem_singleton]
    exact ⟨h.covers, k, hk, hagree⟩

theorem Firsts.add (h : Firsts entries kept) (hnew : ∀ k ∈ kept, ¬ k.posting.Agree e.posting) :
    Firsts (entries ++ [e]) (kept ++ [e]) where
  sublist := h.sublist.append_right [e]
  mem_iff x := by
    have hnone : ∀ x ∈ entries, ¬ x.posting.Agree e.posting := by
      intro x hx hagree
      obtain ⟨k, hk, hkx⟩ := h.covers x hx
      exact hnew k hk (hkx.trans hagree)
    rw [isFirst_concat, List.mem_append, List.mem_singleton, h.mem_iff]
    exact or_congr_right (and_iff_left hnone).symm
  apart := by
    rw [List.pairwise_append]
    refine ⟨h.apart, List.pairwise_singleton _ _, fun k hk x hx => ?_⟩
    obtain rfl := List.mem_singleton.mp hx
    exact hnew k hk
  covers := by
    rw [List.forall_mem_append, List.forall_mem_singleton]
    refine ⟨fun x hx => ?_, e, by simp, fun f => rfl⟩
    obtain ⟨k, hk, hagree⟩ := h.covers x hx
    exact ⟨k, List.mem_append_left _ hk, hagree⟩

theorem Firsts.of_settled (h : ∀ e ∈ entries, e.posting.tags.settled = true) :
    Firsts entries (firsts entries) := by
  induction entries using List.reverseRecOn with
  | nil => exact .nil
  | append_singleton entries e ih =>
    obtain ⟨hentries, he⟩ := List.forall_mem_append.mp h
    have he := he e (List.mem_singleton_self e)
    have ih := ih hentries
    have hagree {k : Entry} (hk : k ∈ firsts entries) : k.posting.Agree e.posting ↔ k.posting = e.posting :=
      Posting.agree_iff ((hentries k (ih.sublist.subset hk)).trans he.symm)
    rw [firsts_concat]
    split
    · rename_i hany
      obtain ⟨k, hk, heq⟩ := List.any_eq_true.mp hany
      exact ih.pass hk ((hagree hk).mpr (eq_of_beq heq))
    · rename_i hany
      refine ih.add fun k hk hkagree => hany ?_
      exact List.any_eq_true.mpr ⟨k, hk, beq_iff_eq.mpr ((hagree hk).mp hkagree)⟩

@[simp] theorem any_firsts (entries : List Entry) (e : Entry) :
    (firsts entries).any (·.posting == e.posting) = entries.any (·.posting == e.posting) := by
  have hmem (l : List Entry) : l.any (·.posting == e.posting) = decide (e.posting ∈ l.map Entry.posting) := by
    rw [Bool.eq_iff_iff, decide_eq_true_iff]
    simp
  rw [hmem, hmem, map_posting_firsts, decide_eq_decide]
  exact List.mem_eraseDups

theorem firsts_eq_self (h : entries.Pairwise fun a b => a.posting ≠ b.posting) : firsts entries = entries := by
  induction entries using List.reverseRecOn with
  | nil => rfl
  | append_singleton entries e ih =>
    obtain ⟨hentries, -, hlast⟩ := List.pairwise_append.mp h
    have hnone : ¬ entries.any (·.posting == e.posting) = true := by
      rw [List.any_eq_true]
      rintro ⟨x, hx, heq⟩
      exact hlast x hx e (List.mem_singleton_self e) (eq_of_beq heq)
    rw [firsts_concat, any_firsts, if_neg hnone, ih hentries]

/-- What is first among later entries stays so behind earlier ones, unless one of these has the same posting. -/
theorem firsts_append (earlier later : List Entry) : firsts (earlier ++ later) =
    firsts earlier ++ (firsts later).filter fun e => !earlier.any (·.posting == e.posting) := by
  induction later using List.reverseRecOn with
  | nil => simp [firsts]
  | append_singleton later e ih =>
    rw [← List.append_assoc, firsts_concat, firsts_concat, any_firsts, any_firsts, List.any_append, ih]
    cases hlater : later.any (·.posting == e.posting) with
    | true => simp
    | false => cases hearlier : earlier.any (·.posting == e.posting) with
      | true => simp [hearlier]
      | false => simp [hearlier]

theorem distinct_bind_distinct (entries : List Entry) : (distinct entries >>= distinct) = distinct entries := by
  rcases settled_or_not entries with hopen | hsettled
  · rw [distinct_of_unsettled hopen]
    rfl
  · have hfirsts := Firsts.of_settled hsettled
    have hkept : ∀ k ∈ firsts entries, k.posting.tags.settled = true :=
      fun k hk => hsettled k (hfirsts.sublist.subset hk)
    have hne : (firsts entries).Pairwise fun a b => a.posting ≠ b.posting :=
      hfirsts.apart.imp fun hapart heq => hapart fun _ => by rw [heq]
    have hself : distinct (firsts entries) = .ok (firsts entries) := by
      rw [distinct_of_settled hkept, firsts_eq_self hne]
    rw [distinct_of_settled hsettled]
    exact hself

theorem distinct_append (earlier later : List Entry) : distinct (earlier ++ later) = (do
    let kept ← distinct earlier
    let added ← distinct later
    .ok (kept ++ added.filter fun e => !earlier.any (·.posting == e.posting))) := by
  rcases settled_or_not earlier with ⟨e, he, hopen⟩ | hearlier
  · rw [distinct_of_unsettled ⟨e, List.mem_append_left _ he, hopen⟩, distinct_of_unsettled ⟨e, he, hopen⟩]
    rfl
  · rcases settled_or_not later with ⟨e, he, hopen⟩ | hlater
    · rw [distinct_of_unsettled ⟨e, List.mem_append_right _ he, hopen⟩, distinct_of_settled hearlier,
        distinct_of_unsettled ⟨e, he, hopen⟩]
      rfl
    · rw [distinct_of_settled (List.forall_mem_append.mpr ⟨hearlier, hlater⟩), distinct_of_settled hearlier,
        distinct_of_settled hlater, firsts_append]
      rfl

/-- Postings are refused if the tags of one of them may still change. Otherwise their first occurrences are kept:
keeping them again changes nothing, and more postings only add those that occur first among themselves. -/
theorem distinct_keeps_firsts (entries : List Entry) :
    ((∃ e ∈ entries, e.posting.tags.settled = false) ∧
        (∃ fault, distinct entries = .error fault ∧ fault.kind = "TypeError".toList) ∨
      (∀ e ∈ entries, e.posting.tags.settled = true) ∧ ∃ kept, distinct entries = .ok kept ∧ Firsts entries kept) ∧
    (distinct entries >>= distinct) = distinct entries ∧
    ∀ later, distinct (entries ++ later) = (do
      let kept ← distinct entries
      let added ← distinct later
      .ok (kept ++ added.filter fun e => !entries.any (·.posting == e.posting))) := by
  refine ⟨?_, distinct_bind_distinct entries, distinct_append entries⟩
  rcases settled_or_not entries with hopen | hsettled
  · exact .inl ⟨hopen, _, distinct_of_unsettled hopen, rfl⟩
  · exact .inr ⟨hsettled, _, distinct_of_settled hsettled, .of_settled hsettled⟩

end Entry
end JobBoards
