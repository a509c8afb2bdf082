import JobBoards.Proofs.Text.Small
import JobBoards.Text.Case
import Mathlib.Data.List.Infix
import Mathlib.Data.List.Count
namespace JobBoards.Text
open Case
variable {cased other : Bool} {before part after s t u : Text}

def endsCased (s : Text) : Bool := startsCased s.reverse

def casedAfter (cased : Bool) (s : Text) : Bool :=
  s.foldl (fun cased c => if isCaseIgnorable c then cased else isCased c) cased

def smallSigma (cased : Bool) (after : Text) : Char :=
  Char.ofNat (if cased && !startsCased after then 0x3C2 else 0x3C3)

def lowerBefore (cased : Bool) (after : Text) : Text → Text
  | [] => []
  | c :: s =>
      (if c.toNat = 0x3A3 then [smallSigma cased (s ++ after)] else lowerOf c) ++
        lowerBefore (if isCaseIgnorable c then cased else isCased c) after s

theorem lowerAfter_append (cased : Bool) (s t : Text) :
    lowerAfter cased (s ++ t) = lowerBefore cased t s ++ lowerAfter (casedAfter cased s) t := by
  induction s generalizing cased with
  | nil => rfl
  | cons c s ih => simp [lowerAfter, lowerBefore, smallSigma, casedAfter, ih]

theorem lowerAfter_eq (cased : Bool) (s : Text) : lowerAfter cased s = lowerBefore cased [] s := by
  have h := lowerAfter_append cased s []
  rwa [List.append_nil, lowerAfter, List.append_nil] at h

theorem lowerBefore_append (cased : Bool) (after s t : Text) :
    lowerBefore cased after (s ++ t) =
      lowerBefore cased (t ++ after) s ++ lowerBefore (casedAfter cased s) after t := by
  induction s generalizing cased with
  | nil => rfl
  | cons c s ih => simp [lowerBefore, casedAfter, ih]

theorem startsCased_cons (c : Char) (s : Text) :
    startsCased (c :: s) = if isCaseIgnorable c then startsCased s else isCased c := by
  unfold startsCased
  by_cases h : isCaseIgnorable c = true
  · simp [h]
  · simp [h]

theorem startsCased_append (s t : Text) :
    startsCased (s ++ t) = if s.all isCaseIgnorable then startsCased t else startsCased s := by
  induction s with
  | nil => rfl
  | cons c s ih =>
    rw [List.cons_append, startsCased_cons, startsCased_cons, ih]
    by_cases h : isCaseIgnorable c = true
    · simp [h]
    · simp [h]

theorem startsCased_of_all (h : s.all isCaseIgnorable = true) : startsCased s = false := by
  induction s with
  | nil => rfl
  | cons c s ih =>
    rw [List.all_cons, Bool.and_eq_true] at h
    rw [startsCased_cons, if_pos h.1, ih h.2]

theorem endsCased_of_all (h : s.all isCaseIgnorable = true) : endsCased s = false := by
  apply startsCased_of_all
  rwa [List.all_reverse]

theorem casedAfter_eq (cased : Bool) (s : Text) :
    casedAfter cased s = if s.all isCaseIgnorable then cased else endsCased s := by
  induction s using List.reverseRecOn with
  | nil => rfl
  | append_singleton s c ih =>
    have hlast : casedAfter cased (s ++ [c]) =
        if isCaseIgnorable c then casedAfter cased s else isCased c := by
      simp [casedAfter]
    have hends : endsCased (s ++ [c]) = if isCaseIgnorable c then endsCased s else isCased c := by
      rw [endsCased, List.reverse_append, List.reverse_singleton, List.singleton_append, startsCased_cons]
      rfl
    rw [hlast, ih, hends, List.all_append]
    by_cases h : isCaseIgnorable c = true
    · simp [h]
    · simp [h]

@[simp] theorem casedAfter_false (s : Text) : casedAfter false s = endsCased s := by
  rw [casedAfter_eq]
  split
  · rename_i h
    exact (endsCased_of_all h).symm
  · rfl

theorem sigma_cased : isCaseIgnorable 'Σ' = false ∧ isCased 'Σ' = true := by
  decide +kernel

theorem smallSigma_eq_iff : smallSigma cased s = smallSigma other t ↔
    (cased && !startsCased s) = (other && !startsCased t) := by
  unfold smallSigma
  cases (cased && !startsCased s) <;> cases (other && !startsCased t) <;> decide

theorem lowerBefore_eq_iff : lowerBefore cased t s = lowerBefore other u s ↔
    ∀ a b, s = a ++ 'Σ' :: b →
      smallSigma (casedAfter cased a) (b ++ t) = smallSigma (casedAfter other a) (b ++ u) := by
  induction s generalizing cased other with
  | nil => simp [lowerBefore]
  | cons c s ih =>
    by_cases hc : c = 'Σ'
    · have hsigma : c.toNat = 0x3A3 := by
        rw [hc]
        decide
      simp only [lowerBefore, if_pos hsigma, List.singleton_append, List.cons.injEq, ih]
      constructor
      · rintro ⟨hhead, htail⟩ a b h
        cases a with
        | nil =>
          obtain ⟨-, rfl⟩ := List.cons.inj h
          exact hhead
        | cons d a =>
          obtain ⟨rfl, rfl⟩ := List.cons.inj h
          exact htail a b rfl
      · intro h
        exact ⟨h [] s (by rw [hc]; rfl), fun a b hs => h (c :: a) b (by rw [hs]; rfl)⟩
    · have hother : c.toNat ≠ 0x3A3 := fun h => hc (Char.toNat_inj.mp h)
      simp only [lowerBefore, if_neg hother, List.append_cancel_left_eq, ih]
      constructor
      · intro htail a b h
        cases a with
        | nil => exact absurd (List.cons.inj h).1 hc
        | cons d a =>
          obtain ⟨rfl, rfl⟩ := List.cons.inj h
          exact htail a b rfl
      · intro h a b hs
        exact h (c :: a) b (by rw [hs]; rfl)

/-- A capital sigma of a text takes another small form between two neighbours than it takes alone: it is the first
letter and ends a word there, or the last letter and no longer ends one. -/
inductive Redrawn (before part after : Text) : Prop
  | first {a b : Text} (hpart : part = a ++ 'Σ' :: b) (ha : a.all isCaseIgnorable = true)
      (hbefore : endsCased before = true) (hafter : startsCased (b ++ after) = false) :
      Redrawn before part after
  | last {a b : Text} (hpart : part = a ++ 'Σ' :: b) (hb : b.all isCaseIgnorable = true)
      (hbefore : endsCased a = true) (hafter : startsCased after = true) : Redrawn before part after

/-- A capital sigma whose small form depends on what stands beside the text. -/
inductive Loose (part : Text) : Prop
  | first {a b : Text} (hpart : part = a ++ 'Σ' :: b) (ha : a.all isCaseIgnorable = true)
      (hafter : startsCased b = false) : Loose part
  | last {a b : Text} (hpart : part = a ++ 'Σ' :: b) (hb : b.all isCaseIgnorable = true)
      (hbefore : endsCased a = true) : Loose part

theorem Redrawn.loose (h : Redrawn before part after) : Loose part := by
  cases h with
  | first hpart ha _ hafter =>
    refine .first hpart ha ?_
    rw [startsCased_append] at hafter
    split at hafter
    · rename_i hb
      exact startsCased_of_all hb
    · exact hafter
  | last hpart hb hbefore _ => exact .last hpart hb hbefore

theorem smallSigma_kept_iff {a b : Text} :
    smallSigma (casedAfter cased a) (b ++ after) = smallSigma (casedAfter false a) (b ++ []) ↔
      ¬ ((a.all isCaseIgnorable = true ∧ cased = true ∧ startsCased (b ++ after) = false) ∨
        b.all isCaseIgnorable = true ∧ endsCased a = true ∧ startsCased after = true) := by
  rw [smallSigma_eq_iff, casedAfter_eq, casedAfter_false, List.append_nil, startsCased_append b after]
  by_cases ha : a.all isCaseIgnorable = true
  · rw [if_pos ha, endsCased_of_all ha]
    simp [ha]
  · by_cases hb : b.all isCaseIgnorable = true
    · rw [if_neg ha, if_pos hb, startsCased_of_all hb]
      simp [ha, hb]
    · rw [if_neg ha, if_neg hb]
      simp [ha, hb]

theorem lowerBefore_eq_lower_iff :
    lowerBefore (endsCased before) after part = lower part ↔ ¬ Redrawn before part after := by
  rw [lower, lowerAfter_eq, lowerBefore_eq_iff]
  simp only [smallSigma_kept_iff]
  constructor
  · intro h hredrawn
    cases hredrawn with
    | first hpart ha hbefore hafter => exact h _ _ hpart (.inl ⟨ha, hbefore, hafter⟩)
    | last hpart hb hbefore hafter => exact h _ _ hpart (.inr ⟨hb, hbefore, hafter⟩)
  · rintro h a b hpart (⟨ha, hbefore, hafter⟩ | ⟨hb, hbefore, hafter⟩)
    · exact h (.first hpart ha hbefore hafter)
    · exact h (.last hpart hb hbefore hafter)

theorem lower_append_append (before part after : Text) : lower (before ++ part ++ after) =
    lowerBefore false (part ++ after) before ++ lowerBefore (endsCased before) after part ++
      lowerAfter (casedAfter (endsCased before) part) after := by
  rw [lower, List.append_assoc, lowerAfter_append, lowerAfter_append, casedAfter_false, List.append_assoc]

theorem lower_infix_of_not_redrawn (h : ¬ Redrawn before part after) :
    lower part <:+: lower (before ++ part ++ after) := by
  rw [lower_append_append, lowerBefore_eq_lower_iff.mpr h]
  exact List.infix_append _ (lower part) _

theorem not_infix_of_replaced {x y pre post : Text} {c d : Char} (hne : d ≠ c) (hpre : c ∉ pre)
    (hpost : c ∉ post) : ¬ (x ++ c :: y) <:+: (pre ++ (x ++ d :: y) ++ post) := by
  intro h
  have hcount := h.sublist.count_le c
  simp only [List.count_append, List.count_cons_self, List.count_cons_of_ne hne,
    List.count_eq_zero_of_not_mem hpre, List.count_eq_zero_of_not_mem hpost] at hcount
  omega

theorem lowerBefore_ignored (h : s.all isCaseIgnorable = true) (cased other : Bool) (t u : Text) :
    lowerBefore cased t s = lowerBefore other u s := by
  rw [lowerBefore_eq_iff]
  rintro a b rfl
  simp [sigma_cased] at h

theorem lowerBefore_up_to_sigma (cased : Bool) (s t u : Text) :
    lowerBefore cased ('Σ' :: t) s = lowerBefore cased ('Σ' :: u) s := by
  rw [lowerBefore_eq_iff]
  intro a b _
  have hstart (r : Text) : startsCased ('Σ' :: r) = true := by
    rw [startsCased_cons, sigma_cased.1]
    exact sigma_cased.2
  rw [smallSigma_eq_iff, startsCased_append, startsCased_append, hstart, hstart]

theorem lowerBefore_sigma (cased : Bool) (after a b : Text) : lowerBefore cased after (a ++ 'Σ' :: b) =
    lowerBefore cased ('Σ' :: (b ++ after)) a ++
      smallSigma (casedAfter cased a) (b ++ after) :: lowerBefore true after b := by
  have hsigma : ('Σ' : Char).toNat = 0x3A3 := by decide
  rw [lowerBefore_append, lowerBefore, if_pos hsigma, sigma_cased.1, sigma_cased.2]
  rfl

theorem lower_sigma (a b : Text) : lower (a ++ 'Σ' :: b) =
    lowerBefore false ('Σ' :: b) a ++ smallSigma (endsCased a) b :: lowerBefore true [] b := by
  rw [lower, lowerAfter_eq, lowerBefore_sigma, casedAfter_false, List.append_nil]

theorem smallSigma_final (h : startsCased s = false) : smallSigma true s = 'ς' := by
  rw [smallSigma, h]
  rfl

theorem smallSigma_inner (h : startsCased s = true) (cased : Bool) : smallSigma cased s = 'σ' := by
  rw [smallSigma, h, Bool.not_true, Bool.and_false]
  rfl

/-- Beside a letter, a loose text can come out so that its small letters stand nowhere. -/
theorem Loose.exists_not_infix (h : Loose part) :
    ∃ before after, ¬ lower part <:+: lower (before ++ part ++ after) := by
  have hletter : endsCased ['a'] = true := by decide +kernel
  cases h with
  | @first a b hpart ha hafter =>
    refine ⟨['a'], [], ?_⟩
    have hinner : smallSigma (endsCased a) b = 'σ' := by
      rw [endsCased_of_all ha]
      rfl
    have hfinal : smallSigma (casedAfter true a) b = 'ς' := by
      rw [casedAfter_eq, if_pos ha]
      exact smallSigma_final hafter
    have htitle : lower (['a'] ++ part ++ []) =
        ['a'] ++ (lowerBefore false ('Σ' :: b) a ++ 'ς' :: lowerBefore true [] b) ++ [] := by
      rw [lower_append_append, hletter, hpart, lowerBefore_sigma, List.append_nil b, hfinal,
        lowerBefore_ignored ha true false ('Σ' :: b) ('Σ' :: b)]
      rfl
    rw [htitle, hpart, lower_sigma, hinner]
    exact not_infix_of_replaced (by decide) (by decide) (by decide)
  | @last a b hpart hb hbefore =>
    refine ⟨[], ['a'], ?_⟩
    have hfinal : smallSigma (endsCased a) b = 'ς' := by
      rw [hbefore]
      exact smallSigma_final (startsCased_of_all hb)
    have hinner : smallSigma (casedAfter false a) (b ++ ['a']) = 'σ' := by
      apply smallSigma_inner
      rw [startsCased_append, if_pos hb]
      exact hletter
    have htitle : lower ([] ++ part ++ ['a']) =
        [] ++ (lowerBefore false ('Σ' :: b) a ++ 'σ' :: lowerBefore true [] b) ++ ['a'] := by
      rw [lower_append_append, show endsCased [] = false from rfl, hpart, lowerBefore_sigma, hinner,
        lowerBefore_up_to_sigma false a (b ++ ['a']) b, lowerBefore_ignored hb true true ['a'] []]
      rfl
    rw [htitle, hpart, lower_sigma, hfinal]
    exact not_infix_of_replaced (by decide) (by decide) (by decide)

theorem not_loose_of_small (h : lower part = part) : ¬ Loose part := by
  have hsigma : 'Σ' ∉ part := by
    intro hmem
    rw [← h] at hmem
    exact (isSmall_of_mem_lowerAfter false part 'Σ' hmem).1 (by decide)
  intro hloose
  cases hloose with
  | first hpart _ _ => exact hsigma (by simp [hpart])
  | last hpart _ _ => exact hsigma (by simp [hpart])

end JobBoards.Text
