import JobBoards.Proofs.Text.Pieces
import JobBoards.Text.Digit
import Mathlib.Data.List.Forall2
import Mathlib.Data.Nat.Digits.Defs
namespace JobBoards.Text
variable {s : Text} {values : List Nat}

namespace Digit

/-- Digits of any script, with at most one underscore between two of them, and what each of them counts. -/
inductive Spells : List Nat → Text → Prop
  | last {c : Char} {v : Nat} (hc : value? c = some v) : Spells [v] [c]
  | next {c : Char} {v : Nat} {s : Text} {values : List Nat} (hc : value? c = some v)
      (h : Spells values s) : Spells (v :: values) (c :: s)
  | spaced {c : Char} {v : Nat} {s : Text} {values : List Nat} (hc : value? c = some v)
      (h : Spells values s) : Spells (v :: values) (c :: '_' :: s)

theorem blankRanges_apart : ∀ r ∈ blankRanges, ∀ z ∈ zeros, r.2 < z ∨ z + 9 < r.1 := by
  decide

theorem isDecimal_of_isBlank {c : Char} (h : isBlank c = true) : isDecimal c = false := by
  obtain ⟨r, hr, hrange⟩ := List.any_eq_true.mp h
  have hnone : zeros.find? (fun z => decide (z ≤ c.toNat) && decide (c.toNat ≤ z + 9)) = none := by
    rw [List.find?_eq_none]
    intro z hz
    have hapart := blankRanges_apart r hr z hz
    simp only [Bool.and_eq_true, decide_eq_true_eq] at hrange ⊢
    omega
  rw [isDecimal, value?, hnone]
  rfl

theorem forall₂_value?_iff : List.Forall₂ (fun c v => value? c = some v) s values ↔
    (∀ c ∈ s, isDecimal c = true) ∧ s.filterMap value? = values := by
  induction s generalizing values with
  | nil =>
    rw [List.forall₂_nil_left_iff]
    exact ⟨fun h => ⟨by simp, h.symm⟩, fun h => h.2.symm⟩
  | cons c s ih =>
    rw [List.forall₂_cons_left_iff, List.forall_mem_cons]
    constructor
    · rintro ⟨v, values, hc, hs, rfl⟩
      obtain ⟨hdecimal, rfl⟩ := ih.mp hs
      exact ⟨⟨by rw [isDecimal, hc]; rfl, hdecimal⟩, List.filterMap_cons_some hc⟩
    · rintro ⟨⟨hc, hs⟩, rfl⟩
      obtain ⟨v, hv⟩ := Option.isSome_iff_exists.mp hc
      exact ⟨v, _, hv, ih.mpr ⟨hs, rfl⟩, List.filterMap_cons_some hv⟩

theorem number_eq (values : List Nat) : number values = Nat.ofDigits 10 values.reverse := by
  rw [number, Nat.ofDigits_eq_foldr, List.foldr_reverse]
  congr 1
  funext n d
  exact Nat.add_comm _ _

theorem Spells.exists_cons (h : Spells values s) : ∃ c t, s = c :: t ∧ (value? c).isSome := by
  cases h with
  | last hc => exact ⟨_, _, rfl, by rw [hc]; rfl⟩
  | next hc _ => exact ⟨_, _, rfl, by rw [hc]; rfl⟩
  | spaced hc _ => exact ⟨_, _, rfl, by rw [hc]; rfl⟩

theorem spells_of_grouped (h : grouped s = some values) : Spells values s := by
  fun_induction grouped s generalizing values with
  | case1 => cases h
  | case2 c =>
    obtain ⟨v, hv, rfl⟩ := Option.map_eq_some_iff.mp h
    exact .last hv
  | case3 c s ih =>
    simp only [Option.bind_eq_bind, Option.bind_eq_some_iff, Option.pure_def, Option.some.injEq] at h
    obtain ⟨v, hv, rest, hrest, rfl⟩ := h
    exact .spaced hv (ih hrest)
  | case4 c d s hd ih =>
    simp only [Option.bind_eq_bind, Option.bind_eq_some_iff, Option.pure_def, Option.some.injEq] at h
    obtain ⟨v, hv, rest, hrest, rfl⟩ := h
    exact .next hv (ih hrest)

theorem Spells.grouped (h : Spells values s) : grouped s = some values := by
  induction h with
  | last hc => simp [Digit.grouped, hc]
  | next hc h ih =>
    obtain ⟨d, t, rfl, hd⟩ := h.exists_cons
    have hunderscore : d ≠ '_' := by
      rintro rfl
      exact absurd hd (by decide)
    rw [Digit.grouped, hc, ih]
    · rfl
    · exact hunderscore
  | spaced hc h ih =>
    rw [Digit.grouped, hc, ih]
    rfl

theorem grouped_eq_some_iff : Digit.grouped s = some values ↔ Spells values s :=
  ⟨spells_of_grouped, Spells.grouped⟩

end Digit

inductive Spells : Int → Text → Prop
  | plain {s : Text} {values : List Nat} (h : Digit.Spells values s) (hlimit : values.length ≤ Digit.limit) :
      Spells (Nat.ofDigits 10 values.reverse : Nat) s
  | plus {s : Text} {values : List Nat} (h : Digit.Spells values s) (hlimit : values.length ≤ Digit.limit) :
      Spells (Nat.ofDigits 10 values.reverse : Nat) ('+' :: s)
  | minus {s : Text} {values : List Nat} (h : Digit.Spells values s) (hlimit : values.length ≤ Digit.limit) :
      Spells (-(Nat.ofDigits 10 values.reverse : Nat)) ('-' :: s)

theorem unsigned?_eq_some_iff {n : Nat} : unsigned? s = some n ↔
    ∃ values, Digit.Spells values s ∧ values.length ≤ Digit.limit ∧ n = Nat.ofDigits 10 values.reverse := by
  unfold unsigned?
  cases hgrouped : Digit.grouped s with
  | none =>
    refine ⟨fun h => (nomatch h), ?_⟩
    rintro ⟨values, hvalues, -, -⟩
    rw [hvalues.grouped] at hgrouped
    cases hgrouped
  | some values =>
    have hvalues := Digit.grouped_eq_some_iff.mp hgrouped
    constructor
    · intro h
      simp only [Option.ite_none_right_eq_some, Option.some.injEq] at h
      exact ⟨values, hvalues, h.1, h.2.symm.trans (Digit.number_eq values)⟩
    · rintro ⟨others, hothers, hlimit, rfl⟩
      obtain rfl : values = others := Option.some.inj (hgrouped.symm.trans hothers.grouped)
      simp only [if_pos hlimit, Digit.number_eq]

theorem int?_eq_some_iff {n : Int} : int? s = some n ↔ Spells n (trim s) := by
  unfold int?
  generalize trim s = t
  constructor
  · intro h
    split at h
    · simp only [Option.bind_eq_bind, Option.pure_def, Option.map_eq_some_iff, Option.bind_eq_some_iff,
        Option.some.injEq] at h
      obtain ⟨_, ⟨m, hm, rfl⟩, rfl⟩ := h
      obtain ⟨values, hvalues, hlimit, rfl⟩ := unsigned?_eq_some_iff.mp hm
      exact .minus hvalues hlimit
    · obtain ⟨m, hm, rfl⟩ := Option.map_eq_some_iff.mp h
      obtain ⟨values, hvalues, hlimit, rfl⟩ := unsigned?_eq_some_iff.mp hm
      exact .plus hvalues hlimit
    · obtain ⟨m, hm, rfl⟩ := Option.map_eq_some_iff.mp h
      obtain ⟨values, hvalues, hlimit, rfl⟩ := unsigned?_eq_some_iff.mp hm
      exact .plain hvalues hlimit
  · intro h
    cases h with
    | plain hvalues hlimit =>
      have hread := unsigned?_eq_some_iff.mpr ⟨_, hvalues, hlimit, rfl⟩
      obtain ⟨c, r, rfl, hc⟩ := hvalues.exists_cons
      split
      · rename_i heq
        obtain ⟨rfl, -⟩ := List.cons.inj heq
        exact absurd hc (by decide)
      · rename_i heq
        obtain ⟨rfl, -⟩ := List.cons.inj heq
        exact absurd hc (by decide)
      · rw [hread]
        rfl
    | plus hvalues hlimit =>
      simp only [unsigned?_eq_some_iff.mpr ⟨_, hvalues, hlimit, rfl⟩]
      rfl
    | minus hvalues hlimit =>
      simp only [unsigned?_eq_some_iff.mpr ⟨_, hvalues, hlimit, rfl⟩]
      rfl

end JobBoards.Text
