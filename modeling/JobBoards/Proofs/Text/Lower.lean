import JobBoards.Text.Blank
import JobBoards.Text.Case
namespace JobBoards.Text
open Case
variable {c : Char} {s : Text}

theorem lowerOf_blankRanges : ∀ r ∈ blankRanges, ∀ k < r.2 + 1 - r.1,
    r.1 + k ≠ 0x3A3 ∧ lowerOf (Char.ofNat (r.1 + k)) = [Char.ofNat (r.1 + k)] := by
  decide +kernel

theorem lowerOf_blank (h : isBlank c = true) : c.toNat ≠ 0x3A3 ∧ lowerOf c = [c] := by
  obtain ⟨r, hr, hrange⟩ := List.any_eq_true.mp h
  simp only [Bool.and_eq_true, decide_eq_true_eq] at hrange
  obtain ⟨hfirst, hlast⟩ := hrange
  have hcode : r.1 + (c.toNat - r.1) = c.toNat := Nat.add_sub_cancel' hfirst
  have hlower := lowerOf_blankRanges r hr (c.toNat - r.1) (by omega)
  rwa [hcode, Char.ofNat_toNat] at hlower

theorem lowerAfter_eq_map (h : ∀ c ∈ s, c.toNat < 128) (cased : Bool) :
    lowerAfter cased s = s.map Char.toLower := by
  induction s generalizing cased with
  | nil => rfl
  | cons c s ih =>
    obtain ⟨hc, hs⟩ := List.forall_mem_cons.mp h
    have hsigma : c.toNat ≠ 0x3A3 := by omega
    rw [lowerAfter, if_neg hsigma, lowerOf, if_pos hc, ih hs]
    rfl

theorem mem_lowerAfter_of_blank (hc : isBlank c = true) (h : c ∈ s) (cased : Bool) :
    c ∈ lowerAfter cased s := by
  induction s generalizing cased with
  | nil => cases h
  | cons d s ih =>
    rw [lowerAfter, List.mem_append]
    rcases List.mem_cons.mp h with rfl | h
    · obtain ⟨hsigma, hlower⟩ := lowerOf_blank hc
      rw [if_neg hsigma, hlower]
      exact .inl List.mem_cons_self
    · exact .inr (ih h _)

theorem not_blank_of_lower (h : ∀ c ∈ lower s, isBlank c = false) : ∀ c ∈ s, isBlank c = false := by
  intro c hc
  cases hblank : isBlank c with
  | false => rfl
  | true =>
    have hlower := h c (mem_lowerAfter_of_blank hblank hc false)
    rw [hblank] at hlower
    cases hlower

end JobBoards.Text
