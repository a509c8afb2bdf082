import JobBoards.Proofs.Text.Digits
import JobBoards.Proofs.Text.Spelling
namespace JobBoards.Text
variable {c : Char} {s : Text} {n : Int}

structure IsDigits (s : Text) : Prop where
  ne_nil : s ≠ []
  isDigit : ∀ c ∈ s, c.isDigit = true
  length_le : s.length ≤ Digit.limit

theorem isDigits_iff : IsDigits s ↔
    s ≠ [] ∧ s.all Char.isDigit = true ∧ s.length ≤ Digit.limit := by
  rw [List.all_eq_true]
  exact ⟨fun h => ⟨h.ne_nil, h.isDigit, h.length_le⟩, fun h => ⟨h.1, h.2.1, h.2.2⟩⟩

instance (s : Text) : Decidable (IsDigits s) := decidable_of_iff _ isDigits_iff.symm

inductive Writes : Int → Text → Prop
  | plain {s : Text} (h : IsDigits s) : Writes (Nat.ofDigitChars 10 s 0) s
  | plus {s : Text} (h : IsDigits s) : Writes (Nat.ofDigitChars 10 s 0) ('+' :: s)
  | minus {s : Text} (h : IsDigits s) : Writes (-(Nat.ofDigitChars 10 s 0 : Nat)) ('-' :: s)

theorem isBlank_of_isDigit (h : c.isDigit = true) : isBlank c = false := by
  have hc := toNat_of_isDigit h
  simp only [isBlank, blankRanges, inRanges, List.any_cons, List.any_nil, Bool.or_eq_false_iff,
    Bool.and_eq_false_iff, decide_eq_false_iff_not, eq_self, and_true]
  omega

namespace Digit

theorem value?_of_isDigit (h : c.isDigit = true) : value? c = some (c.toNat - 48) := by
  have hc := toNat_of_isDigit h
  simp [value?, zeros, hc]

theorem spells_of_isDigit (hs : s ≠ []) (h : ∀ c ∈ s, c.isDigit = true) :
    Spells (s.map fun c => c.toNat - 48) s := by
  induction s with
  | nil => exact absurd rfl hs
  | cons c s ih =>
    obtain ⟨hc, htail⟩ := List.forall_mem_cons.mp h
    cases s with
    | nil => exact .last (value?_of_isDigit hc)
    | cons d s => exact .next (value?_of_isDigit hc) (ih (List.cons_ne_nil d s) htail)

theorem ofDigits_map (s : Text) :
    Nat.ofDigits 10 (s.map fun c => c.toNat - 48).reverse = Nat.ofDigitChars 10 s 0 := by
  rw [← number_eq, number, List.foldl_map, Nat.ofDigitChars_eq_foldl]
  rfl

end Digit

namespace IsDigits

theorem spells (h : IsDigits s) : Digit.Spells (s.map fun c => c.toNat - 48) s :=
  Digit.spells_of_isDigit h.ne_nil h.isDigit

theorem length_map_le (h : IsDigits s) : (s.map fun c => c.toNat - 48).length ≤ Digit.limit := by
  rw [List.length_map]
  exact h.length_le

theorem not_blank (h : IsDigits s) : ∀ c ∈ s, isBlank c = false :=
  fun c hc => isBlank_of_isDigit (h.isDigit c hc)

theorem ascii (h : IsDigits s) : ∀ c ∈ s, c.toNat < 128 :=
  fun c hc => Nat.lt_of_le_of_lt (toNat_of_isDigit (h.isDigit c hc)).2 (by decide)

theorem map_toLower (h : IsDigits s) : s.map Char.toLower = s := by
  have hself : ∀ c ∈ s, c.toLower = id c := by
    intro c hc
    obtain ⟨-, hcode⟩ := toNat_of_isDigit (h.isDigit c hc)
    refine dif_neg ?_
    rintro ⟨hupper, -⟩
    have hupper : 65 ≤ c.toNat := hupper
    omega
  rw [List.map_congr_left hself, List.map_id]

theorem values (h : IsDigits s) :
    List.Forall₂ (fun c v => Digit.value? c = some v) s (s.map fun c => c.toNat - 48) :=
  List.forall₂_map_right_iff.mpr
    (List.forall₂_same.mpr fun c hc => Digit.value?_of_isDigit (h.isDigit c hc))

end IsDigits

namespace Writes

theorem ne_nil (h : Writes n s) : s ≠ [] := by
  cases h with
  | plain h => exact h.ne_nil
  | plus h => exact List.cons_ne_nil _ _
  | minus h => exact List.cons_ne_nil _ _

theorem not_blank (h : Writes n s) : ∀ c ∈ s, isBlank c = false := by
  cases h with
  | plain h => exact h.not_blank
  | plus h => exact List.forall_mem_cons.mpr ⟨by decide, h.not_blank⟩
  | minus h => exact List.forall_mem_cons.mpr ⟨by decide, h.not_blank⟩

theorem spells (h : Writes n s) : Spells n s := by
  cases h with
  | plain h =>
    rw [← Digit.ofDigits_map]
    exact .plain h.spells h.length_map_le
  | plus h =>
    rw [← Digit.ofDigits_map]
    exact .plus h.spells h.length_map_le
  | minus h =>
    rw [← Digit.ofDigits_map]
    exact .minus h.spells h.length_map_le

end Writes
end JobBoards.Text
