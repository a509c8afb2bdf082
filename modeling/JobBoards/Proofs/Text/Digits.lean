import JobBoards.Proofs.Text.Order
import Mathlib.Algebra.GroupWithZero.Nat
namespace JobBoards.Text
variable {s t : Text} {a b n w : Nat}

theorem ofNat_eq (n : Nat) : ofNat n = Nat.toDigits 10 n := by
  rw [ofNat, Nat.toString_eq_ofList_toDigits, String.toList_ofList]

theorem isDigit_of_mem_ofNat (n : Nat) : ∀ c ∈ ofNat n, c.isDigit = true := by
  intro c hc
  rw [ofNat_eq] at hc
  exact Nat.isDigit_of_mem_toDigits (by decide) (by decide) hc

@[simp] theorem ofDigitChars_ofNat (n : Nat) : Nat.ofDigitChars 10 (ofNat n) 0 = n := by
  rw [ofNat_eq]
  exact Nat.ofDigitChars_ten_toDigits

theorem length_ofNat_le_iff {k : Nat} (hk : 0 < k) : (ofNat n).length ≤ k ↔ n < 10 ^ k := by
  rw [ofNat_eq]
  exact Nat.length_toDigits_le_iff (by decide) hk

theorem isDigit_of_mem_padded (w n : Nat) : ∀ c ∈ padded w n, c.isDigit = true := by
  intro c hc
  rcases List.mem_append.mp hc with hzero | hdigit
  · obtain rfl := List.eq_of_mem_replicate hzero
    decide
  · exact isDigit_of_mem_ofNat n c hdigit

theorem length_padded (hw : 0 < w) (hn : n < 10 ^ w) : (padded w n).length = w := by
  have hle := (length_ofNat_le_iff hw).mpr hn
  simp only [padded, List.length_append, List.length_replicate]
  omega

@[simp] theorem ofDigitChars_padded (w n : Nat) : Nat.ofDigitChars 10 (padded w n) 0 = n := by
  rw [padded, Nat.ofDigitChars_append, Nat.ofDigitChars_replicate_zero, Nat.mul_zero]
  exact ofDigitChars_ofNat n

theorem padded_injective (w : Nat) : Function.Injective (padded w) :=
  Function.LeftInverse.injective (g := fun s => Nat.ofDigitChars 10 s 0) (ofDigitChars_padded w)

theorem toNat_of_isDigit {c : Char} (h : c.isDigit = true) : 48 ≤ c.toNat ∧ c.toNat ≤ 57 := by
  simp only [Char.isDigit, Bool.and_eq_true, decide_eq_true_eq] at h
  exact h

theorem compare_char_of_isDigit {c d : Char} (hc : c.isDigit = true) (hd : d.isDigit = true) :
    Ord.compare c d = Ord.compare (c.toNat - 48) (d.toNat - 48) := by
  have hlt {x y : Char} : Ord.compare x y = .lt ↔ x.toNat < y.toNat := compareOfLessAndEq_eq_lt
  have hcode := toNat_of_isDigit hc
  have hcode' := toNat_of_isDigit hd
  rcases Nat.lt_trichotomy c.toNat d.toNat with h | h | h
  · rw [hlt.mpr h, Nat.compare_eq_lt.mpr (by omega)]
  · obtain rfl := Char.toNat_inj.mp h
    rw [Std.ReflOrd.compare_self, Std.ReflOrd.compare_self]
  · rw [Std.OrientedOrd.eq_swap, hlt.mpr h, Nat.compare_eq_gt.mpr (by omega)]
    rfl

theorem ofDigitChars_cons_zero (c : Char) (s : Text) :
    Nat.ofDigitChars 10 (c :: s) 0 = 10 ^ s.length * (c.toNat - 48) + Nat.ofDigitChars 10 s 0 := by
  rw [Nat.ofDigitChars_cons, Nat.ofDigitChars_eq_ofDigitChars_zero, Nat.mul_zero, Nat.zero_add]
  rfl

theorem ofDigitChars_lt (h : ∀ c ∈ s, c.isDigit = true) : Nat.ofDigitChars 10 s 0 < 10 ^ s.length := by
  induction s with
  | nil => decide
  | cons c s ih =>
    obtain ⟨hc, hs⟩ := List.forall_mem_cons.mp h
    have ih := ih hs
    obtain ⟨-, hnine⟩ := toNat_of_isDigit hc
    have hmul : 10 ^ s.length * (c.toNat - 48) ≤ 10 ^ s.length * 9 :=
      Nat.mul_le_mul_left _ (by omega)
    rw [ofDigitChars_cons_zero, List.length_cons, Nat.pow_succ]
    omega

theorem compare_scaled {k x y : Nat} (hx : x < k) (hy : y < k) (a b : Nat) :
    Ord.compare (k * a + x) (k * b + y) = (Ord.compare a b).then (Ord.compare x y) := by
  rcases Nat.lt_trichotomy a b with hab | rfl | hab
  · have hmul : k * (a + 1) ≤ k * b := Nat.mul_le_mul_left k hab
    rw [Nat.mul_add] at hmul
    have hlt : k * a + x < k * b + y := by omega
    rw [Nat.compare_eq_lt.mpr hlt, Nat.compare_eq_lt.mpr hab]
    rfl
  · simp [Nat.compare_eq_ite_lt]
  · have hmul : k * (b + 1) ≤ k * a := Nat.mul_le_mul_left k hab
    rw [Nat.mul_add] at hmul
    have hlt : k * b + y < k * a + x := by omega
    rw [Nat.compare_eq_gt.mpr hlt, Nat.compare_eq_gt.mpr hab]
    rfl

theorem compare_digits (hs : ∀ c ∈ s, c.isDigit = true) (ht : ∀ c ∈ t, c.isDigit = true)
    (h : s.length = t.length) :
    compare s t = Ord.compare (Nat.ofDigitChars 10 s 0) (Nat.ofDigitChars 10 t 0) := by
  induction s generalizing t with
  | nil =>
    obtain rfl := List.length_eq_zero_iff.mp h.symm
    rfl
  | cons c s ih =>
    cases t with
    | nil => cases h
    | cons d t =>
      obtain ⟨hc, hs⟩ := List.forall_mem_cons.mp hs
      obtain ⟨hd, ht⟩ := List.forall_mem_cons.mp ht
      have hlength : s.length = t.length := Nat.succ.inj h
      rw [compare_cons, ih hs ht hlength, compare_char_of_isDigit hc hd, ofDigitChars_cons_zero,
        ofDigitChars_cons_zero, hlength,
        compare_scaled (hlength ▸ ofDigitChars_lt hs) (ofDigitChars_lt ht)]

theorem compare_padded (hw : 0 < w) (ha : a < 10 ^ w) (hb : b < 10 ^ w) :
    compare (padded w a) (padded w b) = Ord.compare a b := by
  have hlength : (padded w a).length = (padded w b).length := by
    rw [length_padded hw ha, length_padded hw hb]
  rw [compare_digits (isDigit_of_mem_padded w a) (isDigit_of_mem_padded w b) hlength,
    ofDigitChars_padded, ofDigitChars_padded]

theorem compare_ofNat (h : (ofNat a).length = (ofNat b).length) :
    compare (ofNat a) (ofNat b) = Ord.compare a b := by
  rw [compare_digits (isDigit_of_mem_ofNat a) (isDigit_of_mem_ofNat b) h, ofDigitChars_ofNat,
    ofDigitChars_ofNat]

theorem ofNat_split {k : Nat} (h : k < (ofNat n).length) :
    ∃ low, low.length = k ∧ (∀ c ∈ low, c.isDigit = true) ∧ ofNat n = ofNat (n / 10 ^ k) ++ low := by
  induction k with
  | zero => exact ⟨[], rfl, by simp, by simp⟩
  | succ k ih =>
    obtain ⟨low, hlength, hlow, hsplit⟩ := ih (Nat.lt_of_succ_lt h)
    have hlong : 10 ≤ n / 10 ^ k := by
      by_contra hshort
      have hone := (length_ofNat_le_iff (n := n / 10 ^ k) Nat.one_pos).mpr (by omega)
      have htotal := congrArg List.length hsplit
      rw [List.length_append, hlength] at htotal
      omega
    have hlast : ofNat (n / 10 ^ k) = ofNat (n / 10 ^ (k + 1)) ++ [(n / 10 ^ k % 10).digitChar] := by
      rw [ofNat_eq, ofNat_eq, Nat.toDigits_of_base_le (by decide) hlong, Nat.div_div_eq_div_mul,
        Nat.pow_succ]
    refine ⟨(n / 10 ^ k % 10).digitChar :: low, by rw [List.length_cons, hlength], ?_, ?_⟩
    · intro c hc
      apply isDigit_of_mem_ofNat n
      rw [hsplit, hlast, List.append_assoc]
      exact List.mem_append_right _ hc
    · rw [hsplit, hlast, List.append_assoc]
      rfl

end JobBoards.Text
