import JobBoards.Text.Quoted
import Mathlib.Algebra.GroupWithZero.Nat
namespace JobBoards.Text
variable {mark c d : Char} {s t : Text}

theorem hexValue?_hexDigit : ∀ n < 16, hexValue? (hexDigit n) = some n := by
  decide

@[simp] theorem hexNumber_hex (width n : Nat) : hexNumber (hex width n) = n % 16 ^ width := by
  induction width generalizing n with
  | zero => exact (Nat.mod_one n).symm
  | succ width ih =>
    have hdigit := hexValue?_hexDigit (n % 16) (Nat.mod_lt n (by decide))
    have hlast : hexNumber (hex width (n / 16) ++ [hexDigit (n % 16)]) = 16 * hexNumber (hex width (n / 16)) + n % 16 := by
      simp [hexNumber, hdigit]
    rw [hex, hlast, ih, Nat.pow_succ, Nat.mul_comm (16 ^ width), Nat.mod_mul, Nat.add_comm]

theorem ofNat_hex (width : Nat) (h : c.toNat < 16 ^ width) (s : Text) :
    Char.ofNat (hexNumber ((hex width c.toNat ++ s).take width)) = c := by
  rw [List.take_left' (length_hex width c.toNat), hexNumber_hex, Nat.mod_eq_of_lt h, Char.ofNat_toNat]

theorem quoteMark_cases (s : Text) : quoteMark s = '\x27' ∨ quoteMark s = '\x22' := by
  unfold quoteMark
  split
  · exact .inr rfl
  · exact .inl rfl

def meant : Char → Text → Char
  | 'n', _ => '\n'
  | 'r', _ => '\r'
  | 't', _ => '\t'
  | 'x', s => Char.ofNat (hexNumber (s.take 2))
  | 'u', s => Char.ofNat (hexNumber (s.take 4))
  | 'U', s => Char.ofNat (hexNumber (s.take 8))
  | c, _ => c

def firstQuoted : Text → Option Char
  | '\x5c' :: c :: s => some (meant c s)
  | s => s.head?

theorem firstQuoted_cons (h : c ≠ '\x5c') (s : Text) : firstQuoted (c :: s) = some c := by
  unfold firstQuoted
  split
  · rename_i heq
    exact absurd (List.cons.inj heq).1 h
  · rfl

theorem firstQuoted_escaped (hmark : mark = '\x27' ∨ mark = '\x22') (c : Char) (s : Text) :
    firstQuoted (escaped mark c ++ s) = some c := by
  unfold escaped
  split
  · rename_i hself
    have hc : c = '\x5c' ∨ c = '\x27' ∨ c = '\x22' := by
      rcases hself with rfl | rfl
      · exact .inr hmark
      · exact .inl rfl
    rcases hc with rfl | rfl | rfl
    all_goals rfl
  rename_i hself
  split
  · subst c
    rfl
  split
  · subst c
    rfl
  split
  · subst c
    rfl
  split
  · exact firstQuoted_cons (fun hc => hself (.inr hc)) s
  split
  · rename_i hwidth
    exact congrArg some (ofNat_hex 2 hwidth s)
  split
  · rename_i hwidth
    exact congrArg some (ofNat_hex 4 hwidth s)
  · exact congrArg some (ofNat_hex 8 c.val.toNat_lt s)

theorem flatMap_escaped_inj (hmark : mark = '\x27' ∨ mark = '\x22')
    (h : s.flatMap (escaped mark) = t.flatMap (escaped mark)) : s = t := by
  induction s generalizing t with
  | nil =>
    cases t with
    | nil => rfl
    | cons d t =>
      have hd := firstQuoted_escaped hmark d (t.flatMap (escaped mark))
      rw [← List.flatMap_cons, ← h] at hd
      cases hd
  | cons c s ih =>
    have hc := firstQuoted_escaped hmark c (s.flatMap (escaped mark))
    cases t with
    | nil =>
      rw [← List.flatMap_cons, h] at hc
      cases hc
    | cons d t =>
      have hd := firstQuoted_escaped hmark d (t.flatMap (escaped mark))
      rw [← List.flatMap_cons, ← h, List.flatMap_cons, hc] at hd
      obtain rfl := Option.some.inj hd
      rw [List.flatMap_cons, List.flatMap_cons] at h
      rw [ih (List.append_cancel_left h)]

@[simp] theorem quoted_inj : quoted s = quoted t ↔ s = t := by
  refine ⟨fun h => ?_, congrArg quoted⟩
  obtain ⟨hmark, hinner⟩ := List.cons.inj h
  rw [hmark] at hinner
  exact flatMap_escaped_inj (quoteMark_cases t) (List.append_cancel_right hinner)

end JobBoards.Text
