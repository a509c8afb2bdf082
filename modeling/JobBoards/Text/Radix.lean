import JobBoards.Text.Digit
namespace JobBoards.Text

def radixDigit? (c : Char) : Option Nat :=
  match Digit.value? c with
  | some n => some n
  | none =>
      let d := c.toLower
      if 'a' ≤ d ∧ d ≤ 'z' then some (d.toNat - 87) else none

def withoutRadixMark (base : Nat) : Text → Text
  | '0' :: c :: s =>
      let d := c.toLower
      if (base = 2 ∧ d = 'b') ∨ (base = 8 ∧ d = 'o') ∨ (base = 16 ∧ d = 'x') then s else '0' :: c :: s
  | s => s

def radixDigits? (base : Nat) (s : Text) : Option (List Nat) :=
  if s.isEmpty then none
  else s.mapM fun c => (radixDigit? c).filter fun n => decide (n < base)

inductive RadixFault where
  | malformed
  | tooLong (digits : Nat)
  deriving DecidableEq, Repr

def radixMagnitude (base : Nat) (s : Text) : Except RadixFault Nat :=
  match radixDigits? base (withoutRadixMark base s) with
  | none => .error .malformed
  | some digits =>
      if base = 10 ∧ Digit.limit < digits.length then .error (.tooLong digits.length)
      else .ok (digits.foldl (fun n d => base * n + d) 0)

def radix (base : Nat) (s : Text) : Except RadixFault Int :=
  match trim s with
  | '-' :: r => (radixMagnitude base r).map fun n => -(n : Int)
  | '+' :: r => (radixMagnitude base r).map Int.ofNat
  | r => (radixMagnitude base r).map Int.ofNat

end JobBoards.Text
