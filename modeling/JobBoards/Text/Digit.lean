import JobBoards.Text.Blank
import JobBoards.Text.Digit.Table
namespace JobBoards.Text
namespace Digit

def limit : Nat := 4300

def value? (c : Char) : Option Nat :=
  (zeros.find? fun z => decide (z ≤ c.toNat) && decide (c.toNat ≤ z + 9)).map (c.toNat - ·)

def isDecimal (c : Char) : Bool := (value? c).isSome

def number (digits : List Nat) : Nat := digits.foldl (fun n d => 10 * n + d) 0

def grouped : Text → Option (List Nat)
  | [] => none
  | [c] => (value? c).map ([·])
  | c :: '_' :: s => do return (← value? c) :: (← grouped s)
  | c :: d :: s => do return (← value? c) :: (← grouped (d :: s))

end Digit

def unsigned? (s : Text) : Option Nat :=
  match Digit.grouped s with
  | some digits => if digits.length ≤ Digit.limit then some (Digit.number digits) else none
  | none => none

def int? (s : Text) : Option Int :=
  match trim s with
  | '-' :: r => (unsigned? r).map fun n => -(n : Int)
  | '+' :: r => (unsigned? r).map Int.ofNat
  | r => (unsigned? r).map Int.ofNat

end JobBoards.Text
