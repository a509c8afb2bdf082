import JobBoards.Text.Basic
namespace JobBoards.Text.Base64

def value? (c : Char) : Option Nat :=
  if 'A' ≤ c ∧ c ≤ 'Z' then some (c.toNat - 65)
  else if 'a' ≤ c ∧ c ≤ 'z' then some (c.toNat - 71)
  else if isDigit c then some (c.toNat + 4)
  else if c = '+' then some 62
  else if c = '/' then some 63
  else none

/-- The bytes of an encoded text. `place` counts the characters of the current group of four, `left` holds the
bits not yet used and `pads` the equals signs in a row; other characters are passed over. -/
def bytes? (place left pads : Nat) : Text → Option (List Nat)
  | [] => if place = 0 then some [] else none
  | c :: s =>
      if c = '=' then
        if 2 ≤ place then
          if 4 ≤ place + pads + 1 then some [] else bytes? place left (pads + 1) s
        else bytes? place left pads s
      else
        match value? c with
        | none => bytes? place left pads s
        | some n =>
            if place = 0 then bytes? 1 n 0 s
            else if place = 1 then (bytes? 2 (n % 16) 0 s).map fun bs => (left * 4 + n / 16) :: bs
            else if place = 2 then (bytes? 3 (n % 4) 0 s).map fun bs => (left * 16 + n / 4) :: bs
            else (bytes? 0 0 0 s).map fun bs => (left * 64 + n) :: bs

def decode? (s : Text) : Option (List Nat) := bytes? 0 0 0 s

end JobBoards.Text.Base64
