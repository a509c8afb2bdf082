import JobBoards.Text.Digit
import JobBoards.Text.Case
namespace JobBoards

/-- A binary number of 53 significant bits: a finite one has magnitude `m * 2 ^ e`. -/
inductive Binary where
  | finite (negative : Bool) (m : Nat) (e : Int)
  | infinite (negative : Bool)
  | undefined
  deriving DecidableEq, Repr

namespace Binary

def zero : Binary := .finite false 0 (-1074)

def scaled (n d : Nat) (e : Int) : Nat × Nat :=
  if e < 0 then (n, d * Nat.pow 2 (-e).toNat) else (n * Nat.pow 2 e.toNat, d)

/-- The whole number nearest to `n / d`; halfway, the even one. -/
def nearest (n d : Nat) : Nat :=
  let q := n / d
  let r := n % d
  if d < 2 * r ∨ (2 * r = d ∧ q % 2 = 1) then q + 1 else q

def exponentFor (n d : Nat) : Int :=
  let e : Int := (n.log2 : Int) - d.log2 - 53
  let (a, b) := scaled n d (-e)
  max (-1074) (if Nat.pow 2 53 ≤ a / b then e + 1 else e)

def ofRatio (negative : Bool) (n d : Nat) : Binary :=
  if n = 0 then .finite negative 0 (-1074)
  else
    let e := exponentFor n d
    let (a, b) := scaled n d (-e)
    let m := nearest a b
    let (m, e) := if m = Nat.pow 2 53 then (Nat.pow 2 52, e + 1) else (m, e)
    if 971 < e then .infinite negative else .finite negative m e

def ofDecimal (negative : Bool) (n : Nat) (e : Int) : Binary :=
  let size := e + (Text.ofNat n).length
  if n = 0 ∨ size < -400 then .finite negative 0 (-1074)
  else if 400 < size then .infinite negative
  else if e < 0 then ofRatio negative n (Nat.pow 10 (-e).toNat)
  else ofRatio negative (n * Nat.pow 10 e.toNat) 1

def ofInt (n : Int) : Binary := ofRatio (decide (n < 0)) n.natAbs 1

def neg : Binary → Binary
  | .finite s m e => .finite (!s) m e
  | .infinite s => .infinite (!s)
  | .undefined => .undefined

def isZero : Binary → Bool
  | .finite _ m _ => m == 0
  | _ => false

def units (negative : Bool) (m : Nat) (shift : Nat) : Int :=
  if negative then -((m * Nat.pow 2 shift : Nat) : Int) else ((m * Nat.pow 2 shift : Nat) : Int)

def ofUnits (negativeZero : Bool) (n : Int) (e : Int) : Binary :=
  let (a, b) := scaled n.natAbs 1 e
  ofRatio (if n = 0 then negativeZero else decide (n < 0)) a b

def add : Binary → Binary → Binary
  | .finite s m e, .finite t n f =>
      let low := min e f
      ofUnits (s && t) (units s m (e - low).toNat + units t n (f - low).toNat) low
  | .infinite s, .infinite t => if s = t then .infinite s else .undefined
  | .undefined, _ | _, .undefined => .undefined
  | .infinite s, _ | _, .infinite s => .infinite s

def mul : Binary → Binary → Binary
  | .finite s m e, .finite t n f =>
      let (a, b) := scaled (m * n) 1 (e + f)
      ofRatio (s != t) a b
  | .undefined, _ | _, .undefined => .undefined
  | .infinite s, .infinite t => .infinite (s != t)
  | .infinite s, .finite t n _ | .finite t n _, .infinite s =>
      if n = 0 then .undefined else .infinite (s != t)

def ratio? : Binary → Option (Int × Nat)
  | .finite s m e =>
      let (a, b) := scaled m 1 e
      some (if s then -(a : Int) else a, b)
  | _ => none

def equalInt (x : Binary) (n : Int) : Bool :=
  match x.ratio? with
  | some (a, b) => a == n * b
  | none => false

/-- Equality of values: both zeros are one value, and the undefined number differs from itself. -/
def equal : Binary → Binary → Bool
  | .undefined, _ => false
  | x, y => x == y || (x.isZero && y.isZero)

def digits? (s : Text) : Option (List Nat) := s.mapM Text.Digit.value?

def exponent? : Text → Option Int
  | [] => some 0
  | c :: s =>
      if c = 'e' ∨ c = 'E' then
        match s with
        | '+' :: d :: r => (digits? (d :: r)).map fun n => Int.ofNat (Text.Digit.number n)
        | '-' :: d :: r => (digits? (d :: r)).map fun n => -Int.ofNat (Text.Digit.number n)
        | d :: r => (digits? (d :: r)).map fun n => Int.ofNat (Text.Digit.number n)
        | [] => none
      else none

def unsigned? (negative : Bool) (s : Text) : Option Binary := do
  let whole ← digits? (s.takeWhile Text.Digit.isDecimal)
  let rest := s.dropWhile Text.Digit.isDecimal
  let (part, tail) :=
    match rest with
    | '.' :: r => (r.takeWhile Text.Digit.isDecimal, r.dropWhile Text.Digit.isDecimal)
    | r => ([], r)
  let part ← digits? part
  if whole.isEmpty && part.isEmpty then none
  else
    let e ← exponent? tail
    some (ofDecimal negative (Text.Digit.number (whole ++ part)) (e - part.length))

def magnitude? (negative : Bool) (s : Text) : Option Binary :=
  let name := Text.lower s
  if name = "inf".toList ∨ name = "infinity".toList then some (.infinite negative)
  else if name = "nan".toList then some .undefined
  else unsigned? negative s

def read? (s : Text) : Option Binary :=
  match Text.trim s with
  | '+' :: r => magnitude? false r
  | '-' :: r => magnitude? true r
  | r => magnitude? false r

end Binary
end JobBoards
