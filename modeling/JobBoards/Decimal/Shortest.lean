import JobBoards.Decimal.Binary
namespace JobBoards.Binary

structure Decimal where
  digits : Nat
  exponent : Int
  deriving DecidableEq, Repr

/-- A positive value and the bounds between which every number is read as it, as numerators over one denominator. -/
structure Interval where
  low : Nat
  value : Nat
  high : Nat
  unit : Nat
  closed : Bool
  deriving DecidableEq, Repr

namespace Interval

def around (m : Nat) (e : Int) : Interval :=
  let below := if m = Nat.pow 2 52 ∧ -1074 < e then 1 else 2
  let (one, unit) := scaled 1 4 e
  ⟨(4 * m - below) * one, 4 * m * one, (4 * m + 2) * one, unit, m % 2 == 0⟩

def times (i : Interval) (n : Nat) : Interval := ⟨i.low * n, i.value * n, i.high * n, i.unit, i.closed⟩

def scale (i : Interval) (e : Int) : Interval :=
  if e < 0 then i.times (Nat.pow 10 (-e).toNat)
  else ⟨i.low, i.value, i.high, i.unit * Nat.pow 10 e.toNat, i.closed⟩

def holds (i : Interval) (n : Nat) : Bool :=
  if i.closed then decide (i.low ≤ n * i.unit) && decide (n * i.unit ≤ i.high)
  else decide (i.low < n * i.unit) && decide (n * i.unit < i.high)

def whole? (i : Interval) : Option Nat :=
  let down := i.value / i.unit
  match i.holds down, i.holds (down + 1) with
  | true, true => some (nearest i.value i.unit)
  | true, false => some down
  | false, true => some (down + 1)
  | false, false => none

def places (i : Interval) : Int :=
  if i.unit ≤ i.value then (Text.ofNat (i.value / i.unit)).length
  else 1 - ((Text.ofNat (i.unit / i.value)).length : Int)

def shortest (i : Interval) (exponent : Int) : Nat → Decimal
  | 0 => ⟨nearest (i.scale exponent).value (i.scale exponent).unit, exponent⟩
  | tries + 1 =>
      match (i.scale exponent).whole? with
      | some n => ⟨n, exponent⟩
      | none => i.shortest (exponent - 1) tries

end Interval

/-- The decimal number of fewest digits that is read back as `m * 2 ^ e`, and the nearest of those. -/
def shortest (m : Nat) (e : Int) : Decimal :=
  let i := Interval.around m e
  i.shortest (i.places - 1) 17

def significant (n : Nat) : Text :=
  ((Text.ofNat n).reverse.dropWhile (· == '0')).reverse

def positional (digits : Text) (places : Int) : Text :=
  if places ≤ 0 then "0.".toList ++ List.replicate (-places).toNat '0' ++ digits
  else
    let n := places.toNat
    if digits.length ≤ n then digits ++ List.replicate (n - digits.length) '0' ++ ".0".toList
    else digits.take n ++ '.' :: digits.drop n

def exponential (digits : Text) (exponent : Int) : Text :=
  let fraction := digits.drop 1
  digits.take 1 ++ (if fraction.isEmpty then [] else '.' :: fraction) ++
    (if exponent < 0 then "e-".toList else "e+".toList) ++ Text.padded 2 exponent.natAbs

/-- Numbers from a ten-thousandth up to 10 to the 16 are written positionally, all others with an exponent. -/
def decimalText (d : Decimal) : Text :=
  let digits := significant d.digits
  let exponent := d.exponent + (Text.ofNat d.digits).length - 1
  if -4 ≤ exponent ∧ exponent < 16 then positional digits (exponent + 1)
  else exponential digits exponent

def text : Binary → Text
  | .finite negative m e =>
      (if negative then ['-'] else []) ++ if m = 0 then "0.0".toList else decimalText (shortest m e)
  | .infinite false => "inf"
  | .infinite true => "-inf"
  | .undefined => "nan"

end JobBoards.Binary
