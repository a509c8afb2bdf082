import JobBoards.Text.Basic
namespace JobBoards

structure Date where
  year : Nat
  month : Nat
  day : Nat
  deriving DecidableEq, Repr

namespace Date

def isLeap (year : Nat) : Bool := year % 4 == 0 && (year % 100 != 0 || year % 400 == 0)

def monthLengths (year : Nat) : List Nat :=
  [31, if isLeap year then 29 else 28, 31, 30, 31, 30, 31, 31, 30, 31, 30, 31]

def daysInMonth (year month : Nat) : Nat := (monthLengths year).getD (month - 1) 0

def daysBeforeMonth (year month : Nat) : Nat := ((monthLengths year).take (month - 1)).foldr (· + ·) 0

def daysInYears (years : Nat) : Nat := years * 365 + years / 4 - years / 100 + years / 400

def lastYear : Nat := 9999

def IsValid (d : Date) : Prop :=
  1 ≤ d.year ∧ d.year ≤ lastYear ∧ 1 ≤ d.month ∧ d.month ≤ 12 ∧ 1 ≤ d.day ∧
    d.day ≤ daysInMonth d.year d.month

instance (d : Date) : Decidable d.IsValid := by unfold IsValid; infer_instance

def number (d : Date) : Nat := daysInYears (d.year - 1) + daysBeforeMonth d.year d.month + d.day

/-- The day with number `n + 1`: `n` is split into whole cycles of 400, 100, 4 and 1 years, and only the last
day of a cycle fills one cycle of the next kind too many. -/
def yearAndRest (n : Nat) : Nat × Nat :=
  let n400 := n / 146097
  let r400 := n % 146097
  let n100 := min 3 (r400 / 36524)
  let r100 := r400 - n100 * 36524
  let n4 := r100 / 1461
  let r4 := r100 % 1461
  let n1 := min 3 (r4 / 365)
  (n400 * 400 + n100 * 100 + n4 * 4 + n1 + 1, r4 - n1 * 365)

def monthAndDay : List Nat → Nat → Nat → Nat × Nat
  | [], month, rest => (month, rest + 1)
  | length :: lengths, month, rest =>
      if rest < length then (month, rest + 1) else monthAndDay lengths (month + 1) (rest - length)

def ofNumber (n : Nat) : Date :=
  let (year, rest) := yearAndRest (n - 1)
  let (month, day) := monthAndDay (monthLengths year) 1 rest
  ⟨year, month, day⟩

def lastNumber : Nat := daysInYears lastYear

/-- The year is written without padding, month and day with two digits. -/
def text (d : Date) : Text :=
  Text.ofNat d.year ++ '-' :: Text.padded 2 d.month ++ '-' :: Text.padded 2 d.day

def isoText (d : Date) : Text :=
  Text.padded 4 d.year ++ '-' :: Text.padded 2 d.month ++ '-' :: Text.padded 2 d.day

end Date
end JobBoards
