import JobBoards.Text.Base64
import JobBoards.Text.Case
import JobBoards.Text.Radix
import JobBoards.Value.Basic
import JobBoards.Yaml.Form
import JobBoards.Fault
namespace JobBoards.Yaml.Scalar

def trueWords : List Text := ["yes", "true", "on"]

def falseWords : List Text := ["no", "false", "off"]

def bool (s : Text) : Except Fault Value :=
  let word := Text.lower s
  if trueWords.contains word then .ok (.bool true)
  else if falseWords.contains word then .ok (.bool false)
  else .error (.badKey word)

def whole (base : Nat) (s : Text) : Except Fault Int :=
  match Text.radix base s with
  | .ok n => .ok n
  | .error (.tooLong digits) => .error (.numberTooLong digits)
  | .error .malformed =>
      .error (.badValue ("invalid literal for int() with base ".toList ++ Text.ofNat base ++ ": ".toList ++
        (Text.quoted s).take 200))

def signed (s : Text) : Except Fault (Int × Text) :=
  match s with
  | [] => .error .emptyNumber
  | '-' :: r => .ok (-1, r)
  | '+' :: r => .ok (1, r)
  | r => .ok (1, r)

def sixties (parts : List Int) : Int := parts.foldl (fun n part => 60 * n + part) 0

def magnitude (s : Text) : Except Fault Int :=
  match s with
  | ['0'] => .ok 0
  | '0' :: 'b' :: r => whole 2 r
  | '0' :: 'x' :: r => whole 16 r
  | '0' :: r => whole 8 ('0' :: r)
  | [] => .error .emptyNumber
  | s =>
      if s.contains ':' then do .ok (sixties (← (Text.splitOn ':' s).mapM (whole 10)))
      else whole 10 s

def int (s : Text) : Except Fault Value := do
  let (sign, r) ← signed (Text.without '_' s)
  .ok (.int (sign * (← magnitude r)))

def binary (s : Text) : Except Fault Binary :=
  match Binary.read? s with
  | some x => .ok x
  | none => .error (.badValue ("could not convert string to float: ".toList ++ Text.quoted s))

/-- The sum of parts, the last first, each with a weight sixty times that of the one before. -/
def weighed (sum : Binary) (weight : Nat) : List Binary → Except Fault Binary
  | [] => .ok sum
  | x :: xs =>
      match Binary.ofInt weight with
      | .infinite _ => .error .wholeBeyondReal
      | w => weighed (sum.add (x.mul w)) (60 * weight) xs

def real (s : Text) : Except Fault Value := do
  let (sign, r) ← signed (Text.lower (Text.without '_' s))
  let x ←
    if r = ".inf".toList then .ok (.infinite false)
    else if r = ".nan".toList then .ok .undefined
    else if r.contains ':' then do
      weighed .zero 1 (← (Text.splitOn ':' r).mapM binary).reverse
    else binary r
  .ok (.real (if sign < 0 then x.neg else x))

def natural (s : Text) : Nat := Text.Digit.number (s.filterMap Text.Digit.value?)

def checkDate (d : Date) : Except Fault Unit :=
  if d.year = 0 then .error (.badValue "year 0 is out of range")
  else if d.month = 0 ∨ 12 < d.month then .error (.badValue "month must be in 1..12")
  else if d.day = 0 ∨ Date.daysInMonth d.year d.month < d.day then
    .error (.badValue "day is out of range for month")
  else .ok ()

def checkTime (hour minute second : Nat) : Except Fault Unit :=
  if 24 ≤ hour then .error (.badValue "hour must be in 0..23")
  else if 60 ≤ minute then .error (.badValue "minute must be in 0..59")
  else if 60 ≤ second then .error (.badValue "second must be in 0..59")
  else .ok ()

def offset (zone : Option (Bool × Text × Text)) : Except Fault Int :=
  match zone with
  | none => .ok 0
  | some (isNegative, hours, minutes) =>
      let n : Int := (natural hours * 3600 + natural minutes * 60 : Nat)
      let n := if isNegative then -n else n
      if n ≤ -86400 ∨ 86400 ≤ n then
        .error (.badValue ("offset must be a timedelta strictly between -timedelta(hours=24) and ".toList ++
          "timedelta(hours=24), not ".toList ++ Timestamp.deltaText n ++ ['.']))
      else .ok n

def micro (fraction : Text) : Nat :=
  natural ((fraction ++ List.replicate 6 '0').take 6)

def timestamp (s : Text) : Except Fault Value :=
  match Form.stamp? (Form.withoutBreak s) with
  | none => .error .noMatch
  | some t => do
      let d : Date := ⟨natural t.year, natural t.month, natural t.day⟩
      match t.clock with
      | none => do
          checkDate d
          .ok (.date d)
      | some k => do
          let zone ← k.zone.mapM offset
          checkDate d
          checkTime (natural k.hour) (natural k.minute) (natural k.second)
          .ok (.time ⟨d, natural k.hour, natural k.minute, natural k.second, micro k.fraction, zone⟩)

def bytes (s : Text) : Except Fault Value :=
  if s.all fun c => decide (c.toNat < 128) then
    match Text.Base64.decode? s with
    | some b => .ok (.bytes b)
    | none => .error .malformedYaml
  else .error .malformedYaml

end JobBoards.Yaml.Scalar
