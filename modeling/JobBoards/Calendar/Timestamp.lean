import JobBoards.Calendar.Date
namespace JobBoards

structure Timestamp where
  date : Date
  hour : Nat
  minute : Nat
  second : Nat
  micro : Nat
  offset : Option Int
  deriving DecidableEq, Repr

namespace Timestamp

/-- Microseconds from the start of year 1, in universal time where the distance from it is known. -/
def instant (t : Timestamp) : Int :=
  let seconds := ((t.date.number * 24 + t.hour) * 60 + t.minute) * 60 + t.second
  ((seconds : Int) - t.offset.getD 0) * 1000000 + t.micro

/-- A time whose distance from universal time is known is never equal to one without. -/
def equal (s t : Timestamp) : Bool :=
  s.offset.isSome == t.offset.isSome && s.instant == t.instant

def offsetText (offset : Int) : Text :=
  let n := offset.natAbs
  (if offset < 0 then '-' else '+') :: Text.padded 2 (n / 3600) ++ ':' :: Text.padded 2 (n / 60 % 60) ++
    (if n % 60 = 0 then [] else ':' :: Text.padded 2 (n % 60))

def text (t : Timestamp) : Text :=
  t.date.isoText ++ ' ' :: Text.padded 2 t.hour ++ ':' :: Text.padded 2 t.minute ++
    ':' :: Text.padded 2 t.second ++ (if t.micro = 0 then [] else '.' :: Text.padded 6 t.micro) ++
    (match t.offset with
      | none => []
      | some o => offsetText o)

def deltaText (seconds : Int) : Text :=
  let days := Int.fdiv seconds 86400
  let rest := Int.fmod seconds 86400
  let parts := (if days = 0 then [] else ["days=".toList ++ Text.ofInt days]) ++
    (if rest = 0 then [] else ["seconds=".toList ++ Text.ofInt rest])
  "datetime.timedelta(".toList ++ (if parts.isEmpty then ['0'] else Text.join ", " parts) ++ [')']

def zoneText (offset : Int) : Text :=
  if offset = 0 then "datetime.timezone.utc"
  else "datetime.timezone(".toList ++ deltaText offset ++ [')']

def fields (t : Timestamp) : List Nat :=
  [t.date.year, t.date.month, t.date.day, t.hour, t.minute] ++
    if t.micro ≠ 0 then [t.second, t.micro] else if t.second ≠ 0 then [t.second] else []

def quoted (t : Timestamp) : Text :=
  "datetime.datetime(".toList ++ Text.join ", " (t.fields.map Text.ofNat) ++
    (match t.offset with
      | none => []
      | some o => ", tzinfo=".toList ++ zoneText o) ++ [')']

end Timestamp

def Date.quoted (d : Date) : Text :=
  "datetime.date(".toList ++ Text.join ", " ([d.year, d.month, d.day].map Text.ofNat) ++ [')']

end JobBoards
