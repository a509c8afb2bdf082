import JobBoards.Text.Basic
namespace JobBoards.Yaml

inductive Form where
  | null | bool | int | real | timestamp | merge | equals | text
  deriving DecidableEq, Repr

namespace Form

def boolWords : List Text :=
  ["yes", "Yes", "YES", "no", "No", "NO", "true", "True", "TRUE", "false", "False", "FALSE", "on", "On",
   "ON", "off", "Off", "OFF"]

def nullWords : List Text := ["~", "null", "Null", "NULL"]

def withoutSign : Text → Text
  | '+' :: s | '-' :: s => s
  | s => s

def isDigitOrLow (c : Char) : Bool := Text.isDigit c || c == '_'

def isHexOrLow (c : Char) : Bool := (Text.hexValue? c).isSome || c == '_'

def isOctalOrLow (c : Char) : Bool := (decide ('0' ≤ c) && decide (c ≤ '7')) || c == '_'

def isBinaryOrLow (c : Char) : Bool := c == '0' || c == '1' || c == '_'

def someOf (p : Char → Bool) (s : Text) : Bool := !s.isEmpty && s.all p

def startsWith (p : Char → Bool) (s : Text) : Bool := s.head?.any p

def isSixtieth (s : Text) : Bool :=
  match s with
  | [d] => Text.isDigit d
  | [c, d] => decide ('0' ≤ c) && decide (c ≤ '5') && Text.isDigit d
  | _ => false

def isNonZeroDigit (c : Char) : Bool := Text.isDigit c && c != '0'

def isInt (s : Text) : Bool :=
  let s := withoutSign s
  match s with
  | '0' :: 'b' :: r => someOf isBinaryOrLow r
  | '0' :: 'x' :: r => someOf isHexOrLow r
  | '0' :: r => r.all isOctalOrLow
  | s =>
      match Text.splitOn ':' s with
      | first :: rest =>
          startsWith isNonZeroDigit first && first.all isDigitOrLow && rest.all isSixtieth
      | [] => false

/-- A power of ten, whose sign may not be left out. -/
def isExponent : Text → Bool
  | [] => true
  | e :: sign :: digits =>
      (e == 'e' || e == 'E') && (sign == '+' || sign == '-') && someOf Text.isDigit digits
  | _ => false

def isPointed (s : Text) : Bool :=
  match s.takeWhile isDigitOrLow, s.dropWhile isDigitOrLow with
  | whole, '.' :: r => startsWith Text.isDigit whole && isExponent (r.dropWhile isDigitOrLow)
  | _, _ => false

def isTimed (s : Text) : Bool :=
  match Text.splitOn ':' s with
  | first :: rest =>
      startsWith Text.isDigit first && first.all isDigitOrLow && !rest.isEmpty &&
        rest.dropLast.all isSixtieth &&
        match Text.splitOn '.' (rest.getLastD []) with
        | [seconds, fraction] => isSixtieth seconds && fraction.all isDigitOrLow
        | _ => false
  | [] => false

def infinities : List Text := [".inf", ".Inf", ".INF"]

def undefineds : List Text := [".nan", ".NaN", ".NAN"]

def isReal (s : Text) : Bool :=
  let t := withoutSign s
  isPointed t || isTimed t || infinities.contains t || undefineds.contains s ||
    match s with
    | '.' :: d :: r => Text.isDigit d && isExponent (r.dropWhile isDigitOrLow)
    | _ => false

def isDigits (least most : Nat) (s : Text) : Bool :=
  decide (least ≤ s.length) && decide (s.length ≤ most) && s.all Text.isDigit

structure Clock where
  hour : Text
  minute : Text
  second : Text
  fraction : Text
  zone : Option (Option (Bool × Text × Text))
  deriving DecidableEq, Repr

structure Stamp where
  year : Text
  month : Text
  day : Text
  clock : Option Clock
  deriving DecidableEq, Repr

/-- The distance from universal time: `Z`, or a sign with hours and perhaps minutes. -/
def zone? (s : Text) : Option (Option (Option (Bool × Text × Text))) :=
  match s.dropWhile fun c => c == ' ' || c == '\t' with
  | [] => if s.isEmpty then some none else none
  | ['Z'] => some (some none)
  | sign :: r =>
      if sign = '+' ∨ sign = '-' then
        match Text.splitOn ':' r with
        | [h] => if isDigits 1 2 h then some (some (some (sign == '-', h, []))) else none
        | [h, m] =>
            if isDigits 1 2 h && isDigits 2 2 m then some (some (some (sign == '-', h, m))) else none
        | _ => none
      else none

def clock? (s : Text) : Option Clock :=
  let hour := s.takeWhile Text.isDigit
  match s.dropWhile Text.isDigit with
  | ':' :: m1 :: m2 :: ':' :: s1 :: s2 :: r =>
      if isDigits 1 2 hour && [m1, m2, s1, s2].all Text.isDigit then
        let (fraction, r) :=
          match r with
          | '.' :: r => (r.takeWhile Text.isDigit, r.dropWhile Text.isDigit)
          | r => ([], r)
        (zone? r).map fun zone => ⟨hour, [m1, m2], [s1, s2], fraction, zone⟩
      else none
  | _ => none

def stamp? (s : Text) : Option Stamp :=
  let year := s.takeWhile Text.isDigit
  match s.dropWhile Text.isDigit with
  | '-' :: s =>
      let month := s.takeWhile Text.isDigit
      match s.dropWhile Text.isDigit with
      | '-' :: s =>
          let day := s.takeWhile Text.isDigit
          if isDigits 4 4 year && isDigits 1 2 month && isDigits 1 2 day then
            match s.dropWhile Text.isDigit with
            | [] => some ⟨year, month, day, none⟩
            | c :: r =>
                if c = 'T' ∨ c = 't' then (clock? r).map fun k => ⟨year, month, day, some k⟩
                else if c = ' ' ∨ c = '\t' then
                  (clock? (r.dropWhile fun d => d == ' ' || d == '\t')).map fun k => ⟨year, month, day, some k⟩
                else none
          else none
      | _ => none
  | _ => none

/-- A plain text without a time is a day only if month and day have two digits. -/
def isTimestamp (s : Text) : Bool :=
  match stamp? s with
  | none => false
  | some t => t.clock.isSome || (t.month.length == 2 && t.day.length == 2)

def withoutBreak (s : Text) : Text := if s.getLast? = some '\n' then s.dropLast else s

def of (s : Text) : Form :=
  match s with
  | [] => .null
  | c :: _ =>
      let t := withoutBreak s
      if c = '\n' then .text
      else if boolWords.contains t then .bool
      else if isReal t then .real
      else if isInt t then .int
      else if t = "<<".toList then .merge
      else if nullWords.contains t then .null
      else if isTimestamp t then .timestamp
      else if t = ['='] then .equals
      else .text

end Form
end JobBoards.Yaml
