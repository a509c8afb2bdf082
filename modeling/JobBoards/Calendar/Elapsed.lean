import JobBoards.Calendar.Moment
import JobBoards.Text.Digit
namespace JobBoards.Elapsed

/-- What a unit of time says about its amount; a month without an amount counts 31 days, months count 30. -/
def span? (amount : Int) (unit : Text) : Option Span :=
  if unit = "hour".toList ∨ unit = "hours".toList then some (.ofHours amount)
  else if unit = "day".toList ∨ unit = "days".toList then some (.ofDays amount)
  else if unit = "week".toList ∨ unit = "weeks".toList then some (.ofDays (7 * amount))
  else if unit = "month".toList then some (.ofDays 31)
  else if unit = "months".toList then some (.ofDays (30 * amount))
  else none

def date (now : Moment) (phrase : Text) : Except Fault Date :=
  match Text.words phrase with
  | amount :: unit :: _ =>
      match Text.int? amount with
      | none => .ok now.date
      | some n =>
          match span? n (Text.lower unit) with
          | none => .ok now.date
          | some s => now.back s
  | _ => .ok now.date

def shortSpan? (amount : Nat) (unit : Char) : Option Span :=
  if unit = 'd' then some (.ofDays amount)
  else if unit = 'w' then some (.ofDays (7 * amount))
  else if unit = 'm' then some (.ofDays (30 * amount))
  else none

/-- The day that an abbreviation such as "1d", "2w" or "3m" points back to; what follows the letter is not
looked at, and any other text means today. -/
def shortDate (now : Moment) (phrase : Text) : Except Fault Date :=
  let s := Text.lower (Text.trim phrase)
  let digits := s.takeWhile Text.Digit.isDecimal
  match digits, Text.trimStart (s.dropWhile Text.Digit.isDecimal) with
  | _ :: _, unit :: _ =>
      let amount := Text.Digit.number (digits.filterMap Text.Digit.value?)
      match shortSpan? amount unit with
      | none => .ok now.date
      | some span =>
          if digits.length ≤ Text.Digit.limit then now.back span
          else .error (.numberTooLong digits.length)
  | _, _ => .ok now.date

end JobBoards.Elapsed
