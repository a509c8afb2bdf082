import JobBoards.Calendar.Date
import JobBoards.Fault
namespace JobBoards

structure Moment where
  date : Date
  second : Nat
  deriving DecidableEq, Repr

structure Span where
  days : Int
  second : Nat
  deriving DecidableEq, Repr

namespace Span

def ofHours (n : Int) : Span := ⟨Int.fdiv n 24, (Int.fmod n 24).toNat * 3600⟩

def ofDays (n : Int) : Span := ⟨n, 0⟩

def maxDays : Int := 999999999

/-- A day count that no span can hold is refused, first by the width of a word and then by the limit on spans. -/
def check (s : Span) : Except Fault Span :=
  if s.days < -2147483648 ∨ 2147483648 ≤ s.days then .error .dayCountBeyondWord
  else if s.days < -maxDays ∨ maxDays < s.days then .error (.dayCountBeyondSpan s.days)
  else .ok s

end Span

namespace Moment

def dayBefore (now : Moment) (s : Span) : Except Fault Date :=
  let n := (now.date.number : Int) - s.days + (if now.second < s.second then -1 else 0)
  if n < 1 ∨ Date.lastNumber < n then .error .dateBeyondYears else .ok (Date.ofNumber n.toNat)

def back (now : Moment) (s : Span) : Except Fault Date := do now.dayBefore (← s.check)

end Moment
end JobBoards
