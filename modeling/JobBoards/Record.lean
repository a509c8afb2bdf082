import JobBoards.Text.Basic
namespace JobBoards

inductive Severity where
  | debug | info | warning | error | critical
  deriving DecidableEq, Repr

namespace Severity

def name : Severity → Text
  | .debug => "DEBUG"
  | .info => "INFO"
  | .warning => "WARNING"
  | .error => "ERROR"
  | .critical => "CRITICAL"

def rank : Severity → Nat
  | .debug => 10
  | .info => 20
  | .warning => 30
  | .error => 40
  | .critical => 50

end Severity

inductive Channel where
  | collection | repository | fetching | catalogue | program
  deriving DecidableEq, Repr

def Channel.name : Channel → Text
  | .collection => "aggregator"
  | .repository => "repository"
  | .fetching => "fetchers.base"
  | .catalogue => "sources"
  | .program => "main"

structure Record where
  severity : Severity
  channel : Channel
  message : Text
  deriving DecidableEq, Repr

/-- The least urgency that is logged; zero lets every record through. -/
abbrev Threshold := Nat

namespace Threshold

def named : List (Text × Threshold) :=
  [("CRITICAL", 50), ("FATAL", 50), ("ERROR", 40), ("WARN", 30), ("WARNING", 30), ("INFO", 20),
   ("DEBUG", 10), ("NOTSET", 0)]

def ofName? (s : Text) : Option Threshold := named.lookup s

def admits (t : Threshold) (r : Record) : Bool := decide (t ≤ r.severity.rank)

end Threshold
end JobBoards
