import JobBoards.Posting.Sheet
import JobBoards.Repository
import JobBoards.Screen.Literal
import JobBoards.Screen.Table
namespace JobBoards

inductive Command where
  | leave
  | show
  | refresh
  | sources
  | unknown (line : Text)
  deriving DecidableEq, Repr

namespace Command

def ofLine (line : Text) : Command :=
  let word := Text.trim line
  if word = "exit".toList then .leave
  else if word = "fetch jobs".toList then .show
  else if word = "refresh".toList then .refresh
  else if word = "sources".toList then .sources
  else .unknown line

end Command

structure Shell where
  width : Nat
  repository : Repository
  printed : Text
  records : List Record

namespace Shell

def prompt : Text := ">> "

def print (s : Shell) (text : Text) : Shell := { s with printed := s.printed ++ text }

def say (s : Shell) (message : Text) : Shell := s.print (Screen.line s.width (Screen.literal message))

def ask (s : Shell) : Shell := s.print (Screen.printed s.width prompt)

def refresh (s : Shell) : Except Fault Shell :=
  let (repository, outcome) := s.repository.refresh
  outcome.map fun records => { s with repository := repository, records := s.records ++ records }

def reportRow (r : Report) : List Text :=
  [Screen.literalCell r.source, if r.outcome.isOk then "ok" else "failed", Text.ofNat r.outcome.count,
   Screen.literalCell (r.outcome.error?.getD [])]

def reportTable (reports : List Report) : Screen.Table :=
  ⟨"Sources",
    [⟨"Source", false⟩, ⟨"Status", false⟩, ⟨"Jobs", true⟩, ⟨"Error", false⟩],
    reports.map reportRow⟩

def showPostings (s : Shell) : Shell :=
  let entries := s.repository.snapshot.newest
  (entries.foldl (fun s e => s.print (Screen.line s.width e.posting.sheet.text)) s).say
    (Text.ofNat entries.length ++ " items returned".toList)

def showReports (s : Shell) : Shell :=
  s.print ((reportTable s.repository.snapshot.reports).text s.width)

def obey (s : Shell) : Command → Except Fault Shell
  | .leave => .ok s
  | .show => .ok s.showPostings
  | .refresh => do .ok ((← (s.say "Refreshing...").refresh).say "Refresh completed successfully!")
  | .sources => .ok s.showReports
  | .unknown line => .ok (s.say ('\x22' :: line ++ "\" is not a valid command".toList))

def nextLine (input : Text) : Text × Text :=
  (input.takeWhile (· != '\n'), (input.dropWhile (· != '\n')).drop 1)

theorem length_nextLine {input : Text} (h : input ≠ []) : (nextLine input).2.length < input.length := by
  obtain ⟨c, s, rfl⟩ := List.exists_cons_of_ne_nil h
  have hs : ∀ t : Text, (t.dropWhile (· != '\n')).length ≤ t.length := fun t =>
    (List.dropWhile_sublist _).length_le
  have := hs s
  by_cases hc : c = '\n'
  · simp [nextLine, hc]
  · simp [nextLine, hc]; omega

def converse (s : Shell) (input : Text) : Except Fault (Shell × Text) :=
  let s := s.ask
  if _h : input = [] then .ok (s, [])
  else
    match Command.ofLine (nextLine input).1 with
    | .leave => .ok (s, (nextLine input).2)
    | command => do converse (← s.obey command) (nextLine input).2
termination_by input.length
decreasing_by exact length_nextLine _h

def start (width : Nat) (repository : Repository) : Shell := ⟨width, repository, [], []⟩

def run (width : Nat) (repository : Repository) (input : Text) : Except Fault (Shell × Text) := do
  let s ← ((start width repository).say "Populating/indexing local datastore...").refresh
  let s := s.say
    "Population/indexing completed successfully! Please begin your job hunt by entering a query:"
  let (s, unread) ← s.converse input
  .ok (s.say "\nThank you for using Job Hunt. Goodbye!", unread)

end Shell
end JobBoards
