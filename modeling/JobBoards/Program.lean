import JobBoards.Catalogue
import JobBoards.Rules.File
import JobBoards.Settings
import JobBoards.Shell
namespace JobBoards

/-- All that the program meets from outside: its variables, the files, the room for calls inside each other, the
replies of the boards to their first, second and further requests, the time at every listing of these, the width of
the console, and the lines typed in. -/
structure World where
  environment : Environment
  file : Text → FileContent
  calls : Nat
  reply : Site → Nat → Reply
  clock : Site → Nat → Nat → Moment
  width : Nat
  input : Text

structure Request where
  address : Text
  timeout : Int
  deriving DecidableEq, Repr

structure Trace where
  session : Session
  requests : List Request
  printed : Text
  records : List Record

namespace Program

def hunting (n : Nat) : Record :=
  ⟨.info, .program, "Hunting across ".toList ++ Text.ofNat n ++ " sources".toList⟩

def threshold (name : Text) : Except Fault Threshold :=
  match Threshold.ofName? name with
  | some t => .ok t
  | none => .error (.unknownSeverity name)

def rules (world : World) (path : Option Text) : Except Fault Rules :=
  match path with
  | none => .ok Rules.standard
  | some p => Rules.load world.calls p (world.file (Path.normal p))

def source (world : World) (board : Board) : Source := board.source (world.clock board.site) (world.reply board.site)

def session (settings : Settings) : Session := ⟨settings.verifies, settings.proxy⟩

def fetchers (settings : Settings) : List Fetcher := Fetcher.ofSites settings.sites (session settings) settings.timeout

def repository (world : World) (settings : Settings) (rules : Rules) : Repository :=
  .new ((fetchers settings).map fun f => source world f.board)
    (Filter.byTitle settings.titleWords) rules settings.workers

def requests (settings : Settings) (rounds : Nat) : List Request :=
  (List.replicate rounds settings.sites).flatten.map fun site => ⟨site.address, settings.timeout⟩

def run (world : World) : Except Fault Trace := do
  let settings ← Settings.ofEnvironment world.environment
  let threshold ← threshold settings.logLevel
  let rules ← rules world settings.rulesPath
  let fetchers := fetchers settings
  let (shell, _) ← Shell.run world.width (repository world settings rules) world.input
  let records := Fetcher.configured fetchers :: hunting fetchers.length :: shell.records
  .ok {
    session := session settings
    requests := requests settings shell.repository.rounds
    printed := shell.printed
    records := records.filter threshold.admits }

end Program
end JobBoards
