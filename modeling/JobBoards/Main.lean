import JobBoards.Program
import Std.Time.Format
open JobBoards

namespace JobBoards.Console

def settingNames : List String :=
  ["JOB_SOURCES", "FILTER_KEYWORDS_ROLE", "MAX_WORKERS", "REQUEST_TIMEOUT", "HTTP_PROXY", "HTTPS_PROXY",
   "VERIFY_SSL", "CLASSIFIER_RULES_PATH", "LOG_LEVEL"]

def environment : IO Environment :=
  settingNames.filterMapM fun name => do
    return (← IO.getEnv name).map fun value => (name.toList, value.toList)

def now : IO Moment := do
  let t ← Std.Time.PlainDateTime.now
  return ⟨⟨t.date.year.toInt.toNat, t.date.month.toNat, t.date.day.val.toNat⟩, t.time.toSeconds.val.toNat⟩

def content (path : Text) : IO FileContent := do
  let file := System.mkFilePath [String.ofList path]
  if ← file.isDir then return .folder
  try
    return .bytes (← IO.FS.readBinFile file)
  catch
    | .inappropriateType .. => return .insideFile
    | _ => return .missing

/-- The calls inside each other that are left to a program when it reads its rules. -/
def calls : Nat := 980

def width : IO Nat := do
  return ((← IO.getEnv "COLUMNS").bind String.toNat?).getD 80

/-- Every request to a board is answered by its page in the folder `pages`; without one it is out of reach. -/
def page (site : Site) : IO (Site × Reply) := do
  let file := System.mkFilePath ["pages", String.ofList (site.name ++ ".html".toList)]
  try
    return (site, .response 200 (.page (← IO.FS.readFile file).toList))
  catch _ => return (site, .unreachable "no page is saved for it")

def world : IO World := do
  let environment ← environment
  let rules := (Settings.filled environment "CLASSIFIER_RULES_PATH").map Path.normal
  let found ← rules.mapM content
  let pages ← Site.all.mapM page
  let now ← now
  let width ← width
  let input ← (← IO.getStdin).readToEnd
  return {
    environment := environment
    file := fun path => if rules = some path then found.getD .missing else .missing
    calls := calls
    reply := fun site _ => (pages.lookup site).getD (.unreachable [])
    clock := fun _ _ _ => now
    width := width
    input := input.toList }

def recordLine (r : Record) : String :=
  String.ofList (r.severity.name ++ ' ' :: r.channel.name ++ ": ".toList ++ r.message)

end JobBoards.Console

def main : IO UInt32 := do
  match Program.run (← Console.world) with
  | .ok trace =>
      trace.records.forM fun r => IO.eprintln (Console.recordLine r)
      IO.print (String.ofList trace.printed)
      return 0
  | .error fault =>
      IO.eprintln (String.ofList (fault.kind ++ ": ".toList ++ fault.message))
      return 1
