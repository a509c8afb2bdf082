import JobBoards.Fault
import JobBoards.Filter
import JobBoards.Text.Digit
namespace JobBoards

abbrev Environment := List (Text × Text)

def Environment.value? (env : Environment) (name : Text) : Option Text := env.lookup name

structure Settings where
  sites : List Site
  titleWords : List Text
  workers : Option Int
  timeout : Int
  proxy : Option Text
  verifies : Bool
  rulesPath : Option Text
  logLevel : Text
  deriving DecidableEq, Repr

namespace Settings

def items (s : Text) : List Text := ((Text.splitOn ',' s).map Text.trim).filter fun w => !w.isEmpty

def sitesNamed (names : List Text) : Except Fault (List Site) :=
  names.foldlM (fun sites raw =>
    match Site.ofName? (Text.lower (Text.trim raw)) with
    | none => .error (.unknownSource raw)
    | some site => .ok (if sites.contains site then sites else sites ++ [site])) []

def sitesOf (env : Environment) : Except Fault (List Site) :=
  match items ((env.value? "JOB_SOURCES").getD []) with
  | [] => .ok Site.all
  | names => sitesNamed names

def titleWordsOf (env : Environment) : List Text :=
  match env.value? "FILTER_KEYWORDS_ROLE" with
  | none => Filter.engineeringWords
  | some s => items s

def positive (env : Environment) (name : Text) : Except Fault (Option Int) :=
  match Text.trim ((env.value? name).getD []) with
  | [] => .ok none
  | raw =>
      match Text.int? raw with
      | none => .error (.notInteger name raw)
      | some n => if n ≤ 0 then .error (.notPositive name n) else .ok (some n)

def filled (env : Environment) (name : Text) : Option Text := (env.value? name).filter fun s => !s.isEmpty

def standardTimeout : Int := 30

def verifiesOf (env : Environment) : Bool :=
  let s := Text.lower ((env.value? "VERIFY_SSL").getD "true")
  s ∉ ["0".toList, "false".toList, "no".toList]

def ofEnvironment (env : Environment) : Except Fault Settings := do
  let sites ← sitesOf env
  let workers ← positive env "MAX_WORKERS"
  let timeout ← positive env "REQUEST_TIMEOUT"
  .ok {
    sites := sites
    titleWords := titleWordsOf env
    workers := workers
    timeout := timeout.getD standardTimeout
    proxy := (filled env "HTTP_PROXY").or (filled env "HTTPS_PROXY")
    verifies := verifiesOf env
    rulesPath := filled env "CLASSIFIER_RULES_PATH"
    logLevel := Text.upper ((env.value? "LOG_LEVEL").getD "INFO") }

end Settings
end JobBoards
