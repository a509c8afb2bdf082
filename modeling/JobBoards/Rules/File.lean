import JobBoards.Path
import JobBoards.Rules.Settled
import JobBoards.Yaml.Value
namespace JobBoards

inductive FileContent where
  | missing
  | folder
  | insideFile
  | bytes (b : ByteArray)

namespace FileContent

def read (path : Text) : FileContent → Except Fault ByteArray
  | .missing => .error (.noFile path)
  | .folder => .error (.isDirectory path)
  | .insideFile => .error (.notDirectory path)
  | .bytes b => .ok b

end FileContent

namespace Rules

def withLineBreaks : Text → Text
  | [] => []
  | '\r' :: '\n' :: s => '\n' :: withLineBreaks s
  | '\r' :: s => '\n' :: withLineBreaks s
  | c :: s => c :: withLineBreaks s

def decoded (b : ByteArray) : Except Fault Text :=
  match String.fromUTF8? b with
  | some s => .ok (withLineBreaks s.toList)
  | none => .error .undecodableText

def contentText (path : Text) (content : FileContent) : Except Fault Text := do
  decoded (← content.read path)

/-- What makes a value of the bytes of a settings file, and how many calls inside each other there is room for. -/
structure Reader where
  value : ByteArray → Except Fault Value
  calls : Nat

/-- The reader that decodes a whole file before it parses the text. -/
def Reader.yaml (calls : Nat) : Reader where
  value b := do Yaml.load calls (← decoded b)
  calls := calls

def loadBy (reader : Reader) (path : Text) (content : FileContent) : Except Fault Rules := do
  let path := Path.normal path
  ofValue reader.calls path (← reader.value (← content.read path))

def load (calls : Nat) : Text → FileContent → Except Fault Rules := loadBy (.yaml calls)

end Rules
end JobBoards
