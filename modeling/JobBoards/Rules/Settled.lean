import JobBoards.Rules
import JobBoards.Text.Blank
import JobBoards.Value.Shown
namespace JobBoards.Rules

/-- Keywords are trimmed and made small; none may be left empty. Each of them is written inside two calls. -/
def keywords (calls : Nat) (name : Value) (items : List Value) : Except Fault (List Text) :=
  match items.findSome? (Value.obstacleShown (calls - 2)) with
  | some fault => .error fault
  | none =>
      let cleaned := items.map fun v => Text.lower (Text.trim v.shown)
      if cleaned.all fun k => !k.isEmpty then .ok cleaned else .error (.keywordsEmpty name.quoted)

def unknownLabel (α : Type) [Category α] (calls : Nat) (name : Value) : Fault :=
  (name.obstacle calls).getD (.unknownLabel (Category.noun α) name.quoted (Category.names α))

def labelOf {α : Type} [Category α] (calls : Nat) (name : Value) : Except Fault α :=
  match name with
  | .text s =>
      match Category.ofName? s with
      | some label => .ok label
      | none => .error (unknownLabel α calls name)
  | _ => .error (unknownLabel α calls name)

def row {α : Type} [Category α] (calls : Nat) (entry : Value × Value) : Except Fault (α × List Text) := do
  let label ← labelOf calls entry.1
  match entry.2 with
  | .list items => .ok (label, ← keywords calls entry.1 items)
  | .pair a b => .ok (label, ← keywords calls entry.1 [a, b])
  | _ => .error (.keywordsNotList entry.1.quoted)

/-- A table with the keywords of a mapping in place of its own; an empty value changes nothing. -/
def overridden {α : Type} [DecidableEq α] [Category α] (calls : Nat) (table : Table α) (v : Value) :
    Except Fault (Table α) :=
  if v.isEmpty then .ok table
  else
    match v with
    | .map entries =>
        entries.foldlM (fun table entry => do
          let (label, words) ← row (calls - 1) entry
          .ok (table.override label words)) table
    | v => .error (.tableNotMapping v.typeName)

def remoteKeywordOf (calls : Nat) (v : Value) : Except Fault Text := do
  match ← keywords calls (.text "remote_keyword") [v] with
  | k :: _ => .ok k
  | [] => .ok []

/-- What stands under a name in a mapping. A mapping that stands inside itself is the whole mapping again. -/
def part (name : Text) (entries : List (Value × Value)) : Value :=
  match Value.field? name entries with
  | none => .null
  | some (.again true) => .map entries
  | some v => v

def ofValue (calls : Nat) (path : Text) (v : Value) : Except Fault Rules :=
  if v.isEmpty then .ok standard
  else
    match v with
    | .map entries => do
        let skills ← overridden calls Table.defaultSkills (part "skills" entries)
        let levels ← overridden calls Table.defaultLevels (part "levels" entries)
        let remote ← remoteKeywordOf calls
          ((Value.field? "remote_keyword" entries).getD (.text standard.remoteKeyword))
        .ok ⟨skills, levels, remote⟩
    | _ => .error (.rulesNotMapping path)

end JobBoards.Rules
