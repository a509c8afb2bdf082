import JobBoards.Yaml.Node
import JobBoards.Yaml.Scalar
namespace JobBoards.Yaml

/-- A fault and how deep in the document it lies; of several the shallowest counts, then the first. -/
structure Flaw where
  depth : Nat
  fault : Fault
  deriving DecidableEq, Repr

abbrev Built (α : Type) := Except Flaw α

namespace Built

def placed {α : Type} (depth : Nat) : Except Fault α → Built α
  | .ok a => .ok a
  | .error f => .error ⟨depth, f⟩

def malformed {α : Type} (depth : Nat) : Built α := .error ⟨depth, .malformedYaml⟩

def both {α β : Type} (a : Built α) (b : Built β) : Built (α × β) :=
  match a, b with
  | .ok x, .ok y => .ok (x, y)
  | .ok _, .error g => .error g
  | .error f, .ok _ => .error f
  | .error f, .error g => .error (if g.depth < f.depth then g else f)

def all {α : Type} : List (Built α) → Built (List α)
  | [] => .ok []
  | a :: as => (both a (all as)).map fun p => p.1 :: p.2

end Built

namespace Node

def kindOf (name : String) : Text := "tag:yaml.org,2002:".toList ++ name.toList

def formKind : Form → Text
  | .null => kindOf "null"
  | .bool => kindOf "bool"
  | .int => kindOf "int"
  | .real => kindOf "float"
  | .timestamp => kindOf "timestamp"
  | .merge => kindOf "merge"
  | .equals => kindOf "value"
  | .text => kindOf "str"

def kindName : Node → Text
  | .scalar .plain s => formKind (Form.of s)
  | .scalar (.named n) _ | .sequence (.named n) _ | .mapping (.named n) _ => n
  | .sequence .plain _ | .again false => kindOf "seq"
  | .mapping .plain _ | .again true => kindOf "map"

def isMerge (n : Node) : Bool := n.kindName == kindOf "merge"

def isEquals (n : Node) : Bool := n.kindName == kindOf "value"

mutual

def depth : Node → Nat
  | .scalar _ _ | .again _ => 1
  | .sequence _ items => depthAll items + 1
  | .mapping _ entries => depthEntries entries + 1

def depthAll : List Node → Nat
  | [] => 0
  | n :: ns => max n.depth (depthAll ns)

def depthEntries : List (Node × Node) → Nat
  | [] => 0
  | (k, v) :: es => max (max k.depth v.depth) (depthEntries es)

end

def mergeable (merge : List (Node × Node) → Option (List (Node × Node))) : Node → Option (List (Node × Node))
  | .mapping _ entries => merge entries
  | .again true => some []
  | _ => none

/-- The entries of a mapping, with the entries merged into it before its own. Of several merged mappings the
first comes last, so that its entries prevail. -/
def merged : Nat → List (Node × Node) → Option (List (Node × Node))
  | 0, _ => none
  | fuel + 1, entries => do
      let parts ← (entries.filter fun e => e.1.isMerge).mapM fun e =>
        match e.2 with
        | .sequence _ items =>
            (items.mapM (mergeable (merged fuel))).map fun all => all.reverse.flatten
        | n => mergeable (merged fuel) n
      some (parts.flatten ++ entries.filter fun e => !e.1.isMerge)

/-- The text of a scalar, or of the entry of a mapping whose key is an equals sign. -/
def scalarText : Nat → Node → Except Fault Text
  | 0, _ => .error .malformedYaml
  | _ + 1, .scalar _ s => .ok s
  | fuel + 1, .mapping _ entries =>
      match entries.find? fun e => e.1.isEquals with
      | some e => scalarText fuel e.2
      | none => .error .malformedYaml
  | _ + 1, _ => .error .malformedYaml

/-- A node that is no scalar itself cannot be read as a time, though a text be found in it. -/
def timestamp (n : Node) (s : Text) : Except Fault Value :=
  match n with
  | .scalar _ _ => Scalar.timestamp s
  | _ => .error (.textExpected "list")

def scalarValue (kind : Text) (n : Node) (s : Text) : Except Fault Value :=
  if kind = kindOf "null" then .ok .null
  else if kind = kindOf "bool" then Scalar.bool s
  else if kind = kindOf "int" then Scalar.int s
  else if kind = kindOf "float" then Scalar.real s
  else if kind = kindOf "timestamp" then n.timestamp s
  else if kind = kindOf "binary" then Scalar.bytes s
  else if kind = kindOf "str" then .ok (.text s)
  else .error .malformedYaml

def keyOf (depth : Nat) (built : Built Value) : Built Value :=
  match built with
  | .ok v => if v.isKey then .ok v else .malformed depth
  | .error f => if f.depth = depth then .error f else .malformed depth

def entriesOf (built : List (Value × Value)) : List (Value × Value) :=
  built.foldl (fun entries e => Value.put e.1 e.2 entries) []

def build : Nat → Nat → Node → Built Value
  | 0, depth, _ => .malformed depth
  | fuel + 1, depth, node =>
      let kind := node.kindName
      let pairs (entries : List (Node × Node)) : Built (List (Value × Value)) :=
        match merged (fuel + 1) entries with
        | none => .malformed (depth + 1)
        | some entries => .all (entries.map fun e =>
            .both
              (if e.1.isEquals then (e.1.scalarText (fuel + 1) |> Built.placed (depth + 1)).map Value.text
              else keyOf (depth + 1) (build fuel (depth + 1) e.1))
              (build fuel (depth + 1) e.2))
      match node with
      | .again isMap => .ok (.again isMap)
      | node =>
          if kind = kindOf "seq" then
            match node with
            | .sequence _ items => (Built.all (items.map (build fuel (depth + 1)))).map .list
            | _ => .malformed (depth + 1)
          else if kind = kindOf "map" then
            match node with
            | .mapping _ entries => (pairs entries).map fun es => .map (entriesOf es)
            | _ => .malformed (depth + 1)
          else if kind = kindOf "set" then
            match node with
            | .mapping _ entries => (pairs entries).map fun es => .set ((entriesOf es).map Prod.fst)
            | _ => .malformed (depth + 1)
          else if kind = kindOf "omap" ∨ kind = kindOf "pairs" then
            match node with
            | .sequence _ items => (Built.all (items.map fun
                | .mapping _ [(k, v)] =>
                    (Built.both (build fuel (depth + 1) k) (build fuel (depth + 1) v)).map fun p => .pair p.1 p.2
                | _ => .malformed (depth + 1))).map .list
            | _ => .malformed (depth + 1)
          else Built.placed depth (do scalarValue kind node (← node.scalarText (fuel + 1)))

def value (n : Node) : Except Fault Value :=
  match n.build (n.depth + 1) 0 with
  | .ok v => .ok v
  | .error f => .error f.fault

end Node

def load (calls : Nat) (s : Text) : Except Fault Value := do
  match ← parse calls s with
  | none => .ok .null
  | some node => node.value

end JobBoards.Yaml
