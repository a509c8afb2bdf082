import JobBoards.Calendar.Timestamp
import JobBoards.Decimal.Shortest
import JobBoards.Text.Quoted
namespace JobBoards

inductive Value where
  | null
  | bool (b : Bool)
  | int (n : Int)
  | real (x : Binary)
  | text (s : Text)
  | date (d : Date)
  | time (t : Timestamp)
  | bytes (b : List Nat)
  | list (items : List Value)
  | pair (first second : Value)
  | set (members : List Value)
  | map (entries : List (Value × Value))
  /-- A collection that stands inside itself. -/
  | again (isMap : Bool)
  deriving Repr

namespace Value

def isEmpty : Value → Bool
  | .null | .bool false => true
  | .int n => n == 0
  | .real x => x.isZero
  | .text s => s.isEmpty
  | .bytes b => b.isEmpty
  | .list items | .set items => items.isEmpty
  | .map entries => entries.isEmpty
  | _ => false

def typeName : Value → Text
  | .null => "NoneType"
  | .bool _ => "bool"
  | .int _ => "int"
  | .real _ => "float"
  | .text _ => "str"
  | .date _ => "datetime.date"
  | .time _ => "datetime.datetime"
  | .bytes _ => "bytes"
  | .list _ | .again false => "list"
  | .pair _ _ => "tuple"
  | .set _ => "set"
  | .map _ | .again true => "dict"

def isKey : Value → Bool
  | .list _ | .set _ | .map _ | .again _ => false
  | .pair a b => isKey a && isKey b
  | _ => true

def number? : Value → Option Int
  | .bool b => some (if b then 1 else 0)
  | .int n => some n
  | _ => none

def sameKey (a b : Value) : Bool :=
  match a, b with
  | .null, .null => true
  | .text s, .text t => s == t
  | .date d, .date e => d == e
  | .time s, .time t => s.equal t
  | .bytes s, .bytes t => s == t
  | .real x, .real y => x.equal y
  | a, .real y =>
      match a.number? with
      | some n => y.equalInt n
      | none => false
  | .real x, b =>
      match b.number? with
      | some n => x.equalInt n
      | none => false
  | a, b =>
      match a.number?, b.number? with
      | some m, some n => m == n
      | _, _ => false

def put (key value : Value) : List (Value × Value) → List (Value × Value)
  | [] => [(key, value)]
  | (k, v) :: entries =>
      if k.sameKey key then (k, value) :: entries else (k, v) :: put key value entries

def field? (name : Text) (entries : List (Value × Value)) : Option Value :=
  (entries.find? fun e => e.1.sameKey (.text name)).map Prod.snd

end Value
end JobBoards
