import JobBoards.Fault
import JobBoards.Text.Digit
import JobBoards.Value.Basic
namespace JobBoards.Value

def byteMark (bytes : List Nat) : Nat :=
  if bytes.contains 0x27 && !bytes.contains 0x22 then 0x22 else 0x27

def byteText (mark n : Nat) : Text :=
  if n = mark ∨ n = 0x5c then ['\x5c', Char.ofNat n]
  else if n = 9 then ['\x5c', 't']
  else if n = 10 then ['\x5c', 'n']
  else if n = 13 then ['\x5c', 'r']
  else if 32 ≤ n ∧ n < 127 then [Char.ofNat n]
  else ['\x5c', 'x'] ++ Text.hex 2 n

def bytesText (bytes : List Nat) : Text :=
  let mark := byteMark bytes
  'b' :: Char.ofNat mark :: bytes.flatMap (byteText mark) ++ [Char.ofNat mark]

mutual

def quoted : Value → Text
  | .null => "None"
  | .bool true => "True"
  | .bool false => "False"
  | .int n => Text.ofInt n
  | .real x => x.text
  | .text s => Text.quoted s
  | .date d => d.quoted
  | .time t => t.quoted
  | .bytes b => bytesText b
  | .list items => '[' :: Text.join ", " (quotedAll items) ++ [']']
  | .pair a b => '(' :: a.quoted ++ ", ".toList ++ b.quoted ++ [')']
  | .set [] => "set()"
  | .set (m :: ms) => '\x7b' :: Text.join ", " (quotedAll (m :: ms)) ++ ['\x7d']
  | .map entries => '\x7b' :: Text.join ", " (quotedEntries entries) ++ ['\x7d']
  | .again false => "[...]"
  | .again true => "\x7b...\x7d"

def quotedAll : List Value → List Text
  | [] => []
  | v :: vs => v.quoted :: quotedAll vs

def quotedEntries : List (Value × Value) → List Text
  | [] => []
  | (k, v) :: es => (k.quoted ++ ": ".toList ++ v.quoted) :: quotedEntries es

end

def isTooLong (n : Int) : Bool := decide (Nat.pow 10 Text.Digit.limit ≤ n.natAbs)

def tooDeep : Fault := .callsTooDeep " while getting the repr of an object"

def zoneCalls (t : Timestamp) : Nat :=
  match t.offset with
  | none => 0
  | some 0 => 1
  | some _ => 2

mutual

/-- What keeps a value from being written in its quoted form with room for so many calls inside each other: the
first number that is too long or part that lies too deep. -/
def obstacle : Nat → Value → Option Fault
  | _, .int n => if isTooLong n then some .numberTooLongToWrite else none
  | room, .time t => if room < zoneCalls t then some tooDeep else none
  | room, .list items => obstacleIn room items
  -- the members of a set are written as a list of their own
  | room, .set members => obstacleIn (room - 1) members
  | room, .pair a b => if room = 0 then some tooDeep else (a.obstacle (room - 1)).or (b.obstacle (room - 1))
  | room, .map entries => obstacleInEntries room entries
  | _, _ => none

def obstacleIn : Nat → List Value → Option Fault
  | _, [] => none
  | room, v :: vs => if room = 0 then some tooDeep else (v.obstacle (room - 1)).or (obstacleIn room vs)

def obstacleInEntries : Nat → List (Value × Value) → Option Fault
  | _, [] => none
  | room, (k, v) :: es =>
      if room = 0 then some tooDeep
      else (k.obstacle (room - 1)).or ((v.obstacle (room - 1)).or (obstacleInEntries room es))

end

def shown : Value → Text
  | .text s => s
  | .date d => d.isoText
  | .time t => t.text
  | v => v.quoted

def obstacleShown (room : Nat) : Value → Option Fault
  | .time _ => none
  | v => v.obstacle room

end JobBoards.Value
