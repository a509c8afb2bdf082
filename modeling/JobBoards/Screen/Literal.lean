import JobBoards.Text.Basic
namespace JobBoards.Screen

def isSmallLetter (c : Char) : Bool := decide ('a' ≤ c) && decide (c ≤ 'z')

def mayMark : Text → Bool
  | [] => false
  | c :: s =>
      (isSmallLetter c || c == '#' || c == '/' || c == '@') &&
        (s.dropWhile fun d => !(d == '[' || d == ']')).head? == some ']'

/-- Brackets in a message mark no style, so they appear as they are; a backslash before one that could not mark
a style is lost. -/
def literal : Text → Text
  | [] => []
  | '\x5c' :: '[' :: s => if mayMark s then '\x5c' :: '[' :: literal s else '[' :: literal s
  | c :: s => c :: literal s

def endsInBackslash (s : Text) : Bool :=
  match s.reverse with
  | '\x5c' :: '\x5c' :: _ => false
  | '\x5c' :: _ => true
  | _ => false

/-- In a table a single backslash at the end appears twice. -/
def literalCell (s : Text) : Text := literal s ++ if endsInBackslash s then ['\x5c'] else []

end JobBoards.Screen
