import JobBoards.Text.Blank
import JobBoards.Text.Case
namespace JobBoards.Pay

def stripped (markers s : Text) : Text := s.filter fun c => !markers.contains c

def range (markers : Text) (lowered : Bool) (s : Text) : Text :=
  match (Text.splitOn '-' (stripped markers s)).map Text.trim with
  | [a, b] =>
      let r := '$' :: a ++ " - $".toList ++ b
      if lowered then Text.lower r else r
  | _ => []

end JobBoards.Pay
