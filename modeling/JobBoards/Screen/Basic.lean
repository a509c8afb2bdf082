import JobBoards.Text.Width
namespace JobBoards.Screen

/-- Codes that move the cursor or ring the bell are never shown. -/
def isShown (c : Char) : Bool := c.toNat ∉ [7, 8, 11, 12, 13]

def visible (s : Text) : Text := s.filter isShown

def tabWidth : Nat := 8

def aligned (column : Nat) : Text → Text
  | [] => []
  | c :: s =>
      if c = '\n' then '\n' :: aligned 0 s
      else if c = '\t' then
        let n := tabWidth - column % tabWidth
        List.replicate n ' ' ++ aligned (column + n) s
      else c :: aligned (column + Text.cellsOf c) s

end JobBoards.Screen
