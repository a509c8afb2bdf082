import JobBoards.Text.Basic
namespace JobBoards.Text

def blankRanges : List (Nat × Nat) :=
  [(9, 13), (28, 32), (133, 133), (160, 160), (5760, 5760), (8192, 8202), (8232, 8233),
   (8239, 8239), (8287, 8287), (12288, 12288)]

/-- White space; the zero-width space and the byte order mark are not blank. -/
def isBlank (c : Char) : Bool := inRanges blankRanges c.toNat

def trimStart (s : Text) : Text := s.dropWhile isBlank

theorem length_trimStart_le (s : Text) : (trimStart s).length ≤ s.length := length_dropWhile_le isBlank s

def trimEnd (s : Text) : Text := (s.reverse.dropWhile isBlank).reverse

def trim (s : Text) : Text := trimEnd (trimStart s)

def words (s : Text) : List Text := (pieces isBlank s).filter fun w => !w.isEmpty

end JobBoards.Text
