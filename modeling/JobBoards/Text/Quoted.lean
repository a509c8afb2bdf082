import JobBoards.Text.Printable
namespace JobBoards.Text

/-- Single quotes delimit a quoted text, unless it holds one and no double quote. -/
def quoteMark (s : Text) : Char :=
  if s.contains '\x27' && !s.contains '\x22' then '\x22' else '\x27'

def escaped (mark c : Char) : Text :=
  if c = mark ∨ c = '\x5c' then ['\x5c', c]
  else if c = '\n' then ['\x5c', 'n']
  else if c = '\r' then ['\x5c', 'r']
  else if c = '\t' then ['\x5c', 't']
  else if isPrintable c then [c]
  else if c.toNat < 0x100 then ['\x5c', 'x'] ++ hex 2 c.toNat
  else if c.toNat < 0x10000 then ['\x5c', 'u'] ++ hex 4 c.toNat
  else ['\x5c', 'U'] ++ hex 8 c.toNat

def quoted (s : Text) : Text :=
  let mark := quoteMark s
  mark :: s.flatMap (escaped mark) ++ [mark]

end JobBoards.Text
