import JobBoards.Fault
namespace JobBoards.Yaml

structure Cursor where
  rest : Text
  left : Nat
  line : Nat
  column : Nat
  deriving DecidableEq, Repr

def isBreak (c : Char) : Bool :=
  c == '\n' || c == '\r' || c.toNat == 0x85 || c.toNat == 0x2028 || c.toNat == 0x2029

def isSpace (c : Char) : Bool := c == ' '

def isGap (c : Char) : Bool := c == ' ' || c == '\t'

def isPrintable (c : Char) : Bool :=
  c == '\t' || c == '\n' || c == '\r' || c.toNat == 0x85 ||
    Text.inRanges [(0x20, 0x7E), (0xA0, 0xD7FF), (0xE000, 0xFFFD), (0x10000, 0x10FFFF)] c.toNat

namespace Cursor

def start (s : Text) : Cursor :=
  let content := if s.head?.any fun c => c.toNat == 0xFEFF then s.drop 1 else s
  ⟨content, content.length, 0, 0⟩

/-- The next character; the end of the document reads as the character zero. -/
def peek (c : Cursor) : Char := c.rest.headD (Char.ofNat 0)

def peekAt (c : Cursor) (n : Nat) : Char := c.rest.getD n (Char.ofNat 0)

def atEnd (c : Cursor) : Bool := c.rest.isEmpty

/-- A line break starts a new line; a byte order mark takes no column. -/
def next (c : Cursor) : Cursor :=
  match c.rest with
  | [] => c
  | d :: s =>
      if isBreak d && !(d == '\r' && s.head? == some '\n') then ⟨s, c.left - 1, c.line + 1, 0⟩
      else if d.toNat = 0xFEFF then ⟨s, c.left - 1, c.line, c.column⟩
      else ⟨s, c.left - 1, c.line, c.column + 1⟩

def advance (c : Cursor) : Nat → Cursor
  | 0 => c
  | n + 1 => c.next.advance n

def span (c : Cursor) (p : Char → Bool) : Text × Cursor :=
  let s := c.rest.takeWhile p
  (s, c.advance s.length)

def skip (c : Cursor) (p : Char → Bool) : Cursor := (c.span p).2

def endsOrBreaks (d : Char) : Bool := d.toNat == 0 || isBreak d

def endsOrBlank (d : Char) : Bool := endsOrBreaks d || d == ' '

def endsOrGap (d : Char) : Bool := endsOrBlank d || d == '\t'

/-- A line break, in its usual form unless it separates paragraphs. -/
def lineBreak (c : Cursor) : Text × Cursor :=
  let d := c.peek
  if d = '\r' ∧ c.peekAt 1 = '\n' then (['\n'], c.advance 2)
  else if d = '\r' ∨ d = '\n' ∨ d.toNat = 0x85 then (['\n'], c.next)
  else if d.toNat = 0x2028 ∨ d.toNat = 0x2029 then ([d], c.next)
  else ([], c)

def atBorder (c : Cursor) : Bool :=
  let mark := c.rest.take 3
  (mark == "---".toList || mark == "...".toList) && endsOrGap (c.peekAt 3)

def expect (c : Cursor) (p : Char → Bool) : Except Fault Unit :=
  if p c.peek then .ok () else .error .malformedYaml

end Cursor
end JobBoards.Yaml
