import JobBoards.Screen.Basic
import JobBoards.Text.Blank
namespace JobBoards.Screen

def endsMeasure (c : Char) : Bool :=
  Text.inRanges [(10, 13), (0x1C, 0x1E), (0x85, 0x85), (0x2028, 0x2029)] c.toNat

/-- The width that a text asks for: that of its longest line, in which a tab takes no cell. -/
def measured (s : Text) : Nat := ((Text.pieces endsMeasure (visible s)).map Text.cells).foldl max 0

def isInk (c : Char) : Bool := !Text.isBlank c

def words (s : Text) : List Text :=
  match s with
  | [] => []
  | c :: r =>
      let gap := r.dropWhile isInk
      (c :: r.takeWhile isInk ++ gap.takeWhile Text.isBlank) :: words (gap.dropWhile Text.isBlank)
termination_by s.length
decreasing_by
  exact Nat.lt_succ_of_le (Nat.le_trans (Text.length_dropWhile_le _ _) (Text.length_dropWhile_le _ _))

/-- The words of a text; white space at its start belongs to the first. -/
def spacedWords (s : Text) : List Text :=
  match words (s.dropWhile Text.isBlank) with
  | [] => []
  | w :: ws => (s.takeWhile Text.isBlank ++ w) :: ws

inductive Overflow where
  | folds
  | cuts
  deriving DecidableEq, Repr

/-- A text in pieces that fill a line each; `piece` takes up `used` cells already. -/
def chopped (width : Nat) (piece : Text) (used : Nat) : Text → List Text
  | [] => [piece]
  | c :: s =>
      if used + Text.cellsOf c ≤ width then chopped width (piece ++ [c]) (used + Text.cellsOf c) s
      else piece :: chopped width [c] (Text.cellsOf c) s

namespace Overflow

def parts (overflow : Overflow) (width : Nat) (w : Text) : List Text :=
  match overflow with
  | .folds => if Text.cells (Text.trimEnd w) ≤ width then [w] else chopped width [] 0 w
  | .cuts => [w]

end Overflow

/-- Adds words to a line, of which `used` cells are taken, as long as they fit without the space after them. -/
def filled (overflow : Overflow) (width : Nat) (current : Text) (used : Nat) : List Text → List Text
  | [] => [current]
  | w :: ws =>
      if used + Text.cells (Text.trimEnd w) ≤ width then
        filled overflow width (current ++ w) (used + Text.cells w) ws
      else
        let parts := overflow.parts width w
        let last := parts.getLastD []
        let lines := if current.isEmpty then parts.dropWhile List.isEmpty else current :: parts
        lines.dropLast ++ filled overflow width last (Text.cells last) ws

def broken (overflow : Overflow) (width : Nat) (s : Text) : List Text :=
  if Text.cells s ≤ width then [s]
  else
    match spacedWords s with
    | [] => [s]
    | ws => filled overflow width [] 0 ws

/-- A line of more than `width` characters loses white space from its end. -/
def closed (width : Nat) (s : Text) : Text :=
  s.take (s.length - min (s.length - width) (s.reverse.takeWhile Text.isBlank).length)

/-- Halves a range of lengths until the start of a text is found that fills some cells; a space stands for half
a character. -/
def cellsBetween (total : Nat) (s : Text) : Nat → Nat → Nat → Text
  | 0, _, _ => []
  | fuel + 1, low, high =>
      let middle := (low + high) / 2
      let start := s.take (middle + 1)
      if Text.cells start = total + 1 ∧ (start.getLast?.map Text.cellsOf) = some 2 then start.dropLast ++ [' ']
      else if Text.cells start = total then start
      else if total < Text.cells start then cellsBetween total s fuel low middle
      else cellsBetween total s fuel middle high

def firstCells (total : Nat) (s : Text) : Text :=
  if total = 0 then [] else cellsBetween total s (s.length + 1) 0 s.length

def cut (overflow : Overflow) (width : Nat) (s : Text) : Text :=
  if Text.cells s ≤ width then s
  else
    match overflow with
    | .folds => firstCells width s
    | .cuts => firstCells (width - 1) s ++ ['…']

def laid (overflow : Overflow) (width : Nat) (s : Text) : List Text :=
  (Text.splitOn '\n' (visible s)).flatMap fun l =>
    (broken overflow width (aligned 0 l)).map fun part => cut overflow width (closed width part)

/-- A text as a console of some width prints it; one without a column prints nothing. -/
def printed (width : Nat) (s : Text) : Text :=
  if width = 0 then [] else Text.join ['\n'] (laid .folds width s)

def line (width : Nat) (s : Text) : Text :=
  if width = 0 then [] else printed width s ++ ['\n']

end JobBoards.Screen
