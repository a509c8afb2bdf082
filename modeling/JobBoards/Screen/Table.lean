import JobBoards.Screen.Fit
namespace JobBoards.Screen

structure Column where
  title : Text
  alignsRight : Bool
  deriving DecidableEq, Repr

structure Table where
  title : Text
  columns : List Column
  rows : List (List Text)
  deriving DecidableEq, Repr

namespace Table

structure Rule where
  left : Char
  fill : Char
  crossing : Char
  right : Char

def top : Rule := ⟨'┏', '━', '┳', '┓'⟩
def heading : Rule := ⟨'┃', ' ', '┃', '┃'⟩
def underHeading : Rule := ⟨'┡', '━', '╇', '┩'⟩
def row : Rule := ⟨'│', ' ', '│', '│'⟩
def bottom : Rule := ⟨'└', '─', '┴', '┘'⟩

def total (widths : List Nat) : Nat := widths.foldr (· + ·) 0

def widest (cells : List Text) : Nat := (cells.map measured).foldl max 0

def asked (t : Table) : List Nat :=
  t.columns.zipIdx.map fun c => widest (c.1.title :: t.rows.map fun r => r.getD c.2 []) + 2

/-- A part in so many of an amount, rounded to the nearest number and from half-way to the even one. -/
def portion (amount parts : Nat) : Nat :=
  let whole := amount / parts
  let rest := 2 * (amount % parts)
  if rest < parts then whole else if parts < rest then whole + 1 else whole + whole % 2

/-- Takes an amount in turn from the columns of one width, of which `n` are left, at most `step` from each. -/
def narrowed (width step : Nat) : Nat → Nat → List Nat → List Nat
  | _, _, [] => []
  | amount, n, w :: ws =>
      if w = width then
        let d := min step (portion amount n)
        (w - d) :: narrowed width step (amount - d) (n - 1) ws
      else w :: narrowed width step amount n ws

/-- Narrows the widest columns towards the next widest until all of them together fit; each round takes a cell
at least. -/
def collapsed (room : Nat) : Nat → List Nat → List Nat
  | 0, widths => widths
  | fuel + 1, widths =>
      if total widths ≤ room then widths
      else
        let most := widths.foldl max 0
        let next := (widths.filter (· ≠ most)).foldl max 0
        let excess := total widths - room
        collapsed room fuel (narrowed most (min excess (most - next)) excess (widths.count most) widths)

def room (t : Table) (width : Nat) : Nat := width - (t.columns.length + 1)

def widths (t : Table) (width : Nat) : List Nat :=
  let widths := t.asked.map (min · (t.room width))
  collapsed (t.room width) (total widths) widths

def pad (alignsRight : Bool) (width : Nat) (s : Text) : Text :=
  let space := List.replicate (width - Text.cells s) ' '
  if alignsRight then space ++ s else s ++ space

def joined (rule : Rule) (parts : List Text) : Text :=
  rule.left :: Text.join [rule.crossing] parts ++ [rule.right]

def border (rule : Rule) (widths : List Nat) : Text :=
  joined rule (widths.map fun w => List.replicate w rule.fill)

def cellLines (alignsRight : Bool) (width : Nat) (s : Text) : List Text :=
  if width ≤ 2 then []
  else (laid .cuts (width - 2) s).map fun l => ' ' :: pad alignsRight (width - 2) l ++ [' ']

/-- The lines of a row: as many as its highest cell has, the others filled up below. -/
def rowLines (rule : Rule) (columns : List Column) (widths : List Nat) (cells : List Text) : List Text :=
  let lines := ((columns.zip widths).zip cells).map fun c => cellLines c.1.1.alignsRight c.1.2 c.2
  let height := (lines.map List.length).foldl max 1
  (List.range height).map fun n =>
    joined rule ((widths.zip lines).map fun c => c.2.getD n (List.replicate c.1 ' '))

def centred (width : Nat) (s : Text) : Text :=
  let s := Text.trimEnd s
  let space := width - Text.cells s
  List.replicate (space / 2) ' ' ++ s ++ List.replicate (space - space / 2) ' '

/-- The lines of a table; one that the console has no room for is cut off at its edge. -/
def lines (t : Table) (width : Nat) : List Text :=
  let widths := t.widths width
  let across := total widths + t.columns.length + 1
  let lines :=
    (laid .folds across t.title).map (centred across) ++
    border top widths ::
    rowLines heading (t.columns.map fun c => ⟨c.title, c.alignsRight⟩) widths (t.columns.map Column.title) ++
    [border underHeading widths] ++
    t.rows.flatMap (rowLines row t.columns widths) ++
    [border bottom widths]
  if across ≤ width then lines else lines.map (firstCells width)

def text (t : Table) (width : Nat) : Text :=
  if width = 0 then [] else (t.lines width).flatMap fun l => l ++ ['\n']

end Table
end JobBoards.Screen
