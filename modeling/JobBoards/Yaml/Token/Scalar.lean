import JobBoards.Yaml.Cursor
namespace JobBoards.Yaml

abbrev Piece := Text × Cursor

namespace Scalar

def escape? (c : Char) : Option Char :=
  if c = '0' then some (Char.ofNat 0)
  else if c = 'a' then some (Char.ofNat 7)
  else if c = 'b' then some (Char.ofNat 8)
  else if c = 't' ∨ c = '\t' then some '\t'
  else if c = 'n' then some '\n'
  else if c = 'v' then some (Char.ofNat 11)
  else if c = 'f' then some (Char.ofNat 12)
  else if c = 'r' then some '\r'
  else if c = 'e' then some (Char.ofNat 27)
  else if c = ' ' ∨ c = '\x22' ∨ c = '\x5c' ∨ c = '/' then some c
  else if c = 'N' then some (Char.ofNat 0x85)
  else if c = '_' then some (Char.ofNat 0xA0)
  else if c = 'L' then some (Char.ofNat 0x2028)
  else if c = 'P' then some (Char.ofNat 0x2029)
  else none

def escapeLength? (c : Char) : Option Nat :=
  if c = 'x' then some 2 else if c = 'u' then some 4 else if c = 'U' then some 8 else none

def isHex (c : Char) : Bool := (Text.hexValue? c).isSome

def codePoint (n : Nat) : Except Fault Char :=
  if n < 0x110000 then .ok (Text.charOf n)
  else if n < 2147483648 then .error (.badValue "chr() arg not in range(0x110000)")
  else .error .dayCountBeyondWord

def quotedBreaks (c : Cursor) : Except Fault Piece :=
  if c.atBorder then .error .malformedYaml
  else
    let d := c.skip isGap
    if isBreak d.peek then
      let (b, e) := d.lineBreak
      if _h : e.left < c.left then do
        let (more, f) ← quotedBreaks e
        .ok (b ++ more, f)
      else .ok (b, e)
    else .ok ([], d)
termination_by c.left

/-- A single line break is a space, and several are all but the first. -/
def folded (lineBreak breaks : Text) : Text :=
  if lineBreak ≠ ['\n'] then lineBreak ++ breaks
  else if breaks.isEmpty then [' ']
  else breaks

def quotedSpaces (c : Cursor) : Except Fault Piece :=
  let (gap, d) := c.span isGap
  if d.atEnd then .error .malformedYaml
  else if isBreak d.peek then
    let (b, d) := d.lineBreak
    (quotedBreaks d).map fun p => (folded b p.1, p.2)
  else .ok (gap, d)

def isQuotedText (d : Char) : Bool :=
  !(d == '\x27' || d == '\x22' || d == '\x5c' || Cursor.endsOrGap d)

def quotedEscape (c : Cursor) : Except Fault Piece :=
  let d := c.peek
  match escape? d, escapeLength? d with
  | some e, _ => .ok ([e], c.next)
  | none, some n =>
      let digits := c.next.rest.take n
      if digits.length = n ∧ digits.all isHex then do
        .ok ([← codePoint (Text.hexNumber digits)], c.next.advance n)
      else .error .malformedYaml
  | none, none =>
      if isBreak d then quotedBreaks c.lineBreak.2 else .error .malformedYaml

/-- One step inside a quoted text: a run of plain characters, a quotation mark that belongs to it, an escape
or white space. Without a result the text ends here. -/
def quotedStep (isDouble : Bool) (c : Cursor) : Except Fault (Option Piece) :=
  let (run, d) := c.span isQuotedText
  if !run.isEmpty then .ok (some (run, d))
  else
    let q := c.peek
    if !isDouble && q == '\x27' && c.peekAt 1 == '\x27' then .ok (some ([q], c.advance 2))
    else if (isDouble && q == '\x27') || (!isDouble && (q == '\x22' || q == '\x5c')) then
      .ok (some ([q], c.next))
    else if isDouble && q == '\x5c' then (quotedEscape c.next).map some
    else if q = (if isDouble then '\x22' else '\x27') then .ok none
    else (quotedSpaces c).map some

def quoted (isDouble : Bool) (c : Cursor) : Except Fault Piece := do
  match ← quotedStep isDouble c with
  | none => .ok ([], c.next)
  | some (s, d) =>
      if _h : d.left < c.left then
        let (more, e) ← quoted isDouble d
        .ok (s ++ more, e)
      else .error .malformedYaml
termination_by c.left

/-- Whether a plain text stops before a character: at white space, at a colon that ends a key, and inside
brackets also at their marks. -/
def plainLength (inFlow : Bool) : Text → Nat
  | [] => 0
  | d :: s =>
      let after := s.headD (Char.ofNat 0)
      let endsKey := d == ':' && (Cursor.endsOrGap after || (inFlow && ",[]\x7b\x7d".toList.contains after))
      if Cursor.endsOrGap d || endsKey || (inFlow && ",?[]\x7b\x7d".toList.contains d) then 0
      else plainLength inFlow s + 1

def plainBreaks (c : Cursor) : Option Piece :=
  let d := c.skip isSpace
  if isBreak d.peek then
    let (b, e) := d.lineBreak
    if e.atBorder then none
    else if _h : e.left < c.left then
      match plainBreaks e with
      | some (more, f) => some (b ++ more, f)
      | none => none
    else some (b, e)
  else some ([], d)
termination_by c.left

def plainBorder (c : Cursor) : Cursor :=
  let d := c.skip isSpace
  if isBreak d.peek then
    let e := d.lineBreak.2
    if e.atBorder then e
    else if _h : e.left < c.left then plainBorder e
    else e
  else d
termination_by c.left

def plainSpaces (c : Cursor) : Text × Bool × Cursor :=
  let (gap, d) := c.span isSpace
  if isBreak d.peek then
    let (b, e) := d.lineBreak
    if e.atBorder then ([], true, e)
    else
      match plainBreaks e with
      | some (breaks, f) => (folded b breaks, true, f)
      | none => ([], true, plainBorder e)
  else (gap, false, d)

def plain (inFlow : Bool) (indent : Nat) (allowsKey : Bool) (spaces : Text) (c : Cursor) : Text × Bool × Cursor :=
  if c.peek = '#' then ([], allowsKey, c)
  else
    let n := plainLength inFlow c.rest
    if n = 0 then ([], allowsKey, c)
    else
      let run := spaces ++ c.rest.take n
      let (gap, broken, d) := plainSpaces (c.advance n)
      if gap.isEmpty || d.peek == '#' || (!inFlow && d.column < indent) then (run, broken, d)
      else if _h : d.left < c.left then
        let (more, allowsKey, e) := plain inFlow indent broken gap d
        (run ++ more, allowsKey, e)
      else (run, broken, d)
termination_by c.left

structure BlockStyle where
  keeps : Option Bool
  indent : Option Nat

def chomping? (d : Char) : Option Bool := if d = '+' then some true else if d = '-' then some false else none

def indentDigit (c : Cursor) : Except Fault (Option Nat × Cursor) :=
  if Text.isDigit c.peek then
    if c.peek = '0' then .error .malformedYaml else .ok (Text.hexValue? c.peek, c.next)
  else .ok (none, c)

def blockStyle (c : Cursor) : Except Fault (BlockStyle × Cursor) := do
  match chomping? c.peek with
  | some keeps =>
      let (indent, d) ← indentDigit c.next
      d.expect Cursor.endsOrBlank
      .ok (⟨some keeps, indent⟩, d)
  | none =>
      let (indent, d) ← indentDigit c
      let keeps := if indent.isSome then chomping? d.peek else none
      let d := if keeps.isSome then d.next else d
      d.expect Cursor.endsOrBlank
      .ok (⟨keeps, indent⟩, d)

def ignoredLine (c : Cursor) : Except Fault Cursor := do
  let d := c.skip isSpace
  let d := if d.peek = '#' then d.skip fun e => !Cursor.endsOrBreaks e else d
  d.expect Cursor.endsOrBreaks
  .ok d.lineBreak.2

def leadingBreaks (c : Cursor) : Text × Nat × Cursor :=
  let d := c.skip isSpace
  if isBreak d.peek then
    let (b, e) := d.lineBreak
    if _h : e.left < c.left then
      let (more, widest, f) := leadingBreaks e
      (b ++ more, max d.column widest, f)
    else (b, d.column, e)
  else ([], if d.left < c.left then d.column else 0, d)
termination_by c.left

def skipIndent (c : Cursor) : Nat → Cursor
  | 0 => c
  | n + 1 => if c.peek = ' ' ∧ ¬ c.atEnd then skipIndent c.next n else c

def blockBreaks (indent : Nat) (c : Cursor) : Piece :=
  let d := skipIndent c (indent - c.column)
  if isBreak d.peek then
    let (b, e) := d.lineBreak
    if _h : e.left < c.left then
      let (more, f) := blockBreaks indent e
      (b ++ more, f)
    else (b, e)
  else ([], d)
termination_by c.left

/-- The lines of a block text; `breaks` are the empty lines before the next one. -/
def blockLines (folds : Bool) (keeps : Option Bool) (indent : Nat) (lineBreak breaks : Text) (c : Cursor) : Piece :=
  if c.column = indent ∧ ¬ c.atEnd then
    let leads := !isGap c.peek
    let (line, d) := c.span fun e => !Cursor.endsOrBreaks e
    let (b, d) := d.lineBreak
    let (more, e) := blockBreaks indent d
    let start := breaks ++ line
    if e.column = indent ∧ ¬ e.atEnd then
      let between : Text :=
        if folds && b == ['\n'] && leads && !isGap e.peek then (if more.isEmpty then [' '] else []) else b
      if _h : e.left < c.left then
        let (tail, f) := blockLines folds keeps indent b more e
        (start ++ between ++ tail, f)
      else (start, e)
    else (start ++ chomped keeps b more, e)
  else (chomped keeps lineBreak breaks, c)
termination_by c.left
where
  chomped (keeps : Option Bool) (lineBreak breaks : Text) : Text :=
    match keeps with
    | some true => lineBreak ++ breaks
    | some false => []
    | none => lineBreak

def block (folds : Bool) (indent : Int) (c : Cursor) : Except Fault Piece := do
  let (style, c) ← blockStyle c
  let c ← ignoredLine c
  let least := (max (indent + 1) 1).toNat
  match style.indent with
  | none =>
      let (breaks, widest, c) := leadingBreaks c
      .ok (blockLines folds style.keeps (max least widest) [] breaks c)
  | some n =>
      let column := least + n - 1
      let (breaks, c) := blockBreaks column c
      .ok (blockLines folds style.keeps column [] breaks c)

end Scalar
end JobBoards.Yaml
