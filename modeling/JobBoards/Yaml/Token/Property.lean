import JobBoards.Yaml.Cursor
import JobBoards.Yaml.Token.Basic
namespace JobBoards.Yaml

def isWordChar (c : Char) : Bool := Text.isLetter c || Text.isDigit c || c == '-' || c == '_'

def isUriChar (c : Char) : Bool :=
  Text.isLetter c || Text.isDigit c || "-;/?:@&=+$,_.!~*\x27()[]".toList.contains c

def uriBytes (s : Text) : Except Fault (List UInt8 × Nat) :=
  match s with
  | '%' :: a :: b :: r =>
      match Text.hexValue? a, Text.hexValue? b with
      | some m, some n => do
          let (more, length) ← uriBytes r
          .ok (UInt8.ofNat (16 * m + n) :: more, length + 3)
      | _, _ => .error .malformedYaml
  | '%' :: _ => .error .malformedYaml
  | _ => .ok ([], 0)

def uri (c : Cursor) : Except Fault (Text × Cursor) :=
  let (run, d) := c.span isUriChar
  if d.peek = '%' then do
    let (bytes, n) ← uriBytes d.rest
    match String.fromUTF8? (ByteArray.mk bytes.toArray) with
    | none => .error .malformedYaml
    | some s =>
        let e := d.advance n
        if _h : e.left < c.left then
          let (more, f) ← uri e
          .ok (run ++ s.toList ++ more, f)
        else .error .malformedYaml
  else .ok (run, d)
termination_by c.left

def someUri (c : Cursor) : Except Fault (Text × Cursor) := do
  let (s, d) ← uri c
  if d.left = c.left then .error .malformedYaml else .ok (s, d)

def handle (c : Cursor) : Except Fault (Text × Cursor) := do
  c.expect (· == '!')
  if c.peekAt 1 = ' ' then .ok (['!'], c.next)
  else
    let (word, d) := c.next.span isWordChar
    d.expect (· == '!')
    .ok ('!' :: word ++ ['!'], d.next)

def tag (c : Cursor) : Except Fault (Token × Cursor) := do
  let (handle, suffix, d) ←
    if c.peekAt 1 = '<' then do
      let (suffix, d) ← someUri (c.advance 2)
      d.expect (· == '>')
      .ok (none, suffix, d.next)
    else if Cursor.endsOrGap (c.peekAt 1) then .ok (none, ['!'], c.next)
    else do
      let word := c.next.rest.takeWhile fun e => !(Cursor.endsOrBlank e || e == '!')
      let (h, d) ← if c.peekAt (word.length + 1) = '!' then handle c else .ok (['!'], c.next)
      let (suffix, d) ← someUri d
      .ok (some h, suffix, d)
  d.expect Cursor.endsOrBlank
  .ok (.tag handle suffix, d)

def endsAnchor (c : Char) : Bool := Cursor.endsOrGap c || "?:,]\x7d%@\x60".toList.contains c

def anchorName (c : Cursor) : Except Fault (Text × Cursor) := do
  let (name, d) := c.next.span isWordChar
  if name.isEmpty then .error .malformedYaml
  else
    d.expect endsAnchor
    .ok (name, d)

def number (c : Cursor) : Except Fault (Nat × Cursor) :=
  let (digits, d) := c.span Text.isDigit
  if digits.isEmpty then .error .malformedYaml
  else .ok (digits.foldl (fun n e => 10 * n + (Text.hexValue? e).getD 0) 0, d)

def versionValue (c : Cursor) : Except Fault (Token × Cursor) := do
  let (major, d) ← number (c.skip isSpace)
  d.expect (· == '.')
  let (_, d) ← number d.next
  d.expect Cursor.endsOrBlank
  .ok (.version major, d)

def tagHandleValue (c : Cursor) : Except Fault (Token × Cursor) := do
  let (handle, d) ← handle (c.skip isSpace)
  d.expect isSpace
  let (start, d) ← someUri (d.skip isSpace)
  d.expect Cursor.endsOrBlank
  .ok (.tagHandle handle start, d)

def directive (c : Cursor) : Except Fault (Token × Cursor) := do
  let (name, d) := c.next.span isWordChar
  if name.isEmpty then .error .malformedYaml
  else
    d.expect Cursor.endsOrBlank
    if name = "YAML".toList then versionValue d
    else if name = "TAG".toList then tagHandleValue d
    else .ok (.reserved, d.skip fun e => !Cursor.endsOrBreaks e)

end JobBoards.Yaml
