import JobBoards.Yaml.Token.Property
import JobBoards.Yaml.Token.Scalar
namespace JobBoards.Yaml

/-- A place where a key may have begun: the number of tokens before it, and whether it must be one. -/
structure KeyPlace where
  tokens : Nat
  isRequired : Bool
  left : Nat
  line : Nat
  column : Nat
  deriving DecidableEq, Repr

/-- A document read so far: the tokens, the depth of open brackets, the indents of the open blocks from the
innermost outwards, whether a key may begin here, and where keys may have begun at each depth of brackets. -/
structure Scanner where
  cursor : Cursor
  tokens : Array Token
  depth : Nat
  indent : Int
  indents : List Int
  allowsKey : Bool
  places : List (Nat × KeyPlace)

namespace Scanner

def start (s : Text) : Scanner := ⟨Cursor.start s, #[], 0, -1, [], true, []⟩

def inFlow (s : Scanner) : Bool := decide (0 < s.depth)

def push (s : Scanner) (t : Token) : Scanner := { s with tokens := s.tokens.push t }

def column (s : Scanner) : Int := s.cursor.column

def unwind (column : Int) (s : Scanner) : Scanner :=
  if s.inFlow then s else go s.indents s
where
  go : List Int → Scanner → Scanner
    | [], s => s
    | outer :: indents, s =>
        if column < s.indent then
          go indents { s.push .blockEnd with indent := outer, indents := indents }
        else s

def addIndent (column : Int) (s : Scanner) : Option Scanner :=
  if s.indent < column then some { s with indent := column, indents := s.indent :: s.indents } else none

def dropPlace (s : Scanner) : Except Fault Scanner :=
  match s.places.lookup s.depth with
  | none => .ok s
  | some p =>
      if p.isRequired then .error .malformedYaml
      else .ok { s with places := s.places.filter fun q => q.1 != s.depth }

def savePlace (s : Scanner) : Except Fault Scanner :=
  if s.allowsKey then do
    let required := !s.inFlow && s.indent == s.column
    let c := s.cursor
    let s ← s.dropPlace
    .ok { s with places := (s.depth, ⟨s.tokens.size, required, c.left, c.line, c.column⟩) :: s.places }
  else .ok s

def isStale (c : Cursor) (p : KeyPlace) : Bool := p.line != c.line || decide (1024 < p.left - c.left)

def dropStale (s : Scanner) : Except Fault Scanner :=
  if s.places.any fun p => isStale s.cursor p.2 && p.2.isRequired then .error .malformedYaml
  else .ok { s with places := s.places.filter fun p => !isStale s.cursor p.2 }

def toToken (c : Cursor) (allowsKey : Bool) (inFlow : Bool) : Cursor × Bool :=
  let d := c.skip isSpace
  let d := if d.peek = '#' then d.skip fun e => !Cursor.endsOrBreaks e else d
  if isBreak d.peek then
    let e := d.lineBreak.2
    if _h : e.left < c.left then toToken e (allowsKey || !inFlow) inFlow
    else (e, allowsKey)
  else (d, allowsKey)
termination_by c.left

def take (s : Scanner) (t : Token) (length : Nat) : Scanner :=
  { s.push t with cursor := s.cursor.advance length }

def borderToken (s : Scanner) (t : Token) : Except Fault Scanner := do
  let s ← (s.unwind (-1)).dropPlace
  .ok ({ s with allowsKey := false }.take t 3)

def directiveToken (s : Scanner) : Except Fault Scanner := do
  let s ← (s.unwind (-1)).dropPlace
  let (t, c) ← directive s.cursor
  let c ← Scalar.ignoredLine c
  .ok { s.push t with allowsKey := false, cursor := c }

def openBracket (s : Scanner) (t : Token) : Except Fault Scanner := do
  let s ← s.savePlace
  .ok ({ s with depth := s.depth + 1, allowsKey := true }.take t 1)

def closeBracket (s : Scanner) (t : Token) : Except Fault Scanner := do
  let s ← s.dropPlace
  .ok ({ s with depth := s.depth - 1, allowsKey := false }.take t 1)

def commaToken (s : Scanner) : Except Fault Scanner := do
  let s ← s.dropPlace
  .ok ({ s with allowsKey := true }.take .comma 1)

def openBlock (s : Scanner) (t : Token) : Except Fault Scanner :=
  if s.inFlow then .ok s
  else if s.allowsKey then
    .ok (match s.addIndent s.column with
      | some s => s.push t
      | none => s)
  else .error .malformedYaml

def entryToken (s : Scanner) : Except Fault Scanner := do
  let s ← (← s.openBlock .blockSequence).dropPlace
  .ok ({ s with allowsKey := true }.take .entry 1)

def keyToken (s : Scanner) : Except Fault Scanner := do
  let s ← (← s.openBlock .blockMapping).dropPlace
  .ok ({ s with allowsKey := !s.inFlow }.take .key 1)

def valueToken (s : Scanner) : Except Fault Scanner :=
  match s.places.lookup s.depth with
  | some p =>
      let s := { s with
        places := s.places.filter fun q => q.1 != s.depth
        tokens := s.tokens.insertIdxIfInBounds p.tokens .key }
      let s :=
        if s.inFlow then s
        else match s.addIndent p.column with
          | some s => { s with tokens := s.tokens.insertIdxIfInBounds p.tokens .blockMapping }
          | none => s
      .ok ({ s with allowsKey := false }.take .value 1)
  | none => do
      let s ← (← s.openBlock .blockMapping).dropPlace
      .ok ({ s with allowsKey := !s.inFlow }.take .value 1)

def mayBeKey (s : Scanner) (read : Cursor → Except Fault (Token × Cursor)) : Except Fault Scanner := do
  let s ← s.savePlace
  let (t, c) ← read s.cursor
  .ok { s.push t with allowsKey := false, cursor := c }

def quotedToken (isDouble : Bool) (c : Cursor) : Except Fault (Token × Cursor) :=
  (Scalar.quoted isDouble c.next).map fun p => (.scalar p.1 false, p.2)

def plainToken (s : Scanner) : Except Fault Scanner := do
  let s ← s.savePlace
  let (text, allowsKey, c) := Scalar.plain s.inFlow (s.indent + 1).toNat false [] s.cursor
  .ok { s.push (.scalar text true) with allowsKey := allowsKey, cursor := c }

def blockToken (folds : Bool) (s : Scanner) : Except Fault Scanner := do
  let s ← s.dropPlace
  let (text, c) ← Scalar.block folds s.indent s.cursor.next
  .ok { s.push (.scalar text false) with allowsKey := true, cursor := c }

/-- Marks that no plain text begins with, unless a character that is no gap follows some of them. -/
def beginsPlain (inFlow : Bool) (c : Cursor) : Bool :=
  let d := c.peek
  !(Cursor.endsOrGap d || "-?:,[]\x7b\x7d#&*!|>\x27\x22%@\x60".toList.contains d) ||
    (!Cursor.endsOrGap (c.peekAt 1) && (d == '-' || (!inFlow && (d == '?' || d == ':'))))

def fetch (s : Scanner) : Except Fault Scanner :=
  let c := s.cursor
  let d := c.peek
  let gapFollows := Cursor.endsOrGap (c.peekAt 1)
  if d = '%' ∧ c.column = 0 then s.directiveToken
  else if c.column = 0 ∧ c.atBorder then
    s.borderToken (if d = '-' then .documentStart else .documentEnd)
  else if d = '[' then s.openBracket .flowSequence
  else if d = '\x7b' then s.openBracket .flowMapping
  else if d = ']' then s.closeBracket .flowSequenceEnd
  else if d = '\x7d' then s.closeBracket .flowMappingEnd
  else if d = ',' then s.commaToken
  else if d = '-' ∧ gapFollows then s.entryToken
  else if d = '?' ∧ (s.inFlow ∨ gapFollows) then s.keyToken
  else if d = ':' ∧ (s.inFlow ∨ gapFollows) then s.valueToken
  else if d = '*' then s.mayBeKey fun c => (anchorName c).map fun p => (.alias p.1, p.2)
  else if d = '&' then s.mayBeKey fun c => (anchorName c).map fun p => (.anchor p.1, p.2)
  else if d = '!' then s.mayBeKey tag
  else if (d = '|' ∨ d = '>') ∧ ¬ s.inFlow then s.blockToken (d == '>')
  else if d = '\x27' ∨ d = '\x22' then s.mayBeKey (quotedToken (d == '\x22'))
  else if beginsPlain s.inFlow c then s.plainToken
  else .error .malformedYaml

def prepare (s : Scanner) : Except Fault Scanner := do
  let (c, allowsKey) := toToken s.cursor s.allowsKey s.inFlow
  let s ← { s with cursor := c, allowsKey := allowsKey }.dropStale
  .ok (s.unwind s.column)

def finish (s : Scanner) : Except Fault Scanner := do
  .ok ((← (s.unwind (-1)).dropPlace).push .streamEnd)

/-- How many tokens are given out: from a place on where a key may have begun they are kept back until that is known. -/
def given (s : Scanner) : Nat :=
  ((s.places.filter fun p => !isStale s.cursor p.2).map fun p => p.2.tokens).foldl min s.tokens.size

def stopped (s : Scanner) (f : Fault) : List Token × Option Fault := (s.tokens.toList.take s.given, some f)

/-- Reads to the end, or to the first fault, which is given back with the tokens given out before it. -/
def run (s : Scanner) : List Token × Option Fault :=
  match s.prepare with
  | .error f => s.stopped f
  | .ok p =>
      if p.cursor.atEnd then
        match p.finish with
        | .error f => s.stopped f
        | .ok t => (t.tokens.toList, none)
      else
        match p.fetch with
        | .error f => s.stopped f
        | .ok t =>
            if _h : t.cursor.left < s.cursor.left then t.run
            else (t.tokens.toList, some .malformedYaml)
termination_by s.cursor.left

end Scanner

def tokens (s : Text) : List Token × Option Fault :=
  if s.all isPrintable then (Scanner.start s).run else ([], some .malformedYaml)

end JobBoards.Yaml
