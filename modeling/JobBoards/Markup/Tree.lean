import JobBoards.Markup.Token.Scan
namespace JobBoards.Markup

structure Tag where
  name : Text
  attributes : List Attribute
  deriving DecidableEq, Repr

namespace Tag

def value? (tag : Tag) (name : Text) : Option Text := tag.attributes.lookup name

def value (tag : Tag) (name : Text) : Text := (tag.value? name).getD []

def classes (tag : Tag) : List Text := Text.words (tag.value "class")

end Tag

inductive Node where
  | element (tag : Tag) (children : List Node)
  | text (isHidden : Bool) (s : Text)
  deriving Repr

mutual

def Node.content : Node → Text
  | .element _ children => contentAll children
  | .text isHidden s => if isHidden then [] else s

def contentAll : List Node → Text
  | [] => []
  | node :: nodes => node.content ++ contentAll nodes

end

def voidNames : List Text :=
  ["area", "base", "br", "col", "embed", "hr", "img", "input", "keygen", "link", "menuitem", "meta",
   "param", "source", "track", "wbr", "basefont", "bgsound", "command", "frame", "image", "isindex",
   "nextid", "spacer"]

def hidingNames : List Text := ["script", "style", "template", "rt", "rp"]

def preservingNames : List Text := ["pre", "textarea"]

/-- An open element with its children so far, the last one first. -/
structure Frame where
  tag : Tag
  children : List Node

/-- A document under construction: the open elements from the innermost outwards, the top nodes, the text read
since the last node, and the names of void elements whose own end tag may still come. -/
structure Builder where
  frames : List Frame
  top : List Node
  pieces : List Text
  closed : List Text

namespace Builder

def start : Builder := ⟨[], [], [], []⟩

def add (node : Node) (b : Builder) : Builder :=
  match b.frames with
  | [] => { b with top := node :: b.top }
  | f :: fs => { b with frames := ⟨f.tag, node :: f.children⟩ :: fs }

def isInside (names : List Text) (b : Builder) : Bool :=
  b.frames.any fun f => names.contains f.tag.name

def isPlainSpace (c : Char) : Bool :=
  c == ' ' || c == '\n' || c == '\t' || c.toNat == 12 || c == '\r'

/-- White space alone shrinks to a line break if it holds one, else to a space. -/
def shrunk (s : Text) : Text :=
  if s.all isPlainSpace then (if s.contains '\n' then ['\n'] else [' ']) else s

def flush (b : Builder) (isLiteral : Bool) : Builder :=
  if b.pieces.isEmpty then b
  else
    let s := b.pieces.reverse.flatten
    let s := if b.isInside preservingNames then s else shrunk s
    { b with pieces := [] }.add (.text (!isLiteral && b.isInside hidingNames) s)

def close (b : Builder) : Builder :=
  match b.frames with
  | [] => b
  | f :: fs => { b with frames := fs }.add (.element f.tag f.children.reverse)

def closeMany : Nat → Builder → Builder
  | 0, b => b
  | n + 1, b => closeMany n b.close

def closeTo (name : Text) (b : Builder) : Builder :=
  match b.frames.findIdx? fun f => f.tag.name == name with
  | none => b
  | some n => closeMany (n + 1) b

def endTag (name : Text) (b : Builder) : Builder :=
  if b.closed.contains name then { b with closed := b.closed.erase name }
  else (b.flush false).closeTo name

def put (attributes : List Attribute) (a : Attribute) : List Attribute :=
  if attributes.any (·.1 == a.1) then attributes.map fun b => if b.1 == a.1 then a else b
  else attributes ++ [a]

def startTag (name : Text) (attributes : List Attribute) (selfClosed : Bool) (b : Builder) : Builder :=
  let b := b.flush false
  let b := { b with frames := ⟨⟨name, attributes.foldl put []⟩, []⟩ :: b.frames }
  if selfClosed then b.endTag name
  else if voidNames.contains name then { b.close with closed := name :: b.closed }
  else b

def token (b : Builder) : Token → Builder
  | .text s => { b with pieces := s :: b.pieces }
  | .literal s => { b.flush false with pieces := [s] }.flush true
  | .start name attributes selfClosed => b.startTag name attributes selfClosed
  | .stop name => b.endTag name
  | .aside => b.flush false

def finish (b : Builder) : List Node :=
  let b := b.flush false
  (closeMany b.frames.length b).top.reverse

end Builder

def tree (s : Text) : Except Fault (List Node) := do
  .ok ((← tokens s).foldl Builder.token Builder.start).finish

end JobBoards.Markup
