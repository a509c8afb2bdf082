import JobBoards.Markup.Tree
namespace JobBoards.Markup

/-- An element found in a document, with the elements around it from the innermost outwards. -/
structure Element where
  tag : Tag
  above : List Tag
  children : List Node

structure Pattern where
  name : Text
  className : Option Text
  need : Option (Text × Option Text)
  deriving DecidableEq, Repr

namespace Pattern

def named (name : Text) : Pattern := ⟨name, none, none⟩

def ofClass (name className : Text) : Pattern := ⟨name, some className, none⟩

def having (name key : Text) : Pattern := ⟨name, none, some (key, none)⟩

def withValue (name key value : Text) : Pattern := ⟨name, none, some (key, some value)⟩

/-- A value may be followed by one line break. -/
def acceptsValue (wanted : Option Text) (value : Text) : Bool :=
  match wanted with
  | none => true
  | some w => value == w || value == w ++ ['\n']

def accepts (p : Pattern) (tag : Tag) : Bool :=
  tag.name == p.name && p.className.all (tag.classes.contains ·) &&
    p.need.all fun a => (tag.value? a.1).any (acceptsValue a.2)

end Pattern

inductive Selector where
  | one (p : Pattern)
  | child (parent : Selector) (p : Pattern)
  | within (ancestor : Selector) (p : Pattern)
  deriving Repr

namespace Selector

def holdsAbove (holds : List Tag → Bool) : List Tag → Bool
  | [] => false
  | tag :: above => holds (tag :: above) || holdsAbove holds above

def accepts : Selector → List Tag → Bool
  | _, [] => false
  | .one p, tag :: _ => p.accepts tag
  | .child parent p, tag :: above => p.accepts tag && parent.accepts above
  | .within ancestor p, tag :: above => p.accepts tag && holdsAbove ancestor.accepts above

end Selector

mutual

def Node.select (s : Selector) (above : List Tag) : Node → List Element
  | .text _ _ => []
  | .element tag children =>
      (if s.accepts (tag :: above) then [⟨tag, above, children⟩] else []) ++
        selectAll s (tag :: above) children

def selectAll (s : Selector) (above : List Tag) : List Node → List Element
  | [] => []
  | node :: nodes => node.select s above ++ selectAll s above nodes

end

namespace Element

/-- The elements inside one that a selector accepts; it also looks at what lies around that one. -/
def select (e : Element) (s : Selector) : List Element := selectAll s (e.tag :: e.above) e.children

def first? (e : Element) (s : Selector) : Option Element := (e.select s).head?

def text (e : Element) : Text := Text.trim (contentAll e.children)

def value (e : Element) (name : Text) : Text := e.tag.value name

end Element
end JobBoards.Markup
