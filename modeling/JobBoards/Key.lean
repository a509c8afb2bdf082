import JobBoards.Category
import JobBoards.Text.Blank
import JobBoards.Value.Shown
namespace JobBoards

inductive Key where
  | plain (v : Value)
  | skill (s : Skill)
  | level (l : Level)
  | location (l : Location)

namespace Key

def shown : Key → Text
  | .plain v => v.shown
  | .skill s => Category.path s
  | .level l => Category.path l
  | .location l => Category.path l

def labelled {α : Type} [Category α] (label : α) : Text :=
  '<' :: Category.path label ++ ": ".toList ++ Text.quoted (Category.name label) ++ ['>']

def quoted : Key → Text
  | .plain v => v.quoted
  | .skill s => labelled s
  | .level l => labelled l
  | .location l => labelled l

def label? {α : Type} [Category α] (key : Key) : Option α :=
  Category.like? (Text.lower (Text.trim key.shown))

def skill? : Key → Option Skill
  | .skill s => some s
  | k => k.label?

def level? : Key → Option Level
  | .level l => some l
  | k => k.label?

def location? : Key → Option Location
  | .location l => some l
  | k => k.label?

end Key

end JobBoards
