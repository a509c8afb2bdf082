import JobBoards.Posting
import JobBoards.Text.Case
namespace JobBoards

abbrev Filter := Posting → Except Fault Bool

namespace Filter

def engineeringWords : List Text := ["developer", "engineer", "engineering", "technical"]

def titleHas (words : List Text) (title : Text) : Bool :=
  words.isEmpty || words.any fun w => Text.has (Text.lower w) (Text.lower title)

def byTitle (words : List Text) : Option Filter :=
  if words.isEmpty then none else some fun posting => .ok (titleHas words posting.title)

end Filter
end JobBoards
