import JobBoards.Text.Case
namespace JobBoards

inductive Location where
  | remote | onsite
  deriving DecidableEq, Repr

inductive Skill where
  | backend | frontend | fullstack | devops | blockchain
  deriving DecidableEq, Repr

inductive Level where
  | junior | intermediate | senior | staff | lead | principal | manager
  deriving DecidableEq, Repr

class Category (α : Type) where
  all : List α
  name : α → Text
  noun : Text
  heading : Text

instance : Category Location where
  all := [.remote, .onsite]
  name
    | .remote => "Remote"
    | .onsite => "Onsite"
  noun := "location"
  heading := "Location"

instance : Category Skill where
  all := [.backend, .frontend, .fullstack, .devops, .blockchain]
  name
    | .backend => "Backend"
    | .frontend => "Frontend"
    | .fullstack => "Fullstack"
    | .devops => "DevOps"
    | .blockchain => "Blockchain"
  noun := "skill"
  heading := "Skill"

instance : Category Level where
  all := [.junior, .intermediate, .senior, .staff, .lead, .principal, .manager]
  name
    | .junior => "Junior"
    | .intermediate => "Intermediate"
    | .senior => "Senior"
    | .staff => "Staff"
    | .lead => "Lead"
    | .principal => "Principal"
    | .manager => "Manager"
  noun := "level"
  heading := "Level"

namespace Category
variable {α : Type} [Category α]

def ofName? (s : Text) : Option α := (all : List α).find? fun label => name label == s

def like? (s : Text) : Option α := (all : List α).find? fun label => Text.lower (name label) == s

def names (α : Type) [Category α] : List Text := (all : List α).map name

def path (label : α) : Text := heading α ++ '.' :: Text.upper (name label)

end Category
end JobBoards
