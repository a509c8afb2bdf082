import JobBoards.Posting
namespace JobBoards

abbrev Table (α : Type) := List (α × List Text)

structure Rules where
  skills : Table Skill
  levels : Table Level
  remoteKeyword : Text
  deriving DecidableEq, Repr

namespace Table

def defaultSkills : Table Skill :=
  [(.backend, ["backend"]), (.frontend, ["frontend"]), (.fullstack, ["fullstack"]),
   (.devops, ["devops", "platform", "infra"]), (.blockchain, ["blockchain", "smart contract"])]

def defaultLevels : Table Level :=
  [(.junior, ["junior"]), (.intermediate, ["intermediate"]), (.senior, ["senior", "snr", "sr"]),
   (.staff, ["staff"]), (.lead, ["lead"]), (.principal, ["principal", "principle"]),
   (.manager, ["manager"])]

def holdsAny (keywords : List Text) (s : Text) : Bool :=
  keywords.any fun k => Text.has (Text.lower k) (Text.lower s)

def labels {α : Type} (table : Table α) (s : Text) : List α :=
  (table.filter fun row => holdsAny row.2 s).map Prod.fst

def override {α : Type} [DecidableEq α] (label : α) (keywords : List Text) : Table α → Table α
  | [] => [(label, keywords)]
  | row :: rows =>
      if row.1 = label then (label, keywords) :: rows else row :: override label keywords rows

end Table

namespace Rules

def standard : Rules := ⟨.defaultSkills, .defaultLevels, "remote"⟩

def isRemote (rules : Rules) (posting : Posting) : Bool :=
  Text.has rules.remoteKeyword (Text.lower posting.location)

def location (rules : Rules) (posting : Posting) : Location :=
  if rules.isRemote posting then .remote else .onsite

def skillsOf (rules : Rules) (posting : Posting) : List Skill := rules.skills.labels posting.title

def levelsOf (rules : Rules) (posting : Posting) : List Level := rules.levels.labels posting.title

end Rules
end JobBoards
