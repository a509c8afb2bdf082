import JobBoards.Rules
namespace JobBoards

/-- Keys in the order of their first use, each with the entries filed under it. -/
abbrev Buckets (κ : Type) := List (κ × List Entry)

namespace Buckets
variable {κ : Type} [DecidableEq κ]

def file (key : κ) (entry : Entry) : Buckets κ → Buckets κ
  | [] => [(key, [entry])]
  | bucket :: rest =>
      if bucket.1 = key then (bucket.1, bucket.2 ++ [entry]) :: rest else bucket :: file key entry rest

def get (key : κ) (buckets : Buckets κ) : List Entry := (buckets.lookup key).getD []

def build (keys : Posting → List κ) (entries : List Entry) : Buckets κ :=
  entries.foldl (fun buckets e => (keys e.posting).foldl (fun b k => file k e b) buckets) []

end Buckets

structure Index where
  date : Buckets Text
  company : Buckets Text
  location : Buckets Location
  skill : Buckets Skill
  level : Buckets Level
  deriving DecidableEq, Repr

namespace Index

def build (rules : Rules) (entries : List Entry) : Index :=
  ⟨.build (fun p => [p.date]) entries, .build (fun p => [p.company]) entries,
   .build (fun p => [rules.location p]) entries, .build rules.skillsOf entries,
   .build rules.levelsOf entries⟩

end Index
end JobBoards
