import JobBoards.Snapshot
namespace JobBoards

structure Repository where
  sources : List Source
  filter : Option Filter
  rules : Rules
  workers : Option Int
  snapshot : Snapshot
  /-- How often every source has been asked. -/
  rounds : Nat

namespace Repository

def new (sources : List Source) (filter : Option Filter) (rules : Rules) (workers : Option Int) : Repository :=
  ⟨sources, filter, rules, workers, .empty, 0⟩

def refreshed (n : Nat) : Record :=
  ⟨.info, .repository, "Repository refreshed: ".toList ++ Text.ofNat n ++ " jobs indexed".toList⟩

/-- Without a valid number of workers no source is asked. -/
def asksSources (r : Repository) : Bool := !(r.workers.any (decide <| · < 0))

def refresh (r : Repository) : Repository × Except Fault (List Record) :=
  match collect r.sources r.filter r.workers r.rounds with
  | .ok c =>
      ({ r with snapshot := .ofCollected r.rules c, rounds := r.rounds + 1 },
        .ok (c.records ++ [refreshed c.postings.length]))
  | .error fault =>
      ({ r with rounds := if r.asksSources then r.rounds + 1 else r.rounds }, .error fault)

end Repository
end JobBoards
