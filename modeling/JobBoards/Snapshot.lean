import JobBoards.Collect
import JobBoards.Index
import JobBoards.Key
import JobBoards.Posting.Field
namespace JobBoards

structure Snapshot where
  entries : List Entry
  index : Index
  reports : List Report
  isBuilt : Bool
  deriving DecidableEq, Repr

namespace Snapshot

def empty : Snapshot := ⟨[], Index.build Rules.standard [], [], false⟩

def ofCollected (rules : Rules) (c : Collected) : Snapshot :=
  let entries := Entry.number c.postings
  ⟨entries, Index.build rules entries, c.reports, true⟩

def labelled {κ : Type} [DecidableEq κ] (label : Option κ) (buckets : Buckets κ) : List Entry :=
  match label with
  | some k => buckets.get k
  | none => []

def get (s : Snapshot) (name key : Key) : Except Fault (List Entry) :=
  match name with
  | .plain (.text n) =>
      if n = "date".toList then .ok (s.index.date.get key.shown)
      else if n = "company".toList then .ok (s.index.company.get key.shown)
      else if n = "location".toList then .ok (labelled key.location? s.index.location)
      else if n = "skill".toList then .ok (labelled key.skill? s.index.skill)
      else if n = "level".toList then .ok (labelled key.level? s.index.level)
      else .error (.unknownIndex name.quoted)
  | _ => .error (.unknownIndex name.quoted)

def newest (s : Snapshot) : List Entry := Entry.newestFirst s.entries

def all (s : Snapshot) (sortBy : Option (List Text)) (descending : Bool) : Except Fault (List Entry) :=
  match sortBy with
  | none => .ok s.entries
  | some names => Field.sort names descending s.entries

def postings (s : Snapshot) : List Posting := s.entries.map Entry.posting

def failed (s : Snapshot) : List Text :=
  (s.reports.filter fun r => !r.outcome.isOk).map Report.source

end Snapshot

end JobBoards
