import JobBoards.Fault
import JobBoards.Text.Order
namespace JobBoards

/-- The tags of a posting; tags that may still change cannot be compared. -/
structure Tags where
  names : List Text
  settled : Bool
  deriving DecidableEq, Repr

structure Posting where
  title : Text
  company : Text
  date : Text
  location : Text
  pay : Text
  source : Text
  tags : Tags
  link : Text
  deriving DecidableEq, Repr

structure Entry where
  position : Nat
  posting : Posting
  deriving DecidableEq, Repr

namespace Entry

def number (postings : List Posting) : List Entry :=
  postings.zipIdx.map fun p => ⟨p.2, p.1⟩

@[simp] theorem posting_number (postings : List Posting) :
    (number postings).map Entry.posting = postings := by
  simp [number, List.map_map, Function.comp_def]

@[simp] theorem map_position_number (postings : List Posting) :
    (number postings).map Entry.position = List.range postings.length := by
  simp only [number, List.map_map, Function.comp_def]
  exact List.zipIdx_map_snd 0 postings |>.trans List.range_eq_range'.symm

def keepNew (kept : List Entry) (e : Entry) : List Entry :=
  if kept.any (·.posting == e.posting) then kept else kept ++ [e]

def examine (kept : List Entry) (e : Entry) : Except Fault (List Entry) :=
  if e.posting.tags.settled then .ok (keepNew kept e) else .error .unsettledTags

def distinct (entries : List Entry) : Except Fault (List Entry) := entries.foldlM examine []

def byCompany (entries : List Entry) : List Entry :=
  entries.mergeSort fun a b => Text.le a.posting.company b.posting.company

def newestFirst (entries : List Entry) : List Entry :=
  (byCompany entries).mergeSort fun a b => Text.le b.posting.date a.posting.date

end Entry
end JobBoards
