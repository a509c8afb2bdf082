import JobBoards.Filter
import JobBoards.Record
namespace JobBoards

structure Answer where
  result : Except Fault (List Posting)
  records : List Record

structure Source where
  name : Text
  answer : Nat → Answer

inductive Outcome where
  | gathered (count : Nat)
  | failed (error : Text)
  deriving DecidableEq, Repr

namespace Outcome

def isOk : Outcome → Bool
  | .gathered _ => true
  | .failed _ => false

def count : Outcome → Nat
  | .gathered n => n
  | .failed _ => 0

def error? : Outcome → Option Text
  | .gathered _ => none
  | .failed e => some e

end Outcome

structure Report where
  source : Text
  outcome : Outcome
  deriving DecidableEq, Repr

structure Share where
  postings : List Posting
  report : Report
  records : List Record
  deriving DecidableEq, Repr

structure Collected where
  postings : List Posting
  reports : List Report
  records : List Record
  deriving DecidableEq, Repr

def distinctPostings (postings : List Posting) : Except Fault (List Posting) :=
  (Entry.distinct (Entry.number postings)).map fun kept => kept.map Entry.posting

namespace Share

def lost : Text := "; its jobs will not be included"

def failure (name : Text) (fault : Fault) : Record :=
  match fault with
  | .fetch _ _ =>
      ⟨.warning, .collection, "Failed to fetch ".toList ++ name ++ ": ".toList ++ fault.message ++ lost⟩
  | _ => ⟨.error, .collection, "Unexpected error while fetching ".toList ++ name ++ lost⟩

/-- A fault that a board gives for its own failure is reported by its message, any other with its kind. -/
def errorText (fault : Fault) : Text :=
  match fault with
  | .fetch _ _ => fault.message
  | _ => fault.kind ++ ": ".toList ++ fault.message

def duplicates (name : Text) (n : Nat) : List Record :=
  if n = 0 then []
  else [⟨.info, .collection, name ++ ": dropped ".toList ++ Text.ofNat n ++ " duplicate jobs".toList⟩]

def ofFault (name : Text) (fault : Fault) (records : List Record) : Share :=
  ⟨[], ⟨name, .failed (errorText fault)⟩, records ++ [failure name fault]⟩

def ofAnswer (name : Text) (answer : Answer) : Share :=
  match answer.result with
  | .error fault => ofFault name fault answer.records
  | .ok postings =>
      match distinctPostings postings with
      | .error fault => ofFault name fault answer.records
      | .ok kept =>
          ⟨kept, ⟨name, .gathered kept.length⟩,
            answer.records ++ duplicates name (postings.length - kept.length)⟩

end Share

def Source.share (round : Nat) (source : Source) : Share :=
  Share.ofAnswer source.name (source.answer round)

namespace Collected

def empty : Collected := ⟨[], [], [⟨.warning, .collection, "No sources to fetch"⟩]⟩

def keep (filter : Option Filter) (postings : List Posting) : Except Fault (List Posting) :=
  match filter with
  | none => .ok postings
  | some f => postings.filterM f

def summary (gathered succeeded asked kept : Nat) : Record :=
  ⟨.info, .collection,
    "Collected ".toList ++ Text.ofNat gathered ++ " jobs from ".toList ++ Text.ofNat succeeded ++
      '/' :: Text.ofNat asked ++ " sources (".toList ++ Text.ofNat kept ++ " after filtering)".toList⟩

def join (filter : Option Filter) (shares : List Share) (written : List Record) : Except Fault Collected := do
  let gathered := shares.flatMap Share.postings
  let reports := shares.map Share.report
  let kept ← keep filter gathered
  let succeeded := reports.countP fun r => r.outcome.isOk
  .ok ⟨kept, reports, written ++ [summary gathered.length succeeded reports.length kept.length]⟩

end Collected

/-- Asks every source once. The number of workers has no say in the result, but a negative one is refused. -/
def collect (sources : List Source) (filter : Option Filter) (workers : Option Int) (round : Nat) :
    Except Fault Collected :=
  if sources.isEmpty then .ok .empty
  else if workers.any (decide <| · < 0) then .error .noWorkers
  else
    let shares := sources.map (Source.share round)
    Collected.join filter shares (shares.flatMap Share.records)

end JobBoards
