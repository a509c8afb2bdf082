import JobBoards.Collect
import JobBoards.Listing.Cards
import JobBoards.Listing.Items
import JobBoards.Listing.Panels
import JobBoards.Listing.Rows
namespace JobBoards

inductive Body where
  | page (markup : Text)
  | unreadable (reason : Text)
  deriving DecidableEq, Repr

inductive Reply where
  | response (status : Int) (body : Body)
  | unreachable (reason : Text)
  | broken (kind message : Text)
  deriving DecidableEq, Repr

namespace Board

/-- Only the statuses from 400 to 599 tell of a failure. -/
def isSuccess (status : Int) : Bool := !(decide (400 ≤ status) && decide (status ≤ 599))

def unreadable (board : Board) (reason : Text) : Fault :=
  .fetch board.name (.unreadable ("error getting response body (".toList ++ reason ++ [')']))

/-- The nodes of a page; a page with a number too long to read is an unreadable body. -/
def document (board : Board) (markup : Text) : Except Fault (List Markup.Node) :=
  match Markup.tree markup with
  | .ok nodes => .ok nodes
  | .error (.rejectedMarkup reason) => .error (.rejectedMarkup reason)
  | .error fault => .error (board.unreadable fault.message)

def postings (board : Board) (clock : Nat → Moment) (document : List Markup.Node) : Except Fault (List Posting) :=
  match board.site.layout with
  | .rows => Listing.Rows.postings board document
  | .panels => Listing.Panels.postings board clock document
  | .items => Listing.Items.postings board clock document
  | .cards => Listing.Cards.postings board document

def read (board : Board) (clock : Nat → Moment) : Reply → Except Fault (List Posting)
  | .unreachable reason =>
      .error (.fetch board.name (.unreachable
        ("could not load url ".toList ++ board.address ++ " (".toList ++ reason ++ [')'])))
  | .broken kind message => .error (.external kind message)
  | .response status body =>
      if isSuccess status then
        match body with
        | .unreadable reason => .error (board.unreadable reason)
        | .page markup => do board.postings clock (← board.document markup)
      else .error (.fetch board.name (.status status))

def fetched (board : Board) (n : Nat) : Record :=
  ⟨.info, .fetching, board.name ++ " fetched ".toList ++ Text.ofNat n ++ " jobs".toList⟩

def answer (board : Board) (clock : Nat → Moment) (reply : Reply) : Answer :=
  match board.read clock reply with
  | .ok postings => ⟨.ok postings, [board.fetched postings.length]⟩
  | .error fault => ⟨.error fault, []⟩

/-- A board as a source: `clock` tells the time at each listing of each request, `replies` how a request is answered. -/
def source (board : Board) (clock : Nat → Nat → Moment) (replies : Nat → Reply) : Source :=
  ⟨board.name, fun round => board.answer (clock round) (replies round)⟩

end Board
end JobBoards
