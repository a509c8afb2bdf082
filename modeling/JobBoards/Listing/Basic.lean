import JobBoards.Calendar.Moment
import JobBoards.Link.Basic
import JobBoards.Markup.Selector
import JobBoards.Posting
namespace JobBoards

structure Board where
  site : Site
  name : Text
  address : Text
  timeout : Int
  deriving DecidableEq, Repr

namespace Board

def ofSite (timeout : Int) (site : Site) : Board := ⟨site, site.name, site.address, timeout⟩

def require {α : Type} (board : Board) (field : Text) : Option α → Except Fault α
  | some a => .ok a
  | none => .error (.fetch board.name (.missing field))

end Board

namespace Listing
open Markup

def readEach {α β : Type} (clock : Nat → Moment) (read : Moment → α → Except Fault β) (listings : List α) :
    Except Fault (List β) :=
  listings.zipIdx.mapM fun l => read (clock l.2) l.1

def fixed (names : List Text) : Tags := ⟨names, true⟩

def anchors : Selector := .one (.named "a")

def spans : Selector := .one (.named "span")

def hosted (host link : Text) : Text := if link.head? = some '/' then host ++ link else link

end Listing
end JobBoards
