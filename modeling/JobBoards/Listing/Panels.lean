import JobBoards.Calendar.Elapsed
import JobBoards.Listing.Basic
import JobBoards.Pay
namespace JobBoards.Listing.Panels
open Markup

def placeMarker : Char := Char.ofNat 0x1F4CD

def payMarker : Char := Char.ofNat 0x1F4B0

def saysRemote (s : Text) : Bool := Text.has "remote" (Text.lower s)

/-- A place is added to the ones before it until one of them is remote. -/
def addPlace (location badge : Text) : Text :=
  if badge.contains placeMarker && !saysRemote location then
    location ++ ", ".toList ++ Text.trim (Text.without placeMarker badge)
  else location

def location (first : Text) (badges : List Text) : Text := badges.foldl addPlace first

/-- The last badge that names a pay decides. -/
def pay (badges : List Text) : Text :=
  badges.foldl (fun pay badge =>
    if badge.contains payMarker then Pay.range [payMarker] true badge else pay) []

def posting (board : Board) (now : Moment) (panel : Element) : Except Fault Posting := do
  let links := panel.select anchors
  let title ← board.require "job title" links[0]?
  let company ← board.require "company" links[1]?
  let marks := panel.select spans
  let place ← board.require "location" marks[0]?
  let elapsed ← board.require "elapsed time" marks[1]?
  let badges := (panel.select (.one (.ofClass "div" "panel_border___58nj"))).map Element.text
  let date ← Elapsed.date now elapsed.text
  .ok {
    title := title.text
    company := company.text
    date := date.text
    location := location place.text badges
    pay := pay badges
    source := board.name
    tags := fixed []
    link := hosted "https://useweb3.xyz" (title.value "href") }

def selector : Selector := .one (.ofClass "div" "panel_inner__YQLRW")

def postings (board : Board) (clock : Nat → Moment) (document : List Node) : Except Fault (List Posting) :=
  readEach clock (posting board) (selectAll selector [] document)

end JobBoards.Listing.Panels
