import JobBoards.Listing.Basic
namespace JobBoards.Listing.Rows
open Markup

def cellNames : List Text := ["job title", "company", "time", "location", "remuneration", "tags"]

/-- The first text between two quotation marks that is not empty. -/
def quotedPart? : Text → Option Text
  | [] => none
  | c :: s =>
      if c = '\x27' then
        let part := s.takeWhile (· != '\x27')
        if !part.isEmpty && part.length < s.length then some part else quotedPart? s
      else quotedPart? s

def link (row : Element) : Text :=
  hosted "https://web3.career" ((quotedPart? (row.value "onclick")).getD [])

def day (time : Element) : Text := (time.value "datetime").takeWhile (· != ' ')

def lineBreaksAsSpaces (s : Text) : Text := s.map fun c => if c = '\n' then ' ' else c

def posting (board : Board) (row : Element) : Except Fault Posting :=
  match row.select (.one (.named "td")) with
  | title :: company :: time :: location :: pay :: tags :: _ => do
      let time ← board.require "time" (time.first? (.one (.named "time")))
      .ok {
        title := title.text
        company := company.text
        date := day time
        location := lineBreaksAsSpaces location.text
        pay := pay.text
        source := board.name
        tags := fixed ((tags.select anchors).map Element.text)
        link := link row }
  | cells => .error (.fetch board.name (.missing (cellNames.getD cells.length [])))

def selector : Selector := .one (.ofClass "tr" "table_row")

def postings (board : Board) (document : List Node) : Except Fault (List Posting) :=
  (selectAll selector [] document).mapM (posting board)

end JobBoards.Listing.Rows
