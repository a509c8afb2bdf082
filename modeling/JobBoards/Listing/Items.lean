import JobBoards.Calendar.Elapsed
import JobBoards.Listing.Basic
import JobBoards.Pay
namespace JobBoards.Listing.Items
open Markup

def remoteTag : Text := "Remote"

/-- One place of an item holds either the pay, told by a currency sign, or else a city, told by having no digit. -/
def pay (detail : Text) : Text := if detail.contains '$' then Pay.range ['$'] false detail else []

def city (detail : Text) : Text :=
  if detail.contains '$' || detail.any Text.isDigit then [] else detail

def location (city : Text) (tags : List Text) : Text :=
  if tags.contains remoteTag then
    (if city.isEmpty then remoteTag else city ++ ", ".toList ++ remoteTag)
  else city

def insideTwoSpans (name : Text) : Selector :=
  .within (.within spans (.named "span")) (.named name)

def posting (board : Board) (now : Moment) (item : Element) : Except Fault Posting := do
  let links := item.select anchors
  let title ← board.require "job title" links[0]?
  let company ← board.require "company" links[1]?
  let created ← board.require "elapsed time"
    (item.first? (.one (.ofClass "span" "JobPreviewInline_createdAt__wbWS0")))
  let detail ← board.require "location or remuneration" (item.first? (insideTwoSpans "span"))
  let tags := (item.select (insideTwoSpans "a")).map Element.text
  let date ← Elapsed.shortDate now created.text
  .ok {
    title := title.text
    company := company.text
    date := date.text
    location := location (city detail.text) tags
    pay := pay detail.text
    source := board.name
    tags := fixed tags
    link := hosted "https://cryptojobslist.com" (title.value "href") }

def selector : Selector := .within (.within (.one (.named "section")) (.named "ul")) (.named "li")

def postings (board : Board) (clock : Nat → Moment) (document : List Node) : Except Fault (List Posting) :=
  readEach clock (posting board) (selectAll selector [] document)

end JobBoards.Listing.Items
