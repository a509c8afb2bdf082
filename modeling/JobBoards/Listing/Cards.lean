import JobBoards.Listing.Basic
namespace JobBoards.Listing.Cards
open Markup

def title? (card : Element) : Option Element := card.first? (.one (.withValue "div" "itemprop" "title"))

def link (board : Board) (card : Element) : Except Fault Text :=
  let link := ((card.first? (.one (.having "a" "href"))).map fun a => a.value "href").getD []
  if link.head? = some '/' then Link.resolve board.address link else .ok link

def posting (board : Board) (card title : Element) : Except Fault Posting := do
  let company ← board.require "company" (card.first? (.one (.withValue "meta" "itemprop" "name")))
  let date ← board.require "date posted" (card.first? (.one (.withValue "meta" "itemprop" "datePosted")))
  let link ← link board card
  .ok {
    title := title.text
    company := company.value "content"
    date := date.value "content"
    location := Text.join ", " (((card.select spans).take 2).map Element.text)
    pay := []
    source := board.name
    tags := fixed []
    link := link }

def selector : Selector :=
  .child (.child (.one (.ofClass "div" "infinite-scroll-component__outerdiv")) (.named "div")) (.named "div")

def postings (board : Board) (document : List Node) : Except Fault (List Posting) :=
  ((selectAll selector [] document).filterMap fun card => (title? card).map fun title => (card, title)).mapM
    fun c => posting board c.1 c.2

end JobBoards.Listing.Cards
