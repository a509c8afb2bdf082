import JobBoards.Proofs.Board.Listings
import JobBoards.Proofs.Board.Stamp
import JobBoards.Proofs.Markup.Elements
namespace JobBoards
open Markup Listing

structure Part where
  field : Text
  find? : Element → Option Element

namespace Part
variable {part : Part} {parts : List Part} {listing e : Element}

def missing? (parts : List Part) (listing : Element) : Option Text :=
  (parts.find? fun part => (part.find? listing).isNone).map field

theorem missing?_cons_of_none (h : part.find? listing = none) (parts : List Part) :
    missing? (part :: parts) listing = some part.field := by
  simp [missing?, h]

theorem missing?_cons_of_some (h : part.find? listing = some e) (parts : List Part) :
    missing? (part :: parts) listing = missing? parts listing := by
  simp [missing?, h]

@[simp] theorem missing?_eq_none :
    missing? parts listing = none ↔ ∀ part ∈ parts, (part.find? listing).isSome := by
  simp [missing?, Option.isSome_iff_ne_none]

end Part

namespace Site.Layout

/-- Whether an element is a listing; a card without a title is none. -/
def isListing (layout : Layout) (e : Element) : Bool :=
  match layout with
  | .rows => Rows.selector.accepts (e.tag :: e.above)
  | .panels => Panels.selector.accepts (e.tag :: e.above)
  | .items => Items.selector.accepts (e.tag :: e.above)
  | .cards => Cards.selector.accepts (e.tag :: e.above) && (Cards.title? e).isSome

def listings (layout : Layout) (document : List Node) : List Element :=
  (allElements [] document).filter layout.isListing

def nth (name : Text) (n : Nat) (e : Element) : Option Element := (e.select (.one (.named name)))[n]?

def parts : Layout → List Part
  | .rows =>
      [⟨"job title", nth "td" 0⟩, ⟨"company", nth "td" 1⟩, ⟨"time", nth "td" 2⟩, ⟨"location", nth "td" 3⟩,
       ⟨"remuneration", nth "td" 4⟩, ⟨"tags", nth "td" 5⟩,
       ⟨"time", fun row => (nth "td" 2 row).bind (·.first? (.one (.named "time")))⟩]
  | .panels =>
      [⟨"job title", nth "a" 0⟩, ⟨"company", nth "a" 1⟩, ⟨"location", nth "span" 0⟩,
       ⟨"elapsed time", nth "span" 1⟩]
  | .items =>
      [⟨"job title", nth "a" 0⟩, ⟨"company", nth "a" 1⟩,
       ⟨"elapsed time", (·.first? (.one (.ofClass "span" "JobPreviewInline_createdAt__wbWS0")))⟩,
       ⟨"location or remuneration", (·.first? (Items.insideTwoSpans "span"))⟩]
  | .cards =>
      [⟨"company", (·.first? (.one (.withValue "meta" "itemprop" "name")))⟩,
       ⟨"date posted", (·.first? (.one (.withValue "meta" "itemprop" "datePosted")))⟩]

def title? : Layout → Element → Option Element
  | .rows => nth "td" 0
  | .panels | .items => nth "a" 0
  | .cards => Cards.title?

end Site.Layout

namespace Listing
open Site.Layout (nth)
variable {board : Board} {now : Moment} {shows : Posting → Prop}

theorem ends_require {α : Type} (board : Board) (field : Text) (part : Option α) :
    Ends (fun _ => True) (fun a => part = some a) (board.require field part) := by
  cases part with
  | none => trivial
  | some a => rfl

/-- What reading a listing comes to: the fault of the first part it is without; with all of them a posting, or a
fault of another kind. -/
inductive Reads (name : Text) (shows : Posting → Prop) : Option Text → Except Fault Posting → Prop
  | missing (field : Text) : Reads name shows (some field) (.error (.fetch name (.missing field)))
  | made {p : Posting} (hp : shows p) : Reads name shows none (.ok p)
  | strayed {fault : Fault} (hkind : fault.kind ≠ "MissingFieldError".toList) :
      Reads name shows none (.error fault)

theorem Reads.require {part : Part} {parts : List Part} {listing : Element}
    {f : Element → Except Fault Posting}
    (h : ∀ e, part.find? listing = some e → Reads board.name shows (Part.missing? parts listing) (f e)) :
    Reads board.name shows (Part.missing? (part :: parts) listing)
      (board.require part.field (part.find? listing) >>= f) := by
  cases hpart : part.find? listing with
  | none =>
    rw [Part.missing?_cons_of_none hpart]
    exact .missing part.field
  | some e =>
    rw [Part.missing?_cons_of_some hpart]
    exact h e hpart

theorem Reads.finish {α : Type} {name : Text} {x : Except Fault α} {f : α → Posting}
    (hkind : ∀ fault, x = .error fault → fault.kind ≠ "MissingFieldError".toList) (h : ∀ a, shows (f a)) :
    Reads name shows none (x >>= fun a => .ok (f a)) := by
  cases x with
  | error fault => exact .strayed (hkind fault rfl)
  | ok a => exact .made (h a)

def Shows (name : Text) (title : Option Element) (p : Posting) : Prop :=
  p.source = name ∧ ∃ e, title = some e ∧ p.title = e.text

namespace Rows

theorem posting_eq (board : Board) (row : Element) :
    posting board row = (do
      let title ← board.require "job title" (nth "td" 0 row)
      let company ← board.require "company" (nth "td" 1 row)
      let _ ← board.require "time" (nth "td" 2 row)
      let location ← board.require "location" (nth "td" 3 row)
      let pay ← board.require "remuneration" (nth "td" 4 row)
      let tags ← board.require "tags" (nth "td" 5 row)
      let time ← board.require "time" ((nth "td" 2 row).bind (·.first? (.one (.named "time"))))
      .ok {
        title := title.text
        company := company.text
        date := day time
        location := lineBreaksAsSpaces location.text
        pay := pay.text
        source := board.name
        tags := fixed ((tags.select anchors).map Element.text)
        link := link row }) := by
  unfold posting nth
  rcases row.select (.one (.named "td")) with
    _ | ⟨title, _ | ⟨company, _ | ⟨time, _ | ⟨location, _ | ⟨pay, _ | ⟨tags, rest⟩⟩⟩⟩⟩⟩
  all_goals rfl

theorem reads (board : Board) (row : Element) :
    Reads board.name (Shows board.name (Site.Layout.title? .rows row))
      (Part.missing? (Site.Layout.parts .rows) row) (posting board row) := by
  rw [posting_eq]
  refine .require fun title htitle => ?_
  refine .require fun company _ => ?_
  refine .require fun _ _ => ?_
  refine .require fun location _ => ?_
  refine .require fun pay _ => ?_
  refine .require fun tags _ => ?_
  refine .require fun time _ => ?_
  exact .made ⟨rfl, title, htitle, rfl⟩

end Rows

namespace Panels

theorem reads (board : Board) (now : Moment) (panel : Element) :
    Reads board.name (Shows board.name (Site.Layout.title? .panels panel))
      (Part.missing? (Site.Layout.parts .panels) panel) (posting board now panel) := by
  refine .require fun title htitle => ?_
  refine .require fun company _ => ?_
  refine .require fun place _ => ?_
  refine .require fun elapsed _ => ?_
  refine .finish (fun fault hdate => ?_) fun date => ⟨rfl, title, htitle, rfl⟩
  obtain ⟨s, -, hback⟩ := Elapsed.date_eq_error.mp hdate
  rw [Moment.kind_of_back hback]
  decide

end Panels

namespace Items

theorem reads (board : Board) (now : Moment) (item : Element) :
    Reads board.name (Shows board.name (Site.Layout.title? .items item))
      (Part.missing? (Site.Layout.parts .items) item) (posting board now item) := by
  refine .require fun title htitle => ?_
  refine .require fun company _ => ?_
  refine .require fun created _ => ?_
  refine .require fun detail _ => ?_
  refine .finish (fun fault hdate => ?_) fun date => ⟨rfl, title, htitle, rfl⟩
  obtain ⟨p, -, hback⟩ := Elapsed.shortDate_eq_error.mp hdate
  rcases Elapsed.kind_of_abbreviatedDate hback with hkind | hkind
  · rw [hkind]
    decide
  · rw [hkind]
    decide

end Items

namespace Cards

theorem reads (board : Board) {card title : Element} (htitle : title? card = some title) :
    Reads board.name (Shows board.name (Site.Layout.title? .cards card))
      (Part.missing? (Site.Layout.parts .cards) card) (posting board card title) := by
  refine .require fun company _ => ?_
  refine .require fun date _ => ?_
  refine .finish (fun fault hlink => ?_) fun link => ⟨rfl, title, htitle, rfl⟩
  obtain ⟨anchor, -, -, hresolve⟩ := link_eq_error.mp hlink
  rcases Link.resolve_eq_error hresolve with hcheck | ⟨-, hcheck⟩
  · rw [Host.kind_of_check hcheck]
    decide
  · rw [Host.kind_of_check hcheck]
    decide

theorem mapM_titled (read : Element → Element → Except Fault Posting) (cards : List Element) :
    (cards.filterMap fun card => (title? card).map fun title => (card, title)).mapM (fun c => read c.1 c.2) =
      (cards.filter fun card => (title? card).isSome).mapM fun card =>
        read card ((title? card).getD card) := by
  induction cards with
  | nil => rfl
  | cons card cards ih =>
    cases htitle : title? card with
    | none => simp [htitle, ih]
    | some title => simp [htitle, ih]

end Cards

end Listing

namespace Board
variable {board : Board} {now : Moment} {document : List Node} {listing : Element} {p : Posting}

def posting (board : Board) (now : Moment) (listing : Element) : Except Fault Posting :=
  match board.site.layout with
  | .rows => Rows.posting board listing
  | .panels => Panels.posting board now listing
  | .items => Items.posting board now listing
  | .cards => Cards.posting board listing ((Cards.title? listing).getD listing)

theorem postings_eq_readEach (board : Board) (clock : Nat → Moment) (document : List Node) :
    board.postings clock document = readEach clock board.posting (board.site.layout.listings document) := by
  unfold Board.postings Board.posting Site.Layout.listings
  cases board.site.layout with
  | rows =>
    have hrows := congrArg (List.mapM (Rows.posting board)) (selectAll_eq_filter Rows.selector [] document)
    exact hrows.trans (readEach_const clock (Rows.posting board) _).symm
  | panels => exact congrArg (readEach clock _) (selectAll_eq_filter Panels.selector [] document)
  | items => exact congrArg (readEach clock _) (selectAll_eq_filter Items.selector [] document)
  | cards =>
    have hcards := Cards.mapM_titled (Cards.posting board) (selectAll Cards.selector [] document)
    rw [selectAll_eq_filter, List.filter_filter] at hcards
    have heach := readEach_const clock (fun card => Cards.posting board card ((Cards.title? card).getD card))
      ((allElements [] document).filter Site.Layout.cards.isListing)
    refine Eq.trans ?_ heach.symm
    simp only [Cards.postings]
    rw [selectAll_eq_filter, hcards]
    refine congrArg (List.mapM _) (List.filter_congr fun card _ => ?_)
    exact Bool.and_comm _ _

theorem reads_posting (board : Board) (now : Moment) (h : board.site.layout.isListing listing = true) :
    Reads board.name (Shows board.name (board.site.layout.title? listing))
      (Part.missing? board.site.layout.parts listing) (board.posting now listing) := by
  unfold Board.posting
  cases hlayout : board.site.layout with
  | rows => exact Rows.reads board listing
  | panels => exact Panels.reads board now listing
  | items => exact Items.reads board now listing
  | cards =>
    rw [hlayout, Site.Layout.isListing, Bool.and_eq_true] at h
    obtain ⟨title, htitle⟩ := Option.isSome_iff_exists.mp h.2
    simp only [htitle]
    exact Cards.reads board htitle

structure Makes (board : Board) (now : Moment) (listing : Element) (p : Posting) : Prop where
  read : board.posting now listing = .ok p
  complete : ∀ part ∈ board.site.layout.parts, (part.find? listing).isSome
  shows : Shows board.name (board.site.layout.title? listing) p

theorem makes_iff (h : board.site.layout.isListing listing = true) :
    board.Makes now listing p ↔ board.posting now listing = .ok p := by
  refine ⟨Makes.read, fun hread => ?_⟩
  have hreads := reads_posting board now h
  rw [hread] at hreads
  generalize hmissing : Part.missing? board.site.layout.parts listing = missing at hreads
  cases hreads with
  | made hshows => exact ⟨hread, Part.missing?_eq_none.mp hmissing, hshows⟩

theorem posting_misses_iff (h : board.site.layout.isListing listing = true) {source field : Text} :
    board.posting now listing = .error (.fetch source (.missing field)) ↔
      source = board.name ∧ Part.missing? board.site.layout.parts listing = some field := by
  have hreads := reads_posting board now h
  generalize Part.missing? board.site.layout.parts listing = missing at hreads
  generalize board.posting now listing = result at hreads
  cases hreads with
  | missing missed => simp [eq_comm]
  | made hshows => simp
  | strayed hkind =>
    refine ⟨fun hfault => ?_, fun ⟨_, hnone⟩ => by cases hnone⟩
    obtain rfl := Except.error.inj hfault
    exact absurd rfl hkind

/-- Reading a page gives one posting for each of its listings, in their order, or misses the first part that the
first listing without all its parts is without. -/
theorem postings_of_listings (board : Board) (clock : Nat → Moment) (document : List Node) :
    (∀ ps, board.postings clock document = .ok ps ↔
      List.Forall₂ (fun l p => board.Makes (clock l.2) l.1 p) (board.site.layout.listings document).zipIdx ps) ∧
    ∀ source field, board.postings clock document = .error (.fetch source (.missing field)) ↔
      source = board.name ∧ ∃ before listing after,
        board.site.layout.listings document = before ++ listing :: after ∧
        (∀ earlier ∈ before.zipIdx, ∃ p, board.Makes (clock earlier.2) earlier.1 p) ∧
        Part.missing? board.site.layout.parts listing = some field := by
  have hlisting : ∀ listing ∈ board.site.layout.listings document,
      board.site.layout.isListing listing = true := fun _ h => (List.mem_filter.mp h).2
  rw [postings_eq_readEach]
  generalize board.site.layout.listings document = listings at hlisting
  refine ⟨fun ps => ?_, fun source field => ?_⟩
  · have hmem : ∀ l ∈ listings.zipIdx, board.site.layout.isListing l.1 = true :=
      fun l hl => hlisting l.1 (List.fst_mem_of_mem_zipIdx hl)
    rw [readEach_eq_ok]
    constructor
    · intro h
      have hboth := (List.forall₂_and_left listings.zipIdx ps).mpr ⟨hmem, h⟩
      exact hboth.imp fun l p ⟨hl, hread⟩ => (makes_iff hl).mpr hread
    · intro h
      exact h.imp fun l p hmakes => hmakes.read
  · rw [readEach_eq_error]
    constructor
    · rintro ⟨before, listing, after, rfl, hbefore, hmisses⟩
      rw [posting_misses_iff (hlisting listing (by simp))] at hmisses
      refine ⟨hmisses.1, before, listing, after, rfl, fun earlier hearlier => ?_, hmisses.2⟩
      have hmem := hlisting earlier.1 (List.mem_append_left _ (List.fst_mem_of_mem_zipIdx hearlier))
      obtain ⟨p, hread⟩ := hbefore earlier hearlier
      exact ⟨p, (makes_iff hmem).mpr hread⟩
    · rintro ⟨rfl, before, listing, after, rfl, hbefore, hmissing⟩
      refine ⟨before, listing, after, rfl, fun earlier hearlier => ?_, ?_⟩
      · obtain ⟨p, hmakes⟩ := hbefore earlier hearlier
        exact ⟨p, hmakes.read⟩
      · exact (posting_misses_iff (hlisting listing (by simp))).mpr ⟨rfl, hmissing⟩

end Board
end JobBoards
