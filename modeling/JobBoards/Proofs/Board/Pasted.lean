import JobBoards.Proofs.Board.Parts
import JobBoards.Proofs.Board.Reading
import JobBoards.Proofs.Link.Parts
namespace JobBoards
open Markup Listing

def Site.Layout.written (layout : Layout) (listing : Element) : Text :=
  match layout with
  | .rows => (Rows.quotedPart? (listing.value "onclick")).getD []
  | .panels | .items => ((nth "a" 0 listing).map (·.value "href")).getD []
  | .cards => ((listing.first? (.one (.having "a" "href"))).map (·.value "href")).getD []

def Site.origin (site : Site) : Text := "https://".toList ++ site.name

structure Site.Pasted (site : Site) (written link : Text) : Prop where
  eq : link = site.origin ++ written
  host : Link.authorityOf link = site.name
  target_host : ∀ target, Link.resolve site.address written = .ok target → Link.authorityOf target =
    if Link.authorityOf written = [] then site.name else Link.authorityOf written
  /-- After a single slash it resolves to the pasted link itself, but for what is tidied up and for its dots. -/
  resolved : ¬ ['/', '/'] <+: Link.cleaned written → ∃ l, Link.split [] link = .ok l ∧
    Link.resolve site.address written = .ok l.undotted.text ∧ (l.text = link ↔ Link.Tidy written) ∧
    ((∀ t ∈ Text.splitOn '/' l.path, t ≠ ['.'] ∧ t ≠ ['.', '.']) → l.undotted = l)

structure Site.Links (site : Site) (listing : Element) (p : Posting) : Prop where
  resolved : site.layout = .cards → Link.resolve site.address (site.layout.written listing) = .ok p.link
  pasted : site.layout ≠ .cards → site.Pasted (site.layout.written listing) p.link

namespace Listing
variable {board : Board} {now : Moment} {listing title : Element}

theorem href_of_anchor (h : (listing.select anchors)[0]? = some title) :
    ((Site.Layout.nth "a" 0 listing).map (·.value "href")).getD [] = title.value "href" := by
  change (((listing.select anchors)[0]?).map (·.value "href")).getD [] = _
  rw [h]
  rfl

theorem Rows.ends_posting (board : Board) (row : Element) :
    Ends (fun _ => True) (fun p => p.link = hosted "https://web3.career" (Site.Layout.rows.written row))
      (posting board row) := by
  unfold Rows.posting
  split
  · exact .bind .any fun _ _ => rfl
  · trivial

theorem Panels.ends_posting (board : Board) (now : Moment) (panel : Element) :
    Ends (fun _ => True) (fun p => p.link = hosted "https://useweb3.xyz" (Site.Layout.panels.written panel))
      (posting board now panel) := by
  refine .bind (ends_require _ _ _) fun title htitle => ?_
  refine .bind .any fun _ _ => .bind .any fun _ _ => .bind .any fun _ _ => .bind .any fun _ _ => ?_
  exact congrArg (hosted _) (href_of_anchor htitle).symm

theorem Items.ends_posting (board : Board) (now : Moment) (item : Element) :
    Ends (fun _ => True) (fun p => p.link = hosted "https://cryptojobslist.com" (Site.Layout.items.written item))
      (posting board now item) := by
  refine .bind (ends_require _ _ _) fun title htitle => ?_
  refine .bind .any fun _ _ => .bind .any fun _ _ => .bind .any fun _ _ => .bind .any fun _ _ => ?_
  exact congrArg (hosted _) (href_of_anchor htitle).symm

theorem Cards.ends_posting (board : Board) (card title : Element) :
    Ends (fun _ => True) (fun p => Cards.link board card = .ok p.link) (posting board card title) := by
  refine .bind .any fun _ _ => .bind .any fun _ _ => ?_
  cases hlink : Cards.link board card with
  | error fault => trivial
  | ok link => rfl

end Listing

namespace Site
variable {site : Site} {now : Moment} {timeout : Int} {listing : Element} {p : Posting} {s : Text}

theorem link_of_posting (h : (Board.ofSite timeout site).posting now listing = .ok p) :
    (site.layout = .cards → Cards.link (.ofSite timeout site) listing = .ok p.link) ∧
      (site.layout ≠ .cards → p.link = hosted site.origin (site.layout.written listing)) := by
  cases site with
  | web3Career => exact ⟨nofun, fun _ => (Rows.ends_posting _ _).of_ok h⟩
  | useWeb3 => exact ⟨nofun, fun _ => (Panels.ends_posting _ _ _).of_ok h⟩
  | cryptoJobsList => exact ⟨nofun, fun _ => (Items.ends_posting _ _ _).of_ok h⟩
  | solana | substrate | near =>
    have hlink := (Cards.ends_posting _ listing ((Cards.title? listing).getD listing)).of_ok h
    exact ⟨fun _ => hlink, fun hcards => absurd rfl hcards⟩

theorem address_eq (site : Site) : ∃ r, site.address = site.origin ++ r ∧ (r = [] ∨ ∃ s, r = '/' :: s) := by
  cases site with
  | web3Career | cryptoJobsList => exact ⟨[], rfl, .inl rfl⟩
  | useWeb3 => exact ⟨"/jobs", rfl, .inr ⟨_, rfl⟩⟩
  | solana | substrate | near => exact ⟨"/jobs?".toList ++ engineeringQuery, rfl, .inr ⟨_, rfl⟩⟩

theorem name_keeps (site : Site) : ∀ c ∈ site.name, Link.isDelimiter c = false ∧ Link.keeps c = true := by
  have hall : site.name.all (fun c => !Link.isDelimiter c && Link.keeps c) = true := by
    cases site
    all_goals rfl
  intro c hc
  have hboth := List.all_eq_true.mp hall c hc
  rwa [Bool.and_eq_true, Bool.not_eq_true'] at hboth

@[simp] theorem check_name (site : Site) : Host.check site.name = .ok () := by
  cases site
  all_goals rfl

theorem stops_slash (s : Text) : Link.Stops ('/' :: s) := by
  simp [Link.Stops, Link.isDelimiter]

theorem origin_append (site : Site) (r : Text) : site.origin ++ r = "https://".toList ++ (site.name ++ r) :=
  List.append_assoc _ _ _

theorem split_origin (site : Site) {r : Text} (hr : Link.Stops (r.filter Link.keeps)) :
    Link.split [] (site.origin ++ r) = .ok (Link.parts "https" site.name (r.filter Link.keeps)) := by
  have hcut := Link.splitAuthority_append (fun c hc => (site.name_keeps c hc).1) hr
  have hsplit := Link.split_https (fun c hc => (site.name_keeps c hc).2) r
  simp only [hcut, check_name] at hsplit
  rw [origin_append, hsplit]
  rfl

theorem filter_slash (s : Text) : ('/' :: s).filter Link.keeps = '/' :: s.filter Link.keeps :=
  List.filter_cons_of_pos rfl

theorem split_address (site : Site) :
    ∃ b, Link.split [] site.address = .ok b ∧ b.scheme = "https".toList ∧ b.authority = site.name := by
  obtain ⟨r, haddress, hr⟩ := site.address_eq
  have hstops : Link.Stops (r.filter Link.keeps) := by
    rcases hr with rfl | ⟨s, rfl⟩
    · simp [Link.Stops]
    · rw [filter_slash]
      exact stops_slash _
  exact ⟨_, haddress ▸ site.split_origin hstops, rfl, rfl⟩

theorem address_ne_nil (site : Site) : site.address ≠ [] := by
  cases site
  all_goals exact List.cons_ne_nil _ _

theorem pasted (site : Site) (s : Text) : site.Pasted ('/' :: s) (site.origin ++ '/' :: s) := by
  obtain ⟨b, hsplit, hscheme, hauthority⟩ := site.split_address
  constructor
  · rfl
  · rw [origin_append]
    exact Link.authorityOf_https site.name_keeps (stops_slash s)
  · intro target htarget
    rw [Link.authorityOf_resolve site.address_ne_nil hsplit hscheme (hauthority ▸ site.name_keeps) htarget,
      hauthority]
  · intro hone
    rw [Link.cleaned_cons (by decide)] at hone
    have hpasted := site.split_origin (r := '/' :: s) (by rw [filter_slash]; exact stops_slash _)
    rw [filter_slash] at hpasted
    refine ⟨_, hpasted, ?_, ?_, ?_⟩
    · rw [Link.resolve_one site.address_ne_nil hsplit hscheme hone, hauthority]
    · rw [Link.text_parts hone, origin_append, List.append_cancel_left_eq, List.append_cancel_left_eq]
      exact (Link.tidy_slash hone).symm
    · intro hdots
      obtain ⟨w, -, hpath⟩ := Link.path_parts "https" site.name (s.filter Link.keeps)
      rw [hpath] at hdots
      rw [Link.undotted, hpath, Link.joinPath_eq_self hdots, ← hpath]

theorem links_of_posting (h : (Board.ofSite timeout site).posting now listing = .ok p)
    (hslash : (site.layout.written listing).head? = some '/') : site.Links listing p := by
  obtain ⟨hcards, hothers⟩ := link_of_posting h
  obtain ⟨s, hs⟩ := List.head?_eq_some_iff.mp hslash
  constructor
  · intro hlayout
    rw [hlayout] at hslash ⊢
    have hlink : (if (Layout.cards.written listing).head? = some '/' then
        Link.resolve site.address (Layout.cards.written listing)
      else .ok (Layout.cards.written listing)) = .ok p.link := hcards hlayout
    rwa [if_pos hslash] at hlink
  · intro hlayout
    rw [hothers hlayout, hs]
    exact site.pasted s

theorem links_of_postings {clock : Nat → Moment} {document : List Node} {ps : List Posting}
    (h : (Board.ofSite timeout site).postings clock document = .ok ps) :
    List.Forall₂ (fun listing p => (site.layout.written listing).head? = some '/' → site.Links listing p)
      (site.layout.listings document) ps := by
  rw [Board.postings_eq_readEach] at h
  exact forall₂_of_readEach h fun now listing p hread hslash => links_of_posting hread hslash

theorem tree_of_document {board : Board} {markup : Text} {document : List Node}
    (h : board.document markup = .ok document) : Markup.tree markup = .ok document := by
  rcases Board.document_cases board markup with ⟨other, htree, hother⟩ | ⟨reason, -, hrejected⟩ | ⟨fault, -, hfault⟩
  · rw [h] at hother
    obtain rfl := Except.ok.inj hother
    exact htree
  · rw [h] at hrejected
    cases hrejected
  · rw [h] at hfault
    cases hfault

/-- The links of a page that begin with a slash lead to the same place on all sites, but not after two slashes: three
of the layouts stay on their own host there, and only cards go to the host that the link names. -/
theorem links_of_read (timeout : Int) (site : Site) (clock : Nat → Moment) (status : Int) (markup : Text)
    {ps : List Posting} (h : (Board.ofSite timeout site).read clock (.response status (.page markup)) = .ok ps) :
    ∃ document, Markup.tree markup = .ok document ∧
      List.Forall₂ (fun listing p => (site.layout.written listing).head? = some '/' → site.Links listing p)
        (site.layout.listings document) ps := by
  by_cases hstatus : Board.isSuccess status = true
  · rw [Board.read_page _ clock hstatus, Fault.bind_eq_ok] at h
    obtain ⟨document, hdocument, hpostings⟩ := h
    exact ⟨document, tree_of_document hdocument, links_of_postings hpostings⟩
  · have hfails : (Board.ofSite timeout site).read clock (.response status (.page markup)) =
        .error (.fetch site.name (.status status)) := if_neg hstatus
    rw [hfails] at h
    cases h

def panelWith (link : Text) : Text :=
  "<div class=\"panel_inner__YQLRW\"><a href=\"".toList ++ link ++ "\">Engineer</a><a>Gamma</a>".toList ++
    "<span>Lisbon</span><span>3 days</span></div>".toList

def panelPosting (link : Text) : Posting :=
  ⟨"Engineer", "Gamma", "2024-03-07", "Lisbon", "", "useweb3.xyz", ⟨[], true⟩, link⟩

theorem links_of_panel :
    (Board.ofSite 30 .useWeb3).read (fun _ => ⟨⟨2024, 3, 10⟩, 43200⟩)
      (.response 200 (.page (panelWith "/jobs/../42"))) = .ok [panelPosting "https://useweb3.xyz/jobs/../42"] ∧
    Pasted .useWeb3 "/jobs/../42" "https://useweb3.xyz/jobs/../42" ∧
    Link.resolve (address .useWeb3) "/jobs/../42" = .ok "https://useweb3.xyz/42" := by
  have hread : (Board.ofSite 30 .useWeb3).read (fun _ => ⟨⟨2024, 3, 10⟩, 43200⟩)
      (.response 200 (.page (panelWith "/jobs/../42"))) = .ok [panelPosting "https://useweb3.xyz/jobs/../42"] := by
    decide +kernel
  have hwritten : (Markup.tree (panelWith "/jobs/../42")).map (fun document =>
      (Layout.panels.listings document).map Layout.panels.written) = .ok ["/jobs/../42".toList] := by
    decide +kernel
  refine ⟨hread, ?_, by decide +kernel⟩
  obtain ⟨document, htree, hlinks⟩ := links_of_read 30 .useWeb3 _ 200 _ hread
  rw [htree] at hwritten
  have hwritten : (Layout.panels.listings document).map Layout.panels.written = ["/jobs/../42".toList] :=
    Except.ok.inj hwritten
  change List.Forall₂ _ (Layout.panels.listings document) _ at hlinks
  generalize Layout.panels.listings document = listings at hlinks hwritten
  cases hlinks with
  | cons hfirst hrest =>
    cases hrest
    rename_i listing
    have hlisting : (layout .useWeb3).written listing = "/jobs/../42".toList := (List.cons.inj hwritten).1
    have hslash : ((layout .useWeb3).written listing).head? = some '/' := by
      rw [hlisting]
      rfl
    have hpasted := (hfirst hslash).pasted nofun
    rwa [hlisting] at hpasted

theorem pasted_otherHost :
    (Board.ofSite 30 .useWeb3).read (fun _ => ⟨⟨2024, 3, 10⟩, 43200⟩)
      (.response 200 (.page (panelWith "//evil.com/x"))) = .ok [panelPosting "https://useweb3.xyz//evil.com/x"] ∧
    Link.resolve (address .useWeb3) "//evil.com/x" = .ok "https://evil.com/x" ∧
    Link.authorityOf "https://useweb3.xyz//evil.com/x" = "useweb3.xyz".toList ∧
    Link.authorityOf "https://evil.com/x" = "evil.com".toList := by
  decide +kernel

end Site

end JobBoards
