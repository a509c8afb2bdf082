import JobBoards.Proofs.Board.Days
namespace JobBoards
open Markup Listing

/-- A text between two quotation marks, and the text up to the next mark. -/
structure Argument where
  text : Text
  after : Text
  text_quoteless : '\x27' ∉ text
  after_quoteless : '\x27' ∉ after

structure Call where
  before : Text
  arguments : List Argument
  before_quoteless : '\x27' ∉ before

namespace Argument

def quoted (a : Argument) : Text := '\x27' :: a.text ++ '\x27' :: a.after

def allQuoted (arguments : List Argument) : Text := arguments.flatMap quoted

/-- A text stands between two arguments with nothing but empty arguments before it, and nothing between these. -/
inductive Slips : List Argument → Text → Prop
  | here {a b : Argument} {rest : List Argument} (htext : a.text = []) (hafter : a.after ≠ []) :
      Slips (a :: b :: rest) a.after
  | later {a : Argument} {rest : List Argument} {s : Text} (htext : a.text = []) (hafter : a.after = [])
      (hrest : Slips rest s) : Slips (a :: rest) s

def first? (arguments : List Argument) : Option Text := (arguments.map text).find? fun s => !s.isEmpty

end Argument

namespace Call

def text (c : Call) : Text := c.before ++ Argument.allQuoted c.arguments

end Call

namespace Listing.Rows
variable {u : Text}

theorem quotedPart?_append (h : '\x27' ∉ u) (s : Text) : quotedPart? (u ++ s) = quotedPart? s := by
  induction u with
  | nil => rfl
  | cons c u ih =>
    obtain ⟨hc, hu⟩ := not_or.mp (mt List.mem_cons.mpr h)
    rw [List.cons_append, quotedPart?, if_neg (Ne.symm hc), ih hu]

theorem takeWhile_quoteless (h : '\x27' ∉ u) (s : Text) :
    (u ++ s).takeWhile (· != '\x27') = u ++ s.takeWhile (· != '\x27') := by
  refine List.takeWhile_append_of_pos fun c hc => bne_iff_ne.mpr ?_
  rintro rfl
  exact h hc

theorem quotedPart?_quoted (h : '\x27' ∉ u) (hne : u ≠ []) (s : Text) :
    quotedPart? ('\x27' :: u ++ '\x27' :: s) = some u := by
  have htaken : (u ++ '\x27' :: s).takeWhile (· != '\x27') = u := by
    rw [takeWhile_quoteless h]
    exact List.append_nil u
  rw [List.cons_append, quotedPart?, if_pos rfl, htaken]
  simp [hne]

@[simp] theorem quotedPart?_empty (s : Text) : quotedPart? ('\x27' :: '\x27' :: s) = quotedPart? ('\x27' :: s) := by
  conv_lhs => rw [quotedPart?]
  simp

theorem quotedPart?_open (h : '\x27' ∉ u) : quotedPart? ('\x27' :: u) = none := by
  have htaken : u.takeWhile (· != '\x27') = u := by
    have h := takeWhile_quoteless h []
    simpa using h
  have hrest := quotedPart?_append h []
  rw [List.append_nil] at hrest
  rw [quotedPart?, if_pos rfl, htaken, hrest]
  simp [quotedPart?]

section Arguments
open Argument (allQuoted Slips first?)
variable {a b : Argument} {arguments : List Argument} {s : Text}

@[simp] theorem allQuoted_cons (a : Argument) (arguments : List Argument) :
    allQuoted (a :: arguments) = '\x27' :: a.text ++ '\x27' :: (a.after ++ allQuoted arguments) := by
  simp [allQuoted, Argument.quoted]

theorem part_of_filled (h : a.text ≠ []) : quotedPart? (allQuoted (a :: arguments)) = some a.text := by
  rw [allQuoted_cons]
  exact quotedPart?_quoted a.text_quoteless h _

theorem part_of_empty (h : a.text = []) :
    quotedPart? (allQuoted (a :: arguments)) = quotedPart? ('\x27' :: (a.after ++ allQuoted arguments)) := by
  rw [allQuoted_cons, h]
  exact quotedPart?_empty _

theorem part_of_last (h : a.text = []) : quotedPart? (allQuoted [a]) = none := by
  rw [part_of_empty h]
  exact quotedPart?_open (by simpa [allQuoted] using a.after_quoteless)

/-- After an empty argument its closing mark is taken for an opening one. -/
theorem part_of_gap (h : a.text = []) (hafter : a.after ≠ []) :
    quotedPart? (allQuoted (a :: b :: arguments)) = some a.after := by
  rw [part_of_empty h, allQuoted_cons]
  exact quotedPart?_quoted a.after_quoteless hafter _

theorem part_of_adjacent (h : a.text = []) (hafter : a.after = []) :
    quotedPart? (allQuoted (a :: b :: arguments)) = quotedPart? (allQuoted (b :: arguments)) := by
  rw [part_of_empty h, hafter, allQuoted_cons]
  exact quotedPart?_empty _

theorem part_of_slips (h : Slips arguments s) : quotedPart? (allQuoted arguments) = some s := by
  induction h with
  | here htext hafter => exact part_of_gap htext hafter
  | @later a rest s htext hafter hrest ih =>
    cases rest with
    | nil => cases hrest
    | cons b rest => rw [part_of_adjacent htext hafter, ih]

theorem part_of_not_slips (h : ∀ s, ¬ Slips arguments s) : quotedPart? (allQuoted arguments) = first? arguments := by
  induction arguments with
  | nil => rfl
  | cons a rest ih =>
    by_cases htext : a.text = []
    · have hnext : first? (a :: rest) = first? rest := by
        simp [first?, htext]
      rw [hnext]
      cases rest with
      | nil => exact part_of_last htext
      | cons b rest =>
        have hafter : a.after = [] := by
          by_contra hafter
          exact h _ (.here htext hafter)
        rw [part_of_adjacent htext hafter]
        exact ih fun s hs => h s (.later htext hafter hs)
    · rw [part_of_filled htext]
      simp [first?, htext]

end Arguments

end Listing.Rows

namespace Call
open Argument (Slips first?)

structure Leads (c : Call) (link : Text) : Prop where
  link_eq : link = hosted "https://web3.career" ((Rows.quotedPart? c.text).getD [])
  slipped : ∀ s, Slips c.arguments s → Rows.quotedPart? c.text = some s
  first : (∀ s, ¬ Slips c.arguments s) → Rows.quotedPart? c.text = first? c.arguments

theorem leads (c : Call) : c.Leads (hosted "https://web3.career" ((Rows.quotedPart? c.text).getD [])) where
  link_eq := rfl
  slipped s hs := by
    rw [text, Rows.quotedPart?_append c.before_quoteless]
    exact Rows.part_of_slips hs
  first h := by
    rw [text, Rows.quotedPart?_append c.before_quoteless]
    exact Rows.part_of_not_slips h

end Call

namespace Board
variable {board : Board} {now : Moment} {row : Element} {p : Posting} {ps : List Posting}

theorem leads_of_posting (hlayout : board.site.layout = .rows) (h : board.posting now row = .ok p) (c : Call)
    (hcall : row.value "onclick" = c.text) : c.Leads p.link := by
  unfold posting at h
  rw [hlayout] at h
  have hlink := (Rows.ends_posting board row).of_ok h
  rw [Site.Layout.written, hcall] at hlink
  rw [hlink]
  exact c.leads

/-- A row leads to the first argument of its call that is not empty, unless a text slips in between two arguments. -/
theorem calls_of_read (board : Board) (clock : Nat → Moment) (status : Int) (markup : Text)
    (hlayout : board.site.layout = .rows) (h : board.read clock (.response status (.page markup)) = .ok ps) :
    ∃ document, Markup.tree markup = .ok document ∧
      List.Forall₂ (fun row p => ∀ c : Call, row.value "onclick" = c.text → c.Leads p.link)
        (Site.Layout.rows.listings document) ps := by
  obtain ⟨document, htree, hpostings⟩ := read_page_eq_ok h
  rw [postings_eq_readEach, hlayout] at hpostings
  exact ⟨document, htree, forall₂_of_readEach hpostings fun now row p hread => leads_of_posting hlayout hread⟩

def rowCalling (c : Call) : Text :=
  "<tr class=table_row onclick=\"".toList ++ c.text ++ "\"><td>Engineer</td><td>Acme</td>".toList ++
    "<td><time datetime=2024-01-01></time></td><td>Rome</td><td></td><td></td></tr>".toList

def calledPosting (link : Text) : Posting :=
  ⟨"Engineer", "Acme", "2024-01-01", "Rome", "", "web3.career", ⟨[], true⟩, link⟩

def eventCall : Call := ⟨"go(event, ", [⟨"/jobs/42", ")", by decide, by decide⟩], by decide⟩

def emptyCall : Call :=
  ⟨"go(", [⟨"", ", ", by decide, by decide⟩, ⟨"/jobs/42", ")", by decide, by decide⟩], by decide⟩

theorem calls_of_eventCall : ∃ document, Markup.tree (rowCalling eventCall ++ rowCalling emptyCall) = .ok document ∧
    (Site.Layout.rows.listings document).map (·.value "onclick") = [eventCall.text, emptyCall.text] ∧
    eventCall.Leads "https://web3.career/jobs/42" ∧ emptyCall.Leads ", " := by
  have hread : (Board.ofSite 30 .web3Career).read (fun _ => Elapsed.springNoon)
      (.response 200 (.page (rowCalling eventCall ++ rowCalling emptyCall))) =
        .ok [calledPosting "https://web3.career/jobs/42", calledPosting ", "] := by
    decide +kernel
  have hclicks : (Markup.tree (rowCalling eventCall ++ rowCalling emptyCall)).map (fun document =>
      (Site.Layout.rows.listings document).map (·.value "onclick")) = .ok [eventCall.text, emptyCall.text] := by
    decide +kernel
  obtain ⟨document, htree, hcalls⟩ := calls_of_read _ _ 200 _ rfl hread
  rw [htree] at hclicks
  have hclicks := Except.ok.inj hclicks
  refine ⟨document, htree, hclicks, ?_⟩
  obtain ⟨first, rest, hrows, hfirst, hrest⟩ := List.map_eq_cons_iff.mp hclicks
  obtain ⟨second, none, rfl, hsecond, hnone⟩ := List.map_eq_cons_iff.mp hrest
  rw [hrows, List.forall₂_cons, List.forall₂_cons] at hcalls
  exact ⟨hcalls.1 eventCall hfirst, hcalls.2.1 emptyCall hsecond⟩

theorem not_first_emptyCall : ¬ ∀ (board : Board) (clock : Nat → Moment) (status : Int) (markup : Text)
    (ps : List Posting) (document : List Node), board.site.layout = .rows →
      board.read clock (.response status (.page markup)) = .ok ps → Markup.tree markup = .ok document →
      List.Forall₂ (fun row p => ∀ c : Call, row.value "onclick" = c.text →
        p.link = hosted "https://web3.career" ((Argument.first? c.arguments).getD []))
          (Site.Layout.rows.listings document) ps := by
  intro h
  have hread : (Board.ofSite 30 .web3Career).read (fun _ => Elapsed.springNoon)
      (.response 200 (.page (rowCalling emptyCall))) = .ok [calledPosting ", "] := by
    decide +kernel
  have hclick : (Markup.tree (rowCalling emptyCall)).map (fun document =>
      (Site.Layout.rows.listings document).map (·.value "onclick")) = .ok [emptyCall.text] := by
    decide +kernel
  obtain ⟨document, htree, -⟩ := read_page_eq_ok hread
  rw [htree] at hclick
  obtain ⟨row, rest, hrows, hrow, -⟩ := List.map_eq_cons_iff.mp (Except.ok.inj hclick)
  have hlinks := h _ _ 200 _ _ document rfl hread htree
  rw [hrows, List.forall₂_cons] at hlinks
  have hlink := hlinks.1 emptyCall hrow
  revert hlink
  decide

end Board
end JobBoards
