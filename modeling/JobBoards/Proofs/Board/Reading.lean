import JobBoards.Proofs.Board.Listings
import JobBoards.Proofs.Board.Stamp
import Mathlib.Data.List.Basic
namespace JobBoards

namespace Board
open Listing Markup

inductive Strays (board : Board) (clock : Nat → Moment) (markup : Text) : Fault → Prop
  | rejected {reason : Text} (htree : Markup.tree markup = .error (.rejectedMarkup reason)) :
      Strays board clock markup (.rejectedMarkup reason)
  | panel {document : List Node} {fault : Fault} (hlayout : board.site.layout = .panels)
      (htree : Markup.tree markup = .ok document)
      (hfirst : First (fun l => Panels.posting board (clock l.2) l.1) (selectAll Panels.selector [] document).zipIdx
        fun l => Panels.Strays (clock l.2) l.1 fault) : Strays board clock markup fault
  | item {document : List Node} {fault : Fault} (hlayout : board.site.layout = .items)
      (htree : Markup.tree markup = .ok document)
      (hfirst : First (fun l => Items.posting board (clock l.2) l.1) (selectAll Items.selector [] document).zipIdx
        fun l => Items.Strays (clock l.2) l.1 fault) : Strays board clock markup fault
  | card {document : List Node} {fault : Fault} (hlayout : board.site.layout = .cards)
      (htree : Markup.tree markup = .ok document)
      (hfirst : First (fun c => Cards.posting board c.1 c.2) (Cards.titled document)
        (Cards.Strays board ·.1 fault)) : Strays board clock markup fault

variable {board : Board} {clock : Nat → Moment} {markup : Text} {fault : Fault}

theorem document_of_tree {document : List Node} (h : Markup.tree markup = .ok document) :
    board.document markup = .ok document := by
  rw [Board.document, h]

theorem document_cases (board : Board) (markup : Text) :
    (∃ document, Markup.tree markup = .ok document ∧ board.document markup = .ok document) ∨
      (∃ reason, Markup.tree markup = .error (.rejectedMarkup reason) ∧
        board.document markup = .error (.rejectedMarkup reason)) ∨
      ∃ fault, board.Owns fault ∧ board.document markup = .error fault := by
  unfold Board.document
  split
  · rename_i nodes htree
    exact .inl ⟨nodes, htree, rfl⟩
  · rename_i reason htree
    exact .inr (.inl ⟨reason, htree, rfl⟩)
  · exact .inr (.inr ⟨_, ⟨.unreadable _, trivial, rfl⟩, rfl⟩)

theorem misses_or_strays_of_postings {document : List Node} (htree : Markup.tree markup = .ok document)
    (h : board.postings clock document = .error fault) :
    board.Misses fault ∨ board.Strays clock markup fault := by
  unfold Board.postings at h
  split at h
  · obtain ⟨_, row, _, -, -, hrow⟩ := first_of_mapM h
    exact .inl (Rows.fault_of_posting hrow)
  · rename_i hlayout
    rcases (first_of_mapM h).own_or fun _ => Panels.fault_of_posting with hmisses | hfirst
    · exact .inl hmisses
    · exact .inr (.panel hlayout htree hfirst)
  · rename_i hlayout
    rcases (first_of_mapM h).own_or fun _ => Items.fault_of_posting with hmisses | hfirst
    · exact .inl hmisses
    · exact .inr (.item hlayout htree hfirst)
  · rename_i hlayout
    rcases (first_of_mapM h).own_or fun _ => Cards.fault_of_posting with hmisses | hfirst
    · exact .inl hmisses
    · exact .inr (.card hlayout htree hfirst)

theorem fault_of_postings {document : List Node} (htree : Markup.tree markup = .ok document)
    (h : board.postings clock document = .error fault) :
    board.Owns fault ∨ board.Strays clock markup fault :=
  (misses_or_strays_of_postings htree h).imp_left Misses.owns

theorem Strays.kind (h : board.Strays clock markup fault) :
    fault.kind ∈ (["ParserRejectedMarkup", "OverflowError", "ValueError"] : List Text) := by
  cases h with
  | rejected => exact List.mem_cons_self
  | panel _ _ hfirst =>
    obtain ⟨_, _, _, -, -, -, _, _, -, -, -, hback⟩ := hfirst
    simp [Moment.kind_of_back hback]
  | item _ _ hfirst =>
    obtain ⟨_, _, _, -, -, -, -, _, _, -, -, -, hback⟩ := hfirst
    rcases Elapsed.kind_of_abbreviatedDate hback with hkind | hkind
    · simp [hkind]
    · simp [hkind]
  | card _ _ hfirst =>
    obtain ⟨_, _, _, -, -, -, -, _, -, -, hresolve⟩ := hfirst
    rcases Link.resolve_eq_error hresolve with hcheck | ⟨-, hcheck⟩
    · simp [Host.kind_of_check hcheck]
    · simp [Host.kind_of_check hcheck]

theorem read_of_postings {document : List Node} (htree : Markup.tree markup = .ok document)
    (h : board.postings clock document = .error fault) {status : Int} (hstatus : isSuccess status = true) :
    board.read clock (.response status (.page markup)) = .error fault := by
  rw [read_page board clock hstatus, document_of_tree htree]
  exact h

theorem Strays.read (h : board.Strays clock markup fault) {status : Int}
    (hstatus : isSuccess status = true) :
    board.read clock (.response status (.page markup)) = .error fault := by
  cases h with
  | rejected htree =>
    rw [read_page board clock hstatus, Board.document, htree]
    rfl
  | panel hlayout htree hfirst =>
    refine read_of_postings htree ?_ hstatus
    rw [Board.postings, hlayout]
    exact hfirst.mapM fun _ hpanel => hpanel.posting board
  | item hlayout htree hfirst =>
    refine read_of_postings htree ?_ hstatus
    rw [Board.postings, hlayout]
    exact hfirst.mapM fun _ hitem => hitem.posting board
  | card hlayout htree hfirst =>
    refine read_of_postings htree ?_ hstatus
    rw [Board.postings, hlayout]
    exact hfirst.mapM fun c hcard => hcard.posting c.2

/-- A board gives postings or fails in its own name, but for the pages on which it strays, and there it always
fails in another way; any other exception of the request passes through as it is. -/
theorem read_unless_strays (board : Board) (clock : Nat → Moment) (reply : Reply) :
    ((∃ postings, board.read clock reply = .ok postings) ∨
      (∃ fault, board.Owns fault ∧ board.read clock reply = .error fault) ∨
      (∃ status markup fault, reply = .response status (.page markup) ∧ isSuccess status = true ∧
        board.Strays clock markup fault) ∨
      ∃ kind message, reply = .broken kind message) ∧
    (∀ kind message, board.read clock (.broken kind message) = .error (.external kind message)) ∧
    ∀ status markup fault, isSuccess status = true → board.Strays clock markup fault →
      board.read clock (.response status (.page markup)) = .error fault ∧
        fault.kind ∈ (["ParserRejectedMarkup", "OverflowError", "ValueError"] : List Text) := by
  refine ⟨?_, fun _ _ => rfl, fun status markup fault hstatus h => ⟨h.read hstatus, h.kind⟩⟩
  cases reply with
  | unreachable reason => exact .inr (.inl ⟨_, ⟨.unreachable _, trivial, rfl⟩, rfl⟩)
  | broken kind message => exact .inr (.inr (.inr ⟨kind, message, rfl⟩))
  | response status body =>
    cases hstatus : isSuccess status with
    | false => exact .inr (.inl ⟨_, ⟨.status status, trivial, rfl⟩, if_neg (by simp [hstatus])⟩)
    | true =>
      cases body with
      | unreadable reason => exact .inr (.inl ⟨_, ⟨.unreadable _, trivial, rfl⟩, if_pos hstatus⟩)
      | page markup =>
        rw [read_page board clock hstatus]
        rcases board.document_cases markup with
          ⟨document, htree, hdocument⟩ | ⟨reason, htree, hdocument⟩ | ⟨fault, hown, hdocument⟩
        · rw [hdocument]
          cases hpostings : board.postings clock document with
          | ok postings => exact .inl ⟨postings, hpostings⟩
          | error fault =>
            rcases fault_of_postings htree hpostings with hown | hstrays
            · exact .inr (.inl ⟨fault, hown, hpostings⟩)
            · exact .inr (.inr (.inl ⟨status, markup, fault, rfl, hstatus, hstrays⟩))
        · exact .inr (.inr (.inl ⟨status, markup, _, rfl, hstatus, .rejected htree⟩))
        · rw [hdocument]
          exact .inr (.inl ⟨fault, hown, rfl⟩)

def ancientPanel : Text :=
  "<div class=\"panel_inner__YQLRW\"><a href=\"/jobs/42\">Engineer</a><a>Gamma</a>".toList ++
    "<span>Lisbon</span><span>999999999 days</span></div>".toList

theorem read_ancientPanel :
    ¬ ∀ (board : Board) (clock : Nat → Moment) (reply : Reply), (∀ kind message, reply ≠ .broken kind message) →
      (∃ postings, board.read clock reply = .ok postings) ∨
        ∃ fault, board.Owns fault ∧ board.read clock reply = .error fault := by
  intro h
  have hread : (Board.ofSite 30 .useWeb3).read (fun _ => ⟨⟨2024, 3, 10⟩, 43200⟩)
      (.response 200 (.page ancientPanel)) = .error .dateBeyondYears := by
    decide +kernel
  rcases h (.ofSite 30 .useWeb3) (fun _ => ⟨⟨2024, 3, 10⟩, 43200⟩) (.response 200 (.page ancientPanel)) nofun with
    ⟨postings, hpostings⟩ | ⟨fault, ⟨cause, -, rfl⟩, hcause⟩
  · rw [hread] at hpostings
    cases hpostings
  · rw [hread] at hcause
    cases hcause

end Board
end JobBoards
