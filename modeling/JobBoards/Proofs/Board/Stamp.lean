import JobBoards.Fetch
import JobBoards.Proofs.Faults
namespace JobBoards

def Board.Stamps (board : Board) (p : Posting) : Prop := p.source = board.name ∧ p.tags.settled = true

namespace Listing
open Markup
variable {board : Board} {now : Moment} {p : Posting}

theorem Rows.stamps {row : Element} (h : posting board row = .ok p) : board.Stamps p := by
  unfold posting at h
  split at h
  · obtain ⟨time, -, h⟩ := Fault.bind_eq_ok.mp h
    obtain rfl := Except.ok.inj h
    exact ⟨rfl, rfl⟩
  · cases h

theorem Panels.stamps {panel : Element} (h : posting board now panel = .ok p) : board.Stamps p := by
  obtain ⟨title, -, h⟩ := Fault.bind_eq_ok.mp h
  obtain ⟨company, -, h⟩ := Fault.bind_eq_ok.mp h
  obtain ⟨place, -, h⟩ := Fault.bind_eq_ok.mp h
  obtain ⟨elapsed, -, h⟩ := Fault.bind_eq_ok.mp h
  obtain ⟨date, -, h⟩ := Fault.bind_eq_ok.mp h
  obtain rfl := Except.ok.inj h
  exact ⟨rfl, rfl⟩

theorem Items.stamps {item : Element} (h : posting board now item = .ok p) : board.Stamps p := by
  obtain ⟨title, -, h⟩ := Fault.bind_eq_ok.mp h
  obtain ⟨company, -, h⟩ := Fault.bind_eq_ok.mp h
  obtain ⟨created, -, h⟩ := Fault.bind_eq_ok.mp h
  obtain ⟨detail, -, h⟩ := Fault.bind_eq_ok.mp h
  obtain ⟨date, -, h⟩ := Fault.bind_eq_ok.mp h
  obtain rfl := Except.ok.inj h
  exact ⟨rfl, rfl⟩

theorem Cards.stamps {card title : Element} (h : posting board card title = .ok p) :
    board.Stamps p := by
  obtain ⟨company, -, h⟩ := Fault.bind_eq_ok.mp h
  obtain ⟨date, -, h⟩ := Fault.bind_eq_ok.mp h
  obtain ⟨link, -, h⟩ := Fault.bind_eq_ok.mp h
  obtain rfl := Except.ok.inj h
  exact ⟨rfl, rfl⟩

end Listing

namespace Board
variable {board : Board} {clock : Nat → Moment}

theorem stamps_of_postings {document : List Markup.Node} {ps : List Posting}
    (h : board.postings clock document = .ok ps) : ∀ p ∈ ps, board.Stamps p := by
  unfold Board.postings at h
  intro p hp
  split at h
  · obtain ⟨row, -, hrow⟩ := Fault.mem_of_mapM h p hp
    exact Listing.Rows.stamps hrow
  · obtain ⟨panel, -, hpanel⟩ := Fault.mem_of_mapM h p hp
    exact Listing.Panels.stamps hpanel
  · obtain ⟨item, -, hitem⟩ := Fault.mem_of_mapM h p hp
    exact Listing.Items.stamps hitem
  · obtain ⟨card, -, hcard⟩ := Fault.mem_of_mapM h p hp
    exact Listing.Cards.stamps hcard

theorem read_page (board : Board) (clock : Nat → Moment) {status : Int} (h : isSuccess status = true)
    (markup : Text) : board.read clock (.response status (.page markup)) =
      board.document markup >>= board.postings clock :=
  if_pos h

theorem stamps_of_read {reply : Reply} {ps : List Posting} (h : board.read clock reply = .ok ps) :
    ∀ p ∈ ps, board.Stamps p := by
  cases reply with
  | unreachable reason => cases h
  | broken kind message => cases h
  | response status body =>
    by_cases hstatus : isSuccess status = true
    · cases body with
      | unreadable reason =>
        rw [Board.read, if_pos hstatus] at h
        cases h
      | page markup =>
        rw [read_page board clock hstatus, Fault.bind_eq_ok] at h
        obtain ⟨document, -, h⟩ := h
        exact stamps_of_postings h
    · have hfails : board.read clock (.response status body) =
          .error (.fetch board.name (.status status)) := if_neg hstatus
      rw [hfails] at h
      cases h

end Board
end JobBoards
