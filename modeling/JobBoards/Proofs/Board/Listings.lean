import JobBoards.Listing.Items
import JobBoards.Listing.Panels
import JobBoards.Listing.Rows
import JobBoards.Proofs.Board.Dates
import JobBoards.Proofs.Board.Links
namespace JobBoards

def FetchCause.IsTyped : FetchCause → Prop
  | .general _ => False
  | _ => True

namespace Board
variable {board : Board} {fault : Fault}

def Owns (board : Board) (fault : Fault) : Prop :=
  ∃ cause : FetchCause, cause.IsTyped ∧ fault = .fetch board.name cause

def Misses (board : Board) (fault : Fault) : Prop := ∃ field, fault = .fetch board.name (.missing field)

theorem Misses.owns (h : board.Misses fault) : board.Owns fault := by
  obtain ⟨field, rfl⟩ := h
  exact ⟨.missing field, trivial, rfl⟩

theorem misses_or_of_require {α β : Type} {field : Text} {part : Option α} {f : α → Except Fault β}
    (h : (board.require field part >>= f) = .error fault) :
    board.Misses fault ∨ ∃ a, part = some a ∧ f a = .error fault := by
  cases part with
  | none => exact .inl ⟨field, (Except.error.inj h).symm⟩
  | some a => exact .inr ⟨a, rfl, h⟩

end Board

namespace Listing
open Markup
variable {board : Board} {now : Moment} {fault : Fault}

def First {α : Type} (read : α → Except Fault Posting) (listings : List α) (p : α → Prop) : Prop :=
  ∃ before a after, listings = before ++ a :: after ∧ (∀ x ∈ before, ∃ b, read x = .ok b) ∧ p a

namespace Rows

theorem fault_of_posting {row : Element} (h : posting board row = .error fault) :
    board.Misses fault := by
  unfold posting at h
  split at h
  · rcases Board.misses_or_of_require h with hmisses | ⟨time, -, h⟩
    · exact hmisses
    · cases h
  · exact ⟨_, (Except.error.inj h).symm⟩

end Rows

namespace Panels

def Strays (now : Moment) (panel : Element) (fault : Fault) : Prop :=
  2 ≤ (panel.select anchors).length ∧
    ∃ mark s, (panel.select spans)[1]? = some mark ∧ Elapsed.named? mark.text = some s ∧
      ¬ now.Reaches s ∧ now.back s = .error fault

theorem fault_of_posting {panel : Element} (h : posting board now panel = .error fault) :
    board.Misses fault ∨ Strays now panel fault := by
  rcases Board.misses_or_of_require h with hmisses | ⟨title, -, h⟩
  · exact .inl hmisses
  rcases Board.misses_or_of_require h with hmisses | ⟨company, hcompany, h⟩
  · exact .inl hmisses
  rcases Board.misses_or_of_require h with hmisses | ⟨place, -, h⟩
  · exact .inl hmisses
  rcases Board.misses_or_of_require h with hmisses | ⟨mark, hmark, h⟩
  · exact .inl hmisses
  rcases Fault.bind_eq_error.mp h with hdate | ⟨_, -, h⟩
  · obtain ⟨hlength, -⟩ := List.getElem?_eq_some_iff.mp hcompany
    obtain ⟨s, hs, hback⟩ := Elapsed.date_eq_error.mp hdate
    exact .inr ⟨hlength, mark, s, hmark, hs, (now.back_error_iff s).mp ⟨fault, hback⟩, hback⟩
  · cases h

theorem Strays.posting {panel : Element} (h : Strays now panel fault) (board : Board) :
    posting board now panel = .error fault := by
  obtain ⟨hlength, mark, s, hmark, hs, -, hback⟩ := h
  obtain ⟨hmarks, -⟩ := List.getElem?_eq_some_iff.mp hmark
  have hdate : Elapsed.date now mark.text = .error fault := Elapsed.date_eq_error.mpr ⟨s, hs, hback⟩
  have htitle := List.getElem?_eq_getElem (Nat.lt_of_succ_lt hlength)
  have hcompany := List.getElem?_eq_getElem hlength
  have hplace := List.getElem?_eq_getElem (Nat.lt_of_succ_lt hmarks)
  simp only [Panels.posting, htitle, hcompany, hplace, hmark, Board.require, hdate, ok_bind, error_bind]

end Panels

namespace Items

def Strays (now : Moment) (item : Element) (fault : Fault) : Prop :=
  2 ≤ (item.select anchors).length ∧ (item.first? (insideTwoSpans "span")).isSome ∧
    ∃ created p, item.first? (.one (.ofClass "span" "JobPreviewInline_createdAt__wbWS0")) = some created ∧
      Elapsed.abbreviated? created.text = some p ∧
      (Text.Digit.limit < p.1 ∨ ¬ now.Reaches p.2) ∧ Elapsed.abbreviatedDate now p.1 p.2 = .error fault

theorem fault_of_posting {item : Element} (h : posting board now item = .error fault) :
    board.Misses fault ∨ Strays now item fault := by
  rcases Board.misses_or_of_require h with hmisses | ⟨title, -, h⟩
  · exact .inl hmisses
  rcases Board.misses_or_of_require h with hmisses | ⟨company, hcompany, h⟩
  · exact .inl hmisses
  rcases Board.misses_or_of_require h with hmisses | ⟨created, hcreated, h⟩
  · exact .inl hmisses
  rcases Board.misses_or_of_require h with hmisses | ⟨detail, hdetail, h⟩
  · exact .inl hmisses
  rcases Fault.bind_eq_error.mp h with hdate | ⟨_, -, h⟩
  · obtain ⟨hlength, -⟩ := List.getElem?_eq_some_iff.mp hcompany
    obtain ⟨p, hp, hback⟩ := Elapsed.shortDate_eq_error.mp hdate
    have hwhy := (Elapsed.abbreviatedDate_error_iff now p.1 p.2).mp ⟨fault, hback⟩
    refine .inr ⟨hlength, ?_, created, p, hcreated, hp, hwhy, hback⟩
    rw [hdetail]
    rfl
  · cases h

theorem Strays.posting {item : Element} (h : Strays now item fault) (board : Board) :
    posting board now item = .error fault := by
  obtain ⟨hlength, hdetail, created, p, hcreated, hp, -, hback⟩ := h
  obtain ⟨detail, hdetail⟩ := Option.isSome_iff_exists.mp hdetail
  have hdate : Elapsed.shortDate now created.text = .error fault :=
    Elapsed.shortDate_eq_error.mpr ⟨p, hp, hback⟩
  have htitle := List.getElem?_eq_getElem (Nat.lt_of_succ_lt hlength)
  have hcompany := List.getElem?_eq_getElem hlength
  simp only [Items.posting, htitle, hcompany, hcreated, hdetail, Board.require, hdate, ok_bind, error_bind]

end Items

namespace Cards

def Strays (board : Board) (card : Element) (fault : Fault) : Prop :=
  (card.first? (.one (.withValue "meta" "itemprop" "name"))).isSome ∧
    (card.first? (.one (.withValue "meta" "itemprop" "datePosted"))).isSome ∧
    ∃ anchor, card.first? (.one (.having "a" "href")) = some anchor ∧
      (anchor.value "href").head? = some '/' ∧
      Link.resolve board.address (anchor.value "href") = .error fault

def titled (document : List Node) : List (Element × Element) :=
  (selectAll selector [] document).filterMap fun card => (title? card).map fun title => (card, title)

theorem link_eq_error {card : Element} :
    link board card = .error fault ↔ ∃ anchor, card.first? (.one (.having "a" "href")) = some anchor ∧
      (anchor.value "href").head? = some '/' ∧
      Link.resolve board.address (anchor.value "href") = .error fault := by
  unfold link
  cases card.first? (.one (.having "a" "href")) with
  | none => simp
  | some anchor =>
    simp only [Option.map_some, Option.getD_some, Option.some.injEq, exists_eq_left']
    split
    · rename_i hslash
      simp only [hslash, true_and]
    · rename_i hslash
      simp only [hslash, false_and, reduceCtorEq]

theorem fault_of_posting {card title : Element} (h : posting board card title = .error fault) :
    board.Misses fault ∨ Strays board card fault := by
  rcases Board.misses_or_of_require h with hmisses | ⟨company, hcompany, h⟩
  · exact .inl hmisses
  rcases Board.misses_or_of_require h with hmisses | ⟨date, hdate, h⟩
  · exact .inl hmisses
  rcases Fault.bind_eq_error.mp h with hlink | ⟨_, -, h⟩
  · refine .inr ⟨?_, ?_, link_eq_error.mp hlink⟩
    · rw [hcompany]
      rfl
    · rw [hdate]
      rfl
  · cases h

theorem Strays.posting {card : Element} (h : Strays board card fault) (title : Element) :
    posting board card title = .error fault := by
  obtain ⟨hcompany, hdate, hlink⟩ := h
  obtain ⟨company, hcompany⟩ := Option.isSome_iff_exists.mp hcompany
  obtain ⟨date, hdate⟩ := Option.isSome_iff_exists.mp hdate
  have hlink : link board card = .error fault := link_eq_error.mpr hlink
  simp only [Cards.posting, hcompany, hdate, Board.require, hlink, ok_bind, error_bind]

end Cards

theorem first_of_mapM {α : Type} {read : α → Except Fault Posting} {listings : List α}
    (h : listings.mapM read = .error fault) : First read listings fun a => read a = .error fault :=
  Fault.mapM_eq_error.mp h

theorem First.mapM {α : Type} {read : α → Except Fault Posting} {listings : List α} {p : α → Prop}
    (h : First read listings p) (hp : ∀ a, p a → read a = .error fault) :
    listings.mapM read = .error fault := by
  obtain ⟨before, a, after, hlistings, hbefore, ha⟩ := h
  exact Fault.mapM_eq_error.mpr ⟨before, a, after, hlistings, hbefore, hp a ha⟩

theorem First.own_or {α : Type} {read : α → Except Fault Posting} {listings : List α} {own : Prop} {p : α → Prop}
    (h : First read listings fun a => read a = .error fault)
    (hp : ∀ a, read a = .error fault → own ∨ p a) : own ∨ First read listings p := by
  obtain ⟨before, a, after, hlistings, hbefore, ha⟩ := h
  rcases hp a ha with hmisses | hstray
  · exact .inl hmisses
  · exact .inr ⟨before, a, after, hlistings, hbefore, hstray⟩

section ReadEach
variable {α β : Type} {clock : Nat → Moment} {read : Moment → α → Except Fault β} {listings : List α}

@[simp] theorem readEach_const (clock : Nat → Moment) (read : α → Except Fault β) (listings : List α) :
    readEach clock (fun _ => read) listings = listings.mapM read := by
  conv => rhs; rw [← List.zipIdx_map_fst 0 listings, List.mapM_map]
  rfl

theorem readEach_eq_ok {made : List β} : readEach clock read listings = .ok made ↔
    List.Forall₂ (fun l b => read (clock l.2) l.1 = .ok b) listings.zipIdx made :=
  Fault.mapM_eq_ok

theorem forall₂_of_readEach {made : List β} {r : α → β → Prop} (h : readEach clock read listings = .ok made)
    (hr : ∀ now a b, read now a = .ok b → r a b) : List.Forall₂ r listings made := by
  rw [← List.zipIdx_map_fst 0 listings, List.forall₂_map_left_iff]
  exact (readEach_eq_ok.mp h).imp fun l b hread => hr _ _ _ hread

theorem readEach_eq_error {fault : Fault} : readEach clock read listings = .error fault ↔
    ∃ before a after, listings = before ++ a :: after ∧
      (∀ l ∈ before.zipIdx, ∃ b, read (clock l.2) l.1 = .ok b) ∧ read (clock before.length) a = .error fault := by
  have hsplit (before : List α) (a : α) (after : List α) : (before ++ a :: after).zipIdx =
      before.zipIdx ++ (a, before.length) :: after.zipIdx (before.length + 1) := by
    rw [List.zipIdx_append, List.zipIdx_cons, Nat.zero_add]
  rw [readEach, Fault.mapM_eq_error]
  constructor
  · rintro ⟨before, a, after, hlistings, hbefore, ha⟩
    have hfst : listings = before.map Prod.fst ++ a.1 :: after.map Prod.fst := by
      rw [← List.zipIdx_map_fst 0 listings, hlistings, List.map_append, List.map_cons]
    have hindexed := hsplit (before.map Prod.fst) a.1 (after.map Prod.fst)
    rw [← hfst, hlistings] at hindexed
    obtain ⟨hzip, hrest⟩ := List.append_inj hindexed (by simp)
    have hplace : a = (a.1, (before.map Prod.fst).length) := (List.cons.inj hrest).1
    refine ⟨before.map Prod.fst, a.1, after.map Prod.fst, hfst, ?_, ?_⟩
    · rwa [← hzip]
    · rwa [hplace] at ha
  · rintro ⟨before, a, after, rfl, hbefore, ha⟩
    exact ⟨before.zipIdx, (a, before.length), after.zipIdx (before.length + 1), hsplit before a after, hbefore, ha⟩

end ReadEach

end Listing
end JobBoards
