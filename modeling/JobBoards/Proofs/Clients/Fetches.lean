import JobBoards.Proofs.Clients.Service
import Mathlib.Data.List.Perm.Basic
namespace JobBoards

section Answered
variable {α : Type}

def answered (n : Nat) (answers : List (Option α)) : List (α × Nat) :=
  (answers.zipIdx n).filterMap fun p => p.1.map fun a => (a, p.2)

theorem answered_cons (n : Nat) (answer : Option α) (answers : List (Option α)) :
    answered n (answer :: answers) =
      (answer.map fun a => (a, n)).toList ++ answered (n + 1) answers := by
  cases answer <;> simp [answered]

theorem answered_set {answers : List (Option α)} {i : Nat} (h : answers[i]? = some none) (a : α)
    (n : Nat) :
    (answered n (answers.set i (some a))).Perm (answered n answers ++ [(a, n + i)]) := by
  induction answers generalizing n i with
  | nil => cases h
  | cons answer answers ih =>
    cases i with
    | zero =>
      obtain rfl : answer = none := Option.some.inj h
      rw [List.set_cons_zero, answered_cons, answered_cons]
      exact List.perm_append_comm
    | succ i =>
      rw [List.set_cons_succ, answered_cons, answered_cons, List.append_assoc]
      have hrest := ih h (n + 1)
      rw [Nat.add_right_comm] at hrest
      exact hrest.append_left _

@[simp] theorem answered_map_some (n : Nat) (answers : List α) :
    answered n (answers.map some) = answers.zipIdx n := by
  induction answers generalizing n with
  | nil => rfl
  | cons a answers ih =>
    rw [List.map_cons, answered_cons, ih]
    rfl

@[simp] theorem answered_none {β : Type} (n : Nat) (l : List β) :
    answered n (l.map fun _ => (none : Option α)) = [] := by
  induction l generalizing n with
  | nil => rfl
  | cons b l ih =>
    rw [List.map_cons, answered_cons, ih]
    rfl

end Answered

namespace Event

def locked? : Event → Option Nat
  | .locked turn _ => some turn
  | _ => none

def fetchedIn? (turn : Nat) : Event → Option (Share × Nat)
  | .fetched k i share => if k = turn then some (share, i) else none
  | _ => none

def fetches (turn : Nat) (log : List Event) : List (Share × Nat) := log.filterMap (fetchedIn? turn)

theorem filterMap_concat {α : Type} (f : Event → Option α) (log : List Event) (x : Event) :
    (log ++ [x]).filterMap f = log.filterMap f ++ (f x).toList := by
  rw [List.filterMap_append]
  cases h : f x with
  | none => rw [List.filterMap_cons_none h, List.filterMap_nil, Option.toList_none]
  | some a => rw [List.filterMap_cons_some h, List.filterMap_nil, Option.toList_some]

@[simp] theorem fetches_concat (turn : Nat) (log : List Event) (x : Event) :
    fetches turn (log ++ [x]) = fetches turn log ++ (x.fetchedIn? turn).toList :=
  filterMap_concat (fetchedIn? turn) log x

theorem fetches_silent {x : Event} {turn : Nat} (hx : x.fetchedIn? turn = none) (log : List Event) :
    fetches turn (log ++ [x]) = fetches turn log := by
  rw [fetches_concat, hx, Option.toList_none, List.append_nil]

end Event

namespace Service

structure Fetched (log : List Event) (s : Service) : Prop where
  held : ∀ h, s.holder = some h → (Event.fetches h.turn log).Perm (answered 0 h.shares)
  later : ∀ turn, s.begun ≤ turn → Event.fetches turn log = []

theorem Fetched.silent {log : List Event} {s s' : Service} {x : Event} (h : s.Fetched log)
    (hx : ∀ turn, x.fetchedIn? turn = none) (hbegun : s'.begun = s.begun)
    (hheld : ∀ h', s'.holder = some h' →
      ∃ h, s.holder = some h ∧ h'.turn = h.turn ∧ h'.shares = h.shares) :
    s'.Fetched (log ++ [x]) := by
  refine ⟨?_, ?_⟩
  · intro h' hh'
    obtain ⟨h₀, hh, hturn, hshares⟩ := hheld h' hh'
    rw [Event.fetches_silent (hx _), hturn, hshares]
    exact h.held h₀ hh
  · intro turn hle
    rw [Event.fetches_silent (hx turn)]
    exact h.later turn (hbegun ▸ hle)

end Service

namespace Served
variable {r : Repository} {log : List Event} {s : Service}

theorem turns (h : Served r log s) : log.filterMap Event.locked? = List.range s.begun := by
  induction h with
  | opened => rfl
  | lock client _ _ ih =>
    rw [Event.filterMap_concat, ih, List.range_succ]
    rfl
  | _ =>
    rename_i ih
    rw [Event.filterMap_concat, ih]
    exact List.append_nil _

theorem fetched (h : Served r log s) : s.Fetched log := by
  induction h with
  | opened =>
    refine ⟨?_, fun _ _ => rfl⟩
    intro h hh
    cases hh
  | @lock _ s client _ _ ih =>
    refine ⟨?_, ?_⟩
    · intro h hh
      obtain rfl := Option.some.inj hh
      rw [Event.fetches_concat, Refreshing.opened, ih.later s.begun (Nat.le_refl _), answered_none]
      exact .nil
    · intro turn hle
      rw [Event.fetches_concat, ih.later turn (Nat.le_of_succ_le hle)]
      rfl
  | @fetch _ s h i source hrun hholder _ _ _ hnew ih =>
    refine ⟨?_, ?_⟩
    · intro h' hh
      obtain rfl := Option.some.inj hh
      have hnow : (Event.fetched h.turn i (source.share (s.asked i))).fetchedIn? h.turn =
          some (source.share (s.asked i), i) := if_pos rfl
      have hset := (answered_set hnew (source.share (s.asked i)) 0).symm
      rw [Nat.zero_add] at hset
      simp only [Refreshing.receive, Event.fetches_concat, hnow, Option.toList_some]
      exact ((ih.held h hholder).append_right _).trans hset
    · intro turn hle
      have hbegun := (hrun.sound.held h hholder).begun_eq
      have hother : (Event.fetched h.turn i (source.share (s.asked i))).fetchedIn? turn = none := by
        refine if_neg fun hturn => ?_
        simp only at hle
        omega
      rw [Event.fetches_concat, ih.later turn hle, hother]
      rfl
  | publish _ hholder _ _ ih =>
    refine ih.silent (fun _ => rfl) rfl fun h' hh => ⟨_, hholder, ?_⟩
    obtain rfl := Option.some.inj hh
    exact ⟨rfl, rfl⟩
  | fail _ hholder _ _ ih =>
    refine ih.silent (fun _ => rfl) rfl fun h' hh => ⟨_, hholder, ?_⟩
    obtain rfl := Option.some.inj hh
    exact ⟨rfl, rfl⟩
  | unlock _ _ _ ih => exact ih.silent (fun _ => rfl) rfl (by simp)
  | read _ _ _ ih => exact ih.silent (fun _ => rfl) rfl fun h hh => ⟨h, hh, rfl, rfl⟩

end Served
end JobBoards
