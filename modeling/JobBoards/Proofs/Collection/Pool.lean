import JobBoards.Proofs.Collection.Contribution
import Mathlib.Algebra.BigOperators.Group.List.Basic
import Mathlib.Algebra.GroupWithZero.Nat
import Mathlib.Data.List.Perm.Basic
import Mathlib.Logic.Function.Basic
namespace JobBoards

inductive Future where
  | waiting
  | running (share : Share)
  | done (share : Share)
  deriving DecidableEq, Repr

namespace Future

def share? : Future → Option Share
  | .waiting => none
  | .running share | .done share => some share

def isRunning : Future → Bool
  | .running _ => true
  | _ => false

def written : Future → List Record
  | .done share => share.records
  | _ => []

def turns : Future → Nat
  | .waiting => 1
  | .running _ => 2
  | .done _ => 3

theorem turns_le (f : Future) : f.turns ≤ 3 := by
  cases f <;> simp [turns]

end Future

/-- A collection in progress; sources are told apart by their positions, and each counts its requests. -/
structure Pool where
  futures : List Future
  joined : List Share
  written : List Record
  asked : Nat → Nat

inductive Turn where
  | submit
  | start (i : Nat)
  | finish (i : Nat)
  | join
  deriving DecidableEq, Repr

namespace Pool

def width? (count : Nat) : Option Int → Option Nat
  | none => some count
  | some w => if w = 0 then some count else if 0 < w then some w.toNat else none

theorem width?_of_refused {workers : Option Int} (hw : ∃ w ∈ workers, w < 0) (count : Nat) :
    width? count workers = none := by
  obtain ⟨w, hw, hneg⟩ := hw
  obtain rfl : workers = some w := hw
  simp only [width?, if_neg (show w ≠ 0 by omega), if_neg (show ¬ 0 < w by omega)]

theorem width?_of_workers {workers : Option Int} (hw : ∀ w ∈ workers, 0 ≤ w) (count : Nat) :
    ∃ width, width? count workers = some width ∧ (0 < count → 0 < width) := by
  cases workers with
  | none => exact ⟨count, rfl, id⟩
  | some w =>
    have hw : 0 ≤ w := hw w rfl
    by_cases hzero : w = 0
    · exact ⟨count, if_pos hzero, id⟩
    · have hpos : 0 < w := by omega
      exact ⟨w.toNat, by simp only [width?, if_neg hzero, if_pos hpos], fun _ => by omega⟩

theorem refused_of_width? {workers : Option Int} {count : Nat} (h : width? count workers = none) :
    ∃ w ∈ workers, w < 0 := by
  rcases workers_cases workers with hneg | hw
  · exact hneg
  · obtain ⟨width, hwidth, -⟩ := width?_of_workers hw count
    rw [h] at hwidth
    cases hwidth

theorem workers_of_width? {workers : Option Int} {count width : Nat}
    (h : width? count workers = some width) : ∀ w ∈ workers, 0 ≤ w := by
  rcases workers_cases workers with hneg | hw
  · rw [width?_of_refused hneg] at h
    cases h
  · exact hw

def opened (asked : Nat → Nat) : Pool := ⟨[], [], [], asked⟩

def step? (sources : List Source) (width : Nat) (p : Pool) : Turn → Option Pool
  | .submit =>
      if p.futures.length < sources.length then
        some { p with futures := p.futures ++ [.waiting] }
      else none
  | .start i =>
      match p.futures[i]?, sources[i]? with
      | some .waiting, some source =>
          if p.futures.countP Future.isRunning < width then
            some { p with
              futures := p.futures.set i (.running (source.share (p.asked i)))
              asked := Function.update p.asked i (p.asked i + 1) }
          else none
      | _, _ => none
  | .finish i =>
      match p.futures[i]? with
      | some (.running share) =>
          some { p with
            futures := p.futures.set i (.done share)
            written := p.written ++ share.records }
      | _ => none
  | .join =>
      if p.futures.length = sources.length then
        match p.futures[p.joined.length]? with
        | some (.done share) => some { p with joined := p.joined ++ [share] }
        | _ => none
      else none

def run? (sources : List Source) (width : Nat) (p : Pool) (schedule : List Turn) : Option Pool :=
  schedule.foldlM (step? sources width) p

def isFinished (sources : List Source) (p : Pool) : Bool := p.joined.length == sources.length

def outcome (filter : Option Filter) (p : Pool) : Except Fault Collected :=
  Collected.join filter p.joined p.written

theorem step?_cases {sources : List Source} {width : Nat} {p q : Pool} {turn : Turn}
    (h : step? sources width p turn = some q) :
    (turn = .submit ∧ p.futures.length < sources.length ∧
      q = { p with futures := p.futures ++ [.waiting] }) ∨
    (∃ i source, turn = .start i ∧ p.futures[i]? = some .waiting ∧ sources[i]? = some source ∧
      p.futures.countP Future.isRunning < width ∧
      q = { p with
        futures := p.futures.set i (.running (source.share (p.asked i)))
        asked := Function.update p.asked i (p.asked i + 1) }) ∨
    (∃ i share, turn = .finish i ∧ p.futures[i]? = some (.running share) ∧
      q = { p with
        futures := p.futures.set i (.done share)
        written := p.written ++ share.records }) ∨
    (∃ share, turn = .join ∧ p.futures.length = sources.length ∧
      p.futures[p.joined.length]? = some (.done share) ∧
      q = { p with joined := p.joined ++ [share] }) := by
  cases turn with
  | submit =>
    simp only [step?] at h
    split at h
    · rename_i hlt
      exact .inl ⟨rfl, hlt, (Option.some.inj h).symm⟩
    · cases h
  | start i =>
    simp only [step?] at h
    split at h
    · rename_i source hf hs
      split at h
      · rename_i hw
        exact .inr (.inl ⟨i, source, rfl, hf, hs, hw, (Option.some.inj h).symm⟩)
      · cases h
    · cases h
  | finish i =>
    simp only [step?] at h
    split at h
    · rename_i share hf
      exact .inr (.inr (.inl ⟨i, share, rfl, hf, (Option.some.inj h).symm⟩))
    · cases h
  | join =>
    simp only [step?] at h
    split at h
    · rename_i hlen
      split at h
      · rename_i share hf
        exact .inr (.inr (.inr ⟨share, rfl, hlen, hf, (Option.some.inj h).symm⟩))
      · cases h
    · cases h

end Pool
end JobBoards
