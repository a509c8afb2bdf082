import JobBoards.Proofs.Collection.Schedule
import JobBoards.Proofs.Repository.Refresh
namespace JobBoards

/-- One whole collection by workers: how often each source was asked before it, what it comes to, and
how often each source has been asked after it. -/
inductive Collects (sources : List Source) (filter : Option Filter) (workers : Option Int) :
    (Nat → Nat) → Except Fault Collected → (Nat → Nat) → Prop
  | nothing {asked : Nat → Nat} (hs : sources = []) :
      Collects sources filter workers asked (.ok .empty) asked
  | refused {asked : Nat → Nat} (hs : sources ≠ [])
      (hwidth : Pool.width? sources.length workers = none) :
      Collects sources filter workers asked (.error .noWorkers) asked
  | pooled {asked : Nat → Nat} {width : Nat} {schedule : List Turn} {p : Pool} (hs : sources ≠ [])
      (hwidth : Pool.width? sources.length workers = some width)
      (hrun : Pool.run? sources width (Pool.opened asked) schedule = some p)
      (hfinished : p.isFinished sources = true) :
      Collects sources filter workers asked (p.outcome filter) p.asked

namespace Collects
variable {sources : List Source} {filter : Option Filter} {workers : Option Int}
  {before after : Nat → Nat} {result : Except Fault Collected} {round : Nat}

theorem published_eq (h : Collects sources filter workers before result after)
    (hbefore : ∀ i < sources.length, before i = round) :
    result.map Collected.published =
      (collect sources filter workers round).map Collected.published := by
  cases h with
  | nothing hs =>
    subst hs
    rfl
  | refused hs hwidth => rw [collect_refused hs (Pool.refused_of_width? hwidth)]
  | pooled hs hwidth hrun hfinished =>
    obtain ⟨hjoined, -, -⟩ := ((Pool.sound_opened hbefore).run hrun).finished hfinished
    rw [collect_of_workers hs (Pool.workers_of_width? hwidth), Pool.outcome, hjoined,
      Collected.map_published_join, Collected.map_published_join]

theorem asked_eq (h : Collects sources filter workers before result after)
    (hbefore : ∀ i < sources.length, before i = round) :
    ∀ i < sources.length,
      after i = if !workers.any (decide <| · < 0) then round + 1 else round := by
  intro i hi
  cases h with
  | nothing hs =>
    subst hs
    cases hi
  | refused hs hwidth =>
    rw [any_of_refused (Pool.refused_of_width? hwidth)]
    exact hbefore i hi
  | pooled hs hwidth hrun hfinished =>
    obtain ⟨-, -, hasked⟩ := ((Pool.sound_opened hbefore).run hrun).finished hfinished
    rw [any_of_workers (Pool.workers_of_width? hwidth)]
    exact hasked i hi

theorem exists_of_asked (sources : List Source) (filter : Option Filter) (workers : Option Int)
    (hbefore : ∀ i < sources.length, before i = round) :
    ∃ result after, Collects sources filter workers before result after := by
  by_cases hs : sources = []
  · exact ⟨_, _, .nothing hs⟩
  rcases workers_cases workers with hneg | hw
  · exact ⟨_, _, .refused hs (Pool.width?_of_refused hneg _)⟩
  · obtain ⟨width, hwidth, hpos⟩ := Pool.width?_of_workers hw sources.length
    obtain ⟨schedule, p, hrun, hfinished⟩ :=
      (Pool.sound_opened hbefore).exists_finish (hpos (List.length_pos_iff.mpr hs))
    exact ⟨_, _, .pooled hs hwidth hrun hfinished⟩

end Collects

namespace Repository

/-- Refreshes one after the other: how many there were, what readers see after them, and how often each
source has been asked. -/
inductive Runs (r : Repository) : Nat → Snapshot → (Nat → Nat) → Prop
  | start : Runs r 0 r.snapshot fun _ => r.rounds
  | publish {k : Nat} {s : Snapshot} {before after : Nat → Nat} {c : Collected}
      (hrun : Runs r k s before)
      (hc : Collects r.sources r.filter r.workers before (.ok c) after) :
      Runs r (k + 1) (.ofCollected r.rules c) after
  | keep {k : Nat} {s : Snapshot} {before after : Nat → Nat} {fault : Fault}
      (hrun : Runs r k s before)
      (hc : Collects r.sources r.filter r.workers before (.error fault) after) :
      Runs r (k + 1) s after

section Runs
variable {r : Repository} {k : Nat} {s : Snapshot} {before after : Nat → Nat}

theorem asked_after_succ {result : Except Fault Collected}
    (hc : Collects r.sources r.filter r.workers before result after)
    (hbefore : ∀ i < r.sources.length, before i = (r.after k).rounds) :
    ∀ i < r.sources.length, after i = (r.after (k + 1)).rounds := by
  intro i hi
  have hs : r.sources ≠ [] := List.ne_nil_of_length_pos (Nat.zero_lt_of_lt hi)
  rw [hc.asked_eq hbefore i hi, r.rounds_after_succ hs k]
  rfl

theorem snapshot_publish {c : Collected}
    (hc : Collects r.sources r.filter r.workers before (.ok c) after)
    (hbefore : ∀ i < r.sources.length, before i = (r.after k).rounds) :
    (r.after (k + 1)).snapshot = .ofCollected r.rules c :=
  r.snapshot_after_succ_of_published (hc.published_eq hbefore)

theorem snapshot_keep {fault : Fault}
    (hc : Collects r.sources r.filter r.workers before (.error fault) after)
    (hbefore : ∀ i < r.sources.length, before i = (r.after k).rounds) :
    (r.after (k + 1)).snapshot = (r.after k).snapshot := by
  have hresult := hc.published_eq hbefore
  rcases r.after_succ_cases k with ⟨d, hd, -, -⟩ | ⟨_, -, -, hsnapshot, -⟩
  · rw [hd] at hresult
    cases hresult
  · exact hsnapshot

theorem Runs.agrees (h : r.Runs k s after) :
    s = (r.after k).snapshot ∧ ∀ i < r.sources.length, after i = (r.after k).rounds := by
  induction h with
  | start => exact ⟨rfl, fun _ _ => rfl⟩
  | publish _ hc ih =>
    obtain ⟨-, hbefore⟩ := ih
    exact ⟨(snapshot_publish hc hbefore).symm, asked_after_succ hc hbefore⟩
  | keep _ hc ih =>
    obtain ⟨hs, hbefore⟩ := ih
    exact ⟨hs.trans (snapshot_keep hc hbefore).symm, asked_after_succ hc hbefore⟩

end Runs

theorem exists_run (r : Repository) (k : Nat) : ∃ s asked, r.Runs k s asked := by
  induction k with
  | zero => exact ⟨_, _, .start⟩
  | succ k ih =>
    obtain ⟨s, before, hrun⟩ := ih
    obtain ⟨result, after, hc⟩ :=
      Collects.exists_of_asked r.sources r.filter r.workers hrun.agrees.2
    cases result with
    | ok c => exact ⟨_, _, .publish hrun hc⟩
    | error fault => exact ⟨_, _, .keep hrun hc⟩

theorem refresh_publishes_own_round_or_nothing (sources : List Source) (filter : Option Filter)
    (rules : Rules) (workers : Option Int) (k : Nat) :
    let r := new sources filter rules workers
    (sources ≠ [] → (∃ w ∈ workers, w < 0) →
      (∃ fault, (r.after k).refresh.2 = .error fault ∧ fault.kind = "ValueError".toList) ∧
      (r.after k).rounds = 0 ∧ (r.after k).snapshot = .empty) ∧
    ((∀ j < k, ¬ (r.after j).Fails) →
      (r.after k).rounds = k ∧
      ∀ j, k = j + 1 → (r.after k).snapshot = (r.only j).refresh.1.snapshot) ∧
    (∀ j < k, ¬ (r.after j).Fails → (∀ i, j < i → i < k → (r.after i).Fails) →
      ¬ (r.only j).Fails ∧ (r.after k).snapshot = (r.only j).refresh.1.snapshot) ∧
    ((∀ j < k, (r.after j).Fails) → (r.after k).snapshot = .empty) ∧
    ((r.after k).Fails → (r.after (k + 1)).snapshot = (r.after k).snapshot) ∧
    ((r.after k).Fails ↔
      (sources ≠ [] ∧ ∃ w ∈ workers, w < 0) ∨
        ∃ f ∈ filter, ∃ p ∈ sources.flatMap (Source.contribution k), ∃ fault,
          f p = .error fault) ∧
    (∀ s asked, r.Runs k s asked →
      s = (r.after k).snapshot ∧ ∀ i < sources.length, asked i = (r.after k).rounds) ∧
    ∃ s asked, r.Runs k s asked := by
  intro r
  have hstart (j : Nat) : r.rounds + j = j := Nat.zero_add j
  have hlast {j : Nat} (hjk : j < k) (hj : ¬ (r.after j).Fails)
      (hfails : ∀ i, j < i → i < k → (r.after i).Fails) :
      ¬ (r.only j).Fails ∧ (r.after k).snapshot = (r.only j).refresh.1.snapshot := by
    have h := r.snapshot_after_of_last hjk hj hfails
    rwa [hstart] at h
  refine ⟨?_, ?_, fun j hjk hj hfails => hlast hjk hj hfails, ?_,
    r.snapshot_after_succ_of_fails, ?_, fun s asked h => h.agrees, r.exists_run k⟩
  · intro hs hneg
    obtain ⟨hrefresh, hrounds, hsnapshot⟩ := r.after_refused hs hneg k
    exact ⟨⟨.noWorkers, hrefresh, rfl⟩, hrounds, hsnapshot⟩
  · intro hall
    constructor
    · exact (r.rounds_after_of_not_fails hall).trans (hstart k)
    · rintro j rfl
      have hj : j < j + 1 := Nat.lt_succ_self j
      have hnone (i : Nat) (hji : j < i) (hij : i < j + 1) : (r.after i).Fails :=
        absurd hji (Nat.not_lt.mpr (Nat.le_of_lt_succ hij))
      exact (hlast hj (hall j hj) hnone).2
  · intro hall
    exact r.snapshot_after_of_fails (Nat.zero_le k) fun i _ hik => hall i hik
  · rw [r.fails_after_iff k, r.collect_after k, hstart]
    exact collect_error_iff sources filter workers k

end Repository
end JobBoards
