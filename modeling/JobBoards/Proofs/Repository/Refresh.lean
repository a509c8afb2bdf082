import JobBoards.Proofs.Collection.Contribution
import JobBoards.Proofs.Repository.Rounds
namespace JobBoards.Repository
variable (r : Repository)

def Fails : Prop := ∃ fault, r.refresh.2 = .error fault

def only (round : Nat) : Repository :=
  .new (r.sources.map (Source.only round)) r.filter r.rules r.workers

theorem fails_iff :
    r.Fails ↔ ∃ fault, collect r.sources r.filter r.workers r.rounds = .error fault := by
  unfold Fails
  rcases r.refresh_cases with ⟨c, hc, hr⟩ | ⟨fault, hc, hr⟩
  · rw [hc, hr]
    simp
  · rw [hc, hr]
    constructor
    · intro _
      exact ⟨fault, rfl⟩
    · intro _
      exact ⟨fault, rfl⟩

theorem fails_after_iff (k : Nat) :
    (r.after k).Fails ↔
      ∃ fault, collect r.sources r.filter r.workers (r.after k).rounds = .error fault := by
  obtain ⟨snapshot, rounds, hk⟩ := r.after_setup k
  rw [hk]
  exact fails_iff _

theorem asksSources_of_workers {r : Repository} (hw : ∀ w ∈ r.workers, 0 ≤ w) :
    r.asksSources = true := by
  rw [asksSources, any_of_workers hw]
  rfl

theorem asksSources_of_refused {r : Repository} (hw : ∃ w ∈ r.workers, w < 0) :
    r.asksSources = false := by
  rw [asksSources, any_of_refused hw]
  rfl

theorem workers_of_asksSources {r : Repository} (hasks : r.asksSources = true) :
    ∀ w ∈ r.workers, 0 ≤ w := by
  rcases workers_cases r.workers with hneg | hw
  · rw [asksSources_of_refused hneg] at hasks
    cases hasks
  · exact hw

theorem refused_of_asksSources {r : Repository} (hasks : r.asksSources = false) :
    ∃ w ∈ r.workers, w < 0 := by
  rcases workers_cases r.workers with hneg | hw
  · exact hneg
  · rw [asksSources_of_workers hw] at hasks
    cases hasks

theorem rounds_after_succ (hs : r.sources ≠ []) (k : Nat) :
    (r.after (k + 1)).rounds =
      if r.asksSources then (r.after k).rounds + 1 else (r.after k).rounds := by
  rcases r.after_succ_cases k with ⟨c, hc, -, hrounds⟩ | ⟨fault, -, -, -, hrounds⟩
  · rcases workers_cases r.workers with hneg | hw
    · rw [collect_refused hs hneg] at hc
      cases hc
    · rw [hrounds, asksSources_of_workers hw, if_pos rfl]
  · exact hrounds

theorem rounds_after (hs : r.sources ≠ []) (hw : ∀ w ∈ r.workers, 0 ≤ w) (k : Nat) :
    (r.after k).rounds = r.rounds + k := by
  induction k with
  | zero => rfl
  | succ k ih => rw [r.rounds_after_succ hs k, asksSources_of_workers hw, if_pos rfl, ih, Nat.add_assoc]

theorem rounds_after_refused (hs : r.sources ≠ []) (hw : ∃ w ∈ r.workers, w < 0) (k : Nat) :
    (r.after k).rounds = r.rounds := by
  induction k with
  | zero => rfl
  | succ k ih =>
    rw [r.rounds_after_succ hs k, asksSources_of_refused hw, ih]
    rfl

theorem rounds_after_of_not_fails {k : Nat} (h : ∀ j < k, ¬ (r.after j).Fails) :
    (r.after k).rounds = r.rounds + k := by
  induction k with
  | zero => rfl
  | succ k ih =>
    have hk := ih fun j hj => h j (Nat.lt_succ_of_lt hj)
    rcases r.after_succ_cases k with ⟨c, -, -, hrounds⟩ | ⟨fault, -, hfault, -, -⟩
    · rw [hrounds, hk, Nat.add_assoc]
    · exact absurd ⟨fault, hfault⟩ (h k (Nat.lt_succ_self k))

/-- A refresh collects the batches of its own round, whatever came of the refreshes before it. -/
theorem collect_after (k : Nat) :
    collect r.sources r.filter r.workers (r.after k).rounds =
      collect r.sources r.filter r.workers (r.rounds + k) := by
  by_cases hs : r.sources = []
  · rw [hs]
    rfl
  rcases workers_cases r.workers with hneg | hw
  · rw [collect_refused hs hneg, collect_refused hs hneg]
  · rw [r.rounds_after hs hw]

theorem snapshot_after_succ_of_published {k : Nat} {c : Collected}
    (h : (Except.ok c).map Collected.published =
      (collect r.sources r.filter r.workers (r.after k).rounds).map Collected.published) :
    (r.after (k + 1)).snapshot = .ofCollected r.rules c := by
  rcases r.after_succ_cases k with ⟨d, hd, hsnapshot, -⟩ | ⟨fault, hfault, -, -, -⟩
  · rw [hd] at h
    obtain ⟨hpostings, hreports⟩ := Prod.mk.inj (Except.ok.inj h)
    rw [hsnapshot, Snapshot.ofCollected, Snapshot.ofCollected, hpostings, hreports]
  · rw [hfault] at h
    cases h

theorem snapshot_after_succ_of_fails {k : Nat} (h : (r.after k).Fails) :
    (r.after (k + 1)).snapshot = (r.after k).snapshot := by
  rcases r.after_succ_cases k with ⟨c, hc, -, -⟩ | ⟨fault, -, -, hsnapshot, -⟩
  · obtain ⟨fault, hfault⟩ := (r.fails_after_iff k).mp h
    rw [hc] at hfault
    cases hfault
  · exact hsnapshot

theorem snapshot_after_of_fails {j k : Nat} (hjk : j ≤ k)
    (h : ∀ i, j ≤ i → i < k → (r.after i).Fails) : (r.after k).snapshot = (r.after j).snapshot := by
  induction k with
  | zero =>
    obtain rfl : j = 0 := Nat.le_zero.mp hjk
    rfl
  | succ k ih =>
    rcases Nat.lt_or_eq_of_le hjk with hlt | rfl
    · have hle : j ≤ k := Nat.le_of_lt_succ hlt
      rw [r.snapshot_after_succ_of_fails (h k hle (Nat.lt_succ_self k))]
      exact ih hle fun i hji hik => h i hji (Nat.lt_succ_of_lt hik)
    · rfl

theorem snapshot_after_succ_of_not_fails {k : Nat} (h : ¬ (r.after k).Fails) :
    ¬ (r.only (r.rounds + k)).Fails ∧
      (r.after (k + 1)).snapshot = (r.only (r.rounds + k)).refresh.1.snapshot := by
  have honly : collect (r.only (r.rounds + k)).sources (r.only (r.rounds + k)).filter
      (r.only (r.rounds + k)).workers (r.only (r.rounds + k)).rounds =
        collect r.sources r.filter r.workers (r.after k).rounds := by
    rw [r.collect_after k]
    exact collect_only r.sources r.filter r.workers (r.rounds + k)
  rcases r.after_succ_cases k with ⟨c, hc, hsnapshot, -⟩ | ⟨fault, -, hfault, -, -⟩
  · rw [hc] at honly
    rw [fails_iff, honly, hsnapshot]
    rcases refresh_cases (r.only (r.rounds + k)) with ⟨d, hd, hr⟩ | ⟨fault, hd, -⟩
    · obtain rfl : c = d := Except.ok.inj (honly.symm.trans hd)
      constructor
      · rintro ⟨fault, hfault⟩
        cases hfault
      · rw [hr]
        rfl
    · rw [honly] at hd
      cases hd
  · exact absurd ⟨fault, hfault⟩ h

theorem after_refused (hs : r.sources ≠ []) (hw : ∃ w ∈ r.workers, w < 0) (k : Nat) :
    (r.after k).refresh.2 = .error .noWorkers ∧ (r.after k).rounds = r.rounds ∧
      (r.after k).snapshot = r.snapshot := by
  have hcollect (j : Nat) : collect r.sources r.filter r.workers (r.after j).rounds =
      .error .noWorkers := collect_refused hs hw r.filter (r.after j).rounds
  refine ⟨?_, r.rounds_after_refused hs hw k, ?_⟩
  · rcases r.after_succ_cases k with ⟨c, hc, -, -⟩ | ⟨fault, hfault, hrefresh, -, -⟩
    · rw [hcollect k] at hc
      cases hc
    · obtain rfl : fault = .noWorkers := Except.error.inj (hfault.symm.trans (hcollect k))
      exact hrefresh
  · apply r.snapshot_after_of_fails (Nat.zero_le k)
    intro i _ _
    exact (r.fails_after_iff i).mpr ⟨_, hcollect i⟩

theorem snapshot_after_of_last {j k : Nat} (hjk : j < k) (hj : ¬ (r.after j).Fails)
    (hfails : ∀ i, j < i → i < k → (r.after i).Fails) :
    ¬ (r.only (r.rounds + j)).Fails ∧
      (r.after k).snapshot = (r.only (r.rounds + j)).refresh.1.snapshot := by
  rw [r.snapshot_after_of_fails hjk hfails]
  exact r.snapshot_after_succ_of_not_fails hj

end JobBoards.Repository
