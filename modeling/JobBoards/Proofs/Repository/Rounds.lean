import JobBoards.Repository
namespace JobBoards

def Snapshot.Indexed (rules : Rules) (s : Snapshot) : Prop := s.index = Index.build rules s.entries

namespace Repository

def after (r : Repository) : Nat → Repository
  | 0 => r
  | k + 1 => (r.after k).refresh.1

theorem refresh_cases (r : Repository) :
    (∃ c, collect r.sources r.filter r.workers r.rounds = .ok c ∧
      r.refresh = ({ r with snapshot := .ofCollected r.rules c, rounds := r.rounds + 1 },
        .ok (c.records ++ [refreshed c.postings.length]))) ∨
    ∃ fault, collect r.sources r.filter r.workers r.rounds = .error fault ∧
      r.refresh = ({ r with rounds := if r.asksSources then r.rounds + 1 else r.rounds },
        .error fault) := by
  unfold refresh
  cases collect r.sources r.filter r.workers r.rounds with
  | ok c => exact .inl ⟨c, rfl, rfl⟩
  | error fault => exact .inr ⟨fault, rfl, rfl⟩

theorem after_setup (r : Repository) (k : Nat) :
    ∃ snapshot rounds, r.after k = { r with snapshot := snapshot, rounds := rounds } := by
  induction k with
  | zero => exact ⟨r.snapshot, r.rounds, rfl⟩
  | succ k ih =>
    obtain ⟨snapshot, rounds, ih⟩ := ih
    rw [after, ih]
    rcases refresh_cases { r with snapshot := snapshot, rounds := rounds } with
      ⟨c, -, h⟩ | ⟨fault, -, h⟩
    · exact ⟨_, _, congrArg Prod.fst h⟩
    · exact ⟨_, _, congrArg Prod.fst h⟩

theorem after_succ_cases (r : Repository) (k : Nat) :
    (∃ c, collect r.sources r.filter r.workers (r.after k).rounds = .ok c ∧
      (r.after (k + 1)).snapshot = .ofCollected r.rules c ∧
      (r.after (k + 1)).rounds = (r.after k).rounds + 1) ∨
    ∃ fault, collect r.sources r.filter r.workers (r.after k).rounds = .error fault ∧
      (r.after k).refresh.2 = .error fault ∧
      (r.after (k + 1)).snapshot = (r.after k).snapshot ∧
      (r.after (k + 1)).rounds =
        if r.asksSources then (r.after k).rounds + 1 else (r.after k).rounds := by
  obtain ⟨snapshot, rounds, hk⟩ := r.after_setup k
  simp only [after, hk]
  rcases refresh_cases { r with snapshot := snapshot, rounds := rounds } with
    ⟨c, hc, h⟩ | ⟨fault, hc, h⟩
  · rw [h]
    exact .inl ⟨c, hc, rfl, rfl⟩
  · rw [h]
    exact .inr ⟨fault, hc, rfl, rfl, rfl⟩

theorem indexed_after {r : Repository} (h : r.snapshot.Indexed r.rules) (k : Nat) :
    (r.after k).snapshot.Indexed r.rules := by
  induction k with
  | zero => exact h
  | succ k ih =>
    rcases r.after_succ_cases k with ⟨c, -, hsnapshot, -⟩ | ⟨fault, -, -, hsnapshot, -⟩
    · rw [hsnapshot]
      exact rfl
    · rw [hsnapshot]
      exact ih

end Repository

def Snapshot.Reachable (rules : Rules) (s : Snapshot) : Prop :=
  ∃ sources filter workers k, s = ((Repository.new sources filter rules workers).after k).snapshot

theorem Snapshot.Reachable.indexed {rules : Rules} {s : Snapshot} (h : s.Reachable rules) :
    s.index = Index.build rules s.entries := by
  obtain ⟨sources, filter, workers, k, rfl⟩ := h
  -- the empty snapshot has the empty index whatever the rules
  exact Repository.indexed_after (r := .new sources filter rules workers) rfl k

end JobBoards
