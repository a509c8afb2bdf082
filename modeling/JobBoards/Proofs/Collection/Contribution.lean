import JobBoards.Proofs.Batch
import JobBoards.Proofs.Faults
namespace JobBoards

namespace Source

def constant (name : Text) (answer : Answer) : Source := ⟨name, fun _ => answer⟩

def only (round : Nat) (s : Source) : Source := constant s.name (s.answer round)

def batch (round : Nat) (s : Source) : Except Fault (List Posting) :=
  match (s.answer round).result with
  | .error fault => .error fault
  | .ok postings =>
      if postings.all (·.tags.settled) then .ok postings.eraseDups else .error .unsettledTags

def contribution (round : Nat) (s : Source) : List Posting :=
  match s.batch round with
  | .ok kept => kept
  | .error _ => []

def report (round : Nat) (s : Source) : Report :=
  match s.batch round with
  | .ok kept => ⟨s.name, .gathered kept.length⟩
  | .error fault => ⟨s.name, .failed (Share.errorText fault)⟩

theorem share_view (round : Nat) (s : Source) :
    (s.share round).postings = s.contribution round ∧ (s.share round).report = s.report round := by
  unfold share Share.ofAnswer contribution report batch
  cases (s.answer round).result with
  | error fault => exact ⟨rfl, rfl⟩
  | ok postings =>
    simp only [distinctPostings_eq]
    by_cases h : postings.all (·.tags.settled) = true
    · simp only [if_pos h, and_self]
    · simp only [if_neg h]
      exact ⟨rfl, rfl⟩

@[simp] theorem flatMap_postings_share (round : Nat) (sources : List Source) :
    (sources.map (share round)).flatMap Share.postings = sources.flatMap (contribution round) := by
  rw [List.flatMap_map]
  exact congrArg (List.flatMap · sources) (funext fun s => (share_view round s).1)

@[simp] theorem map_report_share (round : Nat) (sources : List Source) :
    (sources.map (share round)).map Share.report = sources.map (report round) := by
  rw [List.map_map]
  exact List.map_congr_left fun s _ => (share_view round s).2

end Source

namespace Filter

def sure (accepts : Posting → Bool) : Filter := fun posting => .ok (accepts posting)

def accepts (filter : Option Filter) (posting : Posting) : Bool :=
  match filter with
  | none => true
  | some f =>
      match f posting with
      | .ok b => b
      | .error _ => false

theorem accepts_map_sure (test : Option (Posting → Bool)) :
    accepts (test.map sure) = test.getD fun _ => true := by
  cases test <;> rfl

end Filter

namespace Collected

theorem filterAuxM_cases (f : Filter) (postings kept : List Posting) :
    (∃ p ∈ postings, ∃ fault, f p = .error fault ∧ postings.filterAuxM f kept = .error fault) ∨
      ((∀ p ∈ postings, ∃ b, f p = .ok b) ∧
        postings.filterAuxM f kept =
          .ok ((postings.filter (Filter.accepts (some f))).reverse ++ kept)) := by
  induction postings generalizing kept with
  | nil => exact .inr ⟨by simp, rfl⟩
  | cons p postings ih =>
    cases hp : f p with
    | error fault =>
      exact .inl ⟨p, List.mem_cons_self, fault, hp, by simp [hp]⟩
    | ok b =>
      have haux : (p :: postings).filterAuxM f kept =
          postings.filterAuxM f (cond b (p :: kept) kept) := by
        simp [hp]
      rw [haux]
      rcases ih (cond b (p :: kept) kept) with ⟨q, hq, fault, hf, he⟩ | ⟨hall, he⟩
      · exact .inl ⟨q, List.mem_cons_of_mem p hq, fault, hf, he⟩
      · refine .inr ⟨List.forall_mem_cons.mpr ⟨⟨b, hp⟩, hall⟩, ?_⟩
        rw [he]
        cases b <;> simp [Filter.accepts, hp]

theorem keep_cases (filter : Option Filter) (postings : List Posting) :
    (∃ f ∈ filter, ∃ p ∈ postings, ∃ fault, f p = .error fault ∧ keep filter postings = .error fault) ∨
      ((∀ f ∈ filter, ∀ p ∈ postings, ∃ b, f p = .ok b) ∧
        keep filter postings = .ok (postings.filter (Filter.accepts filter))) := by
  cases filter with
  | none => exact .inr ⟨by simp, congrArg Except.ok (List.filter_eq_self.mpr fun _ _ => rfl).symm⟩
  | some f =>
    rcases filterAuxM_cases f postings [] with ⟨p, hp, fault, hf, he⟩ | ⟨hall, he⟩
    · exact .inl ⟨f, rfl, p, hp, fault, hf, by simp [keep, List.filterM, he]⟩
    · refine .inr ⟨fun g hg => ?_, ?_⟩
      · obtain rfl : f = g := Option.some.inj hg
        exact hall
      · simp [keep, List.filterM, he]

theorem keep_sure (test : Option (Posting → Bool)) (postings : List Posting) :
    keep (test.map Filter.sure) postings = .ok (postings.filter (test.getD fun _ => true)) := by
  rcases keep_cases (test.map Filter.sure) postings with ⟨f, hf, p, _, fault, hfault, _⟩ | ⟨_, he⟩
  · obtain ⟨accepts, _, rfl⟩ := Option.map_eq_some_iff.mp hf
    cases hfault
  · rw [he, Filter.accepts_map_sure]

theorem join_eq (filter : Option Filter) (shares : List Share) (written : List Record) :
    join filter shares written =
      (keep filter (shares.flatMap Share.postings)).map fun kept =>
        ⟨kept, shares.map Share.report, written ++
          [summary (shares.flatMap Share.postings).length
            ((shares.map Share.report).countP fun r => r.outcome.isOk)
            (shares.map Share.report).length kept.length]⟩ := by
  simp only [join]
  cases keep filter (shares.flatMap Share.postings) <;> rfl

def published (c : Collected) : List Posting × List Report := (c.postings, c.reports)

theorem map_published_join (filter : Option Filter) (shares : List Share)
    (written : List Record) :
    (join filter shares written).map published =
      (keep filter (shares.flatMap Share.postings)).map fun kept =>
        (kept, shares.map Share.report) := by
  rw [join_eq]
  cases keep filter (shares.flatMap Share.postings) <;> rfl

end Collected

section Collect
variable {sources : List Source} {workers : Option Int}

theorem any_of_refused (hw : ∃ w ∈ workers, w < 0) : workers.any (decide <| · < 0) = true := by
  obtain ⟨w, hw, hneg⟩ := hw
  obtain rfl : workers = some w := hw
  simpa using hneg

theorem any_of_workers (hw : ∀ w ∈ workers, 0 ≤ w) : workers.any (decide <| · < 0) = false := by
  cases workers with
  | none => rfl
  | some w => simpa using hw w rfl

theorem collect_refused (hs : sources ≠ []) (hw : ∃ w ∈ workers, w < 0) (filter : Option Filter)
    (round : Nat) : collect sources filter workers round = .error .noWorkers := by
  simp [collect, hs, any_of_refused hw]

theorem collect_of_workers (hs : sources ≠ []) (hw : ∀ w ∈ workers, 0 ≤ w)
    (filter : Option Filter) (round : Nat) :
    collect sources filter workers round =
      Collected.join filter (sources.map (Source.share round))
        ((sources.map (Source.share round)).flatMap Share.records) := by
  simp [collect, hs, any_of_workers hw]

theorem collect_sure (sources : List Source) (test : Option (Posting → Bool))
    (hw : ∀ w ∈ workers, 0 ≤ w) (round : Nat) :
    ∃ c, collect sources (test.map Filter.sure) workers round = .ok c ∧
      c.postings =
        (sources.flatMap (Source.contribution round)).filter (test.getD fun _ => true) ∧
      c.reports = sources.map (Source.report round) := by
  by_cases hs : sources = []
  · subst hs
    exact ⟨.empty, rfl, rfl, rfl⟩
  · rw [collect_of_workers hs hw, Collected.join_eq, Collected.keep_sure,
      Source.flatMap_postings_share, Source.map_report_share]
    exact ⟨_, rfl, rfl, rfl⟩

theorem collect_only (sources : List Source) (filter : Option Filter) (workers : Option Int)
    (round : Nat) :
    collect (sources.map (Source.only round)) filter workers 0 =
      collect sources filter workers round := by
  have hshares : (sources.map (Source.only round)).map (Source.share 0) =
      sources.map (Source.share round) := by
    rw [List.map_map]
    rfl
  simp only [collect, List.isEmpty_map, hshares]

theorem workers_cases (workers : Option Int) : (∃ w ∈ workers, w < 0) ∨ ∀ w ∈ workers, 0 ≤ w := by
  by_cases h : ∃ w ∈ workers, w < 0
  · exact .inl h
  · exact .inr fun w hw => Int.not_lt.mp fun hneg => h ⟨w, hw, hneg⟩

theorem collect_error_iff (sources : List Source) (filter : Option Filter) (workers : Option Int)
    (round : Nat) :
    (∃ fault, collect sources filter workers round = .error fault) ↔
      (sources ≠ [] ∧ ∃ w ∈ workers, w < 0) ∨
        ∃ f ∈ filter, ∃ p ∈ sources.flatMap (Source.contribution round), ∃ fault,
          f p = .error fault := by
  by_cases hs : sources = []
  · subst hs
    simp [collect]
  rcases workers_cases workers with hneg | hw
  · constructor
    · intro _
      exact .inl ⟨hs, hneg⟩
    · intro _
      exact ⟨_, collect_refused hs hneg filter round⟩
  rw [collect_of_workers hs hw, Collected.join_eq, Source.flatMap_postings_share]
  rcases Collected.keep_cases filter (sources.flatMap (Source.contribution round)) with
    ⟨f, hf, p, hp, fault, hfault, he⟩ | ⟨hall, he⟩
  · constructor
    · intro _
      exact .inr ⟨f, hf, p, hp, fault, hfault⟩
    · intro _
      exact ⟨fault, by rw [he]; rfl⟩
  · constructor
    · rintro ⟨fault, h⟩
      rw [he] at h
      cases h
    · rintro (⟨-, w, hmem, hneg⟩ | ⟨f, hf, p, hp, fault, hfault⟩)
      · exact absurd hneg (Int.not_lt.mpr (hw w hmem))
      · obtain ⟨b, hb⟩ := hall f hf p hp
        rw [hb] at hfault
        cases hfault

end Collect
end JobBoards
