import JobBoards.Proofs.Collection.Pool
namespace JobBoards

theorem exists_split {α : Type} {l : List α} {i : Nat} {a : α} (h : l[i]? = some a) :
    ∃ xs ys, l = xs ++ a :: ys ∧ ∀ b, l.set i b = xs ++ b :: ys := by
  obtain ⟨hi, rfl⟩ := List.getElem?_eq_some_iff.mp h
  have hset (b : α) : l.set i b = l.take i ++ b :: l.drop (i + 1) := by
    rw [List.set_eq_take_append_cons_drop, if_pos hi]
  refine ⟨l.take i, l.drop (i + 1), ?_, hset⟩
  rw [← hset, List.set_getElem_self]

namespace Pool
variable {sources : List Source} {width round : Nat} {p q : Pool}

def shareAt? (futures : List Future) (i : Nat) : Option Share := futures[i]?.bind Future.share?

@[simp] theorem shareAt?_append_waiting (futures : List Future) :
    shareAt? (futures ++ [.waiting]) = shareAt? futures := by
  funext i
  simp only [shareAt?, List.getElem?_append]
  split
  · rfl
  · rename_i h
    rw [List.getElem?_eq_none (Nat.le_of_not_lt h)]
    cases i - futures.length <;> rfl

theorem shareAt?_set {futures : List Future} {i : Nat} {f : Future} (h : futures[i]? = some f)
    (g : Future) : shareAt? (futures.set i g) = Function.update (shareAt? futures) i g.share? := by
  obtain ⟨hi, _⟩ := List.getElem?_eq_some_iff.mp h
  funext j
  by_cases hj : j = i
  · subst hj
    simp [shareAt?, hi]
  · rw [Function.update_of_ne hj]
    simp [shareAt?, List.getElem?_set_ne (Ne.symm hj)]

structure Sound (sources : List Source) (round : Nat) (p : Pool) : Prop where
  futures_le : p.futures.length ≤ sources.length
  share_eq : ∀ i share, shareAt? p.futures i = some share →
    sources[i]?.map (Source.share round) = some share
  asked_eq : ∀ i < sources.length,
    p.asked i = round + if (shareAt? p.futures i).isSome then 1 else 0
  joined_eq : p.joined.map Future.done = p.futures.take p.joined.length
  written_perm : p.written.Perm (p.futures.flatMap Future.written)

theorem sound_opened {asked : Nat → Nat} (h : ∀ i < sources.length, asked i = round) :
    Sound sources round (opened asked) :=
  ⟨Nat.zero_le _, by simp [opened, shareAt?], fun i hi => h i hi, rfl, .nil⟩

theorem Sound.joined_le (hp : Sound sources round p) : p.joined.length ≤ p.futures.length := by
  have h := congrArg List.length hp.joined_eq
  simp only [List.length_map, List.length_take] at h
  omega

theorem Sound.submit (hp : Sound sources round p) (hlt : p.futures.length < sources.length) :
    Sound sources round { p with futures := p.futures ++ [.waiting] } where
  futures_le := by simpa using Nat.succ_le_of_lt hlt
  share_eq := by simpa only [shareAt?_append_waiting] using hp.share_eq
  asked_eq := by simpa only [shareAt?_append_waiting] using hp.asked_eq
  joined_eq := by
    rw [List.take_append_of_le_length hp.joined_le]
    exact hp.joined_eq
  written_perm := by simpa [Future.written] using hp.written_perm

theorem Sound.joined_le_of_not_done (hp : Sound sources round p) {i : Nat} {f : Future}
    (hf : p.futures[i]? = some f) (hdone : ∀ share, f ≠ .done share) : p.joined.length ≤ i := by
  by_contra hlt
  have hlt := Nat.lt_of_not_le hlt
  have htake : (p.joined.map Future.done)[i]? = some f := by
    rw [hp.joined_eq, List.getElem?_take_of_lt hlt, hf]
  rw [List.getElem?_map, List.getElem?_eq_getElem hlt] at htake
  exact hdone _ (Option.some.inj htake).symm

theorem Sound.start (hp : Sound sources round p) {i : Nat} {source : Source}
    (hf : p.futures[i]? = some .waiting) (hs : sources[i]? = some source) :
    Sound sources round { p with
      futures := p.futures.set i (.running (source.share (p.asked i)))
      asked := Function.update p.asked i (p.asked i + 1) } := by
  obtain ⟨hi, _⟩ := List.getElem?_eq_some_iff.mp hs
  have hnone : shareAt? p.futures i = none := by simp [shareAt?, hf, Future.share?]
  have hasked : p.asked i = round := by simp [hp.asked_eq i hi, hnone]
  refine ⟨by simpa using hp.futures_le, ?_, ?_, ?_, ?_⟩
  · intro j share hj
    rw [shareAt?_set hf] at hj
    by_cases hji : j = i
    · subst hji
      rw [Function.update_self] at hj
      obtain rfl : source.share (p.asked j) = share := Option.some.inj hj
      rw [hs, hasked]
      rfl
    · rw [Function.update_of_ne hji] at hj
      exact hp.share_eq j share hj
  · intro j hj
    simp only [shareAt?_set hf]
    by_cases hji : j = i
    · subst hji
      simp [hasked, Future.share?]
    · simp only [Function.update_of_ne hji]
      exact hp.asked_eq j hj
  · simp only [List.take_set_of_le (hp.joined_le_of_not_done hf (by simp))]
    exact hp.joined_eq
  · obtain ⟨xs, ys, hsplit, hset⟩ := exists_split hf
    have h := hp.written_perm
    simp only [hset]
    rw [hsplit] at h
    simpa [Future.written] using h

theorem Sound.finish (hp : Sound sources round p) {i : Nat} {share : Share}
    (hf : p.futures[i]? = some (.running share)) :
    Sound sources round { p with
      futures := p.futures.set i (.done share)
      written := p.written ++ share.records } := by
  have hsame : shareAt? (p.futures.set i (.done share)) = shareAt? p.futures := by
    rw [shareAt?_set hf]
    exact Function.update_eq_self_iff.mpr (by simp [shareAt?, hf, Future.share?])
  refine ⟨by simpa using hp.futures_le, ?_, ?_, ?_, ?_⟩
  · simpa only [hsame] using hp.share_eq
  · simpa only [hsame] using hp.asked_eq
  · simp only [List.take_set_of_le (hp.joined_le_of_not_done hf (by simp))]
    exact hp.joined_eq
  · obtain ⟨xs, ys, hsplit, hset⟩ := exists_split hf
    have h := hp.written_perm
    rw [hsplit] at h
    simp only [hset, List.flatMap_append, List.flatMap_cons, Future.written] at h ⊢
    refine (h.append_right share.records).trans ?_
    simp only [List.nil_append, List.append_assoc]
    exact List.perm_append_comm.append_left _

theorem Sound.join (hp : Sound sources round p) {share : Share}
    (hf : p.futures[p.joined.length]? = some (.done share)) :
    Sound sources round { p with joined := p.joined ++ [share] } where
  futures_le := hp.futures_le
  share_eq := hp.share_eq
  asked_eq := hp.asked_eq
  joined_eq := by
    simp only [List.map_append, List.map_singleton, List.length_append, List.length_singleton]
    rw [List.take_add_one, hf, hp.joined_eq]
    rfl
  written_perm := hp.written_perm

theorem Sound.step {turn : Turn} (hp : Sound sources round p)
    (h : step? sources width p turn = some q) : Sound sources round q := by
  rcases step?_cases h with ⟨-, hlt, rfl⟩ | ⟨i, source, -, hf, hs, -, rfl⟩ | ⟨i, share, -, hf, rfl⟩ |
    ⟨share, -, -, hf, rfl⟩
  · exact hp.submit hlt
  · exact hp.start hf hs
  · exact hp.finish hf
  · exact hp.join hf

theorem run?_cons (turn : Turn) (schedule : List Turn) :
    run? sources width p (turn :: schedule) =
      (step? sources width p turn).bind fun q => run? sources width q schedule := rfl

theorem Sound.run {schedule : List Turn} (hp : Sound sources round p)
    (h : run? sources width p schedule = some q) : Sound sources round q := by
  induction schedule generalizing p with
  | nil =>
    obtain rfl : p = q := Option.some.inj h
    exact hp
  | cons turn schedule ih =>
    rw [run?_cons] at h
    obtain ⟨r, hr, h⟩ := Option.bind_eq_some_iff.mp h
    exact ih (hp.step hr) h

def spent (p : Pool) : Nat := (p.futures.map Future.turns).sum + p.joined.length

theorem sum_turns_set {futures : List Future} {i : Nat} {f : Future} (h : futures[i]? = some f)
    (g : Future) :
    ((futures.set i g).map Future.turns).sum + f.turns =
      (futures.map Future.turns).sum + g.turns := by
  obtain ⟨xs, ys, rfl, hset⟩ := exists_split h
  rw [hset]
  simp only [List.map_append, List.map_cons, List.sum_append, List.sum_cons]
  omega

theorem spent_step {turn : Turn} (h : step? sources width p turn = some q) :
    q.spent = p.spent + 1 := by
  rcases step?_cases h with ⟨-, -, rfl⟩ | ⟨i, source, -, hf, -, -, rfl⟩ | ⟨i, share, -, hf, rfl⟩ |
    ⟨share, -, -, -, rfl⟩
  · simp only [spent, List.map_append, List.map_singleton, List.sum_append, List.sum_singleton,
      Future.turns]
    omega
  · have hsum := sum_turns_set hf (.running (source.share (p.asked i)))
    simp only [Future.turns] at hsum
    simp only [spent]
    omega
  · have hsum := sum_turns_set hf (.done share)
    simp only [Future.turns] at hsum
    simp only [spent]
    omega
  · simp only [spent, List.length_append, List.length_singleton]
    omega

theorem spent_run {schedule : List Turn} (h : run? sources width p schedule = some q) :
    q.spent = p.spent + schedule.length := by
  induction schedule generalizing p with
  | nil =>
    obtain rfl : p = q := Option.some.inj h
    rfl
  | cons turn schedule ih =>
    rw [run?_cons] at h
    obtain ⟨r, hr, h⟩ := Option.bind_eq_some_iff.mp h
    rw [ih h, spent_step hr, List.length_cons]
    omega

theorem sum_turns_le (futures : List Future) : (futures.map Future.turns).sum ≤ 3 * futures.length := by
  induction futures with
  | nil => simp
  | cons f futures ih =>
    have := f.turns_le
    simp only [List.map_cons, List.sum_cons, List.length_cons]
    omega

theorem Sound.spent_le (hp : Sound sources round p) : p.spent ≤ 4 * sources.length := by
  have hsum := sum_turns_le p.futures
  have hfutures := hp.futures_le
  have hjoined := hp.joined_le
  unfold spent
  omega

theorem Sound.exists_turn (hp : Sound sources round p) (hw : 0 < width)
    (hlt : p.joined.length < sources.length) : ∃ turn q, step? sources width p turn = some q := by
  suffices h : ∃ turn, (step? sources width p turn).isSome by
    obtain ⟨turn, h⟩ := h
    exact ⟨turn, Option.isSome_iff_exists.mp h⟩
  by_cases hall : p.futures.length < sources.length
  · exact ⟨.submit, by simp [step?, hall]⟩
  · have hlen : p.futures.length = sources.length := Nat.le_antisymm hp.futures_le (Nat.le_of_not_lt hall)
    have hi : p.joined.length < p.futures.length := hlen ▸ hlt
    cases hf : p.futures[p.joined.length] with
    | done share =>
      have hf := List.getElem?_eq_some_iff.mpr ⟨hi, hf⟩
      exact ⟨.join, by simp [step?, hlen, hf]⟩
    | running share =>
      have hf := List.getElem?_eq_some_iff.mpr ⟨hi, hf⟩
      exact ⟨.finish p.joined.length, by simp [step?, hf]⟩
    | waiting =>
      have hf := List.getElem?_eq_some_iff.mpr ⟨hi, hf⟩
      by_cases hfree : p.futures.countP Future.isRunning < width
      · have hs : sources[p.joined.length]? = some sources[p.joined.length] :=
          List.getElem?_eq_getElem hlt
        exact ⟨.start p.joined.length, by simp [step?, hf, hs, hfree]⟩
      · -- every worker is busy, so one of them can finish
        obtain ⟨f, hmem, hrunning⟩ := List.countP_pos_iff.mp (Nat.lt_of_lt_of_le hw (Nat.le_of_not_lt hfree))
        obtain ⟨j, hj⟩ := List.mem_iff_getElem?.mp hmem
        cases f with
        | running share => exact ⟨.finish j, by simp [step?, hj]⟩
        | waiting => cases hrunning
        | done share => cases hrunning

theorem Sound.isFinished_of_not_lt (hp : Sound sources round p)
    (h : ¬ p.joined.length < sources.length) : p.isFinished sources = true := by
  have hjoined := hp.joined_le
  have hfutures := hp.futures_le
  exact beq_iff_eq.mpr (by omega)

theorem Sound.exists_finish (hp : Sound sources round p) (hw : 0 < width) :
    ∃ rest q, run? sources width p rest = some q ∧ q.isFinished sources = true := by
  induction hn : 4 * sources.length - p.spent generalizing p with
  | zero =>
    by_cases hlt : p.joined.length < sources.length
    · obtain ⟨turn, q, h⟩ := hp.exists_turn hw hlt
      have hq := (hp.step h).spent_le
      have hspent := spent_step h
      omega
    · exact ⟨[], p, rfl, hp.isFinished_of_not_lt hlt⟩
  | succ n ih =>
    by_cases hlt : p.joined.length < sources.length
    · obtain ⟨turn, q, h⟩ := hp.exists_turn hw hlt
      have hspent := spent_step h
      obtain ⟨rest, r, hrun, hr⟩ := ih (hp.step h) (by omega)
      exact ⟨turn :: rest, r, by rw [run?_cons, h]; exact hrun, hr⟩
    · exact ⟨[], p, rfl, hp.isFinished_of_not_lt hlt⟩

theorem Sound.finished (hp : Sound sources round p) (h : p.isFinished sources = true) :
    p.joined = sources.map (Source.share round) ∧
      p.written.Perm ((sources.map (Source.share round)).flatMap Share.records) ∧
      ∀ i < sources.length, p.asked i = round + 1 := by
  have hlen : p.joined.length = sources.length := beq_iff_eq.mp h
  have hfutures : p.futures = p.joined.map Future.done := by
    rw [hp.joined_eq, List.take_of_length_le (hlen ▸ hp.futures_le)]
  have hshare (i : Nat) : shareAt? p.futures i = p.joined[i]? := by
    rw [hfutures, shareAt?, List.getElem?_map]
    cases p.joined[i]? <;> rfl
  have hjoined : p.joined = sources.map (Source.share round) := by
    refine List.ext_getElem (by rw [hlen, List.length_map]) fun i hi _ => ?_
    have h := hp.share_eq i p.joined[i] (by rw [hshare, List.getElem?_eq_getElem hi])
    rw [← List.getElem?_map] at h
    exact (List.getElem?_eq_some_iff.mp h).2.symm
  refine ⟨hjoined, ?_, fun i hi => ?_⟩
  · have hwritten := hp.written_perm
    rwa [hfutures, List.flatMap_map, show (fun s => (Future.done s).written) = Share.records from rfl,
      hjoined] at hwritten
  · rw [hp.asked_eq i hi, hshare, List.getElem?_eq_getElem (hlen ▸ hi)]
    rfl

end Pool

/-- Whatever turns the caller and the workers take, a collection comes to one and the same end. -/
theorem collect_independent_of_schedule (sources : List Source) (test : Option (Posting → Bool))
    (workers : Option Int) (round : Nat) (hs : sources ≠ []) (hw : ∀ w ∈ workers, 0 ≤ w) :
    ∃ c width, collect sources (test.map Filter.sure) workers round = .ok c ∧
      c.postings =
        (sources.flatMap (Source.contribution round)).filter (test.getD fun _ => true) ∧
      c.reports = sources.map (Source.report round) ∧
      Pool.width? sources.length workers = some width ∧
      ∀ schedule p, Pool.run? sources width (Pool.opened fun _ => round) schedule = some p →
        schedule.length ≤ 4 * sources.length ∧
        (∃ rest q, Pool.run? sources width p rest = some q ∧ q.isFinished sources = true) ∧
        (p.isFinished sources = true →
          (∃ d, p.outcome (test.map Filter.sure) = .ok d ∧ d.postings = c.postings ∧
            d.reports = c.reports ∧ d.records.Perm c.records) ∧
          ∀ i < sources.length, p.asked i = round + 1) := by
  obtain ⟨width, hwidth, hpos⟩ := Pool.width?_of_workers hw sources.length
  have hjoin (written : List Record) := Collected.join_eq (test.map Filter.sure)
    (sources.map (Source.share round)) written
  simp only [Collected.keep_sure, Except.map, Source.flatMap_postings_share,
    Source.map_report_share] at hjoin
  refine ⟨_, width, (collect_of_workers hs hw _ round).trans (hjoin _), rfl, rfl, hwidth, ?_⟩
  intro schedule p hrun
  have hp := (Pool.sound_opened fun _ _ => rfl).run hrun
  refine ⟨?_, hp.exists_finish (hpos (List.length_pos_iff.mpr hs)), fun hfinished => ?_⟩
  · have hspent := Pool.spent_run hrun
    have hle := hp.spent_le
    omega
  · obtain ⟨hjoined, hwritten, hasked⟩ := hp.finished hfinished
    have houtcome : p.outcome (test.map Filter.sure) = Collected.join (test.map Filter.sure)
        (sources.map (Source.share round)) p.written := by
      rw [Pool.outcome, hjoined]
    exact ⟨⟨_, houtcome.trans (hjoin p.written), rfl, rfl, hwritten.append_right _⟩, hasked⟩

def threeBoards (posting : Posting) : List Source :=
  [.constant "first" ⟨.ok [posting, posting], []⟩,
   .constant "second" ⟨.error (.external "OSError" "timed out"), []⟩,
   .constant "third" ⟨.ok [posting], []⟩]

/-- Two workers; the second source is done before the first, and the third while the first is asked. -/
def overtaking : List Turn :=
  [.submit, .start 0, .submit, .start 1, .finish 1, .submit, .start 2, .finish 2, .finish 0,
   .join, .join, .join]

def anyPosting : Posting := ⟨"developer", "company", "2022-01-01", "remote", "", "first", ⟨[], true⟩, ""⟩

theorem collect_threeBoards_overtaking :
    ∃ p d, Pool.run? (threeBoards anyPosting) 2 (Pool.opened fun _ => 0) overtaking = some p ∧
      p.isFinished (threeBoards anyPosting) = true ∧ p.outcome none = .ok d ∧
      d.postings = [anyPosting, anyPosting] ∧
      d.reports = [⟨"first", .gathered 1⟩, ⟨"second", .failed "OSError: timed out"⟩,
        ⟨"third", .gathered 1⟩] := by
  obtain ⟨c, width, -, hpostings, hreports, hwidth, hruns⟩ :=
    collect_independent_of_schedule (threeBoards anyPosting) none (some 2) 0 (by simp [threeBoards])
      (by simp)
  obtain rfl : 2 = width := Option.some.inj hwidth
  obtain ⟨p, hrun⟩ : ∃ p, Pool.run? (threeBoards anyPosting) 2 (Pool.opened fun _ => 0)
      overtaking = some p := ⟨_, rfl⟩
  have hfinished : p.isFinished (threeBoards anyPosting) = true := by
    obtain rfl := Option.some.inj hrun
    rfl
  obtain ⟨-, -, hend⟩ := hruns overtaking p hrun
  obtain ⟨⟨d, hd, hsame, hreported, -⟩, -⟩ := hend hfinished
  refine ⟨p, d, hrun, hfinished, hd, ?_, ?_⟩
  · rw [hsame, hpostings]
    rfl
  · rw [hreported, hreports]
    rfl

end JobBoards
