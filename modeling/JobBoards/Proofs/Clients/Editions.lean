import JobBoards.Proofs.Clients.Fetches
import Mathlib.Data.List.Infix
namespace JobBoards

namespace Event

def published? : Event → Option Edition
  | .published e => some e
  | _ => none

def seen? : Event → Option Edition
  | .published e | .read _ e => some e
  | _ => none

theorem mem_seen_of_published {log : List Event} {e : Edition}
    (h : e ∈ log.filterMap published?) : e ∈ log.filterMap seen? := by
  obtain ⟨x, hx, hpublished⟩ := List.mem_filterMap.mp h
  refine List.mem_filterMap.mpr ⟨x, hx, ?_⟩
  cases x with
  | published d => exact hpublished
  | _ => cases hpublished

end Event

namespace Edition

def latest (r : Repository) (log : List Event) : Edition :=
  (log.filterMap Event.published?).getLastD ⟨0, r.snapshot⟩

def Whole (r : Repository) (log : List Event) (e : Edition) : Prop :=
  ∃ turn shares written c, e.number = turn + 1 ∧
    (Event.fetches turn log).Perm shares.zipIdx ∧
    shares = r.sources.map (Source.share (r.after turn).rounds) ∧
    Collected.join r.filter shares written = .ok c ∧ e.snapshot = .ofCollected r.rules c

theorem latest_cases (r : Repository) (log : List Event) :
    latest r log = ⟨0, r.snapshot⟩ ∨ .published (latest r log) ∈ log := by
  unfold latest
  cases hlog : log.filterMap Event.published? with
  | nil => exact .inl rfl
  | cons e es =>
    have hmem : (e :: es).getLastD ⟨0, r.snapshot⟩ ∈ log.filterMap Event.published? := by
      rw [hlog, List.getLastD_cons, ← List.getLast_eq_getLastD]
      exact List.getLast_mem (List.cons_ne_nil e es)
    obtain ⟨x, hx, hpublished⟩ := List.mem_filterMap.mp hmem
    cases x with
    | published e' =>
      obtain rfl := Option.some.inj hpublished
      exact .inr hx
    | _ => cases hpublished

theorem Whole.concat {r : Repository} {log : List Event} {e : Edition} (h : e.Whole r log)
    {x : Event} (hx : ∀ turn, e.number = turn + 1 → x.fetchedIn? turn = none) :
    e.Whole r (log ++ [x]) := by
  obtain ⟨turn, shares, written, c, hnumber, hperm, hrest⟩ := h
  refine ⟨turn, shares, written, c, hnumber, ?_, hrest⟩
  rwa [Event.fetches_silent (hx turn hnumber)]

end Edition

namespace Refreshing
variable {r : Repository} {begun : Nat} {asked : Nat → Nat} {h : Refreshing} {log : List Event}

theorem Ends.whole {c : Collected} (hends : h.Ends r (.ok c)) (hh : h.Sound r begun asked)
    (hperm : (Event.fetches h.turn log).Perm (answered 0 h.shares)) :
    (h.edition r c).Whole r log := by
  generalize hresult : Except.ok c = result at hends
  cases hends with
  | nothing hs =>
    obtain rfl := Except.ok.inj hresult
    have hshares : h.shares = [] := by
      rw [← List.length_eq_zero_iff, hh.length_eq, hs]
      rfl
    rw [hshares] at hperm
    refine ⟨h.turn, [], [], ⟨[], [], [Collected.summary 0 0 0 0]⟩, rfl, hperm, ?_, ?_, rfl⟩
    · rw [hs]
      rfl
    · cases r.filter <;> rfl
  | refused => cases hresult
  | @joined shares _ _ hshares =>
    rw [hshares, answered_map_some] at hperm
    exact ⟨h.turn, shares, h.written, c, rfl, hperm, hh.shares_eq hshares, hresult.symm, rfl⟩

end Refreshing

namespace Service

def finished (s : Service) : Nat :=
  match s.holder with
  | some h => if h.isOver then h.turn + 1 else h.turn
  | none => s.begun

structure Ordered (r : Repository) (log : List Event) (s : Service) : Prop where
  latest_eq : Edition.latest r log = s.current
  current_le : s.current.number ≤ s.finished
  seen_le : ∀ e ∈ log.filterMap Event.seen?, e.number ≤ s.current.number
  seen_sorted : ((log.filterMap Event.seen?).map Edition.number).Pairwise (· ≤ ·)
  published_sorted : ((log.filterMap Event.published?).map Edition.number).Pairwise (· < ·)

theorem Ordered.silent {r : Repository} {log : List Event} {s s' : Service} {x : Event}
    (h : s.Ordered r log) (hseen : x.seen? = none) (hpublished : x.published? = none)
    (hcurrent : s'.current = s.current) (hle : s.finished ≤ s'.finished) :
    s'.Ordered r (log ++ [x]) := by
  refine ⟨?_, ?_, ?_, ?_, ?_⟩
  · rw [hcurrent, ← h.latest_eq, Edition.latest, Event.filterMap_concat, hpublished,
      Option.toList_none, List.append_nil, Edition.latest]
  · rw [hcurrent]
    exact Nat.le_trans h.current_le hle
  · rw [hcurrent, Event.filterMap_concat, hseen, Option.toList_none, List.append_nil]
    exact h.seen_le
  · rw [Event.filterMap_concat, hseen, Option.toList_none, List.append_nil]
    exact h.seen_sorted
  · rw [Event.filterMap_concat, hpublished, Option.toList_none, List.append_nil]
    exact h.published_sorted

theorem Ordered.read {r : Repository} {log : List Event} {s : Service} (h : s.Ordered r log)
    (client : Nat) : s.Ordered r (log ++ [.read client s.current]) := by
  have hseen : (log ++ [Event.read client s.current]).filterMap Event.seen? =
      log.filterMap Event.seen? ++ [s.current] := Event.filterMap_concat _ _ _
  have hpublished : (log ++ [Event.read client s.current]).filterMap Event.published? =
      log.filterMap Event.published? := by
    rw [Event.filterMap_concat]
    exact List.append_nil _
  refine ⟨?_, h.current_le, ?_, ?_, ?_⟩
  · rw [Edition.latest, hpublished]
    exact h.latest_eq
  · rw [hseen]
    intro e he
    rcases List.mem_append.mp he with he | he
    · exact h.seen_le e he
    · rw [List.mem_singleton.mp he]
  · rw [hseen, List.map_append, List.pairwise_append]
    refine ⟨h.seen_sorted, List.pairwise_singleton _ _, ?_⟩
    intro n hn m hm
    obtain ⟨e, he, rfl⟩ := List.mem_map.mp hn
    obtain rfl := List.mem_singleton.mp hm
    exact h.seen_le e he
  · rw [hpublished]
    exact h.published_sorted

theorem Ordered.publish {r : Repository} {log : List Event} {s s' : Service} {e : Edition}
    (h : s.Ordered r log) (hcurrent : s'.current = e) (hlt : s.finished < e.number)
    (hle : e.number ≤ s'.finished) : s'.Ordered r (log ++ [.published e]) := by
  have hseen : (log ++ [Event.published e]).filterMap Event.seen? =
      log.filterMap Event.seen? ++ [e] := Event.filterMap_concat _ _ _
  have hpublished : (log ++ [Event.published e]).filterMap Event.published? =
      log.filterMap Event.published? ++ [e] := Event.filterMap_concat _ _ _
  have hnewer : ∀ d ∈ log.filterMap Event.seen?, d.number < e.number := by
    intro d hd
    exact Nat.lt_of_le_of_lt (Nat.le_trans (h.seen_le d hd) h.current_le) hlt
  refine ⟨?_, ?_, ?_, ?_, ?_⟩
  · rw [Edition.latest, hpublished, hcurrent]
    exact List.getLastD_concat
  · rw [hcurrent]
    exact hle
  · rw [hseen, hcurrent]
    intro d hd
    rcases List.mem_append.mp hd with hd | hd
    · exact Nat.le_of_lt (hnewer d hd)
    · rw [List.mem_singleton.mp hd]
  · rw [hseen, List.map_append, List.pairwise_append]
    refine ⟨h.seen_sorted, List.pairwise_singleton _ _, ?_⟩
    intro n hn m hm
    obtain ⟨d, hd, rfl⟩ := List.mem_map.mp hn
    obtain rfl := List.mem_singleton.mp hm
    exact Nat.le_of_lt (hnewer d hd)
  · rw [hpublished, List.map_append, List.pairwise_append]
    refine ⟨h.published_sorted, List.pairwise_singleton _ _, ?_⟩
    intro n hn m hm
    obtain ⟨d, hd, rfl⟩ := List.mem_map.mp hn
    obtain rfl := List.mem_singleton.mp hm
    exact hnewer d (Event.mem_seen_of_published hd)

end Service

namespace Served
variable {r : Repository} {log : List Event} {s : Service}

theorem ordered (h : Served r log s) : s.Ordered r log := by
  induction h with
  | opened => exact ⟨rfl, Nat.le_refl _, by simp, .nil, .nil⟩
  | lock client _ hfree ih =>
    refine ih.silent rfl rfl rfl ?_
    rw [Service.finished, hfree]
    exact Nat.le_refl _
  | fetch _ hholder hopen _ _ _ ih =>
    refine ih.silent rfl rfl rfl ?_
    rw [Service.finished, hholder]
    exact Nat.le_refl _
  | publish _ hholder hopen _ ih =>
    refine ih.publish rfl ?_ (Nat.le_refl _)
    rw [Service.finished, hholder]
    simp only [hopen]
    exact Nat.lt_succ_self _
  | fail _ hholder hopen _ ih =>
    refine ih.silent rfl rfl rfl ?_
    rw [Service.finished, hholder]
    simp only [hopen]
    exact Nat.le_succ _
  | unlock hrun hholder hover ih =>
    refine ih.silent rfl rfl rfl ?_
    have hbegun := (hrun.sound.held _ hholder).begun_eq
    rw [Service.finished, hholder]
    simp only [hover, if_true]
    exact Nat.le_of_eq hbegun.symm
  | read client _ _ ih => exact ih.read client

theorem read_latest (h : Served r log s) {before : List Event} {client : Nat} {e : Edition}
    (hread : before ++ [.read client e] <+: log) : e = .latest r before := by
  induction h with
  | opened => exact absurd (List.prefix_nil.mp hread) (by simp)
  | @read log s client' hrun _ ih =>
    rcases List.prefix_concat_iff.mp hread with heq | hread
    · obtain ⟨rfl, hevent⟩ := List.append_inj' heq rfl
      obtain ⟨-, rfl⟩ := Event.read.inj (List.singleton_inj.mp hevent)
      exact hrun.ordered.latest_eq.symm
    · exact ih hread
  | _ =>
    rename_i ih
    rcases List.prefix_concat_iff.mp hread with heq | hread
    · obtain ⟨-, hevent⟩ := List.append_inj' heq rfl
      cases List.singleton_inj.mp hevent
    · exact ih hread

theorem published_whole (h : Served r log s) {e : Edition} (he : .published e ∈ log) :
    e.Whole r log ∧ e.snapshot = (r.after e.number).snapshot := by
  induction h with
  | opened => cases he
  | @fetch log s h i source hrun hholder hopen _ _ _ ih =>
    obtain he | he := List.mem_append.mp he
    · obtain ⟨hwhole, hsnapshot⟩ := ih he
      refine ⟨hwhole.concat fun turn hnumber => if_neg fun hturn => ?_, hsnapshot⟩
      -- an edition out already is of an earlier refresh than the one that fetches
      have hseen := Event.mem_seen_of_published (List.mem_filterMap.mpr ⟨_, he, rfl⟩)
      have hle := Nat.le_trans (hrun.ordered.seen_le e hseen) hrun.ordered.current_le
      rw [Service.finished, hholder] at hle
      simp only [hopen] at hle
      simp only [Bool.false_eq_true, if_false] at hle
      omega
    · cases List.mem_singleton.mp he
  | @publish log s h c hrun hholder _ hends ih =>
    obtain he | he := List.mem_append.mp he
    · obtain ⟨hwhole, hsnapshot⟩ := ih he
      exact ⟨hwhole.concat fun _ _ => rfl, hsnapshot⟩
    · obtain rfl := Event.published.inj (List.mem_singleton.mp he)
      have hh := hrun.sound.held h hholder
      have hwhole := hends.whole hh (hrun.fetched.held h hholder)
      refine ⟨hwhole.concat fun _ _ => rfl, ?_⟩
      exact (r.snapshot_after_succ_of_published (hh.published_eq hends)).symm
  | _ =>
    rename_i ih
    obtain he | he := List.mem_append.mp he
    · obtain ⟨hwhole, hsnapshot⟩ := ih he
      exact ⟨hwhole.concat fun _ _ => rfl, hsnapshot⟩
    · cases List.mem_singleton.mp he

theorem read_held (h : Served r log s) {held : Refreshing} (hholder : s.holder = some held)
    {client : Nat} (hne : held.client ≠ client) : Served r (log ++ [.read client s.current]) s := by
  refine h.read client fun other hother => ?_
  obtain rfl : held = other := Option.some.inj (hholder.symm.trans hother)
  exact hne

end Served

theorem readers_see_whole_editions_in_lock_order (sources : List Source) (filter : Option Filter)
    (rules : Rules) (workers : Option Int) {log : List Event} {s : Service}
    (h : Served (.new sources filter rules workers) log s) :
    (∀ before client e, before ++ [.read client e] <+: log →
      (e = ⟨0, .empty⟩ ∨ .published e ∈ before) ∧
        e = Edition.latest (.new sources filter rules workers) before) ∧
    (∀ e, .published e ∈ log → e.Whole (.new sources filter rules workers) log ∧
      e.snapshot = ((Repository.new sources filter rules workers).after e.number).snapshot) ∧
    log.filterMap Event.locked? = List.range s.begun ∧
    ((log.filterMap Event.published?).map Edition.number).Pairwise (· < ·) ∧
    ((log.filterMap Event.seen?).map Edition.number).Pairwise (· ≤ ·) := by
  refine ⟨?_, fun e he => h.published_whole he, h.turns, h.ordered.published_sorted,
    h.ordered.seen_sorted⟩
  intro before client e hread
  have he := h.read_latest hread
  refine ⟨?_, he⟩
  rw [he]
  exact Edition.latest_cases _ before

def dailyBoards : List Source :=
  ["north", "south"].map fun name =>
    ⟨name.toList, fun round =>
      ⟨.ok [⟨"developer", "company", Text.ofNat round, "remote", "", name.toList, ⟨[], true⟩, ""⟩], []⟩⟩

def daily : Repository := .new dailyBoards none .standard none

def dailyEdition (k : Nat) : Edition := ⟨k, (daily.after k).snapshot⟩

def dailyShares (round : Nat) : List Share := dailyBoards.map (Source.share round)

theorem readers_between_two_refreshes :
    ∃ log s, Served daily log s ∧
      log.filterMap Event.seen? = [0, 1, 1, 1, 2, 2].map dailyEdition ∧
      ∀ e, .published e ∈ log → e.Whole daily log := by
  have hzero : (0 : Nat) ≠ 2 := by decide
  have hone : (1 : Nat) ≠ 2 := by decide
  obtain ⟨log, hrun, hseen⟩ : ∃ log, Served daily log
      ⟨some ⟨0, 0, [none, (dailyShares 0)[1]?], [], false⟩, 1,
        Function.update (fun _ => 0) 1 1, dailyEdition 0⟩ ∧
      log.filterMap Event.seen? = [dailyEdition 0] := by
    refine ⟨_, ((Served.opened.lock 0 rfl).fetch (i := 1) rfl rfl rfl rfl rfl).read_held rfl hzero, rfl⟩
  obtain ⟨log, hrun, hseen⟩ : ∃ log, Served daily log
      ⟨none, 1, Function.update (Function.update (fun _ => 0) 1 1) 0 1, dailyEdition 1⟩ ∧
      log.filterMap Event.seen? = [0, 1, 1].map dailyEdition := by
    have hpublish := (hrun.fetch (i := 0) rfl rfl rfl rfl rfl).publish rfl rfl
      (.joined (List.cons_ne_nil _ _) rfl (show _ = (dailyShares 0).map some from rfl))
    refine ⟨_, (hpublish.read_held rfl hzero).unlock rfl rfl, ?_⟩
    rw [Event.filterMap_concat, Event.filterMap_concat, Event.filterMap_concat,
      Event.filterMap_concat, hseen]
    rfl
  obtain ⟨log, hrun, hseen⟩ : ∃ log, Served daily log
      ⟨some ⟨1, 1, [(dailyShares 1)[0]?, none], [], false⟩, 2,
        Function.update (Function.update (Function.update (fun _ => 0) 1 1) 0 1) 0 2, dailyEdition 1⟩ ∧
      log.filterMap Event.seen? = [0, 1, 1, 1].map dailyEdition := by
    refine ⟨_, ((hrun.lock 1 rfl).fetch (i := 0) rfl rfl rfl rfl rfl).read_held rfl hone, ?_⟩
    rw [Event.filterMap_concat, Event.filterMap_concat, Event.filterMap_concat, hseen]
    rfl
  have hpublish := (hrun.fetch (i := 1) rfl rfl rfl rfl rfl).publish rfl rfl
    (.joined (List.cons_ne_nil _ _) rfl (show _ = (dailyShares 1).map some from rfl))
  have hend := hpublish.read_held rfl hone
  obtain ⟨-, hwhole, -⟩ :=
    readers_see_whole_editions_in_lock_order dailyBoards none .standard none hend
  refine ⟨_, _, hend, ?_, fun e he => (hwhole e he).1⟩
  rw [Event.filterMap_concat, Event.filterMap_concat, Event.filterMap_concat, hseen]
  rfl

end JobBoards
