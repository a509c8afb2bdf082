import JobBoards.Proofs.Repository.Refresh
import Mathlib.Logic.Function.Basic
namespace JobBoards

/-- A refresh that holds the lock: how many refreshes took the lock before it, who runs it, and what has come
back from the sources, by their positions. -/
structure Refreshing where
  turn : Nat
  client : Nat
  shares : List (Option Share)
  written : List Record
  isOver : Bool

structure Edition where
  number : Nat
  snapshot : Snapshot

inductive Event where
  | locked (turn client : Nat)
  | fetched (turn position : Nat) (share : Share)
  | published (edition : Edition)
  | failed (turn : Nat) (fault : Fault)
  | unlocked (turn : Nat)
  | read (client : Nat) (edition : Edition)

structure Service where
  holder : Option Refreshing
  begun : Nat
  asked : Nat → Nat
  current : Edition

namespace Refreshing
variable (r : Repository) (h : Refreshing)

def opened (turn client : Nat) : Refreshing :=
  ⟨turn, client, r.sources.map fun _ => none, [], false⟩

def receive (i : Nat) (share : Share) : Refreshing :=
  { h with shares := h.shares.set i (some share), written := h.written ++ share.records }

def ended : Refreshing := { h with isOver := true }

def edition (c : Collected) : Edition := ⟨h.turn + 1, .ofCollected r.rules c⟩

inductive Ends : Except Fault Collected → Prop
  | nothing (hs : r.sources = []) : Ends (.ok .empty)
  | refused (hs : r.sources ≠ []) (hasks : r.asksSources = false) : Ends (.error .noWorkers)
  | joined {shares : List Share} (hs : r.sources ≠ []) (hasks : r.asksSources = true)
      (hshares : h.shares = shares.map some) : Ends (Collected.join r.filter shares h.written)

end Refreshing

/-- The events that clients may bring about, one after the other, and what they share afterwards. A client that
wants the lock while it is held, or that holds it, does nothing else. -/
inductive Served (r : Repository) : List Event → Service → Prop
  | opened : Served r [] ⟨none, 0, fun _ => r.rounds, ⟨0, r.snapshot⟩⟩
  | lock {log : List Event} {s : Service} (client : Nat) (hrun : Served r log s)
      (hfree : s.holder = none) :
      Served r (log ++ [.locked s.begun client])
        { s with holder := some (.opened r s.begun client), begun := s.begun + 1 }
  | fetch {log : List Event} {s : Service} {h : Refreshing} {i : Nat} {source : Source}
      (hrun : Served r log s) (hholder : s.holder = some h) (hopen : h.isOver = false)
      (hasks : r.asksSources = true) (hsource : r.sources[i]? = some source)
      (hnew : h.shares[i]? = some none) :
      Served r (log ++ [.fetched h.turn i (source.share (s.asked i))])
        { s with
          holder := some (h.receive i (source.share (s.asked i)))
          asked := Function.update s.asked i (s.asked i + 1) }
  | publish {log : List Event} {s : Service} {h : Refreshing} {c : Collected}
      (hrun : Served r log s) (hholder : s.holder = some h) (hopen : h.isOver = false)
      (hends : h.Ends r (.ok c)) :
      Served r (log ++ [.published (h.edition r c)])
        { s with holder := some h.ended, current := h.edition r c }
  | fail {log : List Event} {s : Service} {h : Refreshing} {fault : Fault}
      (hrun : Served r log s) (hholder : s.holder = some h) (hopen : h.isOver = false)
      (hends : h.Ends r (.error fault)) :
      Served r (log ++ [.failed h.turn fault]) { s with holder := some h.ended }
  | unlock {log : List Event} {s : Service} {h : Refreshing} (hrun : Served r log s)
      (hholder : s.holder = some h) (hover : h.isOver = true) :
      Served r (log ++ [.unlocked h.turn]) { s with holder := none }
  | read {log : List Event} {s : Service} (client : Nat) (hrun : Served r log s)
      (hclient : ∀ h, s.holder = some h → h.client ≠ client) :
      Served r (log ++ [.read client s.current]) s

namespace Refreshing
variable {r : Repository} {begun : Nat} {asked : Nat → Nat} {h : Refreshing}

def requests (h : Refreshing) (i : Nat) : Nat := if h.shares[i]? = some none then 0 else 1

theorem requests_opened {i : Nat} (hi : i < r.sources.length) (turn client : Nat) :
    (opened r turn client).requests i = 0 := by
  simp [requests, opened, hi]

theorem requests_receive (h : Refreshing) {i : Nat} (hi : i < h.shares.length) (share : Share) :
    (h.receive i share).requests = Function.update h.requests i 1 := by
  funext j
  by_cases hji : j = i
  · subst hji
    simp [requests, receive, hi]
  · rw [Function.update_of_ne hji]
    simp [requests, receive, List.getElem?_set_ne (Ne.symm hji)]

structure Sound (r : Repository) (begun : Nat) (asked : Nat → Nat) (h : Refreshing) : Prop where
  begun_eq : begun = h.turn + 1
  length_eq : h.shares.length = r.sources.length
  share_eq : ∀ (i : Nat) (share : Share), h.shares[i]? = some (some share) →
    r.asksSources = true ∧
      r.sources[i]?.map (Source.share (r.after h.turn).rounds) = some share
  asked_open : h.isOver = false →
    ∀ i < r.sources.length, asked i = (r.after h.turn).rounds + h.requests i
  asked_over : h.isOver = true →
    ∀ i < r.sources.length, asked i = (r.after (h.turn + 1)).rounds

theorem sound_opened (hfree : ∀ i < r.sources.length, asked i = (r.after begun).rounds)
    (client : Nat) : (opened r begun client).Sound r (begun + 1) asked where
  begun_eq := rfl
  length_eq := List.length_map _
  share_eq i share hshare := by
    rw [opened, List.getElem?_map] at hshare
    obtain ⟨_, -, hnone⟩ := Option.map_eq_some_iff.mp hshare
    cases hnone
  asked_open _ i hi := by
    rw [hfree i hi, requests_opened hi]
    rfl
  asked_over hover := by cases hover

theorem Sound.shares_eq (hh : h.Sound r begun asked) {shares : List Share}
    (hshares : h.shares = shares.map some) :
    shares = r.sources.map (Source.share (r.after h.turn).rounds) := by
  have hlen : shares.length = r.sources.length := by
    have hlen := hh.length_eq
    rwa [hshares, List.length_map] at hlen
  apply List.ext_getElem
  · rw [List.length_map, hlen]
  · intro i hi hmap
    have hget : h.shares[i]? = some (some shares[i]) := by
      rw [hshares, List.getElem?_map, List.getElem?_eq_getElem hi]
      rfl
    have hsource := (hh.share_eq i shares[i] hget).2
    rw [← List.getElem?_map, List.getElem?_eq_getElem hmap] at hsource
    exact (Option.some.inj hsource).symm

theorem Sound.published_eq (hh : h.Sound r begun asked) {result : Except Fault Collected}
    (hends : h.Ends r result) :
    result.map Collected.published =
      (collect r.sources r.filter r.workers (r.after h.turn).rounds).map Collected.published := by
  cases hends with
  | nothing hs =>
    rw [hs]
    rfl
  | refused hs hasks => rw [collect_refused hs (Repository.refused_of_asksSources hasks)]
  | joined hs hasks hshares =>
    rw [collect_of_workers hs (Repository.workers_of_asksSources hasks), hh.shares_eq hshares,
      Collected.map_published_join, Collected.map_published_join]

theorem Sound.requests_refused (hh : h.Sound r begun asked) (hasks : r.asksSources = false)
    {i : Nat} (hi : i < r.sources.length) : h.requests i = 0 := by
  have hi : i < h.shares.length := hh.length_eq ▸ hi
  have hget := List.getElem?_eq_getElem hi
  cases hshare : h.shares[i] with
  | none =>
    rw [hshare] at hget
    exact if_pos hget
  | some share =>
    rw [hshare] at hget
    rw [(hh.share_eq i share hget).1] at hasks
    cases hasks

theorem requests_joined {shares : List Share} (hshares : h.shares = shares.map some) (i : Nat) :
    h.requests i = 1 := by
  refine if_neg ?_
  rw [hshares, List.getElem?_map]
  simp

theorem Sound.ended (hh : h.Sound r begun asked) (hopen : h.isOver = false)
    {result : Except Fault Collected} (hends : h.Ends r result) : h.ended.Sound r begun asked where
  begun_eq := hh.begun_eq
  length_eq := hh.length_eq
  share_eq := hh.share_eq
  asked_open hover := by cases hover
  asked_over _ i hi := by
    have hs : r.sources ≠ [] := List.ne_nil_of_length_pos (Nat.zero_lt_of_lt hi)
    have hrounds := r.rounds_after_succ hs h.turn
    rw [hh.asked_open hopen i hi]
    cases hends with
    | nothing hnone => exact absurd hnone hs
    | refused _ hasks =>
      rw [hasks] at hrounds
      rw [hh.requests_refused hasks hi]
      exact hrounds.symm
    | joined _ hasks hshares =>
      rw [hasks] at hrounds
      rw [requests_joined hshares]
      exact hrounds.symm

theorem Sound.receive (hh : h.Sound r begun asked) (hopen : h.isOver = false) {i : Nat}
    {source : Source} (hasks : r.asksSources = true) (hsource : r.sources[i]? = some source)
    (hnew : h.shares[i]? = some none) :
    (h.receive i (source.share (asked i))).Sound r begun
      (Function.update asked i (asked i + 1)) := by
  obtain ⟨hi, _⟩ := List.getElem?_eq_some_iff.mp hsource
  obtain ⟨hi', _⟩ := List.getElem?_eq_some_iff.mp hnew
  -- no other refresh asks while this one has the lock, and this one has not asked here yet
  have hasked : asked i = (r.after h.turn).rounds := by
    rw [hh.asked_open hopen i hi, requests, if_pos hnew, Nat.add_zero]
  refine ⟨hh.begun_eq, ?_, ?_, ?_, ?_⟩
  · simpa only [Refreshing.receive, List.length_set] using hh.length_eq
  · intro j share hj
    simp only [Refreshing.receive] at hj
    by_cases hji : i = j
    · subst hji
      rw [List.getElem?_set_self hi'] at hj
      obtain rfl : source.share (asked i) = share := Option.some.inj (Option.some.inj hj)
      refine ⟨hasks, ?_⟩
      rw [hsource, hasked]
      rfl
    · rw [List.getElem?_set_ne hji] at hj
      exact hh.share_eq j share hj
  · intro _ j hj
    rw [requests_receive h hi']
    by_cases hji : j = i
    · subst hji
      rw [Function.update_self, Function.update_self, hasked]
      rfl
    · rw [Function.update_of_ne hji, Function.update_of_ne hji]
      exact hh.asked_open hopen j hj
  · intro hover
    rw [show (h.receive i (source.share (asked i))).isOver = h.isOver from rfl, hopen] at hover
    cases hover

end Refreshing

structure Service.Sound (r : Repository) (s : Service) : Prop where
  held : ∀ h, s.holder = some h → h.Sound r s.begun s.asked
  free : s.holder = none → ∀ i < r.sources.length, s.asked i = (r.after s.begun).rounds

theorem Served.sound {r : Repository} {log : List Event} {s : Service} (h : Served r log s) :
    s.Sound r := by
  induction h with
  | opened => exact ⟨by simp, fun _ _ _ => rfl⟩
  | lock client _ hfree ih =>
    refine ⟨fun h hh => ?_, by simp⟩
    obtain rfl := Option.some.inj hh
    exact Refreshing.sound_opened (ih.free hfree) client
  | fetch _ hholder hopen hasks hsource hnew ih =>
    refine ⟨fun h hh => ?_, by simp⟩
    obtain rfl := Option.some.inj hh
    exact (ih.held _ hholder).receive hopen hasks hsource hnew
  | publish _ hholder hopen hends ih =>
    refine ⟨fun h hh => ?_, by simp⟩
    obtain rfl := Option.some.inj hh
    exact (ih.held _ hholder).ended hopen hends
  | fail _ hholder hopen hends ih =>
    refine ⟨fun h hh => ?_, by simp⟩
    obtain rfl := Option.some.inj hh
    exact (ih.held _ hholder).ended hopen hends
  | unlock _ hholder hover ih =>
    refine ⟨by simp, fun _ i hi => ?_⟩
    have hh := ih.held _ hholder
    rw [hh.asked_over hover i hi, hh.begun_eq]
  | read _ _ _ ih => exact ih

end JobBoards
