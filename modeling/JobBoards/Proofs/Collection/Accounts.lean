import JobBoards.Proofs.Collection.Schedule
import JobBoards.Proofs.Text.Digits
import Mathlib.Data.List.Perm.Subperm
namespace JobBoards

namespace Share
variable {name other : Text} {m n : Nat} {log : List Record}

def dropped (name : Text) (n : Nat) : Record :=
  ⟨.info, .collection, name ++ ": dropped ".toList ++ Text.ofNat n ++ " duplicate jobs".toList⟩

inductive Tells (log : List Record) (name : Text) : Nat → Prop
  | nothing (h : ∀ m, dropped name m ∉ log) : Tells log name 0
  | number {n : Nat} (hn : 0 < n) (hone : log.count (dropped name n) = 1)
      (honly : ∀ m, dropped name m ∈ log → m = n) : Tells log name n

theorem duplicates_of_pos (hn : 0 < n) (name : Text) : duplicates name n = [dropped name n] :=
  if_neg (Nat.ne_of_gt hn)

theorem takeWhile_reverse_dropped (name : Text) (n : Nat) :
    (name ++ ": dropped ".toList ++ Text.ofNat n).reverse.takeWhile Char.isDigit = (Text.ofNat n).reverse := by
  have hdigits : ∀ c ∈ (Text.ofNat n).reverse, c.isDigit = true :=
    fun c hc => Text.isDigit_of_mem_ofNat n c (List.mem_reverse.mp hc)
  rw [List.reverse_append, List.reverse_append, List.takeWhile_append_of_pos hdigits]
  exact List.append_nil _

theorem dropped_inj (h : dropped name m = dropped other n) : name = other ∧ m = n := by
  have hmessage := List.append_cancel_right (congrArg Record.message h)
  have hdigits : Text.ofNat m = Text.ofNat n := by
    rw [← List.reverse_inj, ← takeWhile_reverse_dropped name, hmessage, takeWhile_reverse_dropped]
  rw [hdigits] at hmessage
  refine ⟨List.append_cancel_right (List.append_cancel_right hmessage), ?_⟩
  rw [← Text.ofDigitChars_ofNat m, hdigits, Text.ofDigitChars_ofNat]

theorem failure_of_not_fetch {fault : Fault} (h : ∀ source cause, fault ≠ .fetch source cause) (name : Text) :
    failure name fault =
        ⟨.error, .collection, "Unexpected error while fetching ".toList ++ name ++ lost⟩ ∧
      errorText fault = fault.kind ++ ": ".toList ++ fault.message := by
  unfold failure errorText
  split
  · exact absurd rfl (h _ _)
  · exact ⟨rfl, rfl⟩

theorem failure_ne_dropped (name other : Text) (fault : Fault) (n : Nat) : failure name fault ≠ dropped other n := by
  intro h
  unfold failure at h
  split at h
  · cases congrArg Record.severity h
  · cases congrArg Record.severity h

end Share

def Record.tellsFailure (r : Record) : Bool := r.severity == .warning || r.severity == .error

namespace Source
variable {sources : List Source} {s t : Source} {round m : Nat} {name : Text}

def fetched (round : Nat) (s : Source) : List Posting :=
  match (s.answer round).result with
  | .ok postings => postings
  | .error _ => []

def entry (round : Nat) (s : Source) : List Record :=
  match s.batch round with
  | .ok kept => Share.duplicates s.name ((s.fetched round).length - kept.length)
  | .error fault => [Share.failure s.name fault]

def book (round : Nat) (s : Source) : Report × List Record := (s.report round, s.entry round)

inductive Account (s : Source) (round : Nat) (log : List Record) : Report → List Record → Prop
  | gathered {postings : List Posting} {count n : Nat} (h : (s.answer round).result = .ok postings)
      (hsum : count + n = postings.length) (htold : Share.Tells log s.name n) :
      Account s round log ⟨s.name, .gathered count⟩ (Share.duplicates s.name n)
  | own {source : Text} {cause : FetchCause} (h : s.batch round = .error (.fetch source cause)) :
      Account s round log ⟨s.name, .failed (Fault.fetch source cause).message⟩
        [⟨.warning, .collection, "Failed to fetch ".toList ++ s.name ++ ": ".toList ++
          (Fault.fetch source cause).message ++ Share.lost⟩]
  | unexpected {fault : Fault} (h : s.batch round = .error fault)
      (hother : ∀ source cause, fault ≠ .fetch source cause) :
      Account s round log ⟨s.name, .failed (fault.kind ++ ": ".toList ++ fault.message)⟩
        [⟨.error, .collection, "Unexpected error while fetching ".toList ++ s.name ++ Share.lost⟩]

theorem batch_cases (round : Nat) (s : Source) :
    (∃ kept, s.batch round = .ok kept ∧ (s.answer round).result = .ok (s.fetched round) ∧
      kept.length ≤ (s.fetched round).length) ∨ ∃ fault, s.batch round = .error fault := by
  unfold batch fetched
  cases (s.answer round).result with
  | error fault => exact .inr ⟨fault, rfl⟩
  | ok postings =>
    by_cases h : postings.all (·.tags.settled) = true
    · have hsub : postings.eraseDups.Subperm postings :=
        (nodup_eraseDups postings).subperm fun p hp => List.mem_eraseDups.mp hp
      simp only [if_pos h]
      exact .inl ⟨_, rfl, trivial, hsub.length_le⟩
    · simp only [if_neg h]
      exact .inr ⟨_, rfl⟩

theorem records_share (round : Nat) (s : Source) :
    (s.share round).records = (s.answer round).records ++ s.entry round := by
  unfold share Share.ofAnswer entry batch fetched
  cases (s.answer round).result with
  | error fault => rfl
  | ok postings =>
    simp only [distinctPostings_eq]
    by_cases h : postings.all (·.tags.settled) = true
    · simp only [if_pos h]
    · simp only [if_neg h]
      rfl

theorem flatMap_records_share (round : Nat) (sources : List Source) :
    ((sources.map (share round)).flatMap Share.records).Perm
      (sources.flatMap (fun s => (s.answer round).records) ++ sources.flatMap (entry round)) := by
  rw [List.flatMap_map]
  simp only [records_share]
  exact (List.flatMap_append_perm sources (fun s => (s.answer round).records) (entry round)).symm

theorem name_of_dropped_mem (h : Share.dropped name m ∈ s.entry round) : s.name = name := by
  unfold entry at h
  split at h
  · unfold Share.duplicates at h
    split at h
    · cases h
    · exact (Share.dropped_inj (List.mem_singleton.mp h)).1.symm
  · exact absurd (List.mem_singleton.mp h).symm (Share.failure_ne_dropped _ _ _ _)

theorem count_dropped (round : Nat) (hnames : (sources.map Source.name).Nodup) (hs : s ∈ sources) (m : Nat) :
    (sources.flatMap (entry round)).count (Share.dropped s.name m) = (s.entry round).count (Share.dropped s.name m) := by
  obtain ⟨before, after, rfl⟩ := List.append_of_mem hs
  rw [List.map_append, List.map_cons, List.nodup_append, List.nodup_cons] at hnames
  obtain ⟨-, ⟨hafter, -⟩, hbefore⟩ := hnames
  -- a record of this name comes from no other source
  have hothers {others : List Source} (h : ∀ t ∈ others, t.name ≠ s.name) :
      (others.flatMap (entry round)).count (Share.dropped s.name m) = 0 := by
    rw [List.count_eq_zero, List.mem_flatMap]
    rintro ⟨t, ht, hmem⟩
    exact h t ht (name_of_dropped_mem hmem)
  rw [List.flatMap_append, List.flatMap_cons, List.count_append, List.count_append, hothers, hothers,
    Nat.zero_add, Nat.add_zero]
  · exact fun t ht hname => hafter (hname ▸ List.mem_map_of_mem ht)
  · exact fun t ht => hbefore t.name (List.mem_map_of_mem ht) s.name List.mem_cons_self

theorem tells_of_entry {n : Nat} (hnames : (sources.map Source.name).Nodup) (hs : s ∈ sources)
    (hentry : s.entry round = Share.duplicates s.name n) :
    Share.Tells (sources.flatMap (entry round)) s.name n := by
  have hcount (m : Nat) := count_dropped round hnames hs m
  rw [hentry] at hcount
  rcases Nat.eq_zero_or_pos n with rfl | hn
  · refine .nothing fun m hmem => ?_
    have hpos := List.count_pos_iff.mpr hmem
    rw [hcount] at hpos
    exact absurd hpos (Nat.lt_irrefl 0)
  · rw [Share.duplicates_of_pos hn] at hcount
    refine .number hn ((hcount n).trans List.count_singleton_self) fun m hmem => ?_
    have hpos := List.count_pos_iff.mpr hmem
    rw [hcount, List.count_pos_iff] at hpos
    exact (Share.dropped_inj (List.mem_singleton.mp hpos)).2

theorem account (hnames : (sources.map Source.name).Nodup) (hs : s ∈ sources) :
    s.Account round (sources.flatMap (entry round)) (s.report round) (s.entry round) := by
  rcases batch_cases round s with ⟨kept, hbatch, hresult, hle⟩ | ⟨fault, hbatch⟩
  · have hreport : s.report round = ⟨s.name, .gathered kept.length⟩ := by
      rw [report, hbatch]
    have hentry : s.entry round = Share.duplicates s.name ((s.fetched round).length - kept.length) := by
      rw [entry, hbatch]
    have htold := tells_of_entry hnames hs hentry
    rw [hreport, hentry]
    exact .gathered hresult (Nat.add_sub_of_le hle) htold
  · have hreport : s.report round = ⟨s.name, .failed (Share.errorText fault)⟩ := by
      rw [report, hbatch]
    have hentry : s.entry round = [Share.failure s.name fault] := by
      rw [entry, hbatch]
    rw [hreport, hentry]
    by_cases hfetch : ∃ source cause, fault = .fetch source cause
    · obtain ⟨source, cause, rfl⟩ := hfetch
      exact .own hbatch
    · have hother : ∀ source cause, fault ≠ .fetch source cause :=
        fun source cause h => hfetch ⟨source, cause, h⟩
      obtain ⟨hrecord, htext⟩ := Share.failure_of_not_fetch hother s.name
      rw [hrecord, htext]
      exact .unexpected hbatch hother

theorem countP_entry (round : Nat) (s : Source) :
    (s.entry round).countP Record.tellsFailure = if (s.report round).outcome.isOk then 0 else 1 := by
  unfold entry report
  cases s.batch round with
  | ok kept =>
    simp only [Share.duplicates]
    split <;> rfl
  | error fault =>
    simp only [Share.failure]
    split <;> rfl

theorem countP_entries (round : Nat) (sources : List Source) :
    (sources.flatMap (entry round)).countP Record.tellsFailure =
      (sources.map (report round)).countP fun r => !r.outcome.isOk := by
  induction sources with
  | nil => rfl
  | cons s sources ih =>
    rw [List.flatMap_cons, List.countP_append, ih, countP_entry, List.map_cons, List.countP_cons, Nat.add_comm]
    cases (s.report round).outcome.isOk <;> rfl

theorem length_contribution (round : Nat) (s : Source) :
    (s.contribution round).length = (s.report round).outcome.count := by
  unfold contribution report
  cases s.batch round <;> rfl

theorem length_contributions (round : Nat) (sources : List Source) :
    (sources.flatMap (contribution round)).length = ((sources.map (report round)).map fun r => r.outcome.count).sum := by
  rw [List.length_flatMap, List.map_map]
  exact congrArg List.sum (List.map_congr_left fun s _ => length_contribution round s)

@[simp] theorem map_fst_book (round : Nat) (sources : List Source) :
    (sources.map (book round)).map Prod.fst = sources.map (report round) := by
  rw [List.map_map]
  rfl

@[simp] theorem flatMap_snd_book (round : Nat) (sources : List Source) :
    (sources.map (book round)).flatMap Prod.snd = sources.flatMap (entry round) := by
  rw [List.flatMap_map]
  rfl

end Source

namespace Collected

structure Balanced (sources : List Source) (filter : Option Filter) (round : Nat)
    (books : List (Report × List Record)) (c : Collected) : Prop where
  reports_eq : c.reports = books.map Prod.fst
  accounts : List.Forall₂ (fun s book => s.Account round (books.flatMap Prod.snd) book.1 book.2) sources books
  failed : ∀ r ∈ c.reports, r.outcome.isOk = false → r.outcome.count = 0 ∧ r.outcome.error?.isSome
  failures : (books.flatMap Prod.snd).countP Record.tellsFailure = c.reports.countP fun r => !r.outcome.isOk
  records : c.records.Perm (sources.flatMap (fun s => (s.answer round).records) ++ books.flatMap Prod.snd ++
    [summary (c.reports.map fun r => r.outcome.count).sum (c.reports.countP fun r => r.outcome.isOk) sources.length
      c.postings.length])
  kept_le : c.postings.length ≤ (c.reports.map fun r => r.outcome.count).sum
  unfiltered : filter = none → c.postings.length = (c.reports.map fun r => r.outcome.count).sum

variable {sources : List Source} {filter : Option Filter} {round : Nat}

theorem keep_of_sure (h : ∀ f ∈ filter, ∀ p ∈ sources.flatMap (Source.contribution round), ∃ b, f p = .ok b) :
    keep filter (sources.flatMap (Source.contribution round)) =
      .ok ((sources.flatMap (Source.contribution round)).filter (Filter.accepts filter)) := by
  rcases keep_cases filter (sources.flatMap (Source.contribution round)) with
    ⟨f, hf, p, hp, fault, hfault, -⟩ | ⟨-, hkeep⟩
  · obtain ⟨b, hb⟩ := h f hf p hp
    rw [hb] at hfault
    cases hfault
  · exact hkeep

theorem balanced_join (hnames : (sources.map Source.name).Nodup)
    (hfilter : ∀ f ∈ filter, ∀ p ∈ sources.flatMap (Source.contribution round), ∃ b, f p = .ok b)
    {written : List Record} (hwritten : written.Perm ((sources.map (Source.share round)).flatMap Share.records)) :
    ∃ c, join filter (sources.map (Source.share round)) written = .ok c ∧
      c.Balanced sources filter round (sources.map (Source.book round)) := by
  have hjoin := join_eq filter (sources.map (Source.share round)) written
  simp only [Source.flatMap_postings_share, Source.map_report_share, keep_of_sure hfilter, Except.map,
    Source.length_contributions, List.length_map] at hjoin
  have hentries := Source.flatMap_snd_book round sources
  refine ⟨_, hjoin, (Source.map_fst_book round sources).symm, ?_, ?_, ?_, ?_, ?_, ?_⟩
  · rw [hentries, List.forall₂_map_right_iff, List.forall₂_same]
    exact fun s hs => Source.account hnames hs
  · rintro ⟨source, outcome⟩ - hfailed
    cases outcome with
    | gathered count => cases hfailed
    | failed error => exact ⟨rfl, rfl⟩
  · rw [hentries, Source.countP_entries]
  · rw [hentries]
    exact (hwritten.trans (Source.flatMap_records_share round sources)).append_right _
  · rw [← Source.length_contributions]
    exact List.length_filter_le _ _
  · rintro rfl
    rw [← Source.length_contributions]
    exact congrArg List.length (List.filter_eq_self.mpr fun _ _ => rfl)

end Collected

/-- What is fetched is counted or told to be dropped, every failure is recorded once, and the totals add up, whatever
turns the caller and the workers take. -/
theorem collect_accounts_for_fetched (sources : List Source) (filter : Option Filter) (workers : Option Int)
    (round : Nat) (hs : sources ≠ []) (hnames : (sources.map Source.name).Nodup)
    (hfilter : ∀ f ∈ filter, ∀ p ∈ sources.flatMap (Source.contribution round), ∃ b, f p = .ok b)
    (hw : ∀ w ∈ workers, 0 ≤ w) :
    ∃ books,
      (∃ c, collect sources filter workers round = .ok c ∧ c.Balanced sources filter round books) ∧
      ∀ width schedule p, Pool.run? sources width (Pool.opened fun _ => round) schedule = some p →
        p.isFinished sources = true → ∃ c, p.outcome filter = .ok c ∧ c.Balanced sources filter round books := by
  refine ⟨sources.map (Source.book round), ?_, fun width schedule p hrun hfinished => ?_⟩
  · rw [collect_of_workers hs hw]
    exact Collected.balanced_join hnames hfilter (.refl _)
  · obtain ⟨hjoined, hwritten, -⟩ := ((Pool.sound_opened fun _ _ => rfl).run hrun).finished hfinished
    rw [Pool.outcome, hjoined]
    exact Collected.balanced_join hnames hfilter hwritten

def mixedBoards : List Source :=
  [.constant "first" ⟨.ok [anyPosting, anyPosting, { anyPosting with title := "designer" }], []⟩,
   .constant "second" ⟨.error (.fetch "second" (.status 503)), []⟩,
   .constant "third" ⟨.ok [{ anyPosting with tags := ⟨[], false⟩ }], []⟩]

def mixedCollected : Collected where
  postings := [anyPosting]
  reports :=
    [⟨"first", .gathered 2⟩, ⟨"second", .failed "second: request failed with code 503"⟩,
     ⟨"third", .failed "TypeError: unhashable type: 'list'"⟩]
  records :=
    [⟨.info, .collection, "first: dropped 1 duplicate jobs"⟩,
     ⟨.warning, .collection,
      "Failed to fetch second: second: request failed with code 503; its jobs will not be included"⟩,
     ⟨.error, .collection, "Unexpected error while fetching third; its jobs will not be included"⟩,
     ⟨.info, .collection, "Collected 2 jobs from 1/3 sources (1 after filtering)"⟩]

theorem collect_mixedBoards :
    mixedBoards ≠ [] ∧ (mixedBoards.map Source.name).Nodup ∧
      collect mixedBoards (Filter.byTitle ["developer"]) (some 2) 0 = .ok mixedCollected ∧
      ∃ books, mixedCollected.Balanced mixedBoards (Filter.byTitle ["developer"]) 0 books := by
  have hs : mixedBoards ≠ [] := List.cons_ne_nil _ _
  have hnames : (mixedBoards.map Source.name).Nodup := by decide
  have hcollect : collect mixedBoards (Filter.byTitle ["developer"]) (some 2) 0 = .ok mixedCollected := by
    decide +kernel
  have hfilter : ∀ f ∈ Filter.byTitle ["developer"], ∀ p ∈ mixedBoards.flatMap (Source.contribution 0),
      ∃ b, f p = .ok b := by
    intro f hf p _
    obtain rfl := Option.some.inj hf
    exact ⟨_, rfl⟩
  obtain ⟨books, ⟨c, hc, hbalanced⟩, -⟩ :=
    collect_accounts_for_fetched mixedBoards (Filter.byTitle ["developer"]) (some 2) 0 hs hnames hfilter (by simp)
  obtain rfl : mixedCollected = c := Except.ok.inj (hcollect.symm.trans hc)
  exact ⟨hs, hnames, hcollect, books, hbalanced⟩

end JobBoards
