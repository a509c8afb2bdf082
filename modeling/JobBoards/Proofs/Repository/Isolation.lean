import JobBoards.Proofs.Collection.Contribution
import JobBoards.Proofs.Index.Buckets
import JobBoards.Snapshot
namespace JobBoards

/-- A posting and the position of the source that contributes it. -/
abbrev Traced := Posting × Nat

namespace Source

def traced (round : Nat) (s : Source × Nat) : List Traced :=
  (s.1.contribution round).map fun p => (p, s.2)

end Source

def trace (test : Option (Posting → Bool)) (round : Nat) (sources : List Source) : List Traced :=
  (sources.zipIdx.flatMap (Source.traced round)).filter fun t => (test.getD fun _ => true) t.1

theorem map_fst_flatMap_traced (round n : Nat) (sources : List Source) :
    ((sources.zipIdx n).flatMap (Source.traced round)).map Prod.fst =
      sources.flatMap (Source.contribution round) := by
  induction sources generalizing n with
  | nil => rfl
  | cons s sources ih =>
    rw [List.zipIdx_cons, List.flatMap_cons, List.map_append, ih, List.flatMap_cons, Source.traced,
      List.map_map]
    exact congrArg (· ++ _) (List.map_id _)

theorem map_fst_trace (test : Option (Posting → Bool)) (round : Nat) (sources : List Source) :
    (trace test round sources).map Prod.fst =
      (sources.flatMap (Source.contribution round)).filter (test.getD fun _ => true) := by
  rw [← map_fst_flatMap_traced round 0, List.filter_map]
  rfl

theorem Source.traced_without (round i : Nat) (s : Source × Nat) :
    (traced round s).filter (·.2 ≠ i) = if s.2 = i then [] else traced round s := by
  split
  · rename_i h
    simp [traced, h]
  · rename_i h
    simp [traced, h]

theorem trace_without (test : Option (Posting → Bool)) (round i : Nat) (sources : List Source) :
    (trace test round sources).filter (·.2 ≠ i) =
      (sources.zipIdx.flatMap fun s => if s.2 = i then [] else Source.traced round s).filter
        fun t => (test.getD fun _ => true) t.1 := by
  rw [trace, List.filter_comm, List.filter_flatMap]
  simp only [Source.traced_without]

theorem trace_without_eq (test : Option (Posting → Bool)) (round : Nat) {i : Nat}
    {xs ys : List Source} (hlength : xs.length = ys.length) (hsame : ∀ j ≠ i, xs[j]? = ys[j]?) :
    (trace test round xs).filter (·.2 ≠ i) = (trace test round ys).filter (·.2 ≠ i) := by
  have hmap : (xs.zipIdx.map fun s => if s.2 = i then [] else Source.traced round s) =
      ys.zipIdx.map fun s => if s.2 = i then [] else Source.traced round s := by
    apply List.ext_getElem?
    intro j
    rw [List.getElem?_map, List.getElem?_map, List.getElem?_zipIdx, List.getElem?_zipIdx]
    by_cases hj : j = i
    -- at this position there may be another source, but nothing of it is kept
    · subst hj
      by_cases hlt : j < xs.length
      · rw [List.getElem?_eq_getElem hlt, List.getElem?_eq_getElem (hlength ▸ hlt)]
        simp
      · have hle := Nat.le_of_not_lt hlt
        rw [List.getElem?_eq_none hle, List.getElem?_eq_none (hlength ▸ hle)]
    · rw [hsame j hj]
  rw [trace_without, trace_without, List.flatMap_def, List.flatMap_def, hmap]

theorem filter_flatMap_replicate {α : Type} (p : α → Bool) (count : α → Nat) (l : List α) :
    (l.flatMap fun a => List.replicate (count a) a).filter p =
      (l.filter p).flatMap fun a => List.replicate (count a) a := by
  induction l with
  | nil => rfl
  | cons a l ih =>
    rw [List.flatMap_cons, List.filter_append, ih, List.filter_replicate, List.filter_cons]
    cases p a <;> simp

namespace Entry

/-- Some entries of a collection, each with its source, without those that one source contributes; `origins` tells
the sources by the positions of the entries. -/
def without (i : Nat) (origins : List Nat) (entries : List Entry) : List (Posting × Option Nat) :=
  (entries.map fun e => (e.posting, origins[e.position]?)).filter (·.2 ≠ some i)

theorem map_number (ts : List Traced) :
    (number (ts.map Prod.fst)).map (fun e => (e.posting, (ts.map Prod.snd)[e.position]?)) =
      ts.map fun t => (t.1, some t.2) := by
  apply List.ext_getElem?
  intro k
  simp only [number, List.getElem?_map, List.getElem?_zipIdx]
  cases hk : ts[k]? with
  | none => rfl
  | some t => simp [hk]

theorem without_number (i : Nat) (count : Posting → Nat) (ts : List Traced) :
    without i (ts.map Prod.snd)
      ((number (ts.map Prod.fst)).flatMap fun e => List.replicate (count e.posting) e) =
      ((ts.filter (·.2 ≠ i)).map fun t => (t.1, some t.2)).flatMap fun u =>
        List.replicate (count u.1) u := by
  have hrepeat : ((number (ts.map Prod.fst)).flatMap fun e =>
        List.replicate (count e.posting) e).map
          (fun e => (e.posting, (ts.map Prod.snd)[e.position]?)) =
      (ts.map fun t => (t.1, some t.2)).flatMap fun u => List.replicate (count u.1) u := by
    rw [← map_number, List.flatMap_map, List.map_flatMap]
    simp only [List.map_replicate]
  rw [without, hrepeat, filter_flatMap_replicate, List.filter_map]
  simp [Function.comp_def]

theorem without_number_self (i : Nat) (ts : List Traced) :
    without i (ts.map Prod.snd) (number (ts.map Prod.fst)) =
      (ts.filter (·.2 ≠ i)).map fun t => (t.1, some t.2) := by
  rw [without, map_number, List.filter_map]
  simp [Function.comp_def]

end Entry

section Buckets
variable {κ : Type} [DecidableEq κ]

theorem Buckets.without_get (i : Nat) (keys : Posting → List κ) (key : κ) (ts : List Traced) :
    Entry.without i (ts.map Prod.snd) (get key (build keys (Entry.number (ts.map Prod.fst)))) =
      ((ts.filter (·.2 ≠ i)).map fun t => (t.1, some t.2)).flatMap fun u =>
        List.replicate ((keys u.1).count key) u := by
  rw [get_build]
  exact Entry.without_number i (fun p => (keys p).count key) ts

end Buckets

namespace Snapshot

structure AgreesWithout (i : Nat) (origins others : List Nat) (s t : Snapshot) : Prop where
  report_eq : ∀ j ≠ i, s.reports[j]? = t.reports[j]?
  entries_eq : Entry.without i origins s.entries = Entry.without i others t.entries
  date_eq : ∀ key, Entry.without i origins (s.index.date.get key) =
    Entry.without i others (t.index.date.get key)
  company_eq : ∀ key, Entry.without i origins (s.index.company.get key) =
    Entry.without i others (t.index.company.get key)
  location_eq : ∀ key, Entry.without i origins (s.index.location.get key) =
    Entry.without i others (t.index.location.get key)
  skill_eq : ∀ key, Entry.without i origins (s.index.skill.get key) =
    Entry.without i others (t.index.skill.get key)
  level_eq : ∀ key, Entry.without i origins (s.index.level.get key) =
    Entry.without i others (t.index.level.get key)

/-- What one source does is seen in its report and its postings only. -/
theorem agreesWithout_of_same (rules : Rules) (test : Option (Posting → Bool)) (workers : Option Int)
    (round i : Nat) (xs ys : List Source) (hw : ∀ w ∈ workers, 0 ≤ w)
    (hlength : xs.length = ys.length) (hsame : ∀ j ≠ i, xs[j]? = ys[j]?) :
    ∃ c d, collect xs (test.map Filter.sure) workers round = .ok c ∧
      collect ys (test.map Filter.sure) workers round = .ok d ∧
      c.postings = (trace test round xs).map Prod.fst ∧
      d.postings = (trace test round ys).map Prod.fst ∧
      AgreesWithout i ((trace test round xs).map Prod.snd) ((trace test round ys).map Prod.snd)
        (.ofCollected rules c) (.ofCollected rules d) := by
  obtain ⟨c, hc, hpostings, hreports⟩ := collect_sure xs test hw round
  obtain ⟨d, hd, hpostings', hreports'⟩ := collect_sure ys test hw round
  rw [← map_fst_trace] at hpostings hpostings'
  have htrace := trace_without_eq test round hlength hsame
  have hbucket {κ : Type} [DecidableEq κ] (keys : Posting → List κ) (key : κ) :
      Entry.without i ((trace test round xs).map Prod.snd)
        (Buckets.get key (Buckets.build keys (Entry.number c.postings))) =
      Entry.without i ((trace test round ys).map Prod.snd)
        (Buckets.get key (Buckets.build keys (Entry.number d.postings))) := by
    rw [hpostings, hpostings', Buckets.without_get, Buckets.without_get, htrace]
  refine ⟨c, d, hc, hd, hpostings, hpostings', ?_, ?_, hbucket fun p => [p.date],
    hbucket fun p => [p.company], hbucket fun p => [rules.location p], hbucket rules.skillsOf,
    hbucket rules.levelsOf⟩
  · intro j hj
    simp only [ofCollected, hreports, hreports', List.getElem?_map, hsame j hj]
  · simp only [ofCollected, hpostings, hpostings', Entry.without_number_self, htrace]

def advertised (date : Text) : Posting :=
  ⟨"developer", "company", date, "remote", "", "", ⟨[], true⟩, ""⟩

def neighbours (middle : Except Fault (List Posting)) : List Source :=
  [.constant "left" ⟨.ok [advertised "2022-01-01"], []⟩, .constant "middle" ⟨middle, []⟩,
   .constant "right" ⟨.ok [advertised "2022-01-01"], []⟩]

theorem agreesWithout_middle :
    ∃ c d,
      collect (neighbours (.ok [advertised "2022-01-01", advertised "2022-01-02"])) none none 0 =
        .ok c ∧
      collect (neighbours (.error (.external "OSError" "timed out"))) none none 0 = .ok d ∧
      AgreesWithout 1 [0, 1, 1, 2] [0, 2] (.ofCollected .standard c) (.ofCollected .standard d) := by
  obtain ⟨c, d, hc, hd, -, -, hagrees⟩ := agreesWithout_of_same .standard none none 0 1
    (neighbours (.ok [advertised "2022-01-01", advertised "2022-01-02"]))
    (neighbours (.error (.external "OSError" "timed out"))) (by simp) rfl (by
      intro j hj
      rcases j with _ | _ | j
      · rfl
      · exact absurd rfl hj
      · rfl)
  exact ⟨c, d, hc, hd, hagrees⟩

end Snapshot
end JobBoards
