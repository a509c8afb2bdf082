import JobBoards.Proofs.Configured.Collection
import JobBoards.Proofs.Text.Letters
import JobBoards.Proofs.Text.Spelling
namespace JobBoards

def Site.Unknown (item : Text) : Prop :=
  (∃ c ∈ item, Text.isBlank c = false) ∧ ∀ site ∈ all, (Text.trim item).map Char.toLower ≠ site.name

instance (item : Text) : Decidable (Site.Unknown item) :=
  decidable_of_iff
    (Text.trim item ≠ [] ∧ ∀ site ∈ Site.all, (Text.trim item).map Char.toLower ≠ site.name)
    (and_congr_left fun _ => Text.trim_ne_nil_iff)

theorem Site.name_letters (site : Site) : ∀ c ∈ site.name, c.toNat < 128 ∧ c ≠ 'k' := by
  have hall : site.name.all (fun c => decide (c.toNat < 128 ∧ c ≠ 'k')) = true := by
    cases site
    all_goals rfl
  exact fun c hc => of_decide_eq_true (List.all_eq_true.mp hall c hc)

theorem Site.not_mentionedBy_trim_iff {item : Text} : (∀ site : Site, ¬ site.MentionedBy (Text.trim item)) ↔
    ∀ site ∈ all, (Text.trim item).map Char.toLower ≠ site.name := by
  refine forall_congr' fun site => ?_
  rw [MentionedBy, Text.trim_trim, Text.lower_eq_iff (name_letters site), imp_iff_right (mem_all site)]

def Environment.text (env : Environment) (name : Text) : Text := (env.value? name).getD []

namespace Settings
variable {env : Environment} {name s : Text} {fault : Fault} {sites result : List Site}

def Illegible (s : Text) : Prop :=
  (∃ c ∈ s, Text.isBlank c = false) ∧ ∀ n > 0, ¬ Text.Spells n (Text.trim s)

inductive Misspelt (name s : Text) : Fault → Prop
  | notInteger (hfilled : ∃ c ∈ s, Text.isBlank c = false) (h : ∀ n, ¬ Text.Spells n (Text.trim s)) :
      Misspelt name s (.notInteger name (Text.trim s))
  | notPositive {n : Int} (h : Text.Spells n (Text.trim s)) (hn : n ≤ 0) :
      Misspelt name s (.notPositive name n)

/-- What is wrong with the variables, the sites before the workers and these before the timeout. -/
inductive Refuses (env : Environment) : Fault → Prop
  | site {before after : List Text} {item : Text}
      (hitems : Text.splitOn ',' (env.text "JOB_SOURCES") = before ++ item :: after)
      (hbefore : ∀ earlier ∈ before, ¬ Site.Unknown earlier) (hitem : Site.Unknown item) :
      Refuses env (.unknownSource (Text.trim item))
  | workers {fault : Fault} (hsites : ∀ item ∈ Text.splitOn ',' (env.text "JOB_SOURCES"), ¬ Site.Unknown item)
      (h : Misspelt "MAX_WORKERS" (env.text "MAX_WORKERS") fault) : Refuses env fault
  | timeout {fault : Fault} (hsites : ∀ item ∈ Text.splitOn ',' (env.text "JOB_SOURCES"), ¬ Site.Unknown item)
      (hworkers : ¬ Illegible (env.text "MAX_WORKERS"))
      (h : Misspelt "REQUEST_TIMEOUT" (env.text "REQUEST_TIMEOUT") fault) : Refuses env fault

structure Proper (settings : Settings) : Prop where
  named : settings.sites ≠ []
  nodup : settings.sites.Nodup
  words : ∀ w ∈ settings.titleWords, w ≠ [] ∧ Text.Tight w ∧ ',' ∉ w
  workers : ∀ n ∈ settings.workers, 1 ≤ n
  timeout : 1 ≤ settings.timeout

section Sites

theorem mem_items_iff {w : Text} : w ∈ items s ↔
    ∃ item ∈ Text.splitOn ',' s, (∃ c ∈ item, Text.isBlank c = false) ∧ Text.trim item = w := by
  simp only [items, List.mem_filter, List.mem_map, ← Text.trim_ne_nil_iff]
  constructor
  · rintro ⟨⟨item, hitem, rfl⟩, hfilled⟩
    exact ⟨item, hitem, by simpa using hfilled, rfl⟩
  · rintro ⟨item, hitem, hfilled, rfl⟩
    exact ⟨⟨item, hitem, rfl⟩, by simpa using hfilled⟩

def registered (sites : List Site) (pieces : List Text) : Except Fault (List Site) :=
  ((pieces.map Text.trim).filter fun w => !w.isEmpty).foldlM register sites

theorem registered_cons_of_blank {item : Text} (h : Text.trim item = []) (pieces : List Text) :
    registered sites (item :: pieces) = registered sites pieces := by
  rw [registered, List.map_cons, List.filter_cons_of_neg (by simp [h])]
  rfl

theorem registered_cons_of_filled {item : Text} (h : Text.trim item ≠ []) (pieces : List Text) :
    registered sites (item :: pieces) = register sites (Text.trim item) >>= (registered · pieces) := by
  rw [registered, List.map_cons, List.filter_cons_of_pos (by simpa using h), List.foldlM_cons]
  rfl

theorem registered_cons_of_unknown {item : Text} (h : Site.Unknown item) (pieces : List Text) :
    registered sites (item :: pieces) = .error (.unknownSource (Text.trim item)) := by
  rw [registered_cons_of_filled (Text.trim_ne_nil_iff.mpr h.1),
    register_of_unknown (Site.not_mentionedBy_trim_iff.mpr h.2)]
  rfl

theorem registered_cons {item : Text} (h : ¬ Site.Unknown item) (sites : List Site) :
    ∃ next, ∀ pieces, registered sites (item :: pieces) = registered next pieces := by
  by_cases hblank : Text.trim item = []
  · exact ⟨sites, registered_cons_of_blank hblank⟩
  · by_cases hsite : ∃ site : Site, site.MentionedBy (Text.trim item)
    · obtain ⟨site, hsite⟩ := hsite
      refine ⟨if site ∈ sites then sites else sites ++ [site], fun pieces => ?_⟩
      rw [registered_cons_of_filled hblank, register_of_mentionedBy hsite]
      rfl
    · exact absurd ⟨Text.trim_ne_nil_iff.mp hblank, Site.not_mentionedBy_trim_iff.mp (not_exists.mp hsite)⟩ h

theorem registered_eq_error_iff {pieces : List Text} : registered sites pieces = .error fault ↔
    ∃ before item after, pieces = before ++ item :: after ∧ (∀ earlier ∈ before, ¬ Site.Unknown earlier) ∧
      Site.Unknown item ∧ fault = .unknownSource (Text.trim item) := by
  -- the sites change with every item that is passed, but no verdict depends on them
  constructor
  · intro h
    induction pieces generalizing sites with
    | nil => cases h
    | cons item pieces ih =>
      by_cases hitem : Site.Unknown item
      · rw [registered_cons_of_unknown hitem] at h
        exact ⟨[], item, pieces, rfl, List.forall_mem_nil _, hitem, (Except.error.inj h).symm⟩
      · obtain ⟨next, hnext⟩ := registered_cons hitem sites
        rw [hnext] at h
        obtain ⟨before, bad, after, rfl, hbefore, hbad, rfl⟩ := ih h
        exact ⟨item :: before, bad, after, rfl, List.forall_mem_cons.mpr ⟨hitem, hbefore⟩, hbad, rfl⟩
  · rintro ⟨before, item, after, rfl, hbefore, hitem, rfl⟩
    induction before generalizing sites with
    | nil => exact registered_cons_of_unknown hitem after
    | cons earlier before ih =>
      obtain ⟨hearlier, hbefore⟩ := List.forall_mem_cons.mp hbefore
      obtain ⟨next, hnext⟩ := registered_cons hearlier sites
      rw [List.cons_append, hnext]
      exact ih hbefore

theorem sitesOf_ne_nil (h : sitesOf env = .ok sites) : sites ≠ [] := by
  unfold sitesOf at h
  split at h
  · obtain rfl := Except.ok.inj h
    decide
  · rename_i names hnames
    exact (sitesNamed_eq_ok_iff.mp h).ne_nil hnames

theorem sitesOf_eq_error_iff : sitesOf env = .error fault ↔
    registered [] (Text.splitOn ',' (env.text "JOB_SOURCES")) = .error fault := by
  rw [registered]
  change _ ↔ (items (env.text "JOB_SOURCES")).foldlM register [] = .error fault
  unfold sitesOf
  split
  · rename_i hnone
    rw [Environment.text, hnone]
    constructor
    · intro h
      cases h
    · intro h
      cases h
  · rfl

theorem exists_sitesOf_iff : (∃ sites, sitesOf env = .ok sites) ↔
    ∀ item ∈ Text.splitOn ',' (env.text "JOB_SOURCES"), ¬ Site.Unknown item := by
  simp only [Fault.exists_ok_iff, Ne, sitesOf_eq_error_iff, registered_eq_error_iff]
  constructor
  · intro h item hitem hunknown
    obtain ⟨first, hfirst⟩ := Option.isSome_iff_exists.mp
      (List.find?_isSome (p := fun item => decide (Site.Unknown item)).mpr ⟨item, hitem, decide_eq_true hunknown⟩)
    obtain ⟨hbad, before, after, hsplit, hbefore⟩ := List.find?_eq_some_iff_append.mp hfirst
    exact h _ ⟨before, first, after, hsplit, fun earlier hearlier => by simpa using hbefore earlier hearlier,
      of_decide_eq_true hbad, rfl⟩
  · rintro h fault ⟨before, item, after, hsplit, -, hunknown, -⟩
    exact h item (hsplit ▸ List.mem_append_right before List.mem_cons_self) hunknown

end Sites

theorem proper_of_mem_items {w : Text} (h : w ∈ items s) : w ≠ [] ∧ Text.Tight w ∧ ',' ∉ w := by
  obtain ⟨item, hitem, hfilled, rfl⟩ := mem_items_iff.mp h
  refine ⟨Text.trim_ne_nil_iff.mpr hfilled, Text.tight_trim item, ?_⟩
  rw [← List.count_eq_zero, Text.count_trim (by decide), List.count_eq_zero]
  intro hcomma
  exact absurd (Text.not_of_mem_pieces s item hitem ',' hcomma) (by decide)

theorem proper_titleWordsOf (env : Environment) :
    ∀ w ∈ titleWordsOf env, w ≠ [] ∧ Text.Tight w ∧ ',' ∉ w := by
  unfold titleWordsOf
  split
  · decide
  · exact fun w => proper_of_mem_items

section Numbers

theorem spells_iff {n : Int} : Text.int? (Text.trim s) = some n ↔ Text.Spells n (Text.trim s) := by
  rw [Text.int?_eq_some_iff, Text.trim_trim]

theorem Misspelt.filled (h : Misspelt name s fault) : ∃ c ∈ s, Text.isBlank c = false := by
  cases h with
  | notInteger hfilled _ => exact hfilled
  | notPositive h _ =>
    refine Text.trim_ne_nil_iff.mp fun hnil => ?_
    rw [← spells_iff, hnil] at h
    cases h

theorem positive_of_blank (h : Text.trim (env.text name) = []) : positive env name = .ok none := by
  unfold positive
  split
  · rfl
  · contradiction

theorem positive_of_filled (h : Text.trim (env.text name) ≠ []) : positive env name =
    match Text.int? (Text.trim (env.text name)) with
    | none => .error (.notInteger name (Text.trim (env.text name)))
    | some n => if n ≤ 0 then .error (.notPositive name n) else .ok (some n) := by
  rw [positive]
  split
  · contradiction
  · rfl

theorem positive_of_misspelt (h : Misspelt name (env.text name) fault) : positive env name = .error fault := by
  rw [positive_of_filled (Text.trim_ne_nil_iff.mpr h.filled)]
  cases h with
  | notInteger _ h =>
    have hnone : Text.int? (Text.trim (env.text name)) = none :=
      Option.eq_none_iff_forall_ne_some.mpr fun n hn => h n (spells_iff.mp hn)
    rw [hnone]
  | notPositive h hn =>
    rw [spells_iff.mpr h]
    exact if_pos hn

theorem misspelt_of_positive (h : positive env name = .error fault) : Misspelt name (env.text name) fault := by
  by_cases hblank : Text.trim (env.text name) = []
  · rw [positive_of_blank hblank] at h
    cases h
  · rw [positive_of_filled hblank] at h
    cases hint : Text.int? (Text.trim (env.text name)) with
    | none =>
      simp only [hint] at h
      obtain rfl := Except.error.inj h
      refine .notInteger (Text.trim_ne_nil_iff.mp hblank) fun n hn => ?_
      rw [spells_iff.mpr hn] at hint
      cases hint
    | some n =>
      simp only [hint] at h
      split at h
      · rename_i hn
        obtain rfl := Except.error.inj h
        exact .notPositive (spells_iff.mp hint) hn
      · cases h

theorem positive_eq_error_iff : positive env name = .error fault ↔ Misspelt name (env.text name) fault :=
  ⟨misspelt_of_positive, positive_of_misspelt⟩

theorem illegible_iff : Illegible s ↔ ∃ fault, Misspelt name s fault := by
  constructor
  · rintro ⟨hfilled, h⟩
    by_cases hspelt : ∃ n, Text.Spells n (Text.trim s)
    · obtain ⟨n, hn⟩ := hspelt
      exact ⟨_, .notPositive hn (Int.not_lt.mp fun hpos => h n hpos hn)⟩
    · exact ⟨_, .notInteger hfilled (not_exists.mp hspelt)⟩
  · rintro ⟨fault, hfault⟩
    refine ⟨hfault.filled, fun n hpos hspelt => ?_⟩
    cases hfault with
    | notInteger _ h => exact h n hspelt
    | notPositive h hn =>
      obtain rfl := Option.some.inj ((spells_iff.mpr h).symm.trans (spells_iff.mpr hspelt))
      omega

theorem exists_positive_iff : (∃ value, positive env name = .ok value) ↔ ¬ Illegible (env.text name) := by
  rw [Fault.exists_ok_iff, illegible_iff, not_exists]
  exact forall_congr' fun fault => not_congr positive_eq_error_iff

end Numbers

theorem ofEnvironment_eq_error_iff : ofEnvironment env = .error fault ↔ Refuses env fault := by
  constructor
  · intro h
    rcases Fault.bind_eq_error.mp h with hsites | ⟨sites, hsites, h⟩
    · obtain ⟨before, item, after, hitems, hbefore, hitem, rfl⟩ :=
        registered_eq_error_iff.mp (sitesOf_eq_error_iff.mp hsites)
      exact .site hitems hbefore hitem
    have hknown := exists_sitesOf_iff.mp ⟨sites, hsites⟩
    rcases Fault.bind_eq_error.mp h with hworkers | ⟨workers, hworkers, h⟩
    · exact .workers hknown (misspelt_of_positive hworkers)
    have hlegible := exists_positive_iff.mp ⟨workers, hworkers⟩
    rcases Fault.bind_eq_error.mp h with htimeout | ⟨timeout, -, h⟩
    · exact .timeout hknown hlegible (misspelt_of_positive htimeout)
    · cases h
  · intro h
    cases h with
    | site hitems hbefore hitem =>
      refine Fault.bind_eq_error.mpr (.inl (sitesOf_eq_error_iff.mpr (registered_eq_error_iff.mpr ?_)))
      exact ⟨_, _, _, hitems, hbefore, hitem, rfl⟩
    | workers hsites hworkers =>
      obtain ⟨sites, hsites⟩ := exists_sitesOf_iff.mpr hsites
      refine Fault.bind_eq_error.mpr (.inr ⟨sites, hsites, Fault.bind_eq_error.mpr (.inl ?_)⟩)
      exact positive_of_misspelt hworkers
    | timeout hsites hworkers htimeout =>
      obtain ⟨sites, hsites⟩ := exists_sitesOf_iff.mpr hsites
      obtain ⟨workers, hworkers⟩ := exists_positive_iff.mpr hworkers
      refine Fault.bind_eq_error.mpr (.inr ⟨sites, hsites, Fault.bind_eq_error.mpr (.inr ⟨workers, hworkers, ?_⟩)⟩)
      exact Fault.bind_eq_error.mpr (.inl (positive_of_misspelt htimeout))

theorem Refuses.kind (h : Refuses env fault) : fault.kind = "ValueError" := by
  cases h with
  | site => rfl
  | workers _ h => cases h <;> rfl
  | timeout _ _ h => cases h <;> rfl

def settled (env : Environment) (sites : List Site) (workers timeout : Option Int) : Settings where
  sites := sites
  titleWords := titleWordsOf env
  workers := workers
  timeout := timeout.getD standardTimeout
  proxy := (filled env "HTTP_PROXY").or (filled env "HTTPS_PROXY")
  verifies := verifiesOf env
  rulesPath := filled env "CLASSIFIER_RULES_PATH"
  logLevel := Text.upper ((env.value? "LOG_LEVEL").getD "INFO")

theorem ofEnvironment_eq_ok_iff {settings : Settings} : ofEnvironment env = .ok settings ↔
    ∃ sites workers timeout, sitesOf env = .ok sites ∧ positive env "MAX_WORKERS" = .ok workers ∧
      positive env "REQUEST_TIMEOUT" = .ok timeout ∧ settled env sites workers timeout = settings := by
  constructor
  · intro h
    obtain ⟨sites, hsites, h⟩ := Fault.bind_eq_ok.mp h
    obtain ⟨workers, hworkers, h⟩ := Fault.bind_eq_ok.mp h
    obtain ⟨timeout, htimeout, h⟩ := Fault.bind_eq_ok.mp h
    exact ⟨sites, workers, timeout, hsites, hworkers, htimeout, Except.ok.inj h⟩
  · rintro ⟨sites, workers, timeout, hsites, hworkers, htimeout, rfl⟩
    rw [ofEnvironment, hsites, hworkers, htimeout]
    rfl

theorem exists_ofEnvironment_iff (env : Environment) : (∃ settings, ofEnvironment env = .ok settings) ↔
    (∀ item ∈ Text.splitOn ',' (env.text "JOB_SOURCES"), ¬ Site.Unknown item) ∧
      ¬ Illegible (env.text "MAX_WORKERS") ∧ ¬ Illegible (env.text "REQUEST_TIMEOUT") := by
  rw [← exists_sitesOf_iff, ← exists_positive_iff, ← exists_positive_iff]
  constructor
  · rintro ⟨settings, h⟩
    obtain ⟨sites, workers, timeout, hsites, hworkers, htimeout, -⟩ := ofEnvironment_eq_ok_iff.mp h
    exact ⟨⟨sites, hsites⟩, ⟨workers, hworkers⟩, ⟨timeout, htimeout⟩⟩
  · rintro ⟨⟨sites, hsites⟩, ⟨workers, hworkers⟩, ⟨timeout, htimeout⟩⟩
    exact ⟨_, ofEnvironment_eq_ok_iff.mpr ⟨sites, workers, timeout, hsites, hworkers, htimeout, rfl⟩⟩

theorem proper_of_ofEnvironment {settings : Settings} (h : ofEnvironment env = .ok settings) : settings.Proper := by
  obtain ⟨sites, workers, timeout, hsites, hworkers, htimeout, rfl⟩ := ofEnvironment_eq_ok_iff.mp h
  refine ⟨sitesOf_ne_nil hsites, nodup_sitesOf hsites, proper_titleWordsOf env, pos_of_positive hworkers, ?_⟩
  cases timeout with
  | none =>
    change 1 ≤ standardTimeout
    decide
  | some n => exact pos_of_positive htimeout n rfl

theorem Proper.not_fails {settings : Settings} (h : settings.Proper) (world : World) (rules : Rules)
    (sources : List Source) (k : Nat) :
    ¬ ({ Program.repository world settings rules with sources := sources }.after k).Fails := by
  obtain ⟨test, htest, -⟩ := Filter.byTitle_eq settings.titleWords
  have hcollect (round : Nat) :
      ∃ c, collect sources (Filter.byTitle settings.titleWords) settings.workers round = .ok c := by
    obtain ⟨c, hc, -⟩ := collect_sure sources test (fun n hn => Int.le_of_lt (h.workers n hn)) round
    exact ⟨c, htest ▸ hc⟩
  rw [Repository.fails_after_iff]
  rintro ⟨fault, hfault⟩
  obtain ⟨c, hc⟩ := hcollect _
  exact nomatch hc.symm.trans hfault

theorem refused_or_proper (env : Environment) :
    (∀ fault, ofEnvironment env = .error fault ↔ Refuses env fault) ∧
      (∀ fault, ofEnvironment env = .error fault → fault.kind = "ValueError") ∧
      ((∃ fault, ofEnvironment env = .error fault) ↔
        (∃ item ∈ Text.splitOn ',' (env.text "JOB_SOURCES"), Site.Unknown item) ∨
          Illegible (env.text "MAX_WORKERS") ∨ Illegible (env.text "REQUEST_TIMEOUT")) ∧
      ∀ settings, ofEnvironment env = .ok settings →
        settings.Proper ∧ ∀ world rules sources k,
          ¬ ({ Program.repository world settings rules with sources := sources }.after k).Fails := by
  refine ⟨fun fault => ofEnvironment_eq_error_iff, fun fault h => ?_, ?_, fun settings h => ?_⟩
  · exact (ofEnvironment_eq_error_iff.mp h).kind
  · have haccepted := Fault.exists_ok_iff.symm.trans (exists_ofEnvironment_iff env)
    rw [← not_iff_not]
    simp only [not_exists, not_or, not_and]
    exact haccepted
  · have hproper := proper_of_ofEnvironment h
    exact ⟨hproper, hproper.not_fails⟩

def oddVariables : Environment :=
  [("JOB_SOURCES", " Web3.Career, ,USEWEB3.xyz ,web3.career"), ("MAX_WORKERS", " +1_0 "), ("REQUEST_TIMEOUT", "٤٥")]

def twoMistakes : Environment := [("MAX_WORKERS", "0"), ("JOB_SOURCES", "web3.career, nowhere")]

theorem refused_or_proper_oddVariables :
    (∃ settings, ofEnvironment oddVariables = .ok settings ∧ settings.sites = [.web3Career, .useWeb3] ∧
      settings.workers = some 10 ∧ settings.timeout = 45 ∧ settings.Proper ∧
      ∀ world rules sources k,
        ¬ ({ Program.repository world settings rules with sources := sources }.after k).Fails) ∧
      ofEnvironment twoMistakes = .error (.unknownSource "nowhere") := by
  obtain ⟨-, -, -, hproper⟩ := refused_or_proper oddVariables
  obtain ⟨hrefuses, -, -, -⟩ := refused_or_proper twoMistakes
  constructor
  · refine ⟨_, rfl, ?_, ?_, ?_, hproper _ rfl⟩
    · decide +kernel
    · decide +kernel
    · decide +kernel
  · refine (hrefuses _).mpr ?_
    have hitems : Text.splitOn ',' (twoMistakes.text "JOB_SOURCES") = ["web3.career".toList] ++ [" nowhere".toList] := by
      decide
    exact .site hitems (by decide) (by decide)

end Settings
end JobBoards
