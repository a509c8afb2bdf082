import JobBoards.Program
import JobBoards.Proofs.Board.Stamp
import JobBoards.Proofs.Configured.Settings
import JobBoards.Proofs.Repository.Refresh
namespace JobBoards

theorem Board.contribution_source (board : Board) (clock : Nat → Nat → Moment) (replies : Nat → Reply)
    (round : Nat) : (board.source clock replies).contribution round =
      match board.read (clock round) (replies round) with
      | .ok ps => ps.eraseDups
      | .error _ => [] := by
  simp only [Source.contribution, Source.batch, Board.source, Board.answer]
  cases hread : board.read (clock round) (replies round) with
  | error fault => rfl
  | ok ps =>
    have hsettled : ps.all (·.tags.settled) = true :=
      List.all_eq_true.mpr fun p hp => (Board.stamps_of_read hread p hp).2
    simp only [if_pos hsettled]

theorem Filter.byTitle_eq (words : List Text) :
    ∃ test : Option (Posting → Bool), byTitle words = test.map sure ∧
      (test.getD fun _ => true) = fun p => titleHas words p.title := by
  cases words with
  | nil => exact ⟨none, rfl, rfl⟩
  | cons w words => exact ⟨some fun p => titleHas (w :: words) p.title, rfl, rfl⟩

namespace Program
variable {world : World} {settings : Settings}

def block (world : World) (settings : Settings) (round : Nat) (site : Site) : List Posting :=
  match (Board.ofSite settings.timeout site).read (world.clock site round) (world.reply site round) with
  | .ok ps => ps.eraseDups.filter fun p => Filter.titleHas settings.titleWords p.title
  | .error _ => []

theorem filter_contribution (world : World) (settings : Settings) (round : Nat) (site : Site) :
    ((source world (Board.ofSite settings.timeout site)).contribution round).filter
      (fun p => Filter.titleHas settings.titleWords p.title) = block world settings round site := by
  rw [source, Board.contribution_source, block]
  simp only [Board.ofSite]
  split <;> rfl

theorem source_of_block {round : Nat} {site : Site} :
    ∀ p ∈ block world settings round site, p.source = site.name := by
  intro p hp
  unfold block at hp
  split at hp
  · rename_i ps hread
    have hp := List.mem_eraseDups.mp (List.mem_of_mem_filter hp)
    exact (Board.stamps_of_read hread p hp).1
  · cases hp

theorem nodup_block (world : World) (settings : Settings) (round : Nat) (site : Site) :
    (block world settings round site).Nodup := by
  unfold block
  split
  · exact (nodup_eraseDups _).filter _
  · exact List.nodup_nil

theorem nodup_blocks (hsites : settings.sites.Nodup) (round : Nat) :
    (settings.sites.flatMap (block world settings round)).Nodup := by
  rw [List.nodup_flatMap]
  refine ⟨fun site _ => nodup_block world settings round site, hsites.imp ?_⟩
  intro a b hne p ha hb
  exact hne (Site.name_injective ((source_of_block p ha).symm.trans (source_of_block p hb)))

theorem collect_blocks (world : World) (hw : ∀ w ∈ settings.workers, 0 < w) (rules : Rules) (k : Nat) :
    ∃ c, collect (repository world settings rules).sources (repository world settings rules).filter
      (repository world settings rules).workers ((repository world settings rules).after k).rounds =
        .ok c ∧ c.postings = settings.sites.flatMap (block world settings k) := by
  obtain ⟨test, htest, hwants⟩ := Filter.byTitle_eq settings.titleWords
  have hfilter : (repository world settings rules).filter = test.map Filter.sure := htest
  have hworkers : ∀ w ∈ (repository world settings rules).workers, 0 ≤ w :=
    fun w hmem => Int.le_of_lt (hw w hmem)
  have hsources : (repository world settings rules).sources =
      settings.sites.map fun site => source world (Board.ofSite settings.timeout site) := List.map_map
  obtain ⟨c, hc, hpostings, -⟩ := collect_sure (repository world settings rules).sources test
    hworkers k
  refine ⟨c, ?_, ?_⟩
  · rw [Repository.collect_after, hfilter]
    rw [← hc]
    exact congrArg _ (Nat.zero_add k)
  · rw [hpostings, hwants, hsources, List.filter_flatMap, List.flatMap_map]
    simp only [filter_contribution]

theorem not_fails (hw : ∀ w ∈ settings.workers, 0 < w) (rules : Rules) (k : Nat) :
    ¬ ((repository world settings rules).after k).Fails := by
  rw [Repository.fails_after_iff]
  rintro ⟨fault, hfault⟩
  obtain ⟨c, hc, -⟩ := collect_blocks world hw rules k
  rw [hc] at hfault
  cases hfault

theorem postings_after_succ (hw : ∀ w ∈ settings.workers, 0 < w) (rules : Rules) (k : Nat) :
    ((repository world settings rules).after (k + 1)).snapshot.postings =
      settings.sites.flatMap (block world settings k) := by
  obtain ⟨c, hc, hpostings⟩ := collect_blocks world hw rules k
  rw [Repository.snapshot_after_succ_of_published _ (c := c) (by rw [hc])]
  exact (Entry.posting_number c.postings).trans hpostings

theorem nodup_postings_after (hsites : settings.sites.Nodup) (hw : ∀ w ∈ settings.workers, 0 < w)
    (rules : Rules) (k : Nat) :
    ((repository world settings rules).after k).snapshot.postings.Nodup := by
  cases k with
  | zero => exact List.nodup_nil
  | succ k =>
    rw [postings_after_succ hw]
    exact nodup_blocks hsites k

/-- Settings that are accepted make a program whose every refresh publishes, without any repetition, one block
of postings for each site, in the order of the sites. -/
theorem publishes_blocks (world : World) (settings : Settings) (rules : Rules)
    (h : Settings.ofEnvironment world.environment = .ok settings) (k : Nat) :
    ¬ ((repository world settings rules).after k).Fails ∧
      ((repository world settings rules).after k).snapshot.postings.Nodup ∧
      settings.sites.Nodup ∧
      ((repository world settings rules).after (k + 1)).snapshot.postings =
        settings.sites.flatMap (block world settings k) ∧
      ∀ site, ∀ p ∈ block world settings k site, p.source = site.name := by
  obtain ⟨hsites, hw⟩ := Settings.wellFormed h
  exact ⟨not_fails hw rules k, nodup_postings_after hsites hw rules k, hsites,
    postings_after_succ hw rules k, fun _ => source_of_block⟩

def rowPage : Text :=
  let row : Text := "<tr class=table_row><td>Engineer</td><td>Acme</td>".toList ++
    "<td><time datetime=2024-01-01></time></td><td>Rome</td><td></td><td></td></tr>".toList
  row ++ row

def panelPage : Text :=
  "<div class=panel_inner__YQLRW><a>Engineer</a><a>Acme</a><span>Rome</span><span>1 day</span></div>"

def twoSites : World where
  environment := [("JOB_SOURCES", " Web3.Career,useweb3.xyz,,web3.career")]
  file _ := .missing
  calls := 980
  reply site _ := .response 200 (.page (if site = .web3Career then rowPage else panelPage))
  clock _ round _ := ⟨⟨2024, 3, 10 + round⟩, 43200⟩
  width := 80
  input := []

theorem publishes_twoSites :
    ∃ settings, Settings.ofEnvironment twoSites.environment = .ok settings ∧
      settings.sites = [.web3Career, .useWeb3] ∧
      ((repository twoSites settings .standard).after 1).snapshot.postings.map Posting.source =
        ["web3.career", "useweb3.xyz"] := by
  obtain ⟨settings, hsettings⟩ :
      ∃ settings, Settings.ofEnvironment twoSites.environment = .ok settings := ⟨_, rfl⟩
  obtain ⟨-, -, -, hpostings, -⟩ := publishes_blocks twoSites settings .standard hsettings 0
  obtain rfl := Except.ok.inj hsettings
  refine ⟨_, rfl, rfl, ?_⟩
  rw [hpostings]
  decide +kernel

end Program
end JobBoards
