import JobBoards.Proofs.Configured.Sites
namespace JobBoards

theorem Site.nodup_all : Site.all.Nodup := by
  decide

namespace Settings

theorem nodup_sitesOf {env : Environment} {sites : List Site} (h : sitesOf env = .ok sites) :
    sites.Nodup := by
  unfold sitesOf at h
  split at h
  · obtain rfl := Except.ok.inj h
    exact Site.nodup_all
  · exact (sitesNamed_eq_ok_iff.mp h).nodup

theorem pos_of_positive {env : Environment} {name : Text} {value : Option Int}
    (h : positive env name = .ok value) : ∀ n ∈ value, 0 < n := by
  unfold positive at h
  split at h
  · obtain rfl := Except.ok.inj h
    simp
  · split at h
    · cases h
    · split at h
      · cases h
      · rename_i n _ hpos
        obtain rfl := Except.ok.inj h
        intro m hm
        obtain rfl := Option.some.inj hm
        exact Int.not_le.mp hpos

theorem wellFormed {env : Environment} {settings : Settings} (h : ofEnvironment env = .ok settings) :
    settings.sites.Nodup ∧ ∀ w ∈ settings.workers, 0 < w := by
  obtain ⟨sites, hsites, h⟩ := Fault.bind_eq_ok.mp h
  obtain ⟨workers, hworkers, h⟩ := Fault.bind_eq_ok.mp h
  obtain ⟨timeout, -, h⟩ := Fault.bind_eq_ok.mp h
  obtain rfl := Except.ok.inj h
  exact ⟨nodup_sitesOf hsites, pos_of_positive hworkers⟩

end Settings
end JobBoards
