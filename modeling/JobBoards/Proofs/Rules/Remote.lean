import JobBoards.Proofs.Index.Partition
import JobBoards.Proofs.Rules.Override
namespace JobBoards

theorem Text.lower_eq_self_of_infix {part s : Text} (h : part <:+: Text.lower s) : Text.lower part = part := by
  apply Text.lowerAfter_eq_self
  intro c hc
  exact Text.isSmall_of_mem_lowerAfter false s c (h.subset hc)

theorem Buckets.build_congr {κ : Type} [DecidableEq κ] {keys keys' : Posting → List κ} {entries : List Entry}
    (h : ∀ e ∈ entries, keys e.posting = keys' e.posting) : build keys entries = build keys' entries := by
  simp only [build_eq_foldl, filings]
  rw [List.flatMap_congr fun e he => by rw [h e he]]

namespace Rules

def lowered (rules : Rules) : Rules := { rules with remoteKeyword := Text.lower rules.remoteKeyword }

abbrev Mentions (rules : Rules) (s : Text) : Prop := Table.Holds [rules.remoteKeyword] s

section
variable (rules : Rules) (posting : Posting)

@[simp] theorem isRemote_iff : rules.isRemote posting = true ↔ rules.remoteKeyword <:+: Text.lower posting.location :=
  Text.has_iff_infix rules.remoteKeyword _

theorem mentions_iff (s : Text) : rules.Mentions s ↔ Text.lower rules.remoteKeyword <:+: Text.lower s := by
  simp [Mentions, Table.Holds]

theorem isRemote_iff_mentions : rules.isRemote posting = true ↔
    Text.lower rules.remoteKeyword = rules.remoteKeyword ∧ rules.Mentions posting.location := by
  rw [isRemote_iff, mentions_iff]
  constructor
  · intro h
    have hsmall := Text.lower_eq_self_of_infix h
    rw [hsmall]
    exact ⟨rfl, h⟩
  · rintro ⟨hsmall, h⟩
    rwa [hsmall] at h

theorem isRemote_lowered_iff : rules.lowered.isRemote posting = true ↔ rules.Mentions posting.location := by
  rw [isRemote_iff, mentions_iff]
  rfl

@[simp] theorem location_eq_remote_iff : rules.location posting = .remote ↔ rules.isRemote posting = true := by
  unfold location
  split <;> simp_all

theorem location_lowered_iff : rules.lowered.location posting = rules.location posting ↔
    (rules.Mentions posting.location → Text.lower rules.remoteKeyword = rules.remoteKeyword) := by
  have hlowered := rules.lowered.location_eq_remote_iff posting
  have hplain := rules.location_eq_remote_iff posting
  rw [isRemote_lowered_iff] at hlowered
  rw [isRemote_iff_mentions] at hplain
  by_cases hmentions : rules.Mentions posting.location
  · rw [hlowered.mpr hmentions, eq_comm, hplain]
    simp [hmentions]
  · have hsame : ∀ place : Location, place ≠ .remote → place = .onsite := by
      intro place hplace
      cases place <;> simp_all
    have h₁ := hsame _ fun h => hmentions (hlowered.mp h)
    have h₂ := hsame _ fun h => hmentions (hplain.mp h).2
    simp [hmentions, h₁, h₂]

end

theorem plain_remote : ∀ c ∈ "remote".toList, Text.IsPlain c := List.all_iff_forall_prop.mp (by decide)

theorem standard_location_iff (p : Posting) : standard.location p = .remote ↔ Text.Says "remote" p.location := by
  rw [location_eq_remote_iff, isRemote_iff]
  exact Text.infix_lower_iff plain_remote p.location

theorem buckets_lowered_iff (rules : Rules) (entries : List Entry) :
    (Index.build rules.lowered entries).location = (Index.build rules entries).location ↔
      ∀ e ∈ entries, rules.Mentions e.posting.location →
        Text.lower rules.remoteKeyword = rules.remoteKeyword := by
  constructor
  · intro h e he hmentions
    have hremote := congrArg (Buckets.get .remote) h
    simp only [Index.build, Buckets.get_build_single] at hremote
    have hmem : e ∈ entries.filter fun e => rules.lowered.location e.posting = .remote := by
      rw [List.mem_filter, decide_eq_true_iff, location_eq_remote_iff, isRemote_lowered_iff]
      exact ⟨he, hmentions⟩
    rw [hremote, List.mem_filter, decide_eq_true_iff, location_eq_remote_iff, isRemote_iff_mentions] at hmem
    exact hmem.2.1
  · intro h
    change Buckets.build (fun p => [rules.lowered.location p]) entries =
      Buckets.build (fun p => [rules.location p]) entries
    apply Buckets.build_congr
    intro e he
    rw [(rules.location_lowered_iff e.posting).mpr (h e he)]

/-- The remote test is the test that all other rules make just for a keyword in small letters, which every
settings file gives. Any other keyword makes no posting remote; written in small letters it moves exactly the
postings whose location mentions it. -/
theorem isRemote_eq_holdsAny_iff (rules : Rules) :
    ((∀ posting, rules.isRemote posting = Table.holdsAny [rules.remoteKeyword] posting.location) ↔
      Text.lower rules.remoteKeyword = rules.remoteKeyword) ∧
    (Text.lower rules.remoteKeyword ≠ rules.remoteKeyword → ∀ posting, rules.isRemote posting = false) ∧
    (∀ posting, rules.lowered.isRemote posting = Table.holdsAny [rules.remoteKeyword] posting.location) ∧
    (∀ posting, rules.lowered.location posting = rules.location posting ↔
      (rules.Mentions posting.location → Text.lower rules.remoteKeyword = rules.remoteKeyword)) ∧
    (∀ entries, (Index.build rules.lowered entries).location = (Index.build rules entries).location ↔
      ∀ e ∈ entries, rules.Mentions e.posting.location →
        Text.lower rules.remoteKeyword = rules.remoteKeyword) ∧
    (∀ calls path content, load calls path content = .ok rules →
      Text.lower rules.remoteKeyword = rules.remoteKeyword) := by
  refine ⟨⟨?_, ?_⟩, ?_, ?_, rules.location_lowered_iff, rules.buckets_lowered_iff, ?_⟩
  · intro h
    -- a place that is called like the keyword itself
    let place : Posting := ⟨[], [], [], rules.remoteKeyword, [], [], ⟨[], true⟩, []⟩
    have hmentions : rules.Mentions place.location := (rules.mentions_iff _).mpr List.infix_rfl
    have hremote : rules.isRemote place = true := (h place).trans ((Table.holdsAny_iff _ _).mpr hmentions)
    exact ((rules.isRemote_iff_mentions place).mp hremote).1
  · intro hsmall posting
    rw [Bool.eq_iff_iff, isRemote_iff_mentions, Table.holdsAny_iff]
    exact and_iff_right hsmall
  · intro hcapital posting
    rw [Bool.eq_false_iff, ne_eq, isRemote_iff_mentions]
    exact fun h => hcapital h.1
  · intro posting
    rw [Bool.eq_iff_iff, isRemote_lowered_iff, Table.holdsAny_iff]
  · intro calls path content h
    exact (keyword_of_load h).2.2.small

def remotePosting : Posting := ⟨"Engineer", "Acme", "2024-01-01", "Remote", "", "a", ⟨[], true⟩, ""⟩

theorem not_isRemote_capital : ¬ ∀ (rules : Rules) (posting : Posting),
    rules.isRemote posting = Table.holdsAny [rules.remoteKeyword] posting.location := by
  intro h
  have hsame := h { standard with remoteKeyword := "Remote" } remotePosting
  revert hsame
  decide

end Rules
end JobBoards
