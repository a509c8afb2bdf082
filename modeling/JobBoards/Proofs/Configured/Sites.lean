import JobBoards.Proofs.Faults
import JobBoards.Proofs.Text.Quoted
import JobBoards.Settings
import Mathlib.Data.List.Induction
import Mathlib.Data.List.Sort
namespace JobBoards

namespace Site
variable {site a b : Site} {raw s : Text} {names more : List Text} {sites others : List Site}

theorem name_injective : Function.Injective Site.name := by
  intro a b h
  have hname := ofName?_name a
  rw [h, ofName?_name b] at hname
  exact (Option.some.inj hname).symm

theorem ofName?_eq_some_iff : ofName? s = some site ↔ s = site.name := by
  constructor
  · intro h
    exact (eq_of_beq (List.find?_some (p := fun site : Site => site.name == s) h)).symm
  · rintro rfl
    exact ofName?_name site

def MentionedBy (site : Site) (raw : Text) : Prop := Text.lower (Text.trim raw) = site.name

instance (site : Site) (raw : Text) : Decidable (site.MentionedBy raw) := inferInstanceAs (Decidable (_ = _))

theorem MentionedBy.unique (ha : a.MentionedBy raw) (hb : b.MentionedBy raw) : a = b :=
  name_injective (ha.symm.trans hb)

@[simp] theorem mentionedBy_name (site : Site) : site.MentionedBy site.name := by
  cases site
  all_goals decide

def firstMention (names : List Text) (site : Site) : Nat := names.findIdx fun raw => decide (site.MentionedBy raw)

theorem firstMention_lt_length_iff :
    firstMention names site < names.length ↔ ∃ raw ∈ names, site.MentionedBy raw := by
  simp [firstMention]

theorem firstMention_append (h : ∃ raw ∈ names, site.MentionedBy raw) (more : List Text) :
    firstMention (names ++ more) site = firstMention names site := by
  rw [firstMention, List.findIdx_append]
  exact if_pos (firstMention_lt_length_iff.mpr h)

theorem length_le_firstMention_append (h : ¬ ∃ raw ∈ names, site.MentionedBy raw) (more : List Text) :
    names.length ≤ firstMention (names ++ more) site := by
  rw [firstMention, List.findIdx_append, ← firstMention, if_neg (mt firstMention_lt_length_iff.mp h)]
  exact Nat.le_add_left _ _

def Before (names : List Text) (a b : Site) : Prop := firstMention names a < firstMention names b

instance (names : List Text) : Std.Irrefl (Before names) := ⟨fun _ => Nat.lt_irrefl _⟩

instance (names : List Text) : Std.Antisymm (Before names) := ⟨fun _ _ hab hba => absurd hba (Nat.lt_asymm hab)⟩

/-- The sites that some texts mention, in the order in which they are first mentioned; every text mentions one. -/
structure Mentioned (names : List Text) (sites : List Site) : Prop where
  known : ∀ raw ∈ names, ∃ site : Site, site.MentionedBy raw
  mem_iff : ∀ site, site ∈ sites ↔ ∃ raw ∈ names, site.MentionedBy raw
  order : sites.Pairwise (Before names)

def FirstUnknown (names : List Text) (raw : Text) : Prop :=
  ∃ before after, names = before ++ raw :: after ∧ (∀ earlier ∈ before, ∃ site : Site, site.MentionedBy earlier) ∧
    ∀ site : Site, ¬ site.MentionedBy raw

theorem FirstUnknown.mem (h : FirstUnknown names raw) : raw ∈ names := by
  obtain ⟨before, after, rfl, -, -⟩ := h
  exact List.mem_append_right before List.mem_cons_self

theorem FirstUnknown.unknown (h : FirstUnknown names raw) (site : Site) : ¬ site.MentionedBy raw := by
  obtain ⟨before, after, -, -, hunknown⟩ := h
  exact hunknown site

namespace Mentioned

theorem nodup (h : Mentioned names sites) : sites.Nodup := h.order.nodup

theorem unique (h : Mentioned names sites) (h' : Mentioned names others) : sites = others :=
  h.order.eq_of_mem_iff h'.order fun site => (h.mem_iff site).trans (h'.mem_iff site).symm

theorem ne_nil (h : Mentioned names sites) (hnames : names ≠ []) : sites ≠ [] := by
  obtain ⟨raw, hraw⟩ := List.exists_mem_of_ne_nil names hnames
  obtain ⟨site, hsite⟩ := h.known raw hraw
  exact List.ne_nil_of_mem ((h.mem_iff site).mpr ⟨raw, hraw, hsite⟩)

theorem nil : Mentioned [] [] where
  known := by simp
  mem_iff := by simp
  order := .nil

theorem order_append (h : Mentioned names sites) (more : List Text) : sites.Pairwise (Before (names ++ more)) := by
  refine h.order.imp_of_mem fun ha hb hbefore => ?_
  rw [Before, firstMention_append ((h.mem_iff _).mp ha), firstMention_append ((h.mem_iff _).mp hb)]
  exact hbefore

theorem append (h : Mentioned names sites) (hmore : ∀ raw ∈ more, ∃ site ∈ sites, site.MentionedBy raw) :
    Mentioned (names ++ more) sites where
  known := by
    rw [List.forall_mem_append]
    exact ⟨h.known, fun raw hraw => (hmore raw hraw).imp fun site hsite => hsite.2⟩
  mem_iff site := by
    rw [h.mem_iff]
    constructor
    · rintro ⟨raw, hraw, hsite⟩
      exact ⟨raw, List.mem_append_left more hraw, hsite⟩
    · rintro ⟨raw, hraw, hsite⟩
      rcases List.mem_append.mp hraw with hraw | hraw
      · exact ⟨raw, hraw, hsite⟩
      · obtain ⟨old, hold, hmention⟩ := hmore raw hraw
        obtain rfl := hsite.unique hmention
        exact (h.mem_iff site).mp hold
  order := h.order_append more

theorem add (h : Mentioned names sites) (hnew : site ∉ sites) (hraw : site.MentionedBy raw) :
    Mentioned (names ++ [raw]) (sites ++ [site]) where
  known := by
    rw [List.forall_mem_append, List.forall_mem_singleton]
    exact ⟨h.known, site, hraw⟩
  mem_iff other := by
    simp only [List.mem_append, List.mem_singleton, or_and_right, exists_or, exists_eq_left, h.mem_iff]
    refine or_congr_right ⟨?_, fun hother => hother.unique hraw⟩
    rintro rfl
    exact hraw
  order := by
    rw [List.pairwise_append]
    refine ⟨h.order_append [raw], List.pairwise_singleton _ _, fun old hold last hlast => ?_⟩
    obtain rfl := List.mem_singleton.mp hlast
    have hmention := (h.mem_iff old).mp hold
    calc firstMention (names ++ [raw]) old
      _ = firstMention names old := firstMention_append hmention _
      _ < names.length := firstMention_lt_length_iff.mpr hmention
      _ ≤ firstMention (names ++ [raw]) last := length_le_firstMention_append (mt (h.mem_iff last).mpr hnew) _

theorem of_nodup (h : sites.Nodup) : Mentioned (sites.map Site.name) sites := by
  induction sites using List.reverseRecOn with
  | nil => exact nil
  | append_singleton sites site ih =>
    rw [← List.concat_eq_append, List.nodup_concat] at h
    obtain ⟨hnew, hsites⟩ := h
    rw [List.map_append]
    exact (ih hsites).add hnew (mentionedBy_name site)

end Mentioned

inductive Resolved (names : List Text) : Except Fault (List Site) → Prop
  | refused {raw : Text} (h : FirstUnknown names raw) : Resolved names (.error (.unknownSource raw))
  | listed {sites : List Site} (h : Mentioned names sites) : Resolved names (.ok sites)

end Site

namespace Settings
variable {raw : Text} {names more : List Text} {sites : List Site} {site : Site} {fault : Fault}

def register (sites : List Site) (raw : Text) : Except Fault (List Site) :=
  match Site.ofName? (Text.lower (Text.trim raw)) with
  | none => .error (.unknownSource raw)
  | some site => .ok (if sites.contains site then sites else sites ++ [site])

theorem register_of_mentionedBy (h : site.MentionedBy raw) (sites : List Site) :
    register sites raw = .ok (if site ∈ sites then sites else sites ++ [site]) := by
  rw [register, Site.ofName?_eq_some_iff.mpr h]
  simp only [List.contains_iff_mem]

theorem register_of_unknown (h : ∀ site : Site, ¬ site.MentionedBy raw) (sites : List Site) :
    register sites raw = .error (.unknownSource raw) := by
  have hnone : Site.ofName? (Text.lower (Text.trim raw)) = none :=
    Option.eq_none_iff_forall_ne_some.mpr fun site hsite => h site (Site.ofName?_eq_some_iff.mp hsite)
  rw [register, hnone]

theorem sitesNamed_append (names more : List Text) :
    sitesNamed (names ++ more) = sitesNamed names >>= (more.foldlM register ·) :=
  List.foldlM_append

theorem sitesNamed_concat (names : List Text) (raw : Text) :
    sitesNamed (names ++ [raw]) = sitesNamed names >>= (register · raw) := by
  rw [sitesNamed_append]
  simp only [List.foldlM_cons, List.foldlM_nil, bind_pure]

theorem resolved_register (h : Site.Mentioned names sites) (raw : Text) :
    Site.Resolved (names ++ [raw]) (register sites raw) := by
  by_cases hraw : ∃ site : Site, site.MentionedBy raw
  · obtain ⟨site, hsite⟩ := hraw
    rw [register_of_mentionedBy hsite]
    split
    · rename_i hold
      exact .listed (h.append (List.forall_mem_singleton.mpr ⟨site, hold, hsite⟩))
    · rename_i hnew
      exact .listed (h.add hnew hsite)
  · rw [not_exists] at hraw
    rw [register_of_unknown hraw]
    exact .refused ⟨names, [], rfl, h.known, hraw⟩

theorem resolved_sitesNamed (names : List Text) : Site.Resolved names (sitesNamed names) := by
  induction names using List.reverseRecOn with
  | nil => exact .listed .nil
  | append_singleton names raw ih =>
    rw [sitesNamed_concat]
    generalize sitesNamed names = result at ih ⊢
    cases ih with
    | refused h =>
      obtain ⟨before, after, rfl, hbefore, hunknown⟩ := h
      exact .refused ⟨before, after ++ [raw], by simp, hbefore, hunknown⟩
    | listed h => exact resolved_register h raw

theorem firstUnknown_of_sitesNamed (h : sitesNamed names = .error fault) :
    ∃ raw, Site.FirstUnknown names raw ∧ fault = .unknownSource raw := by
  have hresolved := resolved_sitesNamed names
  rw [h] at hresolved
  cases hresolved with
  | refused hraw => exact ⟨_, hraw, rfl⟩

theorem sitesNamed_eq_ok_iff : sitesNamed names = .ok sites ↔ Site.Mentioned names sites := by
  have hresolved := resolved_sitesNamed names
  constructor
  · intro h
    rw [h] at hresolved
    cases hresolved with
    | listed hsites => exact hsites
  · intro h
    generalize sitesNamed names = result at hresolved ⊢
    cases hresolved with
    | refused hraw =>
      obtain ⟨site, hsite⟩ := h.known _ hraw.mem
      exact absurd hsite (hraw.unknown site)
    | listed hsites => rw [hsites.unique h]

theorem sitesNamed_append_of_mentioned
    (h : ∀ raw ∈ more, ∃ site : Site, site.MentionedBy raw ∧ ∃ earlier ∈ names, site.MentionedBy earlier) :
    sitesNamed (names ++ more) = sitesNamed names := by
  cases hnames : sitesNamed names with
  | error fault => rw [sitesNamed_append, hnames]; rfl
  | ok sites =>
    have hsites := sitesNamed_eq_ok_iff.mp hnames
    refine sitesNamed_eq_ok_iff.mpr (hsites.append fun raw hraw => ?_)
    obtain ⟨site, hsite, hearlier⟩ := h raw hraw
    exact ⟨site, (hsites.mem_iff site).mpr hearlier, hsite⟩

theorem message_unknownSource_eq_iff {s : Text} : (Fault.unknownSource raw).message =
    "Unknown job source ".toList ++ Text.quoted s ++ Fault.known (Site.all.map Site.name) ↔ s = raw := by
  have hmessage : (Fault.unknownSource raw).message =
    "Unknown job source ".toList ++ Text.quoted raw ++ Fault.known (Site.all.map Site.name) := rfl
  rw [hmessage, List.append_left_inj, List.append_right_inj, Text.quoted_inj, eq_comm]

/-- Texts are refused for the first of them that mentions no site. Otherwise the sites they mention are listed, each
once, in the order of their first mention; their own names list them again, and repeated mentions add nothing. -/
theorem sitesNamed_lists_mentioned (names : List Text) :
    ((∃ raw ∈ names, ∀ site : Site, ¬ site.MentionedBy raw) ∧
        (∃ fault raw, sitesNamed names = .error fault ∧ fault.kind = "ValueError" ∧ Site.FirstUnknown names raw ∧
          ∀ s, fault.message = "Unknown job source ".toList ++ Text.quoted s ++
            Fault.known (Site.all.map Site.name) ↔ s = raw) ∨
      (∀ raw ∈ names, ∃ site : Site, site.MentionedBy raw) ∧
        ∃ sites, sitesNamed names = .ok sites ∧ sites.Nodup ∧ Site.Mentioned names sites ∧
          sitesNamed (sites.map Site.name) = .ok sites) ∧
    ∀ more, (∀ raw ∈ more, ∃ site : Site, site.MentionedBy raw ∧ ∃ earlier ∈ names, site.MentionedBy earlier) →
      sitesNamed (names ++ more) = sitesNamed names := by
  refine ⟨?_, fun more => sitesNamed_append_of_mentioned⟩
  cases hnames : sitesNamed names with
  | error fault =>
    obtain ⟨raw, hraw, rfl⟩ := firstUnknown_of_sitesNamed hnames
    exact .inl ⟨⟨raw, hraw.mem, hraw.unknown⟩, _, raw, rfl, rfl, hraw, fun s => message_unknownSource_eq_iff⟩
  | ok sites =>
    have hsites := sitesNamed_eq_ok_iff.mp hnames
    exact .inr ⟨hsites.known, sites, rfl, hsites.nodup, hsites, sitesNamed_eq_ok_iff.mpr (.of_nodup hsites.nodup)⟩

def oddNames : List Text := ["\u00a0Web3.Career", "CryptoJobsList.com\n", "web3.career"]

def repeatedNames : List Text := ["CRYPTOJOBSLIST.COM", " web3.CAREER\t"]

theorem sitesNamed_lists_mentioned_oddNames :
    (∀ raw ∈ repeatedNames, ∃ site : Site, site.MentionedBy raw ∧ ∃ earlier ∈ oddNames, site.MentionedBy earlier) ∧
      sitesNamed (oddNames ++ repeatedNames) = .ok [.web3Career, .cryptoJobsList] := by
  have hlist : (∃ earlier ∈ oddNames, Site.cryptoJobsList.MentionedBy earlier) := by
    decide +kernel
  have hcareer : (∃ earlier ∈ oddNames, Site.web3Career.MentionedBy earlier) := by
    decide +kernel
  have hrepeated : ∀ raw ∈ repeatedNames,
      ∃ site : Site, site.MentionedBy raw ∧ ∃ earlier ∈ oddNames, site.MentionedBy earlier := by
    rw [repeatedNames, List.forall_mem_cons, List.forall_mem_singleton]
    exact ⟨⟨.cryptoJobsList, by decide +kernel, hlist⟩, .web3Career, by decide +kernel, hcareer⟩
  have hodd : sitesNamed oddNames = .ok [.web3Career, .cryptoJobsList] := rfl
  refine ⟨hrepeated, ?_⟩
  rw [← hodd]
  exact (sitesNamed_lists_mentioned oddNames).2 repeatedNames hrepeated

end Settings
end JobBoards
