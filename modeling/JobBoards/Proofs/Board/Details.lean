import JobBoards.Proofs.Board.Parts
import JobBoards.Proofs.Calendar.TextOrder
import JobBoards.Proofs.Pay
import JobBoards.Proofs.Rules.Remote
namespace JobBoards.Listing.Items
open Markup
open Elapsed (springNoon)
variable {board : Board} {now : Moment} {item : Element} {p : Posting} {s t detail : Text} {tags : List Text}

theorem ends_detail (board : Board) (now : Moment) (item : Element) : Ends (fun _ => True)
    (fun p => ∃ detail, item.first? (insideTwoSpans "span") = some detail ∧
      p.pay = pay detail.text ∧ p.location = location (city detail.text) p.tags.names)
    (posting board now item) := by
  refine .bind .any fun _ _ => .bind .any fun _ _ => .bind .any fun _ _ => ?_
  refine .bind (ends_require _ _ _) fun detail hdetail => .bind .any fun _ _ => ?_
  exact ⟨detail, hdetail, rfl, rfl⟩

structure IsPlace (s : Text) : Prop where
  sign : '$' ∉ s
  digit : ∀ c ∈ s, Text.isDigit c = false

theorem IsPlace.append (hs : IsPlace s) (ht : IsPlace t) : IsPlace (s ++ t) :=
  ⟨by simp [hs.sign, ht.sign], List.forall_mem_append.mpr ⟨hs.digit, ht.digit⟩⟩

theorem isPlace_iff (s : Text) : IsPlace s ↔ (s.contains '$' || s.any Text.isDigit) = false := by
  rw [Bool.or_eq_false_iff, List.contains_eq_mem, decide_eq_false_iff_not, List.any_eq_false]
  simp only [Bool.not_eq_true]
  exact ⟨fun h => ⟨h.sign, h.digit⟩, fun h => ⟨h.1, h.2⟩⟩

theorem isPlace_nil : IsPlace [] := (isPlace_iff _).mpr rfl

theorem isPlace_remoteTag : IsPlace remoteTag := (isPlace_iff _).mpr (by decide)

theorem isPlace_comma : IsPlace ", ".toList := (isPlace_iff _).mpr (by decide)

theorem pay_of_sign (h : '$' ∈ detail) : pay detail = Pay.range ['$'] false detail := if_pos (by simpa using h)

theorem pay_of_noSign (h : '$' ∉ detail) : pay detail = [] := if_neg (by simpa using h)

theorem pay_ne_nil_iff (detail : Text) : pay detail ≠ [] ↔ '$' ∈ detail ∧ detail.count '-' = 1 := by
  by_cases h : '$' ∈ detail
  · rw [pay_of_sign h, Pay.range_ne_nil_iff, and_iff_right h]
  · rw [pay_of_noSign h]
    exact iff_of_false (fun hne => hne rfl) fun hboth => h hboth.1

theorem oneSignEach_pay (h : pay detail ≠ []) : Pay.OneSignEach (pay detail) := by
  obtain ⟨hsign, hdash⟩ := (pay_ne_nil_iff detail).mp h
  obtain ⟨low, high, hrange, -, -, hlow, hhigh⟩ := Pay.exists_written_of_count hdash false
  rw [pay_of_sign hsign, hrange, Pay.oneSignEach_written, List.count_eq_zero.mpr hlow, List.count_eq_zero.mpr hhigh]

inductive Slot (detail : Text) : Text → Text → Prop
  | place (h : IsPlace detail) : Slot detail [] detail
  | pay {pay : Text} (h : ¬ IsPlace detail) (hpay : pay ≠ [] → Pay.OneSignEach pay) : Slot detail pay []

theorem slot_detail (detail : Text) : Slot detail (pay detail) (city detail) := by
  by_cases h : IsPlace detail
  · have hcity : city detail = detail := by
      rw [city, (isPlace_iff detail).mp h]
      rfl
    rw [pay_of_noSign h.sign, hcity]
    exact .place h
  · have hother : (detail.contains '$' || detail.any Text.isDigit) = true := by
      rwa [isPlace_iff, Bool.not_eq_false] at h
    have hcity : city detail = [] := by
      rw [city, hother]
      rfl
    rw [hcity]
    exact .pay h oneSignEach_pay

namespace Slot
variable {pay city : Text}

theorem oneSignEach (h : Slot detail pay city) : pay = [] ∨ Pay.OneSignEach pay := by
  cases h with
  | place h => exact .inl rfl
  | pay h hpay => exact or_iff_not_imp_left.mpr hpay

theorem isPlace (h : Slot detail pay city) : IsPlace city := by
  cases h with
  | place h => exact h
  | pay h hpay => exact isPlace_nil

theorem city_of_paid (h : Slot detail pay city) (hpaid : pay ≠ []) : city = [] := by
  cases h with
  | place h => exact absurd rfl hpaid
  | pay h hpay => rfl

theorem says_iff (h : Slot detail pay city) :
    Text.Says "remote" city ↔ IsPlace detail ∧ Text.Says "remote" detail := by
  cases h with
  | place h => exact (and_iff_right h).symm
  | pay h hpay =>
    rw [Text.says_nil]
    exact iff_of_false (by decide) fun hsays => h hsays.1

end Slot

theorem location_of_untagged (h : remoteTag ∉ tags) (city : Text) : location city tags = city := by
  refine if_neg ?_
  simpa using h

theorem location_of_tagged (h : remoteTag ∈ tags) (city : Text) : ∃ before,
    location city tags = before ++ remoteTag ∧ (before = [] ∨ city ≠ [] ∧ before = city ++ ", ".toList) := by
  have htag : tags.contains remoteTag = true := by simpa using h
  unfold location
  rw [if_pos htag]
  cases city with
  | nil => exact ⟨[], rfl, .inl rfl⟩
  | cons c city => exact ⟨_, rfl, .inr ⟨List.cons_ne_nil _ _, rfl⟩⟩

theorem isPlace_location (h : IsPlace s) (tags : List Text) : IsPlace (location s tags) := by
  by_cases htag : remoteTag ∈ tags
  · obtain ⟨before, hlocation, rfl | ⟨-, rfl⟩⟩ := location_of_tagged htag s
    · rw [hlocation]
      exact isPlace_remoteTag
    · rw [hlocation]
      exact (h.append isPlace_comma).append isPlace_remoteTag
  · rwa [location_of_untagged htag]

theorem location_nil (tags : List Text) : location [] tags = [] ∨ location [] tags = remoteTag := by
  by_cases htag : remoteTag ∈ tags
  · obtain ⟨before, hlocation, rfl | ⟨hcity, -⟩⟩ := location_of_tagged htag []
    · exact .inr hlocation
    · exact absurd rfl hcity
  · exact .inl (location_of_untagged htag [])

theorem says_location (h : remoteTag ∈ tags) (city : Text) : Text.Says "remote" (location city tags) := by
  obtain ⟨before, hlocation, -⟩ := location_of_tagged h city
  rw [hlocation, Text.Says, List.map_append]
  exact List.infix_append_of_infix_right (by decide)

structure Detailed (item : Element) (p : Posting) (detail : Element) : Prop where
  found : item.first? (insideTwoSpans "span") = some detail
  offered : p.pay ≠ [] ↔ '$' ∈ detail.text ∧ detail.text.count '-' = 1
  paid : p.pay ≠ [] → p.location = [] ∨ p.location = remoteTag
  place : IsPlace p.location
  pay : p.pay = [] ∨ Pay.OneSignEach p.pay
  tagged : remoteTag ∈ p.tags.names → Rules.standard.location p = .remote
  untagged : remoteTag ∉ p.tags.names →
    (Rules.standard.location p = .remote ↔ IsPlace detail.text ∧ Text.Says "remote" detail.text)

theorem detailed_of_posting (h : posting board now item = .ok p) : ∃ detail, Detailed item p detail := by
  obtain ⟨detail, hdetail, hpay, hlocation⟩ := (ends_detail board now item).of_ok h
  have hslot := slot_detail detail.text
  have hoffered := pay_ne_nil_iff detail.text
  rw [← hpay] at hslot hoffered
  refine ⟨detail, hdetail, hoffered, fun hpaid => ?_, ?_, hslot.oneSignEach, fun htag => ?_, fun htag => ?_⟩
  · rw [hlocation, hslot.city_of_paid hpaid]
    exact location_nil _
  · rw [hlocation]
    exact isPlace_location hslot.isPlace _
  · rw [Rules.standard_location_iff, hlocation]
    exact says_location htag _
  · rw [Rules.standard_location_iff, hlocation, location_of_untagged htag, hslot.says_iff]

/-- One place of an item is read as its pay or as its city: paid postings name no city, and the word that makes a
posting remote comes from its tags or from the city. -/
theorem details_of_items (board : Board) (clock : Nat → Moment) {document : List Node} {ps : List Posting}
    (h : postings board clock document = .ok ps) :
    List.Forall₂ (fun item p => ∃ detail, Detailed item p detail) (selectAll selector [] document) ps :=
  forall₂_of_readEach h fun _ _ _ hread => detailed_of_posting hread

def itemWith (detail : Text) (links : List Text) : Text :=
  "<li><a href=\"/jobs/7\">Engineer</a><a>Gamma</a>".toList ++
    "<span class=\"JobPreviewInline_createdAt__wbWS0\">3d</span><span><span>".toList ++
    "<span>".toList ++ detail ++ "</span>".toList ++
    links.flatMap (fun link => "<a>".toList ++ link ++ "</a>".toList) ++ "</span></span></li>".toList

def itemPosting (location pay : Text) (tags : List Text) : Posting :=
  ⟨"Engineer", "Gamma", "2024-03-07", location, pay, "cryptojobslist.com", ⟨tags, true⟩,
    "https://cryptojobslist.com/jobs/7"⟩

def fourItems : Text :=
  "<section><ul>".toList ++ itemWith "$100K - $150K" ["Remote"] ++ itemWith "Lisbon" ["Solidity", "Remote"] ++
    itemWith "rEMOTE EU" ["Rust"] ++ itemWith "100% remote" [] ++ "</ul></section>".toList

def fourPostings : List Posting :=
  [itemPosting "Remote" "$100K - $150K" ["Remote"], itemPosting "Lisbon, Remote" "" ["Solidity", "Remote"],
    itemPosting "rEMOTE EU" "" ["Rust"], itemPosting "" "" []]

theorem details_of_fourItems : ∃ document, Markup.tree fourItems = .ok document ∧
    postings (.ofSite 30 .cryptoJobsList) (fun _ => springNoon) document = .ok fourPostings ∧
    List.Forall₂ (fun item p => ∃ detail, Detailed item p detail) (selectAll selector [] document) fourPostings := by
  have hpage : (Markup.tree fourItems >>= postings (.ofSite 30 .cryptoJobsList) (fun _ => springNoon)) =
      .ok fourPostings := by
    decide +kernel
  obtain ⟨document, htree, h⟩ := Fault.bind_eq_ok.mp hpage
  exact ⟨document, htree, h, details_of_items _ _ h⟩

end JobBoards.Listing.Items
