import JobBoards.Proofs.Board.Parts
import JobBoards.Proofs.Calendar.TextOrder
import JobBoards.Proofs.Pay
import JobBoards.Proofs.Rules.Remote
namespace JobBoards.Listing.Panels
open Markup
open Elapsed (springNoon)
open Site.Layout (nth)
variable {board : Board} {now : Moment} {panel : Element} {p : Posting} {l shown : List Text} {s badge : Text}

def badges (panel : Element) : List Text := (panel.select (.one (.ofClass "div" "panel_border___58nj"))).map Element.text

theorem ends_badges (board : Board) (now : Moment) (panel : Element) : Ends (fun _ => True)
    (fun p => p.pay = pay (badges panel) ∧
      ∃ place, nth "span" 0 panel = some place ∧ p.location = location place.text (badges panel))
    (posting board now panel) := by
  refine .bind .any fun _ _ => .bind .any fun _ _ => .bind (ends_require _ _ _) fun place hplace => ?_
  exact .bind .any fun _ _ => .bind .any fun _ _ => ⟨rfl, place, hplace, rfl⟩

def marked (marker : Char) (badges : List Text) : List Text := badges.filter fun badge => badge.contains marker

theorem marked_cons (marker : Char) (badge : Text) (badges : List Text) : marked marker (badge :: badges) =
    if badge.contains marker then badge :: marked marker badges else marked marker badges :=
  List.filter_cons

def cleaned (badge : Text) : Text := Text.trim (Text.without placeMarker badge)

def places (first : Text) (badges : List Text) : List Text :=
  first :: (marked placeMarker badges).map cleaned

inductive UpToRemote : List Text → List Text → Prop
  | all {l : List Text} (h : ∀ s ∈ l, ¬ Text.Says "remote" s) : UpToRemote l l
  | upTo {before after : List Text} {s : Text} (hbefore : ∀ t ∈ before, ¬ Text.Says "remote" t)
      (hs : Text.Says "remote" s) : UpToRemote (before ++ s :: after) (before ++ [s])

theorem UpToRemote.exists_says_iff {shown : List Text} (h : UpToRemote l shown) :
    (∃ s ∈ shown, Text.Says "remote" s) ↔ ∃ s ∈ l, Text.Says "remote" s := by
  cases h with
  | all h => rfl
  | @upTo before after s hbefore hs =>
    have hmem : s ∈ before ++ [s] ∧ s ∈ before ++ s :: after := by simp
    exact ⟨fun _ => ⟨s, hmem.2, hs⟩, fun _ => ⟨s, hmem.1, hs⟩⟩

@[simp] theorem saysRemote_iff (s : Text) : saysRemote s = true ↔ Text.Says "remote" s := by
  rw [saysRemote, Text.has_iff_infix]
  exact Text.infix_lower_iff Rules.plain_remote s

@[simp] theorem saysRemote_join (l : List Text) :
    Text.Says "remote" (Text.join ", " l) ↔ ∃ s ∈ l, Text.Says "remote" s :=
  Text.says_join (by decide) (by decide) (by decide) l

theorem join_concat (hl : l ≠ []) (s : Text) :
    Text.join ", " (l ++ [s]) = Text.join ", " l ++ ", ".toList ++ s := by
  induction l with
  | nil => exact absurd rfl hl
  | cons t l ih =>
    cases l with
    | nil => rfl
    | cons u l =>
      have hrest := ih (List.cons_ne_nil u l)
      rw [List.cons_append] at hrest
      rw [List.cons_append, List.cons_append, Text.join, hrest, Text.join]
      simp only [List.append_assoc]

theorem addPlace_eq (h : ¬ Text.Says "remote" s) (badge : Text) :
    addPlace s badge = if badge.contains placeMarker then s ++ ", ".toList ++ cleaned badge else s := by
  have hsays : saysRemote s = false := Bool.eq_false_iff.mpr fun hs => h ((saysRemote_iff s).mp hs)
  rw [addPlace, hsays, Bool.not_false, Bool.and_true]
  rfl

theorem foldl_addPlace_of_says (h : Text.Says "remote" s) (badges : List Text) : badges.foldl addPlace s = s := by
  induction badges with
  | nil => rfl
  | cons badge badges ih =>
    have hkept : addPlace s badge = s := by
      rw [addPlace, (saysRemote_iff s).mpr h, Bool.not_true, Bool.and_false]
      rfl
    rw [List.foldl_cons, hkept, ih]

theorem upToRemote_foldl (badges : List Text) (hl : l ≠ []) (hnone : ∀ s ∈ l, ¬ Text.Says "remote" s) :
    ∃ shown, UpToRemote (l ++ (marked placeMarker badges).map cleaned) shown ∧
      badges.foldl addPlace (Text.join ", " l) = Text.join ", " shown := by
  -- the places so far are joined and none of them is remote
  induction badges generalizing l with
  | nil =>
    rw [marked, List.filter_nil, List.map_nil, List.append_nil]
    exact ⟨l, .all hnone, rfl⟩
  | cons badge badges ih =>
    -- so the text that the guard looks at is not remote either
    have hjoin : ¬ Text.Says "remote" (Text.join ", " l) := by
      rw [saysRemote_join]
      rintro ⟨s, hs, hsays⟩
      exact hnone s hs hsays
    rw [List.foldl_cons, addPlace_eq hjoin, marked_cons]
    by_cases hmarked : badge.contains placeMarker = true
    · rw [if_pos hmarked, if_pos hmarked, List.map_cons, ← join_concat hl]
      by_cases hsays : Text.Says "remote" (cleaned badge)
      · refine ⟨l ++ [cleaned badge], .upTo hnone hsays, foldl_addPlace_of_says ?_ badges⟩
        exact (saysRemote_join _).mpr ⟨_, by simp, hsays⟩
      · have hmore : ∀ s ∈ l ++ [cleaned badge], ¬ Text.Says "remote" s := by
          rw [List.forall_mem_append, List.forall_mem_singleton]
          exact ⟨hnone, hsays⟩
        have hrest := ih (List.append_ne_nil_of_left_ne_nil hl _) hmore
        rwa [List.append_assoc] at hrest
    · rw [if_neg hmarked, if_neg hmarked]
      exact ih hl hnone

theorem upToRemote_location (first : Text) (badges : List Text) :
    ∃ shown, UpToRemote (places first badges) shown ∧ location first badges = Text.join ", " shown := by
  by_cases h : Text.Says "remote" first
  · exact ⟨[first], @UpToRemote.upTo [] _ first (List.forall_mem_nil _) h, foldl_addPlace_of_says h badges⟩
  · exact upToRemote_foldl (l := [first]) badges (List.cons_ne_nil _ _) (List.forall_mem_singleton.mpr h)

structure Located (panel : Element) (p : Posting) (place : Element) : Prop where
  first : nth "span" 0 panel = some place
  location : ∃ shown, UpToRemote (places place.text (badges panel)) shown ∧ p.location = Text.join ", " shown
  remote : Rules.standard.location p = .remote ↔
    Text.Says "remote" place.text ∨
      ∃ badge ∈ badges panel, badge.contains placeMarker = true ∧ Text.Says "remote" (cleaned badge)

theorem exists_places_iff (first : Text) (badges : List Text) :
    (∃ s ∈ places first badges, Text.Says "remote" s) ↔ Text.Says "remote" first ∨
      ∃ badge ∈ badges, badge.contains placeMarker = true ∧ Text.Says "remote" (cleaned badge) := by
  simp only [places, marked, List.exists_mem_cons_iff, List.mem_map, List.mem_filter]
  refine or_congr_right ⟨?_, ?_⟩
  · rintro ⟨_, ⟨badge, ⟨hmem, hmarked⟩, rfl⟩, hsays⟩
    exact ⟨badge, hmem, hmarked, hsays⟩
  · rintro ⟨badge, hmem, hmarked, hsays⟩
    exact ⟨_, ⟨badge, ⟨hmem, hmarked⟩, rfl⟩, hsays⟩

theorem located_of_posting (h : posting board now panel = .ok p) : ∃ place, Located panel p place := by
  obtain ⟨-, place, hplace, hlocation⟩ := (ends_badges board now panel).of_ok h
  obtain ⟨shown, hshown, hjoin⟩ := upToRemote_location place.text (badges panel)
  refine ⟨place, hplace, ⟨shown, hshown, hlocation.trans hjoin⟩, ?_⟩
  rw [Rules.standard_location_iff, hlocation, hjoin, saysRemote_join, hshown.exists_says_iff, exists_places_iff]

/-- The places of a panel are shown up to the first that is remote, and the posting is remote if any of them is. -/
theorem places_of_panels (board : Board) (clock : Nat → Moment) :
    (∀ now panel p, posting board now panel = .ok p → ∃ place, Located panel p place) ∧
    ∀ document ps, postings board clock document = .ok ps →
      List.Forall₂ (fun panel p => ∃ place, Located panel p place) (selectAll selector [] document) ps := by
  refine ⟨fun now panel p h => located_of_posting h, fun document ps h => ?_⟩
  exact forall₂_of_readEach h fun _ _ _ hread => located_of_posting hread

def pageWith (badges : List Text) : Text :=
  "<div class=\"panel_inner__YQLRW\"><a href=\"/jobs/42\">Engineer</a><a>Gamma</a>".toList ++
    "<span>Lisbon</span><span>3 days</span>".toList ++
    badges.flatMap (fun badge => "<div class=\"panel_border___58nj\">".toList ++ badge ++ "</div>".toList) ++
    "</div>".toList

def panelPosting (location pay : Text) : Posting :=
  ⟨"Engineer", "Gamma", "2024-03-07", location, pay, "useweb3.xyz", ⟨[], true⟩, "https://useweb3.xyz/jobs/42"⟩

def portugal : List Text :=
  [placeMarker :: "Portugal".toList, payMarker :: "6K - 7.5K".toList, "re".toList ++ placeMarker :: "MOTE EU".toList,
    placeMarker :: "Spain".toList]

theorem read_portugal : (Markup.tree (pageWith portugal) >>= postings (.ofSite 30 .useWeb3) (fun _ => springNoon)) =
    .ok [panelPosting "Lisbon, Portugal, reMOTE EU" "$6k - $7.5k"] := by
  decide +kernel

theorem places_of_portugal : ∃ document, Markup.tree (pageWith portugal) = .ok document ∧
    postings (.ofSite 30 .useWeb3) (fun _ => springNoon) document =
      .ok [panelPosting "Lisbon, Portugal, reMOTE EU" "$6k - $7.5k"] ∧
    List.Forall₂ (fun panel p => ∃ place, Located panel p place) (selectAll selector [] document)
      [panelPosting "Lisbon, Portugal, reMOTE EU" "$6k - $7.5k"] := by
  obtain ⟨document, htree, h⟩ := Fault.bind_eq_ok.mp read_portugal
  have hpanels := (places_of_panels (.ofSite 30 .useWeb3) fun _ => springNoon).2 document _ h
  exact ⟨document, htree, h, hpanels⟩

theorem pay_eq (badges : List Text) :
    pay badges = ((marked payMarker badges).getLast?.map (Pay.range [payMarker] true)).getD [] := by
  induction badges using List.reverseRecOn with
  | nil => rfl
  | append_singleton badges badge ih =>
    have hlast : pay (badges ++ [badge]) =
        if badge.contains payMarker then Pay.range [payMarker] true badge else pay badges := by
      simp only [pay, List.foldl_append, List.foldl_cons, List.foldl_nil]
    have hmarked : marked payMarker (badges ++ [badge]) =
        marked payMarker badges ++ if badge.contains payMarker then [badge] else [] :=
      (List.filter_append badges [badge]).trans (congrArg _ (marked_cons payMarker badge []))
    rw [hlast, hmarked, ih]
    split
    · rw [List.getLast?_concat]
      rfl
    · rw [List.append_nil]

inductive Pays (badge : Text) : Text → Prop
  | nothing (h : badge.count '-' ≠ 1) : Pays badge []
  | range {low high : Text} (h : badge.count '-' = 1) (hlow : Pay.Bound low) (hhigh : Pay.Bound high)
      (hsigns : low.count '$' + high.count '$' = badge.count '$') : Pays badge (Pay.written low high)

theorem pays_range (badge : Text) : Pays badge (Pay.range [payMarker] true badge) := by
  have hmarker : '-' ∉ [payMarker] := by decide
  by_cases h : badge.count '-' = 1
  · obtain ⟨low, high, hrange, hlow, hhigh, hsigns⟩ := Pay.range_of_count_eq hmarker h true
    rw [Pay.count_stripped (by decide)] at hsigns
    rw [hrange]
    exact .range h hlow hhigh hsigns
  · rw [Pay.range_of_count_ne hmarker h]
    exact .nothing h

theorem Pays.oneSignEach_iff {pay : Text} (h : Pays badge pay) :
    (pay = [] ∨ Pay.OneSignEach pay) ↔ (badge.count '-' = 1 → '$' ∉ badge) := by
  cases h with
  | nothing h => simp [h]
  | @range low high h hlow hhigh hsigns =>
    rw [Pay.oneSignEach_written, hsigns, or_iff_right (Pay.written_ne_nil low high), List.count_eq_zero]
    simp [h]

structure Paid (panel : Element) (p : Posting) : Prop where
  unpaid : marked payMarker (badges panel) = [] → p.pay = []
  paid : ∀ badge, (marked payMarker (badges panel)).getLast? = some badge → Pays badge p.pay
  bounds : ∀ low high, (marked payMarker (badges panel)).getLast? = some (low ++ '-' :: high) → '-' ∉ low → '-' ∉ high →
    p.pay = Text.lower (Pay.written (Text.trim (Text.without payMarker low)) (Text.trim (Text.without payMarker high)))
  oneSignEach : (p.pay = [] ∨ Pay.OneSignEach p.pay) ↔
    ∀ badge, (marked payMarker (badges panel)).getLast? = some badge → badge.count '-' = 1 → '$' ∉ badge

theorem paid_of_posting (h : posting board now panel = .ok p) : Paid panel p := by
  have hpay := ((ends_badges board now panel).of_ok h).1
  rw [pay_eq] at hpay
  have hlast {badge : Text} (hbadge : (marked payMarker (badges panel)).getLast? = some badge) : Pays badge p.pay := by
    rw [hpay, hbadge]
    exact pays_range badge
  refine ⟨fun hnone => ?_, fun badge hbadge => hlast hbadge, fun low high hbadge hlow hhigh => ?_, ?_⟩
  · rw [hpay, hnone]
    rfl
  · rw [hpay, hbadge]
    exact Pay.range_of_marker (by decide) hlow hhigh true
  · cases hbadge : (marked payMarker (badges panel)).getLast? with
    | none => simp [hpay, hbadge]
    | some badge =>
      have hiff := (hlast hbadge).oneSignEach_iff
      simpa using hiff

/-- The last badge marked as pay decides, and where it names two bounds its own currency signs stay beside those that
are written before the bounds. -/
theorem pays_of_panels (board : Board) (clock : Nat → Moment) {document : List Node} {ps : List Posting}
    (h : postings board clock document = .ok ps) : List.Forall₂ Paid (selectAll selector [] document) ps :=
  forall₂_of_readEach h fun _ _ _ hread => paid_of_posting hread

theorem pays_of_portugal : ∃ document, Markup.tree (pageWith portugal) = .ok document ∧
    postings (.ofSite 30 .useWeb3) (fun _ => springNoon) document =
      .ok [panelPosting "Lisbon, Portugal, reMOTE EU" "$6k - $7.5k"] ∧
    List.Forall₂ Paid (selectAll selector [] document)
      [panelPosting "Lisbon, Portugal, reMOTE EU" "$6k - $7.5k"] := by
  obtain ⟨document, htree, h⟩ := Fault.bind_eq_ok.mp read_portugal
  have hpanels := pays_of_panels (.ofSite 30 .useWeb3) (fun _ => springNoon) h
  exact ⟨document, htree, h, hpanels⟩

theorem not_oneSignEach_dollars : ¬ ∀ board clock document ps, postings board clock document = .ok ps →
    ∀ p ∈ ps, p.pay = [] ∨ Pay.OneSignEach p.pay := by
  intro h
  have hpage : (Markup.tree (pageWith [payMarker :: " $100K - $150K".toList]) >>=
      postings (.ofSite 30 .useWeb3) (fun _ => springNoon)) = .ok [panelPosting "Lisbon" "$$100k - $$150k"] := by
    decide +kernel
  obtain ⟨document, -, hpostings⟩ := Fault.bind_eq_ok.mp hpage
  rcases h _ _ document _ hpostings _ (List.mem_singleton_self _) with hnone | ⟨-, htwo⟩
  · cases hnone
  · revert htwo
    decide

end JobBoards.Listing.Panels
