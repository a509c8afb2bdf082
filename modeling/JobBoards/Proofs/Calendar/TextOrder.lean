import JobBoards.Proofs.Calendar.Instant
import JobBoards.Proofs.Posting.Newest
import JobBoards.Proofs.Text.Digits
namespace JobBoards

/-- A text with the letter D for every digit. -/
def Text.shape (s : Text) : Text := s.map fun c => if c.isDigit then 'D' else c

theorem Text.shape_of_isDigit {s : Text} (h : ∀ c ∈ s, c.isDigit = true) :
    s.shape = List.replicate s.length 'D' := by
  rw [List.eq_replicate_iff]
  refine ⟨List.length_map _, fun c hc => ?_⟩
  obtain ⟨d, hd, rfl⟩ := List.mem_map.mp hc
  exact if_pos (h d hd)

namespace Date
variable {d e : Date}

def Earlier (d e : Date) : Prop := ∃ j k : Nat, d = nth j ∧ e = nth k ∧ j < k

def yearDigits (d : Date) : Nat := (Text.ofNat d.year).length

/-- The later year has more digits, but its first ones write a smaller number than the earlier year. -/
def Misplaced (early late : Date) : Prop :=
  early.yearDigits < late.yearDigits ∧
    late.year / 10 ^ (late.yearDigits - early.yearDigits) < early.year

def dayText (d : Date) : Text := '-' :: Text.padded 2 d.month ++ '-' :: Text.padded 2 d.day

theorem earlier_iff (hd : d.InCalendar) (he : e.InCalendar) : d.Earlier e ↔ d.number < e.number := by
  constructor
  · rintro ⟨j, k, rfl, rfl, hjk⟩
    rw [(inCalendar_nth j).2, (inCalendar_nth k).2]
    exact Nat.succ_lt_succ hjk
  · intro h
    have hpos := hd.lt_number
    exact ⟨d.number - 1, e.number - 1, hd.nth_number.symm, he.nth_number.symm, by omega⟩

theorem text_eq (d : Date) : d.text = Text.ofNat d.year ++ d.dayText := by
  rw [text, dayText, List.append_assoc]

theorem yearDigits_pos (d : Date) : 0 < d.yearDigits := by
  rw [yearDigits, Text.ofNat_eq]
  exact Nat.length_toDigits_pos

theorem InCalendar.two_digits (h : d.InCalendar) : d.month < 10 ^ 2 ∧ d.day < 10 ^ 2 := by
  have hmonth := h.month_le
  have hday := h.day_le
  obtain ⟨-, hlength⟩ := daysInMonth_bounds d.year h.month_pos h.month_le
  omega

theorem compare_dayText (hd : d.InCalendar) (he : e.InCalendar) :
    Text.compare d.dayText e.dayText = (compare d.month e.month).then (compare d.day e.day) := by
  obtain ⟨hdmonth, hdday⟩ := hd.two_digits
  obtain ⟨hemonth, heday⟩ := he.two_digits
  have hlength : ('-' :: Text.padded 2 d.month).length = ('-' :: Text.padded 2 e.month).length := by
    rw [List.length_cons, List.length_cons, Text.length_padded Nat.two_pos hdmonth,
      Text.length_padded Nat.two_pos hemonth]
  have hdash (s t : Text) : Text.compare ('-' :: s) ('-' :: t) = Text.compare s t := by
    rw [Text.compare_cons]
    rfl
  rw [dayText, dayText, Text.compare_append hlength, hdash, hdash,
    Text.compare_padded Nat.two_pos hdmonth hemonth, Text.compare_padded Nat.two_pos hdday heday]

theorem compare_text (hd : d.InCalendar) (he : e.InCalendar) (h : d.yearDigits = e.yearDigits) :
    Text.compare d.text e.text = compare d.number e.number := by
  rw [text_eq, text_eq, Text.compare_append h, Text.compare_ofNat h, compare_dayText hd he,
    hd.compare_number he]

theorem compare_text_of_shorter (h : d.yearDigits < e.yearDigits) :
    Text.compare d.text e.text =
      if d.year ≤ e.year / 10 ^ (e.yearDigits - d.yearDigits) then .lt else .gt := by
  -- split the longer year after as many digits as the shorter one has
  have hshorter : e.yearDigits - d.yearDigits < (Text.ofNat e.year).length :=
    Nat.sub_lt e.yearDigits_pos d.yearDigits_pos
  obtain ⟨low, hlow, hdigits, hsplit⟩ := Text.ofNat_split hshorter
  generalize e.year / 10 ^ (e.yearDigits - d.yearDigits) = high at *
  have hlength : (Text.ofNat d.year).length = (Text.ofNat high).length := by
    have htotal := congrArg List.length hsplit
    rw [List.length_append, hlow] at htotal
    unfold yearDigits at *
    omega
  have hdash : Text.compare d.dayText (low ++ e.dayText) = .lt := by
    cases low with
    | nil =>
      rw [List.length_nil] at hlow
      omega
    | cons c low =>
      have hc := Text.toNat_of_isDigit (hdigits c List.mem_cons_self)
      have hlt : compare '-' c = .lt := compareOfLessAndEq_eq_lt.mpr (Nat.lt_of_lt_of_le (by decide) hc.1)
      rw [dayText, List.cons_append, List.cons_append, Text.compare_cons, hlt]
      rfl
  rw [text_eq, text_eq, hsplit, List.append_assoc, Text.compare_append hlength,
    Text.compare_ofNat hlength, hdash]
  split
  · rename_i hle
    rcases Nat.lt_or_eq_of_le hle with hlt | heq
    · rw [Nat.compare_eq_lt.mpr hlt]
      rfl
    · rw [Nat.compare_eq_eq.mpr heq]
      rfl
  · rename_i hle
    rw [Nat.compare_eq_gt.mpr (Nat.not_le.mp hle)]
    rfl

theorem year_lt_of_digits (h : d.yearDigits < e.yearDigits) : d.year < e.year := by
  have hd := (Text.length_ofNat_le_iff d.yearDigits_pos).mp (Nat.le_refl d.yearDigits)
  have he := mt (Text.length_ofNat_le_iff d.yearDigits_pos).mpr (Nat.not_le.mpr h)
  exact Nat.lt_of_lt_of_le hd (Nat.not_lt.mp he)

theorem not_misplaced (h : d.yearDigits ≤ e.yearDigits) : ¬ Misplaced e d :=
  fun hmisplaced => absurd hmisplaced.1 (Nat.not_lt.mpr h)

theorem lt_text_iff (hd : d.InCalendar) (he : e.InCalendar) :
    d.text < e.text ↔ d.Earlier e ∧ ¬ Misplaced d e ∨ Misplaced e d := by
  rw [← Text.compare_eq_lt, earlier_iff hd he]
  rcases Nat.lt_trichotomy d.yearDigits e.yearDigits with h | h | h
  · have hearlier : d.number < e.number := hd.number_lt_of_year he (year_lt_of_digits h)
    have hother : ¬ Misplaced e d := not_misplaced (Nat.le_of_lt h)
    have hmisplaced : ¬ Misplaced d e ↔ d.year ≤ e.year / 10 ^ (e.yearDigits - d.yearDigits) := by
      simp [Misplaced, h]
    rw [compare_text_of_shorter h, hmisplaced]
    simp [hearlier, hother]
  · rw [compare_text hd he h, Nat.compare_eq_lt]
    simp [not_misplaced (Nat.le_of_eq h), not_misplaced (Nat.le_of_eq h.symm)]
  · have hlater : e.number < d.number := he.number_lt_of_year hd (year_lt_of_digits h)
    have hmisplaced : Misplaced e d ↔ ¬ e.year ≤ d.year / 10 ^ (d.yearDigits - e.yearDigits) := by
      simp [Misplaced, h]
    rw [Text.compare_swap, compare_text_of_shorter h, hmisplaced]
    split
    · rename_i hle
      simp [hle, Nat.lt_asymm hlater]
    · rename_i hle
      simp [hle]

theorem shape_text (h : d.InCalendar) :
    d.text.shape = List.replicate d.yearDigits 'D' ++ "-DD-DD".toList := by
  obtain ⟨hmonth, hday⟩ := h.two_digits
  have hyear := Text.shape_of_isDigit (Text.isDigit_of_mem_ofNat d.year)
  have hpadded {n : Nat} (hn : n < 10 ^ 2) : (Text.padded 2 n).shape = ['D', 'D'] := by
    rw [Text.shape_of_isDigit (Text.isDigit_of_mem_padded 2 n), Text.length_padded Nat.two_pos hn]
    rfl
  have happend (s t : Text) : Text.shape (s ++ t) = s.shape ++ t.shape := List.map_append
  have hdash (s : Text) : Text.shape ('-' :: s) = '-' :: s.shape := rfl
  rw [text_eq, dayText, happend, happend, hdash, hdash, hyear, hpadded hmonth, hpadded hday]
  rfl

theorem IsValid.shape_eq_iff (h : d.IsValid) :
    d.text.shape = "DDDD-DD-DD".toList ↔ 1000 ≤ d.year := by
  obtain ⟨hcalendar, hlast⟩ := isValid_iff.mp h
  have hfour : d.yearDigits ≤ 4 := (Text.length_ofNat_le_iff (by decide)).mpr (Nat.lt_succ_of_le hlast)
  have hthree : d.yearDigits ≤ 3 ↔ d.year < 1000 := Text.length_ofNat_le_iff (by decide)
  rw [shape_text hcalendar]
  constructor
  · intro hshape
    have hlength := congrArg List.length hshape
    simp only [List.length_append, List.length_replicate] at hlength
    have hdigits : d.yearDigits = 4 := Nat.add_right_cancel hlength
    omega
  · intro hyear
    have hdigits : d.yearDigits = 4 := by omega
    rw [hdigits]
    rfl

theorem IsValid.eq_of_text (hd : d.IsValid) (he : e.IsValid) (h : d.text = e.text) : d = e := by
  obtain ⟨hd, -⟩ := isValid_iff.mp hd
  obtain ⟨he, -⟩ := isValid_iff.mp he
  have hnot : ¬ (d.Earlier e ∧ ¬ Misplaced d e ∨ Misplaced e d) := fun hlt =>
    ((lt_text_iff hd he).mpr hlt).ne h
  have hnot' : ¬ (e.Earlier d ∧ ¬ Misplaced e d ∨ Misplaced d e) := fun hlt =>
    ((lt_text_iff he hd).mpr hlt).ne h.symm
  rw [earlier_iff hd he] at hnot
  rw [earlier_iff he hd] at hnot'
  refine hd.eq_of_number he ?_
  by_contra hne
  rcases Nat.lt_or_gt_of_ne hne with hlt | hlt
  · exact hnot (.inl ⟨hlt, fun hmisplaced => hnot' (.inr hmisplaced)⟩)
  · exact hnot' (.inl ⟨hlt, fun hmisplaced => hnot (.inr hmisplaced)⟩)

theorem Misplaced.year_lt (h : Misplaced d e) (he : e.IsValid) : d.year < 1000 := by
  have hfour : e.yearDigits ≤ 4 :=
    (Text.length_ofNat_le_iff (by decide)).mpr (Nat.lt_succ_of_le (isValid_iff.mp he).2)
  have hthree : d.yearDigits ≤ 3 := Nat.le_of_lt_succ (Nat.lt_of_lt_of_le h.1 hfour)
  exact (Text.length_ofNat_le_iff (by decide)).mp hthree

end Date

theorem Moment.isValid_of_back {now : Moment} {s : Span} {d : Date} (h : now.back s = .ok d) :
    d.IsValid := by
  rcases now.back_cases s with ⟨⟨-, hfirst, hlast⟩, hback⟩ | ⟨-, fault, hback, -⟩
  · obtain rfl := Except.ok.inj (hback.symm.trans h)
    exact Date.isValid_ofNumber (by omega) (by omega)
  · rw [hback] at h
    cases h

namespace Elapsed
variable {now : Moment} {d : Date} {phrase : Text}

def Gives (now : Moment) (d : Date) : Prop :=
  ∃ phrase, date now phrase = .ok d ∨ shortDate now phrase = .ok d

theorem isValid_of_date (hnow : now.date.IsValid) (h : date now phrase = .ok d) : d.IsValid := by
  rw [date_eq] at h
  cases hnamed : named? phrase with
  | none =>
    rw [hnamed] at h
    obtain rfl := Except.ok.inj h
    exact hnow
  | some s =>
    rw [hnamed] at h
    exact Moment.isValid_of_back h

theorem isValid_of_shortDate (hnow : now.date.IsValid) (h : shortDate now phrase = .ok d) :
    d.IsValid := by
  rw [shortDate_eq] at h
  cases habbreviated : abbreviated? phrase with
  | none =>
    rw [habbreviated] at h
    obtain rfl := Except.ok.inj h
    exact hnow
  | some p =>
    rw [habbreviated] at h
    have h : abbreviatedDate now p.1 p.2 = .ok d := h
    unfold abbreviatedDate at h
    split at h
    · exact Moment.isValid_of_back h
    · cases h

theorem Gives.isValid (hnow : now.date.IsValid) (h : Gives now d) : d.IsValid := by
  obtain ⟨phrase, hdate | hshort⟩ := h
  · exact isValid_of_date hnow hdate
  · exact isValid_of_shortDate hnow hshort

/-- The texts of days run in the order of the calendar, and postings from later to earlier days, but for the
days before year 1000, whose texts are shorter: each of them is out of its place among the texts of later years
that start with a smaller number. -/
theorem text_order_of_given_days (now later : Moment) (hnow : now.IsValid) (hlater : later.IsValid)
    (d e : Date) (hd : Gives now d) (he : Gives later e) :
    (d.text.shape = "DDDD-DD-DD".toList ↔ 1000 ≤ d.year) ∧
    (d.text = e.text ↔ d = e) ∧
    (d.text < e.text ↔ d.Earlier e ∧ ¬ d.Misplaced e ∨ e.Misplaced d) ∧
    (d.Misplaced e → d.year < 1000) ∧
    ∀ postings, (Entry.newestFirst (Entry.number postings)).Pairwise fun first second =>
      first.posting.date = d.text → second.posting.date = e.text → d.Earlier e → d.Misplaced e := by
  have hd := hd.isValid hnow.1
  have he := he.isValid hlater.1
  have horder := Date.lt_text_iff (Date.isValid_iff.mp hd).1 (Date.isValid_iff.mp he).1
  refine ⟨hd.shape_eq_iff, ⟨hd.eq_of_text he, congrArg Date.text⟩, horder, fun h => h.year_lt he,
    fun postings => ?_⟩
  refine (Entry.precedes_newestFirst_number postings).imp ?_
  intro first second hprecedes hfirst hsecond hearlier
  by_contra hplaced
  have hlt : d.text < e.text := horder.mpr (.inl ⟨hearlier, hplaced⟩)
  rw [← hfirst, ← hsecond] at hlt
  rcases hprecedes with hdate | ⟨hdate, -⟩
  · exact absurd hdate hlt.asymm
  · exact hlt.ne hdate

def springNoon : Moment := ⟨⟨2024, 3, 10⟩, 43200⟩

theorem text_order_springNoon :
    springNoon.IsValid ∧ Gives springNoon ⟨929, 1, 10⟩ ∧ Gives springNoon ⟨2024, 3, 10⟩ ∧
      ((Date.mk 929 1 10).text < (Date.mk 2024 3 10).text ↔
        (Date.mk 929 1 10).Earlier ⟨2024, 3, 10⟩ ∧ ¬ (Date.mk 929 1 10).Misplaced ⟨2024, 3, 10⟩ ∨
          (Date.mk 2024 3 10).Misplaced ⟨929, 1, 10⟩) := by
  have hvalid : springNoon.IsValid := by decide
  have hlong : Gives springNoon ⟨929, 1, 10⟩ := ⟨"400000 days", .inl (by decide)⟩
  have htoday : Gives springNoon ⟨2024, 3, 10⟩ := ⟨"0d", .inr (by decide)⟩
  obtain ⟨-, -, horder, -, -⟩ := text_order_of_given_days springNoon springNoon hvalid hvalid
    ⟨929, 1, 10⟩ ⟨2024, 3, 10⟩ hlong htoday
  exact ⟨hvalid, hlong, htoday, horder⟩

def datedOnly (date : Text) : Posting := ⟨[], [], date, [], [], [], ⟨[], true⟩, []⟩

theorem text_order_fails_before_1000 :
    (date springNoon "400000 days").map Date.text = .ok "929-01-10".toList ∧
    Text.shape "929-01-10" ≠ "DDDD-DD-DD".toList ∧
    (Date.mk 929 1 10).Earlier ⟨2024, 3, 10⟩ ∧
    "2024-03-10".toList < "929-01-10".toList ∧
    Entry.newestFirst (Entry.number [datedOnly "2024-03-10", datedOnly "929-01-10"]) =
      [⟨1, datedOnly "929-01-10"⟩, ⟨0, datedOnly "2024-03-10"⟩] := by
  have hlt : "2024-03-10".toList < "929-01-10".toList := by decide
  have hearlier : (Date.mk 929 1 10).Earlier ⟨2024, 3, 10⟩ :=
    (Date.earlier_iff (Date.isValid_iff.mp (by decide)).1 (Date.isValid_iff.mp (by decide)).1).mpr
      (by decide)
  have hshown : Entry.newestFirst (Entry.number [datedOnly "2024-03-10", datedOnly "929-01-10"]) =
      [⟨1, datedOnly "929-01-10"⟩, ⟨0, datedOnly "2024-03-10"⟩] :=
    Entry.eq_of_precedes (Entry.precedes_newestFirst_number _) (List.pairwise_pair.mpr (.inl hlt))
      ((Entry.perm_newestFirst _).trans (List.Perm.swap _ _ _))
  exact ⟨by decide, by decide, hearlier, hlt, hshown⟩

end Elapsed
end JobBoards
