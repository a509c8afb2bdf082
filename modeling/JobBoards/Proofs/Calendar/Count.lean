import JobBoards.Proofs.Calendar.Days
namespace JobBoards.Date

structure InCalendar (d : Date) : Prop where
  year_pos : 1 ≤ d.year
  month_pos : 1 ≤ d.month
  month_le : d.month ≤ 12
  day_pos : 1 ≤ d.day
  day_le : d.day ≤ daysInMonth d.year d.month

def next (d : Date) : Date :=
  if d.day < daysInMonth d.year d.month then ⟨d.year, d.month, d.day + 1⟩
  else if d.month < 12 then ⟨d.year, d.month + 1, 1⟩
  else ⟨d.year + 1, 1, 1⟩

def nth : Nat → Date
  | 0 => ⟨1, 1, 1⟩
  | k + 1 => (nth k).next

def dayOfYear (d : Date) : Nat := daysBeforeMonth d.year d.month + d.day

variable {d e : Date}

theorem isValid_iff : d.IsValid ↔ d.InCalendar ∧ d.year ≤ lastYear := by
  constructor
  · rintro ⟨hyear, hlast, hmonth, hmonth', hday, hday'⟩
    exact ⟨⟨hyear, hmonth, hmonth', hday, hday'⟩, hlast⟩
  · rintro ⟨⟨hyear, hmonth, hmonth', hday, hday'⟩, hlast⟩
    exact ⟨hyear, hlast, hmonth, hmonth', hday, hday'⟩

theorem daysBeforeMonth_succ (year : Nat) {month : Nat} (hmonth : 1 ≤ month) :
    daysBeforeMonth year (month + 1) = daysBeforeMonth year month + daysInMonth year month := by
  obtain ⟨m, rfl⟩ := Nat.exists_eq_add_of_le' hmonth
  exact totalOf_succ (monthLengths year) m

theorem daysBeforeMonth_mono (year : Nat) {m n : Nat} (h : m ≤ n) :
    daysBeforeMonth year m ≤ daysBeforeMonth year n :=
  totalOf_mono (monthLengths year) (Nat.sub_le_sub_right h 1)

@[simp] theorem daysBeforeMonth_one (year : Nat) : daysBeforeMonth year 1 = 0 := rfl

@[simp] theorem daysBeforeMonth_end (year : Nat) : daysBeforeMonth year 13 = yearLength year := rfl

theorem daysInMonth_bounds (year : Nat) {month : Nat} (hmonth : 1 ≤ month) (hmonth' : month ≤ 12) :
    1 ≤ daysInMonth year month ∧ daysInMonth year month ≤ 31 := by
  have hall : ∀ b : Bool, ∀ m < 12,
      let length := [31, if b then 29 else 28, 31, 30, 31, 30, 31, 31, 30, 31, 30, 31].getD m 0
      1 ≤ length ∧ length ≤ 31 := by
    decide
  exact hall (isLeap year) (month - 1) (by omega)

theorem InCalendar.dayOfYear_le (h : d.InCalendar) :
    d.dayOfYear ≤ daysBeforeMonth d.year (d.month + 1) := by
  rw [daysBeforeMonth_succ d.year h.month_pos]
  exact Nat.add_le_add_left h.day_le _

theorem InCalendar.dayOfYear_le_yearLength (h : d.InCalendar) : d.dayOfYear ≤ yearLength d.year :=
  Nat.le_trans h.dayOfYear_le (daysBeforeMonth_mono d.year (Nat.succ_le_succ h.month_le))

theorem number_eq (d : Date) : d.number = daysInYears (d.year - 1) + d.dayOfYear :=
  Nat.add_assoc _ _ _

theorem daysInYears_year (h : d.InCalendar) :
    daysInYears d.year = daysInYears (d.year - 1) + yearLength d.year := by
  obtain ⟨y, hy⟩ := Nat.exists_eq_add_of_le' h.year_pos
  rw [hy]
  exact daysInYears_succ y

theorem InCalendar.number_le (h : d.InCalendar) : d.number ≤ daysInYears d.year := by
  rw [number_eq, daysInYears_year h]
  exact Nat.add_le_add_left h.dayOfYear_le_yearLength _

theorem InCalendar.lt_number (h : d.InCalendar) : daysInYears (d.year - 1) < d.number := by
  have hday := h.day_pos
  unfold number
  omega

theorem InCalendar.number_lt_of_year (hd : d.InCalendar) (he : e.InCalendar) (h : d.year < e.year) :
    d.number < e.number := by
  have hyears : daysInYears d.year ≤ daysInYears (e.year - 1) :=
    daysInYears_mono (Nat.le_sub_one_of_lt h)
  exact Nat.lt_of_le_of_lt (Nat.le_trans hd.number_le hyears) he.lt_number

theorem InCalendar.number_lt_of_month (hd : d.InCalendar) (he : e.InCalendar) (hy : d.year = e.year)
    (h : d.month < e.month) : d.number < e.number := by
  have hmonths : daysBeforeMonth d.year (d.month + 1) ≤ daysBeforeMonth d.year e.month :=
    daysBeforeMonth_mono d.year h
  have hday := hd.dayOfYear_le
  have hpos := he.day_pos
  rw [number_eq, number_eq, ← hy]
  unfold dayOfYear at hday ⊢
  rw [← hy]
  omega

theorem InCalendar.compare_number (hd : d.InCalendar) (he : e.InCalendar) :
    compare d.number e.number =
      (compare d.year e.year).then ((compare d.month e.month).then (compare d.day e.day)) := by
  rcases Nat.lt_trichotomy d.year e.year with hy | hy | hy
  · rw [Nat.compare_eq_lt.mpr (hd.number_lt_of_year he hy), Nat.compare_eq_lt.mpr hy]
    rfl
  · rw [Nat.compare_eq_eq.mpr hy, Ordering.eq_then]
    rcases Nat.lt_trichotomy d.month e.month with hm | hm | hm
    · rw [Nat.compare_eq_lt.mpr (hd.number_lt_of_month he hy hm), Nat.compare_eq_lt.mpr hm]
      rfl
    · rw [Nat.compare_eq_eq.mpr hm, Ordering.eq_then]
      unfold number
      rw [hy, hm]
      simp only [Nat.compare_eq_ite_lt, Nat.add_lt_add_iff_left]
    · rw [Nat.compare_eq_gt.mpr (he.number_lt_of_month hd hy.symm hm), Nat.compare_eq_gt.mpr hm]
      rfl
  · rw [Nat.compare_eq_gt.mpr (he.number_lt_of_year hd hy), Nat.compare_eq_gt.mpr hy]
    rfl

theorem InCalendar.eq_of_number (hd : d.InCalendar) (he : e.InCalendar) (h : d.number = e.number) :
    d = e := by
  have hcompare := hd.compare_number he
  rw [Nat.compare_eq_eq.mpr h] at hcompare
  simp only [eq_comm (a := Ordering.eq), Ordering.then_eq_eq, Nat.compare_eq_eq] at hcompare
  obtain ⟨hyear, hmonth, hday⟩ := hcompare
  cases d
  cases e
  simp only at hyear hmonth hday
  rw [hyear, hmonth, hday]

theorem InCalendar.next (h : d.InCalendar) : d.next.InCalendar ∧ d.next.number = d.number + 1 := by
  unfold Date.next
  split
  · rename_i hday
    exact ⟨⟨h.year_pos, h.month_pos, h.month_le, Nat.succ_pos _, hday⟩, rfl⟩
  · rename_i hday
    have hlast : d.day = daysInMonth d.year d.month := Nat.le_antisymm h.day_le (Nat.not_lt.mp hday)
    split
    · rename_i hmonth
      refine ⟨⟨h.year_pos, Nat.succ_pos _, hmonth, Nat.le_refl 1,
        (daysInMonth_bounds _ (Nat.succ_pos _) hmonth).1⟩, ?_⟩
      simp only [number, daysBeforeMonth_succ d.year h.month_pos, ← hlast]
      omega
    · rename_i hmonth
      have hdecember : d.month = 12 := Nat.le_antisymm h.month_le (Nat.not_lt.mp hmonth)
      refine ⟨⟨Nat.succ_pos _, Nat.le_refl 1, Nat.le_add_left 1 11, Nat.le_refl 1,
        (daysInMonth_bounds _ (Nat.le_refl 1) (Nat.le_add_left 1 11)).1⟩, ?_⟩
      have hyear := daysInYears_year h
      rw [← daysBeforeMonth_end, daysBeforeMonth_succ d.year (by decide), ← hdecember, ← hlast] at hyear
      simp only [number, daysBeforeMonth_one, Nat.add_sub_cancel, hyear]
      omega

theorem inCalendar_nth (k : Nat) : (nth k).InCalendar ∧ (nth k).number = k + 1 := by
  induction k with
  | zero => exact ⟨⟨by decide, by decide, by decide, by decide, by decide⟩, rfl⟩
  | succ k ih =>
    obtain ⟨hcalendar, hnumber⟩ := ih
    obtain ⟨hnext, hnext'⟩ := hcalendar.next
    exact ⟨hnext, by rw [nth, hnext', hnumber]⟩

theorem InCalendar.nth_number (h : d.InCalendar) : nth (d.number - 1) = d := by
  obtain ⟨hcalendar, hnumber⟩ := inCalendar_nth (d.number - 1)
  have hpos : 1 ≤ d.number := Nat.succ_le_of_lt (Nat.zero_lt_of_lt h.lt_number)
  refine hcalendar.eq_of_number h ?_
  rw [hnumber, Nat.sub_add_cancel hpos]

theorem InCalendar.isValid_iff_number (h : d.InCalendar) : d.IsValid ↔ d.number ≤ lastNumber := by
  rw [isValid_iff]
  constructor
  · rintro ⟨-, hyear⟩
    exact Nat.le_trans h.number_le (daysInYears_mono hyear)
  · intro hnumber
    refine ⟨h, Nat.not_lt.mp fun hyear => ?_⟩
    have hyears : daysInYears lastYear ≤ daysInYears (d.year - 1) :=
      daysInYears_mono (Nat.le_sub_one_of_lt hyear)
    exact absurd (Nat.lt_of_le_of_lt hyears h.lt_number) (Nat.not_lt.mpr hnumber)

theorem ofNumber_spec {n : Nat} (hn : 1 ≤ n) : (ofNumber n).InCalendar ∧ (ofNumber n).number = n := by
  obtain ⟨years, rest, hyear, hsplit, hrest⟩ := yearAndRest_eq (n - 1)
  have hmonths : rest < totalOf (monthLengths (years + 1)) (monthLengths (years + 1)).length := hrest
  obtain ⟨i, j, hi, hj, hrest', hmonth⟩ := monthAndDay_eq 1 hmonths
  have hi : i < 12 := hi
  have hmonth' : 1 + i ≤ 12 := by omega
  have hdate : ofNumber n = ⟨years + 1, 1 + i, j + 1⟩ := by
    rw [ofNumber, hyear]
    simp only [hmonth]
  have hindex : 1 + i - 1 = i := by omega
  rw [hdate]
  constructor
  · refine ⟨Nat.succ_pos _, Nat.le_add_right 1 i, hmonth', Nat.succ_pos _, ?_⟩
    simp only [daysInMonth, hindex]
    exact hj
  · simp only [number, daysBeforeMonth, hindex, Nat.add_sub_cancel]
    unfold totalOf at hrest'
    omega

end JobBoards.Date
