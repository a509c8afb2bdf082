import JobBoards.Proofs.Calendar.Elapsed
import JobBoards.Proofs.Calendar.TextOrder
namespace JobBoards

theorem TimeUnit.seconds_nonneg (unit : TimeUnit) : 0 ≤ unit.seconds := by
  cases unit <;> decide

namespace Moment
variable {now : Moment} {s : Span} {d : Date}

theorem earlier_iff_of_back (hnow : now.IsValid) (hs : s.second < 86400) (h : now.back s = .ok d) :
    now.date.Earlier d ↔ 86400 ≤ now.second - s.seconds := by
  obtain ⟨t, hat⟩ := exists_isAt hnow
  have ht : now.IsAt t := (hat t).mpr rfl
  have hwhole := (isAt_iff hnow.1).mp ht
  have hsecond := hnow.2
  obtain ⟨-, hcontains⟩ := (back_finds hnow ht hs).eq_ok_iff.mp h
  obtain ⟨hd, hstart, hstop⟩ := Date.contains_iff.mp hcontains
  rw [Date.earlier_iff (Date.isValid_iff.mp hnow.1).1 hd]
  omega

theorem not_earlier_of_back (hnow : now.IsValid) (hs : s.second < 86400) (hpast : 0 ≤ s.seconds)
    (h : now.back s = .ok d) : ¬ now.date.Earlier d := by
  have hsecond := hnow.2
  rw [earlier_iff_of_back hnow hs h]
  omega

end Moment

theorem Date.not_earlier_self (d : Date) (h : d.InCalendar) : ¬ d.Earlier d := by
  rw [earlier_iff h h]
  exact Nat.lt_irrefl _

namespace Elapsed
variable {now : Moment} {phrase : Text} {d : Date} {n : Int} {unit : TimeUnit}

theorem earlier_iff_of_tells (hnow : now.IsValid) (htells : Tells n unit phrase)
    (h : date now phrase = .ok d) :
    now.date.Earlier d ↔ n < 0 ∧ 86400 - now.second ≤ -n * unit.seconds := by
  obtain ⟨hseconds, hwhole⟩ := unit.seconds_span n
  have hsecond := hnow.2
  rw [date_eq, named?_of_tells htells] at h
  rw [Moment.earlier_iff_of_back hnow hwhole h, hseconds]
  cases unit <;> simp only [TimeUnit.seconds] <;> omega

theorem not_earlier_of_month (hnow : now.IsValid) (hmonth : TellsMonth phrase)
    (h : date now phrase = .ok d) : ¬ now.date.Earlier d := by
  have hnamed : named? phrase = some (.ofDays 31) :=
    named?_eq_some_iff.mpr (.inr ⟨hmonth, rfl⟩)
  rw [date_eq, hnamed] at h
  exact Moment.not_earlier_of_back hnow (by decide) (by decide) h

theorem not_earlier_of_shortDate (hnow : now.IsValid) (h : shortDate now phrase = .ok d) :
    ¬ now.date.Earlier d := by
  by_cases hopens : ∃ unit values rest, Opens unit values rest (Text.lower (Text.trim phrase))
  · obtain ⟨unit, values, rest, hopens⟩ := hopens
    rw [shortDate_of_opens hopens, abbreviatedDate] at h
    split at h
    · obtain ⟨hseconds, hwhole⟩ := unit.seconds_span (Nat.ofDigits 10 values.reverse : Nat)
      refine Moment.not_earlier_of_back hnow hwhole ?_ h
      rw [hseconds]
      exact Int.mul_nonneg (Int.natCast_nonneg _) unit.seconds_nonneg
    · cases h
  · rw [shortDate_of_not_opens fun unit values rest h => hopens ⟨unit, values, rest, h⟩] at h
    obtain rfl := Except.ok.inj h
    exact now.date.not_earlier_self (Date.isValid_iff.mp hnow.1).1

/-- No abbreviation leads to a later day, and a phrase only by a negative amount that fills what is left of
the day. -/
theorem later_day_iff_negative (now : Moment) (hnow : now.IsValid) (phrase : Text) (d : Date) :
    (shortDate now phrase = .ok d → ¬ now.date.Earlier d) ∧
    (date now phrase = .ok d → (now.date.Earlier d ↔
      ∃ n unit, Tells n unit phrase ∧ n < 0 ∧ 86400 - now.second ≤ -n * unit.seconds)) := by
  refine ⟨not_earlier_of_shortDate hnow, fun h => ?_⟩
  constructor
  · intro hearlier
    cases hnamed : named? phrase with
    | none =>
      rw [date_eq, hnamed] at h
      obtain rfl := Except.ok.inj h
      exact absurd hearlier (now.date.not_earlier_self (Date.isValid_iff.mp hnow.1).1)
    | some s =>
      rcases named?_eq_some_iff.mp hnamed with ⟨n, unit, htells, -⟩ | ⟨hmonth, -⟩
      · exact ⟨n, unit, htells, (earlier_iff_of_tells hnow htells h).mp hearlier⟩
      · exact absurd hearlier (not_earlier_of_month hnow hmonth h)
  · rintro ⟨n, unit, htells, hahead⟩
    exact (earlier_iff_of_tells hnow htells h).mpr hahead

theorem later_day_springNoon :
    springNoon.IsValid ∧
    date springNoon "-\u0661\u0662 HOURS" = .ok ⟨2024, 3, 11⟩ ∧
    (∃ n unit, Tells n unit "-\u0661\u0662 HOURS" ∧ n < 0 ∧
      86400 - springNoon.second ≤ -n * unit.seconds) ∧
    shortDate springNoon "0d" = .ok ⟨2024, 3, 10⟩ ∧
    ¬ springNoon.date.Earlier ⟨2024, 3, 10⟩ := by
  have hvalid : springNoon.IsValid := by decide
  have hdate : date springNoon "-\u0661\u0662 HOURS" = .ok ⟨2024, 3, 11⟩ := by decide
  have hshort : shortDate springNoon "0d" = .ok ⟨2024, 3, 10⟩ := by decide
  have hearlier : springNoon.date.Earlier ⟨2024, 3, 11⟩ :=
    (Date.earlier_iff (Date.isValid_iff.mp (by decide)).1 (Date.isValid_iff.mp (by decide)).1).mpr
      (by decide)
  obtain ⟨-, hphrase⟩ := later_day_iff_negative springNoon hvalid "-\u0661\u0662 HOURS" ⟨2024, 3, 11⟩
  obtain ⟨habbreviated, -⟩ := later_day_iff_negative springNoon hvalid "0d" ⟨2024, 3, 10⟩
  exact ⟨hvalid, hdate, (hphrase hdate).mp hearlier, hshort, habbreviated hshort⟩

theorem later_day_given :
    ¬ ∀ now d, now.IsValid → Gives now d → ¬ now.date.Earlier d := by
  intro h
  have hgives : Gives springNoon ⟨2024, 3, 15⟩ := ⟨"-5 days", .inl (by decide)⟩
  refine h springNoon ⟨2024, 3, 15⟩ (by decide) hgives ?_
  exact (Date.earlier_iff (Date.isValid_iff.mp (by decide)).1 (Date.isValid_iff.mp (by decide)).1).mpr
    (by decide)

end Elapsed
end JobBoards
