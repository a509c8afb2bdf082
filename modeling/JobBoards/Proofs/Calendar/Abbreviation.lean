import JobBoards.Proofs.Calendar.Elapsed
import JobBoards.Proofs.Calendar.TextOrder
namespace JobBoards

namespace TimeUnit
variable {unit : TimeUnit} {letter : Char}

theorem day_le_of_letter? (h : unit.letter? = some letter) : 86400 ≤ unit.seconds := by
  rcases letter?_cases h with ⟨rfl, -⟩ | ⟨rfl, -⟩ | ⟨rfl, -⟩ <;> decide

end TimeUnit

namespace Elapsed
variable {now : Moment} {t : Int} {phrase rest : Text} {unit : TimeUnit} {values : List Nat}

theorem shortDate_finds (hnow : now.IsValid) (ht : now.IsAt t)
    (hopens : Opens unit values rest (Text.lower (Text.trim phrase)))
    (hlimit : values.length ≤ Text.Digit.limit) :
    Finds id (t - (Nat.ofDigits 10 values.reverse : Nat) * unit.seconds) (shortDate now phrase) := by
  obtain ⟨hseconds, hsecond⟩ := unit.seconds_span (Nat.ofDigits 10 values.reverse : Nat)
  rw [shortDate_of_opens hopens, abbreviatedDate, if_pos hlimit, ← hseconds]
  exact Moment.back_finds hnow ht hsecond

theorem shortDate_eq_today_iff (hnow : now.IsValid)
    (hopens : Opens unit values rest (Text.lower (Text.trim phrase))) :
    shortDate now phrase = .ok now.date ↔
      values.length ≤ Text.Digit.limit ∧ Nat.ofDigits 10 values.reverse = 0 := by
  obtain ⟨t, hat⟩ := Moment.exists_isAt hnow
  have ht : now.IsAt t := (hat t).mpr rfl
  have htoday := Moment.isAt_contains ht hnow
  constructor
  · intro h
    by_cases hlimit : values.length ≤ Text.Digit.limit
    · refine ⟨hlimit, ?_⟩
      obtain ⟨-, hcontains⟩ := (shortDate_finds hnow ht hopens hlimit).eq_ok_iff.mp h
      obtain ⟨-, hstart, -⟩ := Date.contains_iff.mp hcontains
      obtain ⟨-, -, hstop⟩ := Date.contains_iff.mp htoday
      -- one unit would already lead out of the day
      obtain ⟨-, -, letter, hletter, -⟩ := opens_iff.mp hopens
      have hday := TimeUnit.day_le_of_letter? hletter
      by_contra hpos
      have hone : (1 : Int) ≤ (Nat.ofDigits 10 values.reverse : Nat) := by omega
      have hunit := Int.mul_le_mul_of_nonneg_right hone (by omega : 0 ≤ unit.seconds)
      omega
    · rw [shortDate_of_opens hopens, abbreviatedDate, if_neg hlimit] at h
      cases h
  · rintro ⟨hlimit, hzero⟩
    have hfinds := shortDate_finds hnow ht hopens hlimit
    rw [hzero, Nat.cast_zero, Int.zero_mul, Int.sub_zero] at hfinds
    exact hfinds.eq_ok_iff.mpr ⟨hnow.1, htoday⟩

/-- An abbreviation is read off the start of a text: whatever follows the letter, the text leads back by the
amount in front of it, and every text that does not start so means today. -/
theorem shortDate_reads_start (now : Moment) (hnow : now.IsValid) (phrase : Text) :
    ((∀ unit values rest, ¬ Opens unit values rest (Text.lower (Text.trim phrase))) →
      shortDate now phrase = .ok now.date) ∧
    ∃ t, (∀ t', now.IsAt t' ↔ t' = t) ∧
      ∀ unit values rest, Opens unit values rest (Text.lower (Text.trim phrase)) →
        (values.length ≤ Text.Digit.limit →
          Finds id (t - (Nat.ofDigits 10 values.reverse : Nat) * unit.seconds) (shortDate now phrase)) ∧
        (Text.Digit.limit < values.length →
          shortDate now phrase = .error (.numberTooLong values.length)) ∧
        (shortDate now phrase = .ok now.date ↔
          values.length ≤ Text.Digit.limit ∧ Nat.ofDigits 10 values.reverse = 0) := by
  obtain ⟨t, ht⟩ := Moment.exists_isAt hnow
  refine ⟨fun h => shortDate_of_not_opens h now, t, ht, ?_⟩
  intro unit values rest hopens
  refine ⟨shortDate_finds hnow ((ht t).mpr rfl) hopens, fun hlimit => ?_,
    shortDate_eq_today_iff hnow hopens⟩
  rw [shortDate_of_opens hopens, abbreviatedDate, if_neg (Nat.not_le.mpr hlimit)]

theorem shortDate_springNoon :
    springNoon.IsValid ∧
    Opens .months [3, 0] "in" (Text.lower (Text.trim "\u0663\u0660 Min\n")) ∧
    (∃ t, springNoon.IsAt t ∧
      Finds id (t - 30 * (30 * 86400)) (shortDate springNoon "\u0663\u0660 Min\n")) ∧
    (∀ unit values rest, ¬ Opens unit values rest (Text.lower (Text.trim "-1d"))) ∧
    shortDate springNoon "-1d" = .ok springNoon.date := by
  have hvalid : springNoon.IsValid := by decide
  have hopens : Opens .months [3, 0] "in" (Text.lower (Text.trim "\u0663\u0660 Min\n")) :=
    opens_iff.mpr ⟨by decide, .cons (by decide) (.cons (by decide) .nil), 'm', rfl, by decide⟩
  have hsign : ∀ unit values rest, ¬ Opens unit values rest (Text.lower (Text.trim "-1d")) :=
    fun _ _ _ h => (opens_iff.mp h).1 (by decide)
  obtain ⟨-, t, ht, hmonths⟩ := shortDate_reads_start springNoon hvalid "\u0663\u0660 Min\n"
  obtain ⟨hday, -⟩ := hmonths .months [3, 0] "in" hopens
  obtain ⟨htoday, -⟩ := shortDate_reads_start springNoon hvalid "-1d"
  exact ⟨hvalid, hopens, ⟨t, (ht t).mpr rfl, hday (by decide)⟩, hsign, htoday hsign⟩

theorem shortDate_thirtyMinutes :
    ¬ ∀ now phrase, now.IsValid →
      (∀ unit values, ¬ Opens unit values [] (Text.lower (Text.trim phrase))) →
      shortDate now phrase = .ok now.date := by
  intro h
  have hdate : shortDate springNoon "30min" = .ok ⟨2021, 9, 22⟩ := by decide
  have hrest : ∀ unit values, ¬ Opens unit values [] (Text.lower (Text.trim "30min")) := by
    intro unit values hopens
    obtain ⟨-, -, letter, -, hrest⟩ := opens_iff.mp hopens
    have hmin : Text.trimStart ((Text.lower (Text.trim "30min")).dropWhile Text.Digit.isDecimal) =
        "min".toList := by decide
    rw [hmin] at hrest
    cases hrest
  have htoday := h springNoon "30min" (by decide) hrest
  rw [hdate] at htoday
  cases htoday

theorem shortDate_eq_date (now : Moment) (unit : TimeUnit) (n : Nat) (short phrase : Text)
    (hshort : ShortForm unit n short) (hphrase : LongForm unit n phrase) :
    shortDate now short = date now phrase ∧
      ∀ fault, shortDate now short = .error fault → fault.kind = "OverflowError" := by
  obtain ⟨values, hopens, hlimit, rfl⟩ := hshort.opens
  have hback : shortDate now short = now.back (unit.span (Nat.ofDigits 10 values.reverse : Nat)) := by
    rw [shortDate_of_opens hopens, abbreviatedDate, if_pos hlimit]
  refine ⟨?_, fun fault h => Moment.kind_of_back (hback ▸ h)⟩
  rw [hback, date_eq, named?_of_tells hphrase.tells]
  rfl

theorem shortDate_eq_date_springNoon :
    ShortForm .weeks 7 "\t007W " ∧ LongForm .weeks 7 "7\n Weeks" ∧
    shortDate springNoon "\t007W " = date springNoon "7\n Weeks" ∧
    date springNoon "7\n Weeks" = .ok ⟨2024, 1, 21⟩ ∧
    ShortForm .months 40000000 "40000000m" ∧ LongForm .months 40000000 "040000000 MONTHS" ∧
    shortDate springNoon "40000000m" = date springNoon "040000000 MONTHS" ∧
    date springNoon "040000000 MONTHS" = .error (.dayCountBeyondSpan 1200000000) := by
  have hblanks : ∀ s : Text, s.all Text.isBlank = true → ∀ c ∈ s, Text.isBlank c = true :=
    fun _ => List.all_eq_true.mp
  have hseven : Text.Writes 7 "7" := Text.Writes.plain (s := "7") (by decide)
  have hmany : Text.Writes 40000000 "040000000" := Text.Writes.plain (s := "040000000") (by decide)
  have hshort : ShortForm .weeks 7 "\t007W " :=
    @ShortForm.intro .weeks ['\t'] "007" [' '] 'w' 'W' (hblanks _ (by decide)) (by decide) rfl (by decide)
      (hblanks _ (by decide))
  have hlong : LongForm .weeks 7 "7\n Weeks" :=
    @LongForm.intro .weeks 7 [] "7" "\n " "Weeks" [] (hblanks _ (by decide)) hseven (by decide)
      (hblanks _ (by decide)) (by decide) (hblanks _ (by decide))
  have hshort' : ShortForm .months 40000000 "40000000m" :=
    @ShortForm.intro .months [] "40000000" [] 'm' 'm' (hblanks _ (by decide)) (by decide) rfl (by decide)
      (hblanks _ (by decide))
  have hlong' : LongForm .months 40000000 "040000000 MONTHS" :=
    @LongForm.intro .months 40000000 [] "040000000" " " "MONTHS" [] (hblanks _ (by decide)) hmany
      (by decide) (hblanks _ (by decide)) (by decide) (hblanks _ (by decide))
  obtain ⟨hweeks, -⟩ := shortDate_eq_date springNoon .weeks 7 _ _ hshort hlong
  obtain ⟨hmonths, -⟩ := shortDate_eq_date springNoon .months 40000000 _ _ hshort' hlong'
  exact ⟨hshort, hlong, hweeks, by decide, hshort', hlong', hmonths, by decide⟩

end Elapsed
end JobBoards
