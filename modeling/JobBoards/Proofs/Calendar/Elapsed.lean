import JobBoards.Proofs.Calendar.Instant
import JobBoards.Proofs.Calendar.Phrase
namespace JobBoards

namespace TimeUnit

def seconds : TimeUnit → Int
  | .hours => 3600
  | .days => 86400
  | .weeks => 7 * 86400
  | .months => 30 * 86400

theorem seconds_span (n : Int) (unit : TimeUnit) :
    (unit.span n).seconds = n * unit.seconds ∧ (unit.span n).second < 86400 := by
  cases unit with
  | hours =>
    have hdiv : Int.fdiv n 24 = n / 24 := Int.fdiv_eq_ediv_of_nonneg n (by decide)
    have hmod : Int.fmod n 24 = n % 24 := Int.fmod_eq_emod_of_nonneg n (by decide)
    simp only [span, Span.ofHours, Span.seconds, seconds, hdiv, hmod]
    omega
  | days =>
    simp only [span, Span.ofDays, Span.seconds, seconds]
    omega
  | weeks =>
    simp only [span, Span.ofDays, Span.seconds, seconds]
    omega
  | months =>
    simp only [span, Span.ofDays, Span.seconds, seconds]
    omega

end TimeUnit

namespace Elapsed
variable {now : Moment} {t n : Int} {unit : TimeUnit} {amount word : Text}

theorem date_finds (hnow : now.IsValid) (ht : now.IsAt t) (hamount : Text.Writes n amount)
    (hword : Text.lower word ∈ unit.names) :
    Finds id (t - n * unit.seconds) (date now (amount ++ ' ' :: word)) := by
  obtain ⟨hseconds, hsecond⟩ := unit.seconds_span n
  have hdate : date now (amount ++ ' ' :: word) = now.back (unit.span n) := by
    rw [date_eq, named?_of_tells (tells_pair hamount hword)]
    rfl
  rw [hdate, ← hseconds]
  exact Moment.back_finds hnow ht hsecond

theorem date_bind_finds {a b : Nat} {first second : Text} (hnow : now.IsValid)
    (hmidnight : now.second = 0) (ht : now.IsAt t) (ha : Text.Writes a first)
    (hb : Text.Writes b second) (hword : Text.lower word ∈ TimeUnit.days.names) :
    Finds id (t - (a + b : Nat) * 86400)
      (date now (first ++ ' ' :: word) >>= fun d => date d.midnight (second ++ ' ' :: word)) := by
  have hfirst := date_finds hnow ht ha hword
  have hwhole := (Moment.isAt_iff hnow.1).mp ht
  have htotal : t - a * 86400 - b * 86400 = t - (a + b : Nat) * 86400 := by omega
  simp only [TimeUnit.seconds] at hfirst
  cases hx : date now (first ++ ' ' :: word) with
  | ok d =>
    rw [hx] at hfirst
    cases hfirst with
    | day hvalid hcontains _ =>
      have hmoment := Moment.isAt_midnight hvalid hcontains (by omega)
      have hsecond := date_finds ⟨hvalid, Nat.succ_pos _⟩ hmoment hb hword
      simp only [TimeUnit.seconds, htotal] at hsecond
      exact hsecond
  | error fault =>
    rw [hx] at hfirst
    cases hfirst with
    | outside hnone hkind =>
      refine .outside (fun e he hcontains => ?_) hkind
      -- the day after the first step would lie between the last one and today
      obtain ⟨f, hf, hfcontains⟩ := Date.exists_contains_between he hcontains hnow.1
        (Moment.isAt_contains ht hnow) (t := t - a * 86400) (by omega) (by omega)
      exact hnone f hf hfcontains

/-- A phrase that names an amount of a unit leads to the day of the instant that lies so long ago, with nothing
left out between the first of January 1 and the end of December 9999. -/
theorem date_finds_day_of_instant (now : Moment) (hnow : now.IsValid) :
    ∃ t, (∀ t', now.IsAt t' ↔ t' = t) ∧
      (∀ n amount unit word, Text.Writes n amount → Text.lower word ∈ TimeUnit.names unit →
        Finds Date.text (t - n * unit.seconds)
          ((date now (amount ++ ' ' :: word)).map Date.text)) ∧
      (now.second = 0 → ∀ (a b : Nat) (first second both : Text), Text.Writes a first →
        Text.Writes b second → Text.Writes (a + b : Nat) both →
        (date now (first ++ " days".toList) >>= fun d =>
            date d.midnight (second ++ " days".toList)).mapError Fault.kind =
          (date now (both ++ " days".toList)).mapError Fault.kind) := by
  obtain ⟨t, ht⟩ : ∃ t, ∀ t', now.IsAt t' ↔ t' = t := ⟨_, fun _ => Moment.isAt_iff hnow.1⟩
  have hat : now.IsAt t := (ht t).mpr rfl
  have hdays : Text.lower "days".toList ∈ TimeUnit.days.names := by decide
  refine ⟨t, ht, ?_, ?_⟩
  · intro n amount unit word hamount hword
    exact (date_finds hnow hat hamount hword).map Date.text
  · intro hmidnight a b first second both ha hb hab
    have hsteps := date_bind_finds hnow hmidnight hat ha hb hdays
    have hboth := date_finds hnow hat hab hdays
    exact hsteps.mapError_kind_eq hboth

def leapMarch : Moment := ⟨⟨2024, 3, 1⟩, 0⟩

theorem date_leapMarch :
    leapMarch.IsValid ∧
    (∃ t, leapMarch.IsAt t ∧
      Finds Date.text (t - 1 * 3600) ((date leapMarch "1 HOUR").map Date.text)) ∧
    date leapMarch "1 HOUR" = .ok ⟨2024, 2, 29⟩ ∧
    (date leapMarch "1 days" >>= fun d => date d.midnight "365 days").mapError Fault.kind =
      (date leapMarch "366 days").mapError Fault.kind := by
  have hvalid : leapMarch.IsValid := by decide
  obtain ⟨t, ht, hfinds, hadd⟩ := date_finds_day_of_instant leapMarch hvalid
  have hone : Text.Writes 1 "1".toList :=
    Text.Writes.plain (s := "1") ⟨by decide, List.all_eq_true.mp (by decide), by decide⟩
  have hyear : Text.Writes 365 "365".toList :=
    Text.Writes.plain (s := "365") ⟨by decide, List.all_eq_true.mp (by decide), by decide⟩
  have hboth : Text.Writes 366 "366".toList :=
    Text.Writes.plain (s := "366") ⟨by decide, List.all_eq_true.mp (by decide), by decide⟩
  have hhour := hfinds 1 "1" .hours "HOUR" hone (by decide)
  have htwice := hadd rfl 1 365 "1" "365" "366" hone hyear hboth
  exact ⟨hvalid, ⟨t, (ht t).mpr rfl, hhour⟩, by decide, htwice⟩

end Elapsed
end JobBoards
