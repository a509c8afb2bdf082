import JobBoards.Proofs.Board.Dates
import JobBoards.Proofs.Calendar.Count
namespace JobBoards

/-- The day on which an instant falls; instants are counted in seconds from the start of the calendar. -/
def Date.Contains (d : Date) (t : Int) : Prop :=
  ∃ k : Nat, d = Date.nth k ∧ 86400 * (k : Int) ≤ t ∧ t < 86400 * (k + 1)

inductive Finds {α : Type} (write : Date → α) (t : Int) : Except Fault α → Prop
  | day {d : Date} (hvalid : d.IsValid) (hcontains : d.Contains t) (honly : ∀ e, e.Contains t → e = d) :
      Finds write t (.ok (write d))
  | outside {fault : Fault} (hnone : ∀ d : Date, d.IsValid → ¬ d.Contains t)
      (hkind : fault.kind = "OverflowError") : Finds write t (.error fault)

namespace Moment

def IsValid (now : Moment) : Prop := now.date.IsValid ∧ now.second < 86400

instance (now : Moment) : Decidable now.IsValid := by unfold IsValid; infer_instance

def IsAt (now : Moment) (t : Int) : Prop :=
  ∃ k : Nat, now.date = Date.nth k ∧ t = 86400 * k + now.second

end Moment

def Span.seconds (s : Span) : Int := 86400 * s.days + s.second

namespace Finds
variable {α : Type} {write : Date → α} {t : Int} {x y : Except Fault α}

theorem map {β : Type} (h : Finds write t x) (f : α → β) : Finds (f ∘ write) t (x.map f) := by
  cases h with
  | day hvalid hcontains honly => exact .day hvalid hcontains honly
  | outside hnone hkind => exact .outside hnone hkind

theorem mapError_kind_eq (hx : Finds write t x) (hy : Finds write t y) :
    x.mapError Fault.kind = y.mapError Fault.kind := by
  cases hx with
  | day hvalid hcontains honly =>
    cases hy with
    | day _ hcontains' _ =>
      rw [honly _ hcontains']
    | outside hnone _ => exact absurd hcontains (hnone _ hvalid)
  | outside hnone hkind =>
    cases hy with
    | day hvalid hcontains _ => exact absurd hcontains (hnone _ hvalid)
    | outside _ hkind' => exact congrArg Except.error (hkind.trans hkind'.symm)

end Finds

namespace Date
variable {d e : Date} {s t u : Int}

def midnight (d : Date) : Moment := ⟨d, 0⟩

theorem contains_iff : d.Contains t ↔
    d.InCalendar ∧ 86400 * ((d.number : Int) - 1) ≤ t ∧ t < 86400 * (d.number : Int) := by
  constructor
  · rintro ⟨k, rfl, hstart, hstop⟩
    obtain ⟨hcalendar, hnumber⟩ := inCalendar_nth k
    exact ⟨hcalendar, by omega, by omega⟩
  · rintro ⟨hcalendar, hstart, hstop⟩
    have hpos := hcalendar.lt_number
    exact ⟨d.number - 1, hcalendar.nth_number.symm, by omega, by omega⟩

theorem Contains.eq (hd : d.Contains t) (he : e.Contains t) : d = e := by
  obtain ⟨hd, hstart, hstop⟩ := contains_iff.mp hd
  obtain ⟨he, hstart', hstop'⟩ := contains_iff.mp he
  exact hd.eq_of_number he (by omega)

theorem contains_ofNumber {n : Nat} (hn : 1 ≤ n) (hstart : 86400 * ((n : Int) - 1) ≤ t)
    (hstop : t < 86400 * (n : Int)) : (ofNumber n).Contains t := by
  obtain ⟨hcalendar, hnumber⟩ := ofNumber_spec hn
  rw [contains_iff, hnumber]
  exact ⟨hcalendar, hstart, hstop⟩

theorem isValid_ofNumber {n : Nat} (hn : 1 ≤ n) (hlast : n ≤ lastNumber) : (ofNumber n).IsValid := by
  obtain ⟨hcalendar, hnumber⟩ := ofNumber_spec hn
  rw [hcalendar.isValid_iff_number, hnumber]
  exact hlast

theorem IsValid.number_bounds (h : d.IsValid) : 1 ≤ d.number ∧ d.number ≤ lastNumber := by
  have hcalendar := (isValid_iff.mp h).1
  exact ⟨Nat.succ_le_of_lt (Nat.zero_lt_of_lt hcalendar.lt_number), hcalendar.isValid_iff_number.mp h⟩

theorem exists_contains_between (hd : d.IsValid) (hs : d.Contains s) (he : e.IsValid)
    (hu : e.Contains u) (hst : s ≤ t) (htu : t ≤ u) : ∃ f : Date, f.IsValid ∧ f.Contains t := by
  obtain ⟨hpos, -⟩ := hd.number_bounds
  obtain ⟨-, hlast⟩ := he.number_bounds
  obtain ⟨-, hstart, -⟩ := contains_iff.mp hs
  obtain ⟨-, -, hstop⟩ := contains_iff.mp hu
  have hfirst' : 1 ≤ (t / 86400 + 1).toNat := by omega
  have hlast' : (t / 86400 + 1).toNat ≤ lastNumber := by omega
  exact ⟨_, isValid_ofNumber hfirst' hlast', contains_ofNumber hfirst' (by omega) (by omega)⟩

end Date

theorem Finds.eq_ok_iff {t : Int} {x : Except Fault Date} (h : Finds id t x) {d : Date} :
    x = .ok d ↔ d.IsValid ∧ d.Contains t := by
  cases h with
  | day hvalid hcontains honly =>
    constructor
    · intro heq
      obtain rfl := Except.ok.inj heq
      exact ⟨hvalid, hcontains⟩
    · rintro ⟨-, hd⟩
      rw [honly d hd]
      rfl
  | outside hnone _ => exact ⟨fun heq => (nomatch heq), fun hd => absurd hd.2 (hnone d hd.1)⟩

namespace Moment
variable {now : Moment} {s : Span} {t : Int}

theorem isAt_iff (hnow : now.date.IsValid) :
    now.IsAt t ↔ t = 86400 * ((now.date.number : Int) - 1) + now.second := by
  have hcalendar := (Date.isValid_iff.mp hnow).1
  constructor
  · rintro ⟨k, hdate, rfl⟩
    rw [hdate, (Date.inCalendar_nth k).2]
    omega
  · intro ht
    have hpos := hcalendar.lt_number
    exact ⟨now.date.number - 1, hcalendar.nth_number.symm, by omega⟩

theorem exists_isAt (hnow : now.IsValid) : ∃ t, ∀ t', now.IsAt t' ↔ t' = t :=
  ⟨_, fun _ => isAt_iff hnow.1⟩

theorem isAt_contains (ht : now.IsAt t) (hnow : now.IsValid) : now.date.Contains t := by
  obtain ⟨k, hdate, rfl⟩ := ht
  have hsecond := hnow.2
  exact ⟨k, hdate, by omega, by omega⟩

theorem isAt_midnight {d : Date} (hd : d.IsValid) (hcontains : d.Contains t)
    (hwhole : t % 86400 = 0) : d.midnight.IsAt t := by
  obtain ⟨-, hstart, hstop⟩ := Date.contains_iff.mp hcontains
  rw [isAt_iff hd]
  simp only [Date.midnight]
  omega

theorem dayNumber_bounds (hnow : now.IsValid) (ht : now.IsAt t) (hs : s.second < 86400) :
    86400 * (now.dayNumber s - 1) ≤ t - s.seconds ∧ t - s.seconds < 86400 * now.dayNumber s := by
  obtain ⟨hdate, hsecond⟩ := hnow
  rw [isAt_iff hdate] at ht
  unfold dayNumber Span.seconds
  split
  · omega
  · omega

theorem reaches_iff (hnow : now.IsValid) :
    now.Reaches s ↔ 1 ≤ now.dayNumber s ∧ now.dayNumber s ≤ Date.lastNumber := by
  constructor
  · rintro ⟨-, hdays⟩
    exact hdays
  · rintro ⟨hfirst, hlast⟩
    refine ⟨?_, hfirst, hlast⟩
    -- all days of the calendar are closer to each other than the longest span
    obtain ⟨hpos, hle⟩ := hnow.1.number_bounds
    have hspan : Date.lastNumber = 3652059 := by decide
    unfold Span.Fits Span.maxDays
    unfold dayNumber at hfirst hlast
    split at hfirst <;> omega

theorem back_finds (hnow : now.IsValid) (ht : now.IsAt t) (hs : s.second < 86400) :
    Finds id (t - s.seconds) (now.back s) := by
  obtain ⟨hstart, hstop⟩ := dayNumber_bounds hnow ht hs
  rcases now.back_cases s with ⟨hreaches, hback⟩ | ⟨hreaches, fault, hback, hkind⟩
  · obtain ⟨-, hfirst, hlast⟩ := hreaches
    have hpos : 1 ≤ (now.dayNumber s).toNat := by omega
    have hcontains : (Date.ofNumber (now.dayNumber s).toNat).Contains (t - s.seconds) :=
      Date.contains_ofNumber hpos (by omega) (by omega)
    rw [hback]
    exact .day (Date.isValid_ofNumber hpos (by omega)) hcontains fun e he => he.eq hcontains
  · rw [hback]
    refine .outside (fun d hd hcontains => hreaches ((reaches_iff hnow).mpr ?_)) hkind
    obtain ⟨hpos, hle⟩ := hd.number_bounds
    obtain ⟨-, hstart', hstop'⟩ := Date.contains_iff.mp hcontains
    omega

end Moment
end JobBoards
