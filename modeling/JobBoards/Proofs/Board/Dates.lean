import JobBoards.Calendar.Elapsed
import JobBoards.Proofs.Faults
namespace JobBoards

def Span.Fits (s : Span) : Prop := -maxDays ≤ s.days ∧ s.days ≤ maxDays

theorem Span.check_cases (s : Span) :
    (s.Fits ∧ s.check = .ok s) ∨
      ¬ s.Fits ∧ ∃ fault, s.check = .error fault ∧ fault.kind = "OverflowError" := by
  unfold check Fits maxDays
  split
  · exact .inr ⟨by omega, .dayCountBeyondWord, rfl, rfl⟩
  · split
    · exact .inr ⟨by omega, .dayCountBeyondSpan s.days, rfl, rfl⟩
    · exact .inl ⟨by omega, rfl⟩

namespace Moment

def dayNumber (now : Moment) (s : Span) : Int :=
  now.date.number - s.days + if now.second < s.second then -1 else 0

def Reaches (now : Moment) (s : Span) : Prop :=
  s.Fits ∧ 1 ≤ now.dayNumber s ∧ now.dayNumber s ≤ Date.lastNumber

theorem back_cases (now : Moment) (s : Span) :
    (now.Reaches s ∧ now.back s = .ok (Date.ofNumber (now.dayNumber s).toNat)) ∨
      ¬ now.Reaches s ∧ ∃ fault, now.back s = .error fault ∧ fault.kind = "OverflowError" := by
  rcases s.check_cases with ⟨hfits, hcheck⟩ | ⟨hfits, fault, hcheck, hkind⟩
  · have hback : now.back s = now.dayBefore s := by
      rw [back, hcheck]
      rfl
    by_cases hyears : now.dayNumber s < 1 ∨ Date.lastNumber < now.dayNumber s
    · refine .inr ⟨fun h => ?_, .dateBeyondYears, ?_, rfl⟩
      · obtain ⟨-, hfirst, hlast⟩ := h
        omega
      · rw [hback]
        exact if_pos hyears
    · refine .inl ⟨⟨hfits, by omega, by omega⟩, ?_⟩
      rw [hback]
      exact if_neg hyears
  · refine .inr ⟨fun h => hfits h.1, fault, ?_, hkind⟩
    rw [back, hcheck]
    rfl

theorem back_error_iff (now : Moment) (s : Span) :
    (∃ fault, now.back s = .error fault) ↔ ¬ now.Reaches s := by
  rcases now.back_cases s with ⟨hreaches, hback⟩ | ⟨hreaches, fault, hback, -⟩
  · simp [hreaches, hback]
  · simp [hreaches, hback]

theorem kind_of_back {now : Moment} {s : Span} {fault : Fault} (h : now.back s = .error fault) :
    fault.kind = "OverflowError" := by
  rcases now.back_cases s with ⟨-, hback⟩ | ⟨-, other, hback, hkind⟩
  · rw [hback] at h
    cases h
  · obtain rfl : other = fault := Except.error.inj (hback.symm.trans h)
    exact hkind

end Moment

namespace Elapsed

def named? (phrase : Text) : Option Span :=
  match Text.words phrase with
  | amount :: unit :: _ => (Text.int? amount).bind fun n => span? n (Text.lower unit)
  | _ => none

theorem date_eq (now : Moment) (phrase : Text) :
    date now phrase = ((named? phrase).map now.back).getD (.ok now.date) := by
  unfold date named?
  rcases Text.words phrase with _ | ⟨amount, _ | ⟨unit, rest⟩⟩
  · rfl
  · rfl
  · simp only
    cases Text.int? amount with
    | none => rfl
    | some n =>
      simp only [Option.bind_some]
      cases span? n (Text.lower unit) <;> rfl

theorem date_eq_error {now : Moment} {phrase : Text} {fault : Fault} :
    date now phrase = .error fault ↔ ∃ s, named? phrase = some s ∧ now.back s = .error fault := by
  rw [date_eq]
  cases named? phrase <;> simp

def abbreviated? (phrase : Text) : Option (Nat × Span) :=
  let s := Text.lower (Text.trim phrase)
  let digits := s.takeWhile Text.Digit.isDecimal
  match digits, Text.trimStart (s.dropWhile Text.Digit.isDecimal) with
  | _ :: _, unit :: _ =>
      (shortSpan? (Text.Digit.number (digits.filterMap Text.Digit.value?)) unit).map fun span =>
        (digits.length, span)
  | _, _ => none

/-- The day of an abbreviation, whose number must not have too many digits, leading zeros included. -/
def abbreviatedDate (now : Moment) (digits : Nat) (span : Span) : Except Fault Date :=
  if digits ≤ Text.Digit.limit then now.back span else .error (.numberTooLong digits)

theorem shortDate_eq (now : Moment) (phrase : Text) :
    shortDate now phrase =
      ((abbreviated? phrase).map fun p => abbreviatedDate now p.1 p.2).getD (.ok now.date) := by
  unfold shortDate abbreviated?
  simp only
  generalize (Text.lower (Text.trim phrase)).takeWhile Text.Digit.isDecimal = digits
  generalize Text.trimStart _ = rest
  rcases digits with _ | ⟨digit, digits⟩
  · rfl
  · rcases rest with _ | ⟨unit, rest⟩
    · rfl
    · simp only
      cases shortSpan? _ unit <;> rfl

theorem shortDate_eq_error {now : Moment} {phrase : Text} {fault : Fault} :
    shortDate now phrase = .error fault ↔
      ∃ p, abbreviated? phrase = some p ∧ abbreviatedDate now p.1 p.2 = .error fault := by
  rw [shortDate_eq]
  cases abbreviated? phrase <;> simp

theorem abbreviatedDate_error_iff (now : Moment) (digits : Nat) (s : Span) :
    (∃ fault, abbreviatedDate now digits s = .error fault) ↔
      Text.Digit.limit < digits ∨ ¬ now.Reaches s := by
  unfold abbreviatedDate
  split
  · rename_i hle
    rw [Moment.back_error_iff]
    exact ⟨.inr, fun h => h.resolve_left (Nat.not_lt.mpr hle)⟩
  · rename_i hlt
    exact ⟨fun _ => .inl (Nat.not_le.mp hlt), fun _ => ⟨_, rfl⟩⟩

theorem kind_of_abbreviatedDate {now : Moment} {digits : Nat} {s : Span} {fault : Fault}
    (h : abbreviatedDate now digits s = .error fault) :
    fault.kind = "OverflowError" ∨ fault.kind = "ValueError" := by
  unfold abbreviatedDate at h
  split at h
  · exact .inl (Moment.kind_of_back h)
  · obtain rfl := Except.error.inj h
    exact .inr rfl

end Elapsed
end JobBoards
