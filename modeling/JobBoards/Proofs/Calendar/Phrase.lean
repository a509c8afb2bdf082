import JobBoards.Proofs.Board.Dates
import JobBoards.Proofs.Text.Lower
import JobBoards.Proofs.Text.Numeral
namespace JobBoards

inductive TimeUnit where
  | hours | days | weeks | months
  deriving DecidableEq, Repr

namespace TimeUnit
variable {n : Int} {word : Text} {s : Span}

def names : TimeUnit → List Text
  | .hours => ["hour", "hours"]
  | .days => ["day", "days"]
  | .weeks => ["week", "weeks"]
  | .months => ["months"]

def span (n : Int) : TimeUnit → Span
  | .hours => .ofHours n
  | .days => .ofDays n
  | .weeks => .ofDays (7 * n)
  | .months => .ofDays (30 * n)

def letter? : TimeUnit → Option Char
  | .hours => none
  | .days => some 'd'
  | .weeks => some 'w'
  | .months => some 'm'

theorem names_ok {unit : TimeUnit} {name : Text} (h : name ∈ unit.names) :
    name ≠ [] ∧ ∀ c ∈ name, Text.isBlank c = false := by
  have hall : ∀ name ∈ unit.names, name ≠ [] ∧ name.all (fun c => !Text.isBlank c) = true := by
    cases unit <;> decide
  obtain ⟨hne, hblank⟩ := hall name h
  refine ⟨hne, fun c hc => ?_⟩
  have hc := List.all_eq_true.mp hblank c hc
  rwa [Bool.not_eq_true'] at hc

theorem span?_of_names {unit : TimeUnit} {name : Text} (h : name ∈ unit.names) (n : Int) :
    Elapsed.span? n name = some (unit.span n) := by
  cases unit
  all_goals
    simp only [names, List.mem_cons, List.not_mem_nil, or_false] at h
  · rcases h with rfl | rfl <;> rfl
  · rcases h with rfl | rfl <;> rfl
  · rcases h with rfl | rfl <;> rfl
  · subst h
    rfl

theorem letter?_cases {unit : TimeUnit} {c : Char} (h : unit.letter? = some c) :
    unit = .days ∧ c = 'd' ∨ unit = .weeks ∧ c = 'w' ∨ unit = .months ∧ c = 'm' := by
  cases unit with
  | hours => cases h
  | days => exact .inl ⟨rfl, (Option.some.inj h).symm⟩
  | weeks => exact .inr (.inl ⟨rfl, (Option.some.inj h).symm⟩)
  | months => exact .inr (.inr ⟨rfl, (Option.some.inj h).symm⟩)

theorem letter?_plain {unit : TimeUnit} {c : Char} (h : unit.letter? = some c) :
    Text.isBlank c = false ∧ Text.Digit.isDecimal c = false := by
  rcases letter?_cases h with ⟨-, rfl⟩ | ⟨-, rfl⟩ | ⟨-, rfl⟩ <;> decide

theorem toLower_of_letter? {unit : TimeUnit} {small letter : Char} (h : unit.letter? = some small)
    (hletter : letter = small ∨ letter = small.toUpper) :
    letter.toNat < 128 ∧ letter.toLower = small ∧ Text.isBlank letter = false := by
  rcases letter?_cases h with ⟨-, rfl⟩ | ⟨-, rfl⟩ | ⟨-, rfl⟩ <;> rcases hletter with rfl | rfl <;> decide

theorem span?_eq_some_iff : Elapsed.span? n word = some s ↔
    (∃ unit : TimeUnit, word ∈ unit.names ∧ s = unit.span n) ∨
      word = "month".toList ∧ s = .ofDays 31 := by
  constructor
  · intro h
    unfold Elapsed.span? at h
    split at h
    · rename_i hword
      exact .inl ⟨.hours, by simpa [names] using hword, (Option.some.inj h).symm⟩
    split at h
    · rename_i hword
      exact .inl ⟨.days, by simpa [names] using hword, (Option.some.inj h).symm⟩
    split at h
    · rename_i hword
      exact .inl ⟨.weeks, by simpa [names] using hword, (Option.some.inj h).symm⟩
    split at h
    · rename_i hword
      exact .inr ⟨hword, (Option.some.inj h).symm⟩
    split at h
    · rename_i hword
      exact .inl ⟨.months, by simpa [names] using hword, (Option.some.inj h).symm⟩
    · cases h
  · rintro (⟨unit, hword, rfl⟩ | ⟨rfl, rfl⟩)
    · exact span?_of_names hword n
    · rfl

theorem shortSpan?_eq_some_iff {n : Nat} {c : Char} : Elapsed.shortSpan? n c = some s ↔
    ∃ unit : TimeUnit, unit.letter? = some c ∧ s = unit.span n := by
  constructor
  · intro h
    unfold Elapsed.shortSpan? at h
    split at h
    · rename_i hc
      exact ⟨.days, by rw [hc]; rfl, (Option.some.inj h).symm⟩
    split at h
    · rename_i hc
      exact ⟨.weeks, by rw [hc]; rfl, (Option.some.inj h).symm⟩
    split at h
    · rename_i hc
      exact ⟨.months, by rw [hc]; rfl, (Option.some.inj h).symm⟩
    · cases h
  · rintro ⟨unit, hc, rfl⟩
    rcases letter?_cases hc with ⟨rfl, rfl⟩ | ⟨rfl, rfl⟩ | ⟨rfl, rfl⟩ <;> rfl

end TimeUnit

namespace Elapsed
variable {phrase s : Text} {span : Span}

def Tells (n : Int) (unit : TimeUnit) (phrase : Text) : Prop :=
  ∃ amount word others, Text.words phrase = amount :: word :: others ∧ Text.Spells n amount ∧
    Text.lower word ∈ unit.names

def TellsMonth (phrase : Text) : Prop :=
  ∃ n amount word others, Text.words phrase = amount :: word :: others ∧ Text.Spells n amount ∧
    Text.lower word = "month".toList

theorem named?_eq_some_iff : named? phrase = some span ↔
    (∃ n unit, Tells n unit phrase ∧ span = unit.span n) ∨ TellsMonth phrase ∧ span = .ofDays 31 := by
  have hread {amount : Text} {word : Text} {others : List Text} {n : Int}
      (hwords : Text.words phrase = amount :: word :: others) :
      Text.int? amount = some n ↔ Text.Spells n amount := by
    have hmem : amount ∈ Text.words phrase := hwords ▸ List.mem_cons_self
    rw [Text.int?_eq_some_iff, Text.trim_eq_self (Text.not_blank_of_mem_words hmem)]
  constructor
  · intro h
    unfold named? at h
    split at h
    · rename_i amount word others hwords
      obtain ⟨n, hn, hspan⟩ := Option.bind_eq_some_iff.mp h
      have hn := (hread hwords).mp hn
      rcases TimeUnit.span?_eq_some_iff.mp hspan with ⟨unit, hword, rfl⟩ | ⟨hword, rfl⟩
      · exact .inl ⟨n, unit, ⟨amount, word, others, hwords, hn, hword⟩, rfl⟩
      · exact .inr ⟨⟨n, amount, word, others, hwords, hn, hword⟩, rfl⟩
    · cases h
  · rintro (⟨n, unit, ⟨amount, word, others, hwords, hn, hword⟩, rfl⟩ |
      ⟨⟨n, amount, word, others, hwords, hn, hword⟩, rfl⟩)
    · rw [named?, hwords]
      simp only [(hread hwords).mpr hn, Option.bind_some]
      exact TimeUnit.span?_of_names hword n
    · rw [named?, hwords]
      simp only [(hread hwords).mpr hn, Option.bind_some, hword]
      rfl

theorem named?_of_tells {n : Int} {unit : TimeUnit} (h : Tells n unit phrase) :
    named? phrase = some (unit.span n) :=
  named?_eq_some_iff.mpr (.inl ⟨n, unit, h, rfl⟩)

inductive LongForm (unit : TimeUnit) (n : Int) : Text → Prop
  | intro {before amount gap word after : Text} (hbefore : ∀ c ∈ before, Text.isBlank c = true)
      (hamount : Text.Writes n amount) (hne : gap ≠ []) (hgap : ∀ c ∈ gap, Text.isBlank c = true)
      (hword : Text.lower word ∈ unit.names) (hafter : ∀ c ∈ after, Text.isBlank c = true) :
      LongForm unit n (before ++ (amount ++ (gap ++ (word ++ after))))

theorem LongForm.tells {n : Int} {unit : TimeUnit} (h : LongForm unit n phrase) : Tells n unit phrase := by
  cases h with
  | @intro before amount gap word after hbefore hamount hne hgap hword hafter =>
    obtain ⟨hname, hblank⟩ := TimeUnit.names_ok hword
    have hword' : word ≠ [] := by
      rintro rfl
      exact hname rfl
    obtain ⟨c, gap, rfl⟩ := List.exists_cons_of_ne_nil hne
    obtain ⟨hc, hgap⟩ := List.forall_mem_cons.mp hgap
    refine ⟨amount, word, [], ?_, hamount.spells, hword⟩
    rw [Text.words_blanks hbefore, List.cons_append,
      Text.words_append_cons hamount.ne_nil hamount.not_blank hc, Text.words_blanks hgap,
      Text.words_append_blanks hword' (Text.not_blank_of_lower hblank) hafter]

theorem tells_pair {n : Int} {unit : TimeUnit} {amount word : Text} (hamount : Text.Writes n amount)
    (hword : Text.lower word ∈ unit.names) : Tells n unit (amount ++ ' ' :: word) := by
  have hnone : ∀ c ∈ ([] : Text), Text.isBlank c = true := List.all_eq_true.mp rfl
  have hgap : ∀ c ∈ [' '], Text.isBlank c = true := List.all_eq_true.mp rfl
  have hlong : LongForm unit n ([] ++ (amount ++ ([' '] ++ (word ++ [])))) :=
    .intro hnone hamount (List.cons_ne_nil _ _) hgap hword hnone
  rw [List.append_nil] at hlong
  exact hlong.tells

inductive Opens (unit : TimeUnit) (values : List Nat) (rest : Text) : Text → Prop
  | intro {digits blanks : Text} {letter : Char} (hne : digits ≠ [])
      (hvalues : List.Forall₂ (fun c v => Text.Digit.value? c = some v) digits values)
      (hblanks : ∀ c ∈ blanks, Text.isBlank c = true) (hletter : unit.letter? = some letter) :
      Opens unit values rest (digits ++ (blanks ++ letter :: rest))

theorem opens_iff {unit : TimeUnit} {values : List Nat} {rest : Text} : Opens unit values rest s ↔
    s.takeWhile Text.Digit.isDecimal ≠ [] ∧
    List.Forall₂ (fun c v => Text.Digit.value? c = some v) (s.takeWhile Text.Digit.isDecimal) values ∧
    ∃ letter, unit.letter? = some letter ∧
      Text.trimStart (s.dropWhile Text.Digit.isDecimal) = letter :: rest := by
  constructor
  · rintro @⟨digits, blanks, letter, hne, hvalues, hblanks, hletter⟩
    obtain ⟨hdecimal, -⟩ := Text.Digit.forall₂_value?_iff.mp hvalues
    obtain ⟨hplain, hstop⟩ := TimeUnit.letter?_plain hletter
    have hend : (blanks ++ letter :: rest).takeWhile Text.Digit.isDecimal = [] ∧
        (blanks ++ letter :: rest).dropWhile Text.Digit.isDecimal = blanks ++ letter :: rest := by
      cases blanks with
      | nil => simp [hstop]
      | cons c blanks => simp [Text.Digit.isDecimal_of_isBlank (hblanks c List.mem_cons_self)]
    rw [List.takeWhile_append_of_pos hdecimal, List.dropWhile_append_of_pos hdecimal, hend.1, hend.2,
      List.append_nil, Text.trimStart, List.dropWhile_append_of_pos hblanks]
    exact ⟨hne, hvalues, letter, hletter, by simp [hplain]⟩
  · rintro ⟨hne, hvalues, letter, hletter, hrest⟩
    have hblanks : ∀ c ∈ (s.dropWhile Text.Digit.isDecimal).takeWhile Text.isBlank,
        Text.isBlank c = true := fun _ => List.mem_takeWhile_imp
    have hopens : Opens unit values rest _ := .intro hne hvalues hblanks hletter
    unfold Text.trimStart at hrest
    rwa [← hrest, List.takeWhile_append_dropWhile, List.takeWhile_append_dropWhile] at hopens

inductive ShortForm (unit : TimeUnit) : Nat → Text → Prop
  | intro {before numeral after : Text} {small letter : Char}
      (hbefore : ∀ c ∈ before, Text.isBlank c = true) (hnumeral : Text.IsDigits numeral)
      (hsmall : unit.letter? = some small) (hletter : letter = small ∨ letter = small.toUpper)
      (hafter : ∀ c ∈ after, Text.isBlank c = true) :
      ShortForm unit (Nat.ofDigitChars 10 numeral 0) (before ++ (numeral ++ [letter]) ++ after)

theorem ShortForm.opens {n : Nat} {unit : TimeUnit} (h : ShortForm unit n phrase) :
    ∃ values, Opens unit values [] (Text.lower (Text.trim phrase)) ∧
      values.length ≤ Text.Digit.limit ∧ Nat.ofDigits 10 values.reverse = n := by
  cases h with
  | @intro before numeral after small letter hbefore hnumeral hsmall hletter hafter =>
    obtain ⟨hcode, hlower, hblank⟩ := TimeUnit.toLower_of_letter? hsmall hletter
    have hcore : ∀ c ∈ numeral ++ [letter], Text.isBlank c = false := by
      rw [List.forall_mem_append, List.forall_mem_singleton]
      exact ⟨hnumeral.not_blank, hblank⟩
    have hascii : ∀ c ∈ numeral ++ [letter], c.toNat < 128 := by
      rw [List.forall_mem_append, List.forall_mem_singleton]
      exact ⟨hnumeral.ascii, hcode⟩
    have htext : Text.lower (Text.trim (before ++ (numeral ++ [letter]) ++ after)) = numeral ++ [small] := by
      rw [Text.trim_blanks hbefore hcore hafter, Text.lower, Text.lowerAfter_eq_map hascii,
        List.map_append, hnumeral.map_toLower, List.map_singleton, hlower]
    have hnone : ∀ c ∈ ([] : Text), Text.isBlank c = true := List.all_eq_true.mp rfl
    rw [htext]
    exact ⟨_, .intro hnumeral.ne_nil hnumeral.values hnone hsmall, hnumeral.length_map_le,
      Text.Digit.ofDigits_map numeral⟩

theorem abbreviated?_eq_some_iff {p : Nat × Span} : abbreviated? phrase = some p ↔
    ∃ unit values rest, Opens unit values rest (Text.lower (Text.trim phrase)) ∧
      p = (values.length, unit.span (Nat.ofDigits 10 values.reverse : Nat)) := by
  unfold abbreviated?
  generalize Text.lower (Text.trim phrase) = s
  simp only
  constructor
  · intro h
    split at h
    · rename_i digit digits letter rest hdigits hrest
      obtain ⟨span, hspan, rfl⟩ := Option.map_eq_some_iff.mp h
      obtain ⟨unit, hletter, rfl⟩ := TimeUnit.shortSpan?_eq_some_iff.mp hspan
      have hne : s.takeWhile Text.Digit.isDecimal ≠ [] := hdigits ▸ List.cons_ne_nil _ _
      have hvalues := Text.Digit.forall₂_value?_iff.mpr
        ⟨fun _ => List.mem_takeWhile_imp (l := s) (p := Text.Digit.isDecimal), rfl⟩
      refine ⟨unit, _, rest, opens_iff.mpr ⟨hne, hvalues, letter, hletter, hrest⟩, ?_⟩
      rw [← hvalues.length_eq, hdigits, Text.Digit.number_eq]
    · cases h
  · rintro ⟨unit, values, rest, hopens, rfl⟩
    obtain ⟨hne, hvalues, letter, hletter, hrest⟩ := opens_iff.mp hopens
    obtain ⟨-, hfilter⟩ := Text.Digit.forall₂_value?_iff.mp hvalues
    obtain ⟨digit, digits, hdigits⟩ := List.exists_cons_of_ne_nil hne
    rw [hdigits] at hvalues hfilter
    rw [hdigits, hrest]
    simp only [hfilter, hvalues.length_eq, Text.Digit.number_eq,
      TimeUnit.shortSpan?_eq_some_iff.mpr ⟨unit, hletter, rfl⟩, Option.map_some]

theorem shortDate_of_opens {unit : TimeUnit} {values : List Nat} {rest : Text}
    (h : Opens unit values rest (Text.lower (Text.trim phrase))) (now : Moment) :
    shortDate now phrase =
      abbreviatedDate now values.length (unit.span (Nat.ofDigits 10 values.reverse : Nat)) := by
  rw [shortDate_eq, abbreviated?_eq_some_iff.mpr ⟨unit, values, rest, h, rfl⟩]
  rfl

theorem shortDate_of_not_opens
    (h : ∀ unit values rest, ¬ Opens unit values rest (Text.lower (Text.trim phrase))) (now : Moment) :
    shortDate now phrase = .ok now.date := by
  rw [shortDate_eq]
  cases habbreviated : abbreviated? phrase with
  | none => rfl
  | some p =>
    obtain ⟨unit, values, rest, hopens, -⟩ := abbreviated?_eq_some_iff.mp habbreviated
    exact absurd hopens (h unit values rest)

end Elapsed
end JobBoards
