import JobBoards.Markup.Reference
import JobBoards.Markup.Token.Basic
namespace JobBoards.Markup

def isEntityChar (c : Char) : Bool := Text.isLetter c || Text.isDigit c || c == '-' || c == '.'

inductive Mention where
  | tokens (ts : List Token) (rest : Text)
  | halt (ts : List Token) (rest : Text)

def afterReference (rest : Text) : Text := (afterSemicolon rest).2

/-- The name of a reference that nothing closes reaches up to its last dash or point. -/
def splitAtMark (name : Text) : Option (Text × Text) :=
  let tail := name.reverse.takeWhile fun c => !(c == '-' || c == '.')
  let length := name.length - tail.length - 1
  if 0 < length then some (name.take length, name.drop length) else none

theorem length_splitAtMark_le {name first rest : Text} (h : splitAtMark name = some (first, rest)) :
    rest.length ≤ name.length := by
  simp only [splitAtMark] at h
  split at h
  · cases h; simp
  · contradiction

def entityText (name : Text) : Text := (named? name).getD ('&' :: name)

def entity (final : Bool) (s : Text) : Mention :=
  let name := s.takeWhile isEntityChar
  let closed :=
    match s.dropWhile isEntityChar with
    | [] => splitAtMark name
    | rest => some (name, rest)
  match closed with
  | some (name, rest) => .tokens [.text (entityText name)] (afterReference rest)
  | none => .halt [] (if final && s.length == 1 then s else '&' :: s)

theorem length_entity_le {final : Bool} {s rest : Text} {ts : List Token} (h : entity final s = .tokens ts rest) :
    rest.length ≤ s.length := by
  simp only [entity] at h
  split at h
  · next e =>
    cases h
    refine Nat.le_trans (length_afterSemicolon_le _) ?_
    split at e
    · exact Nat.le_trans (length_splitAtMark_le e) (List.takeWhile_sublist _).length_le
    · cases e
      exact Text.length_dropWhile_le _ _
  · contradiction

def referenceDigits : Text → Text × Bool × Text
  | [] => ([], false, [])
  | x :: s =>
      if x = 'x' ∨ x = 'X' then (s.takeWhile isHexDigit, true, s.dropWhile isHexDigit)
      else ((x :: s).takeWhile Text.isDigit, false, (x :: s).dropWhile Text.isDigit)

theorem length_referenceDigits_le (s : Text) : (referenceDigits s).2.2.length ≤ s.length := by
  unfold referenceDigits
  split
  · exact Nat.le_refl _
  · split
    · exact Nat.le_succ_of_le (Text.length_dropWhile_le _ _)
    · exact Text.length_dropWhile_le _ _

/-- Two marks that no number follows are text if there is a semicolon somewhere after them. -/
def withoutNumber (s : Text) : Mention :=
  if s.contains ';' then .halt [.text ['&', '#']] s else .halt [] ('&' :: '#' :: s)

theorem withoutNumber_ne_tokens (s : Text) (ts : List Token) (rest : Text) : withoutNumber s ≠ .tokens ts rest := by
  unfold withoutNumber
  split <;> simp

def numeric (s : Text) : Except Fault Mention :=
  match referenceDigits s with
  | (_, _, []) => .ok (withoutNumber s)
  | (digits, isHex, c :: rest) =>
      if digits.isEmpty || isHexDigit c then .ok (withoutNumber s)
      else do
        let n ← if isHex then .ok (Text.hexNumber digits) else decimal digits
        .ok (.tokens [.text [textCode n]] (afterReference (c :: rest)))

theorem length_numeric_le {s rest : Text} {ts : List Token} (h : numeric s = .ok (.tokens ts rest)) :
    rest.length ≤ s.length := by
  have digits := length_referenceDigits_le s
  unfold numeric at h
  split at h
  · exact absurd (Except.ok.inj h) (withoutNumber_ne_tokens _ _ _)
  · next e =>
    rw [e] at digits
    split at h
    · exact absurd (Except.ok.inj h) (withoutNumber_ne_tokens _ _ _)
    · simp only [bind, Except.bind] at h
      split at h
      · cases h
        exact Nat.le_trans (length_afterSemicolon_le _) digits
      · split at h
        · contradiction
        · cases h
          exact Nat.le_trans (length_afterSemicolon_le _) digits

def mention (final : Bool) (s : Text) : Except Fault Mention :=
  match s with
  | '#' :: r => numeric r
  | c :: r =>
      if Text.isLetter c then .ok (entity final s)
      else .ok (.tokens [.text ['&']] (c :: r))
  | [] => .ok (.halt [] ['&'])

theorem length_mention_le {final : Bool} {s rest : Text} {ts : List Token}
    (h : mention final s = .ok (.tokens ts rest)) : rest.length ≤ s.length := by
  unfold mention at h
  split at h
  · exact Nat.le_succ_of_le (length_numeric_le h)
  · split at h
    · exact length_entity_le (Except.ok.inj h)
    · cases h; exact Nat.le_refl _
  · cases h

end JobBoards.Markup
