import JobBoards.Markup.Token.Basic
import JobBoards.Text.Blank
import JobBoards.Text.Case
import JobBoards.Text.Quoted
namespace JobBoards.Markup

def afterGreater? : Text → Option (Text × Text) := until? fun s =>
  match s with
  | '>' :: rest => some rest
  | _ => none

theorem length_afterGreater?_lt {s text rest : Text} (h : afterGreater? s = some (text, rest)) :
    rest.length < s.length := by
  refine length_until?_lt ?_ h
  intro s rest h
  split at h
  · cases h; simp
  · contradiction

def commentClose? : Text → Option Text
  | '-' :: '-' :: s =>
      match Text.trimStart s with
      | '>' :: rest => some rest
      | _ => none
  | _ => none

theorem length_commentClose?_lt {s rest : Text} (h : commentClose? s = some rest) : rest.length < s.length := by
  unfold commentClose? at h
  split at h
  · next s =>
    split at h
    · next e =>
      cases h
      have := Text.length_trimStart_le s
      rw [e] at this
      simp only [List.length_cons] at *
      omega
    · contradiction
  · contradiction

def conditionClose? : Text → Option Text
  | ']' :: s =>
      match Text.trimStart s with
      | '>' :: rest => some rest
      | _ => none
  | _ => none

theorem length_conditionClose?_lt {s rest : Text} (h : conditionClose? s = some rest) : rest.length < s.length := by
  unfold conditionClose? at h
  split at h
  · next s =>
    split at h
    · next e =>
      cases h
      have := Text.length_trimStart_le s
      rw [e] at this
      simp only [List.length_cons] at *
      omega
    · contradiction
  · contradiction

def sectionClose? : Text → Option Text
  | ']' :: s => conditionClose? (Text.trimStart s)
  | _ => none

theorem length_sectionClose?_lt {s rest : Text} (h : sectionClose? s = some rest) : rest.length < s.length := by
  unfold sectionClose? at h
  split at h
  · next s =>
    exact Nat.lt_succ_of_lt (Nat.lt_of_lt_of_le (length_conditionClose?_lt h) (Text.length_trimStart_le s))
  · contradiction

inductive Step where
  | tokens (ts : List Token) (rest : Text)
  | unfinished
  | rejected (reason : Text)

def Step.Leaves (n : Nat) : Step → Prop
  | .tokens _ rest => rest.length < n
  | .unfinished | .rejected _ => True

def Step.aside : Option (Text × Text) → Step
  | some (_, rest) => .tokens [.aside] rest
  | none => .unfinished

theorem Step.leaves_aside {n : Nat} {o : Option (Text × Text)} (h : ∀ p, o = some p → p.2.length < n) :
    (Step.aside o).Leaves n := by
  cases o with
  | none => trivial
  | some p => exact h p rfl

theorem Step.leaves_afterGreater {s : Text} {n m : Nat} (h : (s.drop m).length ≤ n) :
    (Step.aside (afterGreater? (s.drop m))).Leaves n :=
  Step.leaves_aside fun _ u => Nat.lt_of_lt_of_le (length_afterGreater?_lt u) h

def isSectionNameChar (c : Char) : Bool :=
  Text.isLetter c || Text.isDigit c || c == '-' || c == '_' || c == '.'

/-- A section `<![word[`: character data shows, the other known kinds do not, and unknown kinds are refused. -/
def markedSection (s : Text) : Step :=
  let body := s.drop 3
  match body with
  | [] => .unfinished
  | c :: _ =>
      if Text.isLetter c then
        let name := body.takeWhile isSectionNameChar
        let after := Text.trimStart (body.dropWhile isSectionNameChar)
        let word := Text.lower name
        if after.isEmpty then .unfinished
        else if ["temp".toList, "cdata".toList, "ignore".toList, "include".toList, "rcdata".toList].contains word then
          match until? sectionClose? body with
          | none => .unfinished
          | some (data, rest) =>
              if (Text.upper data).take 6 = "CDATA[".toList then .tokens [.literal (data.drop 6)] rest
              else .tokens [.aside] rest
        else if ["if".toList, "else".toList, "endif".toList].contains word then
          Step.aside (until? conditionClose? body)
        else
          .rejected ("unknown status keyword ".toList ++
            Text.quoted (body.take (body.length - after.length)) ++ " in marked section".toList)
      else .rejected ("expected name token at ".toList ++ Text.quoted (s.take 20))

theorem leaves_markedSection (s : Text) : (markedSection s).Leaves s.length := by
  have body : (s.drop 3).length ≤ s.length := by rw [List.length_drop]; exact Nat.sub_le _ _
  simp only [markedSection]
  split
  · trivial
  · next c r e =>
    split
    · split
      · trivial
      · split
        · split
          · trivial
          · next u =>
            have := Nat.lt_of_lt_of_le (length_until?_lt (fun _ _ => length_sectionClose?_lt) u) body
            split <;> exact this
        · split
          · exact Step.leaves_aside fun p u =>
              Nat.lt_of_lt_of_le (length_until?_lt (fun _ _ => length_conditionClose?_lt) u) body
          · trivial
    · trivial

def declaration (s : Text) : Step :=
  if (s.take 3) = "<![".toList then markedSection s
  else if Text.lower (s.take 9) = "<!doctype".toList then Step.aside (afterGreater? (s.drop 9))
  else Step.aside (afterGreater? (s.drop 2))

theorem leaves_declaration (s : Text) : (declaration s).Leaves s.length := by
  unfold declaration
  split
  · exact leaves_markedSection s
  · split <;> exact Step.leaves_afterGreater (by simp)

end JobBoards.Markup
