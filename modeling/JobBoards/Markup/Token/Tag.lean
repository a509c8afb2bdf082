import JobBoards.Markup.Reference
import JobBoards.Markup.Token.Basic
import JobBoards.Text.Blank
import JobBoards.Text.Case
namespace JobBoards.Markup

def endsTagName (c : Char) : Bool :=
  c == '\t' || c == '\n' || c == '\r' || c.toNat == 12 || c == ' ' || c == '/' || c == '>' || c.toNat == 0

def skipSeparators (last : Char) : Text → Char × Text
  | [] => (last, [])
  | c :: s =>
      if Text.isBlank c || (c == '/' && s.head? != some '>') then skipSeparators c s else (last, c :: s)

theorem length_skipSeparators_le (last : Char) (s : Text) : (skipSeparators last s).2.length ≤ s.length := by
  induction s generalizing last with
  | nil => simp [skipSeparators]
  | cons c s ih =>
    unfold skipSeparators
    split
    · exact Nat.le_succ_of_le (ih c)
    · exact Nat.le_refl _

def mayPrecedeName (c : Char) : Bool := c == '\x27' || c == '\x22' || c == '/' || Text.isBlank c

def startsName (c : Char) : Bool := !(Text.isBlank c || c == '/' || c == '>')

def continuesName (c : Char) : Bool := startsName c && c != '='

def continuesBare (c : Char) : Bool := !(Text.isBlank c || c == '>')

def quotedValue? (mark : Char) (s : Text) : Option (Text × Char × Text) :=
  match s.dropWhile (· != mark) with
  | [] => none
  | _ :: rest => some (s.takeWhile (· != mark), mark, rest)

theorem length_quotedValue?_lt {mark last : Char} {s value rest : Text}
    (h : quotedValue? mark s = some (value, last, rest)) : rest.length < s.length := by
  have := Text.length_dropWhile_le (· != mark) s
  unfold quotedValue? at h
  split at h
  · contradiction
  · next e =>
    simp only [Option.some.injEq, Prod.mk.injEq] at h
    obtain ⟨_, _, rfl⟩ := h
    rw [e] at this
    exact this

def bareValue (last : Char) (s : Text) : Text × Char × Text :=
  let value := s.takeWhile continuesBare
  (value, value.getLastD last, s.dropWhile continuesBare)

theorem length_bareValue_le (last : Char) (s : Text) : (bareValue last s).2.2.length ≤ s.length :=
  Text.length_dropWhile_le continuesBare s

/-- The value after the equals signs of an attribute: where a quotation is not closed, the value is empty if
white space comes before it, and takes in an equals sign if there are several. -/
def valueAfter? (signs : Nat) (s : Text) : Option (Text × Char × Text) :=
  match Text.trimStart s with
  | [] => some (bareValue (s.getLastD '=') [])
  | c :: r =>
      if c = '\x27' ∨ c = '\x22' then
        match quotedValue? c r with
        | some v => some v
        | none =>
            if Text.isBlank (s.headD c) then
              some ([], (s.takeWhile Text.isBlank).dropLast.getLastD '=',
                s.drop ((s.takeWhile Text.isBlank).length - 1))
            else if 2 ≤ signs then some (bareValue '=' ('=' :: s))
            else none
      else some (bareValue ((s.takeWhile Text.isBlank).getLastD '=') (c :: r))

theorem length_valueAfter?_le {signs : Nat} {s : Text} {v : Text × Char × Text}
    (h : valueAfter? signs s = some v) : v.2.2.length ≤ s.length := by
  have trim := Text.length_trimStart_le s
  unfold valueAfter? at h
  split at h
  · cases h; simp [bareValue]
  · next c r e =>
    rw [e] at trim
    split at h
    · split at h
      · next q =>
        cases h
        exact Nat.le_trans (Nat.le_of_lt (length_quotedValue?_lt q)) (Nat.le_of_succ_le trim)
      · split at h
        · cases h; simp
        · split at h
          · cases h
            have : (bareValue '=' ('=' :: s)).2.2 = s.dropWhile continuesBare := by rfl
            rw [this]
            exact Text.length_dropWhile_le _ s
          · contradiction
    · cases h
      exact Nat.le_trans (length_bareValue_le _ _) trim

def attributeValue (last : Char) (s : Text) : Text × Char × Text :=
  let signs := (Text.trimStart s).takeWhile (· == '=')
  match signs with
  | [] => ([], last, s)
  | _ :: _ =>
      match valueAfter? signs.length ((Text.trimStart s).drop signs.length) with
      | some v => v
      | none => ([], last, s)

theorem length_attributeValue_le (last : Char) (s : Text) : (attributeValue last s).2.2.length ≤ s.length := by
  simp only [attributeValue]
  split
  · exact Nat.le_refl _
  · split
    · next h =>
      refine Nat.le_trans (length_valueAfter?_le h) ?_
      rw [List.length_drop]
      exact Nat.le_trans (Nat.sub_le _ _) (Text.length_trimStart_le s)
    · exact Nat.le_refl _

def attributes (last : Char) (s : Text) : List Attribute × Text :=
  match s with
  | [] => ([], [])
  | c :: r =>
      if mayPrecedeName last && startsName c then
        let name := c :: r.takeWhile continuesName
        let value := attributeValue (name.getLastD c) (r.dropWhile continuesName)
        let next := skipSeparators value.2.1 value.2.2
        let more := attributes next.1 next.2
        ((Text.lower name, value.1) :: more.1, more.2)
      else ([], c :: r)
termination_by s.length
decreasing_by
  exact Nat.lt_succ_of_le (Nat.le_trans (length_skipSeparators_le _ _)
    (Nat.le_trans (length_attributeValue_le _ _) (Text.length_dropWhile_le _ _)))

theorem length_attributes_le (last : Char) (s : Text) : (attributes last s).2.length ≤ s.length := by
  fun_induction attributes last s with
  | case1 => exact Nat.le_refl _
  | case2 last c r _ name value next more ih =>
    exact Nat.le_succ_of_le (Nat.le_trans ih (Nat.le_trans (length_skipSeparators_le _ _)
      (Nat.le_trans (length_attributeValue_le _ _) (Text.length_dropWhile_le _ _))))
  | case3 => exact Nat.le_refl _

inductive TagEnd where
  | closed (selfClosed : Bool) (rest : Text)
  | unfinished
  | junk (rest : Text)

def TagEnd.rest? : TagEnd → Option Text
  | .closed _ rest | .junk rest => some rest
  | .unfinished => none

def tagEnd : Text → TagEnd
  | '>' :: s => .closed false s
  | '/' :: '>' :: s => .closed true s
  | [] => .unfinished
  | c :: s => if c = '=' ∨ c = '/' ∨ Text.isLetter c then .unfinished else .junk (c :: s)

theorem length_tagEnd_le {s rest : Text} (h : (tagEnd s).rest? = some rest) : rest.length ≤ s.length := by
  unfold tagEnd at h
  split at h
  · cases h; simp
  · cases h; simp; omega
  · simp [TagEnd.rest?] at h
  · split at h
    · simp [TagEnd.rest?] at h
    · cases h; simp

inductive StartTag where
  | tag (name : Text) (attributes : List Attribute) (selfClosed : Bool) (rest : Text)
  | unfinished
  | junk (text rest : Text)

def StartTag.rest? : StartTag → Option Text
  | .tag _ _ _ rest | .junk _ rest => some rest
  | .unfinished => none

def resolvedAll (attributes : List Attribute) : Except Fault (List Attribute) :=
  attributes.mapM fun a => (resolved a.2).map fun v => (a.1, v)

def nameAndAttributes (s : Text) : Text × List Attribute × Text :=
  let name := s.takeWhile fun c => !endsTagName c
  let inside := skipSeparators (name.getLastD '<') (s.dropWhile fun c => !endsTagName c)
  (name, attributes inside.1 inside.2)

theorem length_nameAndAttributes_le (s : Text) : (nameAndAttributes s).2.2.length ≤ s.length :=
  Nat.le_trans (length_attributes_le _ _)
    (Nat.le_trans (length_skipSeparators_le _ _) (Text.length_dropWhile_le _ _))

def startTag (s : Text) : Except Fault StartTag :=
  let (name, written, rest) := nameAndAttributes s
  match tagEnd rest with
  | .unfinished => .ok .unfinished
  | .junk rest => do
      let _ ← resolvedAll written
      .ok (.junk ('<' :: s.take (s.length - rest.length)) rest)
  | .closed selfClosed rest => do
      .ok (.tag (Text.lower name) (← resolvedAll written) selfClosed rest)

theorem length_startTag_le {s rest : Text} {tag : StartTag} (h : startTag s = .ok tag)
    (hr : tag.rest? = some rest) : rest.length ≤ s.length := by
  have after : ∀ r : Text, (tagEnd (nameAndAttributes s).2.2).rest? = some r → r.length ≤ s.length :=
    fun r e => Nat.le_trans (length_tagEnd_le e) (length_nameAndAttributes_le s)
  simp only [startTag] at h
  split at h
  · cases h; simp [StartTag.rest?] at hr
  · next e =>
    rw [e] at after
    simp only [bind, Except.bind] at h
    split at h
    · contradiction
    · cases h; exact after _ hr
  · next e =>
    rw [e] at after
    simp only [bind, Except.bind] at h
    split at h
    · contradiction
    · cases h; exact after _ hr

def plainEndTag? (s : Text) : Option (Text × Text) :=
  match Text.trimStart (s.drop 2) with
  | [] => none
  | c :: r =>
      if Text.isLetter c then
        let isNameChar (d : Char) :=
          Text.isLetter d || Text.isDigit d || d == '-' || d == '.' || d == ':' || d == '_'
        match Text.trimStart (r.dropWhile isNameChar) with
        | '>' :: rest => some (Text.lower (c :: r.takeWhile isNameChar), rest)
        | _ => none
      else none

theorem length_plainEndTag?_lt {s name rest : Text} (h : plainEndTag? s = some (name, rest)) :
    rest.length < s.length := by
  unfold plainEndTag? at h
  split at h
  · contradiction
  · next c r e =>
    have trim := Text.length_trimStart_le (s.drop 2)
    rw [e] at trim
    split at h
    · simp only at h
      split at h
      · next d e' =>
        cases h
        have := Nat.le_trans (Nat.le_of_eq (congrArg List.length e').symm)
          (Nat.le_trans (Text.length_trimStart_le _) (Text.length_dropWhile_le _ _))
        simp only [List.length_cons, List.length_drop] at *
        omega
      · contradiction
    · contradiction

end JobBoards.Markup
