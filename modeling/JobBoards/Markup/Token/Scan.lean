import JobBoards.Markup.Token.Declaration
import JobBoards.Markup.Token.Mention
import JobBoards.Markup.Token.Tag
namespace JobBoards.Markup

def endTag (s : Text) : Step :=
  match afterGreater? (s.drop 1) with
  | none => .unfinished
  | some (_, rest) =>
      match plainEndTag? s with
      | some (name, rest) => .tokens [.stop name] rest
      | none =>
          let name := (s.drop 2).takeWhile fun c => !endsTagName c
          match s.drop 2 with
          | c :: after =>
              if Text.isLetter c then .tokens [.stop (Text.lower name)] rest
              else if c = '>' then .tokens [] after
              else Step.aside (afterGreater? (c :: after))
          | [] => .unfinished

theorem leaves_endTag (s : Text) : (endTag s).Leaves s.length := by
  unfold endTag
  split
  · trivial
  · next rest e =>
    split
    · next h => exact length_plainEndTag?_lt h
    · have rest := Nat.lt_of_lt_of_le (length_afterGreater?_lt e) (by simp : (s.drop 1).length ≤ s.length)
      have after : (s.drop 2).length ≤ s.length := by simp
      simp only
      split
      · next c r h =>
        rw [h] at after
        split
        · exact rest
        · split
          · exact after
          · exact Step.leaves_aside fun _ u => Nat.lt_of_lt_of_le (length_afterGreater?_lt u) after
      · trivial

def markup (s : Text) : Except Fault Step :=
  match s with
  | '<' :: c :: r =>
      if Text.isLetter c then do
        match ← startTag (c :: r) with
        | .tag name attributes selfClosed rest => .ok (.tokens [.start name attributes selfClosed] rest)
        | .unfinished => .ok .unfinished
        | .junk text rest => .ok (.tokens [.text text] rest)
      else if c = '/' then .ok (endTag s)
      else if s.take 4 = "<!--".toList then .ok (Step.aside (until? commentClose? (s.drop 4)))
      else if c = '?' then .ok (Step.aside (afterGreater? r))
      else if c = '!' then .ok (declaration s)
      else .ok (.tokens [.text ['<']] (c :: r))
  | _ => .ok .unfinished

theorem leaves_markup {s : Text} {step : Step} (h : markup s = .ok step) : step.Leaves s.length := by
  unfold markup at h
  split at h
  · next c r =>
    split at h
    · simp only [bind, Except.bind] at h
      split at h
      · contradiction
      · next tag e =>
        have := fun (rest : Text) (hr : tag.rest? = some rest) => length_startTag_le e hr
        split at h
        · cases h
          exact Nat.lt_succ_of_le (this _ rfl)
        · cases h; trivial
        · cases h
          exact Nat.lt_succ_of_le (this _ rfl)
    · split at h
      · cases h; exact leaves_endTag _
      · split at h
        · cases h
          refine Step.leaves_aside fun _ u =>
            Nat.lt_of_lt_of_le (length_until?_lt (fun _ _ => length_commentClose?_lt) u) ?_
          simp; omega
        · split at h
          · cases h
            refine Step.leaves_aside fun _ u => Nat.lt_of_lt_of_le (length_afterGreater?_lt u) ?_
            simp; omega
          · split at h
            · cases h; exact leaves_declaration _
            · cases h; exact Nat.lt_succ_self _
  · cases h; trivial

/-- An unfinished construct at the end of a document is text up to its `>`, or else up to the next `<`. -/
def unfinishedText (s : Text) : Text × Text :=
  match s with
  | [] => ([], [])
  | c :: r =>
      match afterGreater? r with
      | some (text, rest) => (c :: text ++ ['>'], rest)
      | none =>
          match r.dropWhile (· != '<') with
          | [] => ([c], r)
          | rest => (c :: r.takeWhile (· != '<'), rest)

theorem length_unfinishedText_lt (c : Char) (s : Text) : (unfinishedText (c :: s)).2.length < (c :: s).length := by
  simp only [unfinishedText]
  split
  · next e => exact Nat.lt_succ_of_lt (length_afterGreater?_lt e)
  · split
    · exact Nat.lt_succ_self _
    · exact Nat.lt_succ_of_le (Text.length_dropWhile_le _ _)

structure Reading where
  tokens : List Token
  raw : Option Text
  rest : Text

def textTokens (s : Text) : List Token := if s.isEmpty then [] else [.text s]

def rawEnd? (name : Text) (s : Text) : Option Text :=
  match s with
  | '<' :: '/' :: _ =>
      match plainEndTag? s with
      | some (n, rest) => if n = name then some rest else none
      | none => none
  | _ => none

def rawAfter : List Token → Option Text
  | [.start name _ false] => if isRaw name then some name else none
  | _ => none

def isPlain (c : Char) : Bool := !(c == '<' || c == '&')

def step (final : Bool) (raw : Option Text) (s : Text) : Except Fault (Reading × Bool) :=
  match raw, s.takeWhile isPlain, s.dropWhile isPlain with
  | some name, _, _ =>
      match until? (rawEnd? name) s with
      | none => .ok (⟨[], raw, s⟩, true)
      | some (text, rest) => .ok (⟨textTokens text ++ [.stop name], none, rest⟩, false)
  | none, c :: text, rest => .ok (⟨[.text (c :: text)], none, rest⟩, false)
  | none, [], '&' :: r => do
      match ← mention final r with
      | .tokens ts rest => .ok (⟨ts, none, rest⟩, false)
      | .halt ts rest => .ok (⟨ts, none, rest⟩, true)
  | none, [], m => do
      match ← markup m with
      | .rejected reason => .error (.rejectedMarkup reason)
      | .tokens ts rest => .ok (⟨ts, rawAfter ts, rest⟩, false)
      | .unfinished =>
          if final && 1 < m.length then
            let (text, rest) := unfinishedText m
            .ok (⟨[.text text], none, rest⟩, false)
          else .ok (⟨[], none, m⟩, true)

theorem length_step_lt {final : Bool} {raw : Option Text} {s : Text} {here : Reading}
    (h : step final raw s = .ok (here, false)) : here.rest.length < s.length := by
  have rest := Text.length_dropWhile_le isPlain s
  have all : s.takeWhile isPlain ++ s.dropWhile isPlain = s := List.takeWhile_append_dropWhile
  unfold step at h
  split at h
  · split at h
    · cases h
    · next u =>
      cases h
      refine length_until?_lt ?_ u
      intro s rest h
      unfold rawEnd? at h
      split at h
      · split at h
        · next e =>
          split at h
          · cases h; exact length_plainEndTag?_lt e
          · contradiction
        · contradiction
      · contradiction
  · next e =>
    cases h
    rw [e] at all
    have := congrArg List.length all
    simp only [List.length_append, List.length_cons] at this
    simp only
    omega
  · next e e' =>
    rw [e'] at rest
    simp only [bind, Except.bind] at h
    split at h
    · contradiction
    · next m =>
      split at h
      · cases h
        exact Nat.lt_of_le_of_lt (length_mention_le m) rest
      · cases h
  · next e =>
    simp only [bind, Except.bind] at h
    split at h
    · contradiction
    · next m =>
      have leaves := leaves_markup m
      split at h
      · contradiction
      · cases h
        exact Nat.lt_of_lt_of_le leaves rest
      · split at h
        · next big =>
          cases h
          simp only
          match hm : s.dropWhile isPlain with
          | [] => simp [hm] at big
          | c :: r => exact Nat.lt_of_lt_of_le (length_unfinishedText_lt c r) (hm ▸ rest)
        · cases h

def read (final : Bool) (raw : Option Text) (s : Text) : Except Fault Reading :=
  match _h : step final raw s with
  | .error f => .error f
  | .ok (here, true) => .ok here
  | .ok (here, false) =>
      (read final here.raw here.rest).map fun more => ⟨here.tokens ++ more.tokens, more.raw, more.rest⟩
termination_by s.length
decreasing_by exact length_step_lt _h

/-- The tokens of a document. Reading that stopped short is tried once more to the end; what is left then is
text, unless it belongs to an element whose content is text. -/
def tokens (s : Text) : Except Fault (List Token) := do
  let first ← read false none s
  let second ← read true first.raw first.rest
  .ok (first.tokens ++ second.tokens ++ if second.raw.isNone then textTokens second.rest else [])

end JobBoards.Markup
