import JobBoards.Text.Basic
namespace JobBoards.Markup

abbrev Attribute := Text × Text

inductive Token where
  | text (s : Text)
  | literal (s : Text)
  | start (name : Text) (attributes : List Attribute) (selfClosed : Bool)
  | stop (name : Text)
  /-- A comment, a declaration or an instruction, none of which shows. -/
  | aside
  deriving DecidableEq, Repr

def isRaw (name : Text) : Bool := name == "script".toList || name == "style".toList

def until? (close : Text → Option Text) : Text → Option (Text × Text)
  | [] => none
  | c :: s =>
      match close (c :: s) with
      | some rest => some ([], rest)
      | none => (until? close s).map fun p => (c :: p.1, p.2)

theorem length_until?_lt {close : Text → Option Text}
    (shrinks : ∀ s rest, close s = some rest → rest.length < s.length) {s text rest : Text}
    (h : until? close s = some (text, rest)) : rest.length < s.length := by
  induction s generalizing text with
  | nil => simp [until?] at h
  | cons c s ih =>
    unfold until? at h
    split at h
    · next e => cases h; exact shrinks _ _ e
    · obtain ⟨p, hp, e⟩ := Option.map_eq_some_iff.1 h
      cases e
      exact Nat.lt_succ_of_lt (ih hp)

end JobBoards.Markup
