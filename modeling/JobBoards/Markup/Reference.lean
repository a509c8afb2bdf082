import JobBoards.Fault
import JobBoards.Markup.Names
import JobBoards.Text.Digit
namespace JobBoards.Markup

def nameEntry (line : String) : Text × Text :=
  match Text.splitOn ' ' line.toList with
  | [] => ([], [])
  | name :: codes => (name, codes.map fun code => Char.ofNat (Text.hexNumber code))

def names : List (Text × Text) := nameLines.map nameEntry

def named? (name : Text) : Option Text := names.lookup name

def openNamed? (name : Text) : Option Text :=
  if openNames.contains (String.ofList name) then named? name else none

/-- What the code points from 128 to 159 meant in the Western code page; five of them meant nothing. -/
def westernCodes : List Nat :=
  [0x20AC, 0x81, 0x201A, 0x192, 0x201E, 0x2026, 0x2020, 0x2021, 0x2C6, 0x2030, 0x160, 0x2039, 0x152,
   0x8D, 0x17D, 0x8F, 0x90, 0x2018, 0x2019, 0x201C, 0x201D, 0x2022, 0x2013, 0x2014, 0x2DC, 0x2122,
   0x161, 0x203A, 0x153, 0x9D, 0x17E, 0x178]

def western (n : Nat) : Nat := if 128 ≤ n then westernCodes.getD (n - 128) n else n

def isForbidden (n : Nat) : Bool :=
  Text.inRanges [(1, 8), (0xB, 0xB), (0xE, 0x1F), (0x7F, 0x9F), (0xFDD0, 0xFDEF)] n ||
    decide (0xFFFE ≤ n % 0x10000)

def attributeCode (n : Nat) : Text :=
  if n = 0 then [Char.ofNat 0xFFFD]
  else if 128 ≤ n ∧ n < 160 then [Char.ofNat (western n)]
  else if (0xD800 ≤ n ∧ n ≤ 0xDFFF) ∨ 0x10FFFF < n then [Char.ofNat 0xFFFD]
  else if isForbidden n then []
  else [Char.ofNat n]

def textCode (n : Nat) : Char := if n < 256 then Text.charOf (western n) else Text.charOf n

def decimal (digits : Text) : Except Fault Nat :=
  if digits.length ≤ Text.Digit.limit then .ok (Text.Digit.number (digits.filterMap Text.Digit.value?))
  else .error (.numberTooLong digits.length)

def isHexDigit (c : Char) : Bool := (Text.hexValue? c).isSome

/-- A name in an attribute value: an exact one, or else the longest open name that it starts with. -/
def openPart? (name : Text) : Nat → Option Text
  | 0 | 1 => none
  | n + 2 =>
      match openNamed? (name.take (n + 2)) with
      | some s => some (s ++ name.drop (n + 2))
      | none => openPart? name (n + 1)

def isNameStop (c : Char) : Bool :=
  c == '\t' || c == '\n' || c.toNat == 12 || c == ' ' || c == '<' || c == '&' || c == '#' || c == ';'

def namedPart (name : Text) (closed : Bool) : Text :=
  let exact := if closed then named? name else openNamed? name
  match exact with
  | some s => s
  | none =>
      let tail : Text := if closed then [';'] else []
      match openPart? name (if closed then name.length else name.length - 1) with
      | some s => s ++ tail
      | none => '&' :: name ++ tail

def afterSemicolon : Text → Bool × Text
  | ';' :: s => (true, s)
  | s => (false, s)

theorem length_afterSemicolon_le (s : Text) : (afterSemicolon s).2.length ≤ s.length := by
  unfold afterSemicolon
  split <;> simp

def attributeReference (s : Text) : Except Fault (Text × Text) :=
  match s with
  | '#' :: r =>
      let digits := r.takeWhile Text.isDigit
      match digits, r with
      | _ :: _, _ => do
          let n ← decimal digits
          .ok (attributeCode n, (afterSemicolon (r.dropWhile Text.isDigit)).2)
      | [], x :: h =>
          let code := h.takeWhile isHexDigit
          if (x = 'x' ∨ x = 'X') ∧ !code.isEmpty then
            .ok (attributeCode (Text.hexNumber code), (afterSemicolon (h.dropWhile isHexDigit)).2)
          else .ok (['&'], s)
      | [], [] => .ok (['&'], s)
  | _ =>
      let name := (s.takeWhile fun c => !isNameStop c).take 32
      if name.isEmpty then .ok (['&'], s)
      else
        let (closed, rest) := afterSemicolon (s.drop name.length)
        .ok (namedPart name closed, rest)

theorem length_attributeReference_le {s text rest : Text} (h : attributeReference s = .ok (text, rest)) :
    rest.length ≤ s.length := by
  unfold attributeReference at h
  split at h
  · next r =>
    simp only at h
    split at h
    · simp only [bind, Except.bind] at h
      split at h
      · contradiction
      · cases h
        exact Nat.le_succ_of_le (Nat.le_trans (length_afterSemicolon_le _) (Text.length_dropWhile_le _ _))
    · split at h
      · cases h
        exact Nat.le_succ_of_le (Nat.le_succ_of_le
          (Nat.le_trans (length_afterSemicolon_le _) (Text.length_dropWhile_le _ _)))
      · cases h; exact Nat.le_refl _
    · cases h; exact Nat.le_refl _
  · simp only at h
    split at h
    · cases h; exact Nat.le_refl _
    · cases h
      exact Nat.le_trans (length_afterSemicolon_le _) (by simp)

def resolved (s : Text) : Except Fault Text :=
  match s with
  | [] => .ok []
  | '&' :: r =>
      match _h : attributeReference r with
      | .error f => .error f
      | .ok (text, rest) => (resolved rest).map (text ++ ·)
  | c :: r => (resolved r).map (c :: ·)
termination_by s.length
decreasing_by
  · exact Nat.lt_succ_of_le (length_attributeReference_le _h)
  · exact Nat.lt_succ_self _

end JobBoards.Markup
