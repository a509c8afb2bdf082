namespace JobBoards

/-- Text is the list of its code points: every length and offset of this library counts them. -/
abbrev Text := List Char

instance : Coe String Text := ⟨String.toList⟩

namespace Text

def inRanges (ranges : List (Nat × Nat)) (n : Nat) : Bool :=
  ranges.any fun r => decide (r.1 ≤ n) && decide (n ≤ r.2)

def has (part : Text) : Text → Bool
  | [] => part.isEmpty
  | c :: s => part.isPrefixOf (c :: s) || has part s

/-- The pieces between the characters that satisfy `p`; there is one more piece than such characters. -/
def pieces (p : Char → Bool) : Text → List Text
  | [] => [[]]
  | c :: s =>
      match pieces p s with
      | [] => [[c]]
      | f :: fs => if p c then [] :: f :: fs else (c :: f) :: fs

def splitOn (c : Char) (s : Text) : List Text := pieces (· == c) s

def join (between : Text) : List Text → Text
  | [] => []
  | [s] => s
  | s :: t :: r => s ++ between ++ join between (t :: r)

def without (c : Char) (s : Text) : Text := s.filter (· != c)

def ofNat (n : Nat) : Text := (toString n).toList

def ofInt (n : Int) : Text := (toString n).toList

def padded (width n : Nat) : Text :=
  let digits := ofNat n
  List.replicate (width - digits.length) '0' ++ digits

def hexDigit (n : Nat) : Char :=
  if n < 10 then Char.ofNat (48 + n) else Char.ofNat (87 + n)

def hex : Nat → Nat → Text
  | 0, _ => []
  | width + 1, n => hex width (n / 16) ++ [hexDigit (n % 16)]

def hexValue? (c : Char) : Option Nat :=
  let n := c.toNat
  if 48 ≤ n ∧ n ≤ 57 then some (n - 48)
  else if 97 ≤ n ∧ n ≤ 102 then some (n - 87)
  else if 65 ≤ n ∧ n ≤ 70 then some (n - 55)
  else none

def hexNumber (s : Text) : Nat :=
  s.foldl (fun n c => 16 * n + (hexValue? c).getD 0) 0

def isLetter (c : Char) : Bool :=
  decide ('a' ≤ c) && decide (c ≤ 'z') || decide ('A' ≤ c) && decide (c ≤ 'Z')

def isDigit (c : Char) : Bool := decide ('0' ≤ c) && decide (c ≤ '9')

def charOf (n : Nat) : Char :=
  if n < 0xD800 ∨ (0xDFFF < n ∧ n < 0x110000) then Char.ofNat n else Char.ofNat 0xFFFD

theorem length_dropWhile_le (p : Char → Bool) (s : Text) : (s.dropWhile p).length ≤ s.length :=
  (List.dropWhile_sublist p).length_le

theorem pieces_ne_nil (p : Char → Bool) (s : Text) : pieces p s ≠ [] := by
  cases s with
  | nil => simp [pieces]
  | cons c s => simp only [pieces]; split <;> (try split) <;> simp

@[simp] theorem length_hex (width n : Nat) : (hex width n).length = width := by
  induction width generalizing n with
  | zero => rfl
  | succ w ih => simp [hex, ih]

end Text
end JobBoards
