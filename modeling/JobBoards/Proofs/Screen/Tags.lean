import JobBoards.Screen.Literal
import JobBoards.Text.Blank
import Mathlib.Data.List.Infix
import Mathlib.Data.List.TakeWhile
namespace JobBoards.Screen

def slashes (n : Nat) : Text := List.replicate n '\x5c'

def IsName : Text → Prop
  | [] => False
  | c :: s => (isSmallLetter c || c == '#' || c == '/' || c == '@') = true ∧ ∀ d ∈ s, (d == '[' || d == ']') = false

/-- A message is made of text as it stands and of tags, each with the backslashes before it. -/
inductive Piece where
  | plain (s : Text)
  | tag (slashes : Nat) (name : Text)
  deriving DecidableEq, Repr

namespace Piece

def written : Piece → Text
  | plain s => s
  | tag n name => slashes n ++ '[' :: (name ++ [']'])

/-- A tag after an odd number of backslashes is none. -/
def escaped : Piece → Piece
  | plain s => plain s
  | tag n name => tag (2 * n + 1) name

def addChar (c : Char) : List Piece → List Piece
  | .plain s :: ps => .plain (c :: s) :: ps
  | ps => .plain [c] :: ps

end Piece

def tag? : Text → Option (Nat × Text × Text)
  | '\x5c' :: s => (tag? s).map fun t => (t.1 + 1, t.2)
  | '[' :: s =>
      if mayMark s then some (0, s.takeWhile (· != ']'), (s.dropWhile (· != ']')).drop 1) else none
  | _ => none

variable {s t name rest : Text} {n : Nat} {c : Char}

theorem IsName.notMem (h : IsName name) : (∀ d ∈ name, d ≠ '[') ∧ ∀ d ∈ name, d ≠ ']' := by
  cases name with
  | nil => cases h
  | cons c r =>
    obtain ⟨hc, hr⟩ := h
    constructor
    · intro d hd
      rcases List.mem_cons.mp hd with rfl | hd
      · rintro rfl
        cases hc
      · rintro rfl
        cases hr _ hd
    · intro d hd
      rcases List.mem_cons.mp hd with rfl | hd
      · rintro rfl
        cases hc
      · rintro rfl
        cases hr _ hd

theorem mayMark_iff : mayMark s = true ↔ ∃ name rest, IsName name ∧ s = name ++ ']' :: rest := by
  cases s with
  | nil => simp [mayMark]
  | cons c s =>
    rw [mayMark, Bool.and_eq_true, beq_iff_eq]
    constructor
    · rintro ⟨hc, hs⟩
      obtain ⟨rest, hrest⟩ := List.head?_eq_some_iff.mp hs
      refine ⟨c :: s.takeWhile fun d => !(d == '[' || d == ']'), rest, ⟨hc, fun d hd => ?_⟩, ?_⟩
      · have hd := List.mem_takeWhile_imp hd
        rwa [Bool.not_eq_true'] at hd
      · rw [List.cons_append, ← hrest, List.takeWhile_append_dropWhile]
    · rintro ⟨name, rest, hname, h⟩
      cases name with
      | nil => cases hname
      | cons d name =>
        obtain ⟨hd, rfl⟩ : c = d ∧ s = name ++ ']' :: rest := List.cons.inj h
        rw [hd, List.dropWhile_append_of_pos fun d hd => congrArg not (hname.2 d hd)]
        exact ⟨hname.1, rfl⟩

theorem tag?_written (h : IsName name) (n : Nat) (rest : Text) :
    tag? (slashes n ++ '[' :: (name ++ ']' :: rest)) = some (n, name, rest) := by
  induction n with
  | zero =>
    have hne : ∀ d ∈ name, (d != ']') = true := fun d hd => bne_iff_ne.mpr (h.notMem.2 d hd)
    rw [slashes, List.replicate_zero, List.nil_append, tag?, if_pos (mayMark_iff.mpr ⟨name, rest, h, rfl⟩),
      List.takeWhile_append_of_pos hne, List.dropWhile_append_of_pos hne]
    simp
  | succ n ih =>
    rw [slashes, List.replicate_succ, List.cons_append, tag?]
    exact congrArg (Option.map _) ih

theorem eq_of_tag? (h : tag? s = some (n, name, rest)) :
    IsName name ∧ s = slashes n ++ '[' :: (name ++ ']' :: rest) := by
  induction s using tag?.induct generalizing n with
  | case1 s ih =>
    obtain ⟨⟨m, u⟩, hu, heq⟩ := Option.map_eq_some_iff.mp h
    obtain ⟨rfl, rfl⟩ := Prod.mk.inj heq
    obtain ⟨hname, rfl⟩ := ih hu
    exact ⟨hname, rfl⟩
  | case2 s hmark =>
    obtain ⟨name', rest', hname, rfl⟩ := mayMark_iff.mp hmark
    have heq := (tag?_written hname 0 rest').symm.trans h
    obtain ⟨rfl, rfl, rfl⟩ : 0 = n ∧ name' = name ∧ rest' = rest := by simpa using heq
    exact ⟨hname, rfl⟩
  | case3 s hmark =>
    rw [tag?, if_neg hmark] at h
    cases h
  | case4 s hslash hbracket =>
    rw [tag?] at h
    · cases h
    · exact hslash
    · exact hbracket

theorem length_tag?_lt {t : Nat × Text × Text} (h : tag? s = some t) : t.2.2.length < s.length := by
  obtain ⟨n, name, rest⟩ := t
  obtain ⟨-, rfl⟩ := eq_of_tag? h
  simp only [List.length_append, List.length_cons]
  omega

def pieces : Text → List Piece
  | [] => []
  | c :: s =>
      match _h : tag? (c :: s) with
      | some t => .tag t.1 t.2.1 :: pieces t.2.2
      | none => Piece.addChar c (pieces s)
termination_by s => s.length
decreasing_by
  · exact length_tag?_lt _h
  · exact Nat.lt_succ_self _

theorem pieces_tag (h : IsName name) (n : Nat) (rest : Text) :
    pieces (slashes n ++ '[' :: (name ++ ']' :: rest)) = .tag n name :: pieces rest := by
  have htag := tag?_written h n rest
  cases hs : slashes n ++ '[' :: (name ++ ']' :: rest) with
  | nil => simp at hs
  | cons c s =>
    rw [hs] at htag
    rw [pieces]
    split
    · rename_i t ht
      obtain rfl := Option.some.inj (ht.symm.trans htag)
      rfl
    · rename_i hnone
      rw [hnone] at htag
      cases htag

theorem pieces_char (h : tag? (c :: s) = none) : pieces (c :: s) = Piece.addChar c (pieces s) := by
  rw [pieces]
  split
  · rename_i t ht
    rw [h] at ht
    cases ht
  · rfl

@[elab_as_elim]
theorem pieces_induction {P : Text → Prop} (s : Text) (nil : P [])
    (tag : ∀ n name rest, IsName name → P rest → P (slashes n ++ '[' :: (name ++ ']' :: rest)))
    (char : ∀ c s, tag? (c :: s) = none → P s → P (c :: s)) : P s := by
  induction s using pieces.induct with
  | case1 => exact nil
  | case2 c s t ht ih =>
    obtain ⟨hname, hs⟩ := eq_of_tag? ht
    rw [hs]
    exact tag t.1 t.2.1 t.2.2 hname ih
  | case3 c s hnone ih => exact char c s hnone ih

def escapeTags (s : Text) : Text := (pieces s).flatMap fun p => p.escaped.written

def escape (s : Text) : Text :=
  let t := escapeTags s
  if endsInBackslash t then t ++ ['\x5c'] else t

theorem flatMap_addChar (f : Piece → Text) (hf : ∀ s, f (.plain (c :: s)) = c :: f (.plain s))
    (hnil : f (.plain []) = []) (ps : List Piece) : (Piece.addChar c ps).flatMap f = c :: ps.flatMap f := by
  cases ps with
  | nil => simp [Piece.addChar, hf, hnil]
  | cons p ps => cases p <;> simp [Piece.addChar, hf, hnil]

@[simp] theorem flatMap_written (s : Text) : (pieces s).flatMap Piece.written = s := by
  induction s using pieces_induction with
  | nil => simp [pieces]
  | tag n name rest hname ih => simp [pieces_tag hname, ih, Piece.written]
  | char c s hnone ih =>
    rw [pieces_char hnone, flatMap_addChar Piece.written (fun _ => rfl) rfl, ih]

@[simp] theorem escapeTags_nil : escapeTags [] = [] := by
  simp [escapeTags, pieces]

theorem escapeTags_tag (h : IsName name) (n : Nat) (rest : Text) :
    escapeTags (slashes n ++ '[' :: (name ++ ']' :: rest)) =
      slashes (2 * n + 1) ++ '[' :: (name ++ ']' :: escapeTags rest) := by
  simp [escapeTags, pieces_tag h, Piece.escaped, Piece.written]

theorem escapeTags_char (h : tag? (c :: s) = none) : escapeTags (c :: s) = c :: escapeTags s := by
  rw [escapeTags, pieces_char h, flatMap_addChar (fun p => p.escaped.written) (fun _ => rfl) rfl]
  rfl

def closes (s : Text) : Bool := (s.dropWhile fun d => !(d == '[' || d == ']')).head? == some ']'

@[simp] theorem closes_slashes (n : Nat) (s : Text) : closes (slashes n ++ '[' :: s) = false := by
  rw [closes, List.dropWhile_append_of_pos fun d hd => by rw [List.eq_of_mem_replicate hd]; rfl]
  rfl

theorem closes_cons (c : Char) (s : Text) :
    closes (c :: s) = if c = '[' then false else if c = ']' then true else closes s := by
  unfold closes
  by_cases h₁ : c = '['
  · simp [h₁]
  · by_cases h₂ : c = ']'
    · simp [h₂]
    · simp [h₁, h₂]

@[simp] theorem closes_escapeTags (s : Text) : closes (escapeTags s) = closes s := by
  induction s using pieces_induction with
  | nil => rw [escapeTags_nil]
  | tag n name rest hname _ => rw [escapeTags_tag hname, closes_slashes, closes_slashes]
  | char c s hnone ih => rw [escapeTags_char hnone, closes_cons, closes_cons, ih]

@[simp] theorem mayMark_slashes (n : Nat) (s : Text) : mayMark (slashes n ++ '[' :: s) = false := by
  cases n with
  | zero => rfl
  | succ n => rfl

@[simp] theorem mayMark_escapeTags (s : Text) : mayMark (escapeTags s) = mayMark s := by
  induction s using pieces_induction with
  | nil => rw [escapeTags_nil]
  | tag n name rest hname _ => rw [escapeTags_tag hname, mayMark_slashes, mayMark_slashes]
  | char c s hnone _ =>
    rw [escapeTags_char hnone]
    exact congrArg (_ && ·) (closes_escapeTags s)

theorem tag?_escapeTags (h : tag? s = none) : tag? (escapeTags s) = none := by
  induction s using tag?.induct with
  | case1 s ih =>
    rw [escapeTags_char h, tag?, Option.map_eq_none_iff]
    rw [tag?, Option.map_eq_none_iff] at h
    exact ih h
  | case2 s hmark =>
    rw [tag?, if_pos hmark] at h
    cases h
  | case3 s hmark =>
    rw [escapeTags_char h, tag?, mayMark_escapeTags, if_neg hmark]
  | case4 s hslash hbracket =>
    cases s with
    | nil => rw [escapeTags_nil, h]
    | cons c s =>
      rw [escapeTags_char h, tag?]
      · intro t ht
        exact hslash s (by rw [(List.cons.inj ht).1])
      · intro t ht
        exact hbracket s (by rw [(List.cons.inj ht).1])

@[simp] theorem map_addChar (c : Char) (ps : List Piece) :
    (Piece.addChar c ps).map Piece.escaped = Piece.addChar c (ps.map Piece.escaped) := by
  cases ps with
  | nil => rfl
  | cons p ps => cases p <;> rfl

@[simp] theorem pieces_escapeTags (s : Text) : pieces (escapeTags s) = (pieces s).map Piece.escaped := by
  induction s using pieces_induction with
  | nil => simp [pieces]
  | tag n name rest hname ih =>
    rw [escapeTags_tag hname, pieces_tag hname, pieces_tag hname, ih]
    rfl
  | char c s hnone ih =>
    have hescaped := tag?_escapeTags hnone
    rw [escapeTags_char hnone] at hescaped ⊢
    rw [pieces_char hescaped, pieces_char hnone, ih, map_addChar]

theorem isName_of_mem_pieces : Piece.tag n name ∈ pieces s → IsName name := by
  induction s using pieces_induction with
  | nil => simp [pieces]
  | tag m other rest hother ih =>
    rw [pieces_tag hother, List.mem_cons]
    rintro (h | h)
    · obtain ⟨-, rfl⟩ := Piece.tag.inj h
      exact hother
    · exact ih h
  | char c s hnone ih =>
    rw [pieces_char hnone]
    intro h
    apply ih
    revert h
    cases pieces s with
    | nil => simp [Piece.addChar]
    | cons p ps => cases p <;> simp [Piece.addChar]

section Append

theorem closes_append (ht : closes t = false) (s : Text) : closes (s ++ t) = closes s := by
  induction s with
  | nil => exact ht
  | cons c s ih => rw [List.cons_append, closes_cons, closes_cons, ih]

theorem mayMark_append (ht : closes t = false) (s : Text) : mayMark (s ++ t) = mayMark s := by
  cases s with
  | cons c s => exact congrArg (_ && ·) (closes_append ht s)
  | nil =>
    rw [List.nil_append, mayMark, Bool.eq_false_iff, ne_eq, mayMark_iff]
    rintro ⟨name, rest, hname, rfl⟩
    rw [closes, List.dropWhile_append_of_pos fun d hd => by
      simp [hname.notMem.1 d hd, hname.notMem.2 d hd]] at ht
    cases ht

/-- A text put behind another opens no new tag at the start, unless it completes one: a bracket that is still open, or
the backslashes at the end. -/
theorem tag?_append (hcloses : closes t = false)
    (ht : tag? t = none ∨ s ≠ [] ∧ s.getLast? ≠ some '\x5c') :
    tag? (s ++ t) = (tag? s).map fun x => (x.1, x.2.1, x.2.2 ++ t) := by
  induction s using tag?.induct with
  | case1 s ih =>
    have hs : tag? t = none ∨ s ≠ [] ∧ s.getLast? ≠ some '\x5c' := by
      refine ht.imp_right fun h => ?_
      cases s with
      | nil => exact absurd rfl h.2
      | cons d s => exact ⟨List.cons_ne_nil d s, by rw [List.getLast?_cons_cons] at h; exact h.2⟩
    rw [List.cons_append, tag?, tag?, ih hs, Option.map_map, Option.map_map]
    rfl
  | case2 s hmark =>
    obtain ⟨name, rest, hname, rfl⟩ := mayMark_iff.mp hmark
    have h₁ := tag?_written hname 0 rest
    have h₂ := tag?_written hname 0 (rest ++ t)
    simp only [slashes, List.replicate_zero, List.nil_append] at h₁ h₂
    rw [h₁, List.cons_append, List.append_assoc, List.cons_append, h₂]
    rfl
  | case3 s hmark =>
    rw [List.cons_append, tag?, tag?, mayMark_append hcloses, if_neg hmark, if_neg hmark]
    rfl
  | case4 s hslash hbracket =>
    cases s with
    | nil =>
      rw [List.nil_append, ht.resolve_right fun h => h.1 rfl]
      rfl
    | cons c s =>
      have hnone (r : Text) : tag? (c :: r) = none := by
        rw [tag?]
        · intro u hu
          exact hslash s (by rw [(List.cons.inj hu).1])
        · intro u hu
          exact hbracket s (by rw [(List.cons.inj hu).1])
      rw [List.cons_append, hnone, hnone]
      rfl

@[simp] theorem escapeTags_concat (s : Text) : escapeTags (s ++ ['\x5c']) = escapeTags s ++ ['\x5c'] := by
  have hlast : tag? ['\x5c'] = none := rfl
  induction s using pieces_induction with
  | nil =>
    rw [List.nil_append, escapeTags_char hlast, escapeTags_nil]
    rfl
  | tag n name rest hname ih =>
    have hrest := escapeTags_tag hname n (rest ++ ['\x5c'])
    rw [ih] at hrest
    rw [escapeTags_tag hname]
    simpa using hrest
  | char c s hnone ih =>
    have happend : tag? (c :: (s ++ ['\x5c'])) = none := by
      rw [← List.cons_append, tag?_append rfl (.inl hlast), hnone]
      rfl
    rw [List.cons_append, escapeTags_char happend, ih, escapeTags_char hnone, List.cons_append]

@[simp] theorem getLast?_escapeTags (s : Text) : (escapeTags s).getLast? = s.getLast? := by
  induction s using pieces_induction with
  | nil => rw [escapeTags_nil]
  | tag n name rest hname ih =>
    rw [escapeTags_tag hname]
    simp [List.getLast?_append, List.getLast?_cons, ih]
  | char c s hnone ih =>
    rw [escapeTags_char hnone]
    simp [List.getLast?_cons, ih]

@[simp] theorem endsInBackslash_concat (s : Text) :
    endsInBackslash (s ++ ['\x5c']) = !(s.getLast? == some '\x5c') := by
  induction s using List.reverseRecOn with
  | nil => rfl
  | append_singleton s c _ =>
    by_cases hc : c = '\x5c'
    · simp [endsInBackslash, hc]
    · simp [endsInBackslash, hc]

theorem endsInBackslash_of_getLast? (h : s.getLast? ≠ some '\x5c') : endsInBackslash s = false := by
  induction s using List.reverseRecOn with
  | nil => rfl
  | append_singleton s c _ =>
    have hc : c ≠ '\x5c' := by simpa using h
    simp [endsInBackslash, hc]

@[simp] theorem endsInBackslash_escapeTags (s : Text) : endsInBackslash (escapeTags s) = endsInBackslash s := by
  by_cases h : s.getLast? = some '\x5c'
  · obtain ⟨u, rfl⟩ := List.getLast?_eq_some_iff.mp h
    rw [escapeTags_concat, endsInBackslash_concat, endsInBackslash_concat, getLast?_escapeTags]
  · rw [endsInBackslash_of_getLast? h]
    apply endsInBackslash_of_getLast?
    rwa [getLast?_escapeTags]

@[simp] theorem addChar_append_tag (c : Char) (ps : List Piece) (n : Nat) (name : Text) :
    Piece.addChar c (ps ++ [.tag n name]) = Piece.addChar c ps ++ [.tag n name] := by
  cases ps with
  | nil => rfl
  | cons p ps => cases p <;> rfl

theorem pieces_append_tag (hs : s.getLast? ≠ some '\x5c') (hname : IsName name) :
    pieces (s ++ '[' :: (name ++ [']'])) = pieces s ++ [.tag 0 name] := by
  induction s using pieces_induction with
  | nil =>
    have h := pieces_tag hname 0 []
    simpa [slashes, pieces] using h
  | tag n other rest hother ih =>
    have hrest : rest.getLast? ≠ some '\x5c' := by
      rintro h
      exact hs (by simp [List.getLast?_append, List.getLast?_cons, h])
    have h := pieces_tag hother n (rest ++ '[' :: (name ++ [']']))
    rw [ih hrest] at h
    rw [pieces_tag hother, List.append_assoc, List.cons_append, List.append_assoc, List.cons_append, h]
    rfl
  | char c s hnone ih =>
    have htail : s.getLast? ≠ some '\x5c' := by
      intro h
      exact hs (by simp [List.getLast?_cons, h])
    -- the new tag stands behind a character that is no backslash, so it is none of this one's
    have happend : tag? (c :: (s ++ '[' :: (name ++ [']']))) = none := by
      rw [← List.cons_append, tag?_append rfl (.inr ⟨List.cons_ne_nil c s, hs⟩), hnone]
      rfl
    rw [List.cons_append, pieces_char happend, ih htail, pieces_char hnone, addChar_append_tag]

end Append

end JobBoards.Screen
