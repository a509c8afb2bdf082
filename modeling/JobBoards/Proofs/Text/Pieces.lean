import JobBoards.Text.Blank
import Mathlib.Data.List.TakeWhile
namespace JobBoards.Text
variable {p : Char → Bool} {c : Char} {s : Text}

theorem pieces_cons_of_not {f : Text} {fs : List Text} (hc : p c = false) (hs : pieces p s = f :: fs) :
    pieces p (c :: s) = (c :: f) :: fs := by
  simp [pieces, hs, hc]

theorem pieces_cons_of_pos (hc : p c = true) (s : Text) : pieces p (c :: s) = [] :: pieces p s := by
  obtain ⟨f, fs, hs⟩ := List.exists_cons_of_ne_nil (pieces_ne_nil p s)
  simp [pieces, hs, hc]

theorem pieces_eq_singleton (h : ∀ c ∈ s, p c = false) : pieces p s = [s] := by
  induction s with
  | nil => rfl
  | cons c s ih =>
    obtain ⟨hc, hs⟩ := List.forall_mem_cons.mp h
    exact pieces_cons_of_not hc (ih hs)

theorem pieces_append_cons (h : ∀ c ∈ s, p c = false) (hc : p c = true) (t : Text) :
    pieces p (s ++ c :: t) = s :: pieces p t := by
  induction s with
  | nil => exact pieces_cons_of_pos hc t
  | cons d s ih =>
    obtain ⟨hd, hs⟩ := List.forall_mem_cons.mp h
    exact pieces_cons_of_not hd (ih hs)

theorem length_takeWhile_append_cons_le (hc : p c = false) (u v : Text) :
    ((u ++ c :: v).takeWhile p).length ≤ u.length := by
  induction u with
  | nil => simp [hc]
  | cons d u ih =>
    rw [List.cons_append, List.takeWhile_cons]
    split
    · exact Nat.succ_le_succ ih
    · exact Nat.zero_le _

@[simp] theorem join_splitOn (c : Char) (s : Text) : join [c] (splitOn c s) = s := by
  induction s with
  | nil => rfl
  | cons d s ih =>
    obtain ⟨f, fs, hs⟩ := List.exists_cons_of_ne_nil (pieces_ne_nil (· == c) s)
    rw [splitOn, hs] at ih
    cases hd : d == c with
    | true =>
      rw [splitOn, pieces_cons_of_pos (p := (· == c)) hd, hs, join, ih, eq_of_beq hd]
      rfl
    | false =>
      rw [splitOn, pieces_cons_of_not (p := (· == c)) hd hs]
      cases fs with
      | nil => exact congrArg (d :: ·) ih
      | cons g gs => exact congrArg (d :: ·) ih

@[simp] theorem length_splitOn (c : Char) (s : Text) : (splitOn c s).length = s.count c + 1 := by
  induction s with
  | nil => rfl
  | cons d s ih =>
    obtain ⟨f, fs, hs⟩ := List.exists_cons_of_ne_nil (pieces_ne_nil (· == c) s)
    rw [splitOn, hs] at ih
    rw [splitOn, List.count_cons]
    cases hd : d == c with
    | true =>
      rw [pieces_cons_of_pos (p := (· == c)) hd, hs, List.length_cons, ih]
      rfl
    | false =>
      rw [pieces_cons_of_not (p := (· == c)) hd hs]
      exact ih

theorem beq_eq_false_of_notMem (h : c ∉ s) : ∀ d ∈ s, (d == c) = false := by
  intro d hd
  rw [beq_eq_false_iff_ne]
  rintro rfl
  exact h hd

theorem splitOn_append (h : c ∉ s) (t : Text) : splitOn c (s ++ c :: t) = s :: splitOn c t :=
  pieces_append_cons (p := (· == c)) (beq_eq_false_of_notMem h) (beq_self_eq_true c) t

theorem splitOn_append_cons {a b : Text} (ha : c ∉ a) (hb : c ∉ b) : splitOn c (a ++ c :: b) = [a, b] := by
  rw [splitOn_append ha, splitOn, pieces_eq_singleton (beq_eq_false_of_notMem hb)]

theorem exists_of_count_eq_one (h : s.count c = 1) : ∃ a b, s = a ++ c :: b ∧ c ∉ a ∧ c ∉ b := by
  have hmem : c ∈ s := List.count_pos_iff.mp (by omega)
  obtain ⟨a, b, rfl, ha⟩ := List.eq_append_cons_of_mem hmem
  rw [List.count_append, List.count_eq_zero.mpr ha, List.count_cons_self, Nat.zero_add] at h
  exact ⟨a, b, rfl, ha, List.count_eq_zero.mp (Nat.succ.inj h)⟩

theorem not_of_mem_pieces (s : Text) : ∀ f ∈ pieces p s, ∀ c ∈ f, p c = false := by
  induction s with
  | nil => simp [pieces]
  | cons c s ih =>
    obtain ⟨f, fs, hs⟩ := List.exists_cons_of_ne_nil (pieces_ne_nil p s)
    rw [hs, List.forall_mem_cons] at ih
    obtain ⟨hf, hfs⟩ := ih
    cases hc : p c with
    | false =>
      rw [pieces_cons_of_not hc hs, List.forall_mem_cons]
      exact ⟨List.forall_mem_cons.mpr ⟨hc, hf⟩, hfs⟩
    | true =>
      rw [pieces_cons_of_pos hc, hs, List.forall_mem_cons, List.forall_mem_cons]
      exact ⟨by simp, hf, hfs⟩

theorem not_blank_of_mem_words {w : Text} (h : w ∈ words s) : ∀ c ∈ w, isBlank c = false :=
  not_of_mem_pieces s w (List.mem_filter.mp h).1

theorem words_blanks {a : Text} (ha : ∀ c ∈ a, isBlank c = true) (s : Text) :
    words (a ++ s) = words s := by
  induction a with
  | nil => rfl
  | cons c a ih =>
    obtain ⟨hc, ha⟩ := List.forall_mem_cons.mp ha
    rw [List.cons_append, words, pieces_cons_of_pos hc]
    exact ih ha

theorem words_append_blanks {a : Text} (hs : s ≠ []) (h : ∀ c ∈ s, isBlank c = false)
    (ha : ∀ c ∈ a, isBlank c = true) : words (s ++ a) = [s] := by
  cases a with
  | nil =>
    rw [List.append_nil, words, pieces_eq_singleton h]
    simp [hs]
  | cons c a =>
    obtain ⟨hc, ha⟩ := List.forall_mem_cons.mp ha
    have hnone : words a = [] := by
      have hblanks := words_blanks ha []
      rwa [List.append_nil] at hblanks
    rw [words, pieces_append_cons h hc, List.filter_cons_of_pos (by simpa using hs)]
    exact congrArg (s :: ·) hnone

theorem words_append_cons (hs : s ≠ []) (h : ∀ c ∈ s, isBlank c = false) (hc : isBlank c = true)
    (t : Text) : words (s ++ c :: t) = s :: words t := by
  rw [words, pieces_append_cons h hc, List.filter_cons_of_pos (by simpa using hs)]
  rfl

theorem trimStart_eq_self (h : ∀ c ∈ s, isBlank c = false) : trimStart s = s := by
  cases s with
  | nil => rfl
  | cons c s => simp [trimStart, h c List.mem_cons_self]

theorem trimEnd_eq_self (h : ∀ c ∈ s, isBlank c = false) : trimEnd s = s := by
  have hreverse := trimStart_eq_self (s := s.reverse) fun c hc => h c (List.mem_reverse.mp hc)
  unfold trimStart at hreverse
  rw [trimEnd, hreverse, List.reverse_reverse]

theorem trimEnd_append_blanks {a : Text} (ha : ∀ c ∈ a, isBlank c = true) (s : Text) :
    trimEnd (s ++ a) = trimEnd s := by
  have hblanks : ∀ c ∈ a.reverse, isBlank c = true := fun c hc => ha c (List.mem_reverse.mp hc)
  rw [trimEnd, List.reverse_append, List.dropWhile_append_of_pos hblanks]
  rfl

theorem trim_blanks {a b : Text} (ha : ∀ c ∈ a, isBlank c = true) (h : ∀ c ∈ s, isBlank c = false)
    (hb : ∀ c ∈ b, isBlank c = true) : trim (a ++ s ++ b) = s := by
  have hstart : trimStart (a ++ s ++ b) = trimStart (s ++ b) := by
    rw [trimStart, List.append_assoc, List.dropWhile_append_of_pos ha]
    rfl
  rw [trim, hstart]
  cases s with
  | nil =>
    rw [List.nil_append, trimStart, List.dropWhile_eq_nil_iff.mpr hb]
    rfl
  | cons c s =>
    have hc : isBlank c = false := h c List.mem_cons_self
    have hself : trimStart (c :: s ++ b) = c :: s ++ b := by simp [trimStart, hc]
    rw [hself, trimEnd_append_blanks hb, trimEnd_eq_self h]

theorem trim_eq_self (h : ∀ c ∈ s, isBlank c = false) : trim s = s := by
  have htrim := trim_blanks (a := []) (b := []) (by simp) h (by simp)
  rwa [List.nil_append, List.append_nil] at htrim

end JobBoards.Text
