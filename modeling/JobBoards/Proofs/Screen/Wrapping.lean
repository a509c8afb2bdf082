import JobBoards.Proofs.Text.Small
import JobBoards.Screen.Fit
import Mathlib.Data.List.DropRight
import Mathlib.Data.List.Forall2
namespace JobBoards.Screen
variable {overflow : Overflow} {width total : Nat} {s t u w : Text} {ws : List Text} {c : Char}

section Parts

@[simp] theorem flatten_words (s : Text) : (words s).flatten = s := by
  fun_induction words s with
  | case1 => rfl
  | case2 c r gap ih =>
    have hword := List.takeWhile_append_dropWhile (p := isInk) (l := r)
    have hgap := List.takeWhile_append_dropWhile (p := Text.isBlank) (l := gap)
    rw [List.flatten_cons, ih, List.append_assoc, hgap, List.cons_append, hword]

theorem flatten_spacedWords (h : spacedWords s ≠ []) : (spacedWords s).flatten = s := by
  have hwords := flatten_words (s.dropWhile Text.isBlank)
  unfold spacedWords at h ⊢
  split at h
  · exact absurd rfl h
  · rename_i w ws hw
    rw [hw, List.flatten_cons] at hwords
    rw [List.flatten_cons, List.append_assoc, hwords, List.takeWhile_append_dropWhile]

@[simp] theorem flatten_chopped (width : Nat) (piece : Text) (used : Nat) (s : Text) :
    (chopped width piece used s).flatten = piece ++ s := by
  induction s generalizing piece used with
  | nil => simp [chopped]
  | cons c s ih =>
    rw [chopped]
    split
    · rw [ih, List.append_assoc, List.singleton_append]
    · rw [List.flatten_cons, ih, List.singleton_append]

@[simp] theorem Overflow.flatten_parts (overflow : Overflow) (width : Nat) (w : Text) :
    (overflow.parts width w).flatten = w := by
  cases overflow with
  | folds =>
    rw [parts]
    split
    · exact List.append_nil w
    · exact flatten_chopped width [] 0 w
  | cuts => exact List.append_nil w

theorem Overflow.parts_ne_nil (overflow : Overflow) (width : Nat) (w : Text) : overflow.parts width w ≠ [] := by
  cases overflow with
  | folds =>
    rw [parts]
    split
    · exact List.cons_ne_nil w []
    · cases w with
      | nil => exact List.cons_ne_nil [] []
      | cons c w =>
        rw [chopped]
        split
        · intro h
          have hflatten := flatten_chopped width ([] ++ [c]) (0 + Text.cellsOf c) w
          rw [h] at hflatten
          cases hflatten
        · exact List.cons_ne_nil _ _
  | cuts => exact List.cons_ne_nil w []

@[simp]
theorem flatten_dropWhile_isEmpty (parts : List Text) : (parts.dropWhile List.isEmpty).flatten = parts.flatten := by
  induction parts with
  | nil => rfl
  | cons p ps ih =>
    cases p with
    | nil => exact ih
    | cons c p => rfl

@[simp] theorem dropLast_dropWhile_isEmpty (parts : List Text) (last : Text) :
    ((parts ++ [last]).dropWhile List.isEmpty).dropLast = parts.dropWhile List.isEmpty := by
  induction parts with
  | nil =>
    cases last with
    | nil => rfl
    | cons c last => rfl
  | cons p ps ih =>
    cases p with
    | nil => exact ih
    | cons c p =>
      have hcons : ((c :: p) :: ps ++ [last]).dropLast = (c :: p) :: ps := List.dropLast_concat
      exact hcons

theorem filled_of_over (overflow : Overflow) (current : Text) {used : Nat}
    (h : ¬ used + Text.cells (Text.trimEnd w) ≤ width) (ws : List Text) : ∃ lines last,
    filled overflow width current used (w :: ws) = lines ++ filled overflow width last (Text.cells last) ws ∧
      lines.flatten ++ last = current ++ w ∧ last ∈ overflow.parts width w ∧
      ∀ l ∈ lines, l = current ∨ l ∈ overflow.parts width w := by
  obtain ⟨before, last, hparts⟩ :=
    (List.eq_nil_or_concat (overflow.parts width w)).resolve_left (overflow.parts_ne_nil width w)
  have hflatten := overflow.flatten_parts width w
  rw [List.concat_eq_append] at hparts
  rw [hparts, List.flatten_append, List.flatten_singleton] at hflatten
  rw [filled, if_neg h, hparts]
  cases current with
  | nil =>
    refine ⟨before.dropWhile List.isEmpty, last, ?_, ?_, List.mem_append_right _ List.mem_cons_self, ?_⟩
    · simp only [List.isEmpty_nil, if_true, dropLast_dropWhile_isEmpty, List.getLastD_concat]
    · rw [flatten_dropWhile_isEmpty, hflatten, List.nil_append]
    · intro l hl
      exact .inr (List.mem_append_left _ ((List.dropWhile_suffix _).subset hl))
  | cons c current =>
    refine ⟨(c :: current) :: before, last, ?_, ?_, List.mem_append_right _ List.mem_cons_self, ?_⟩
    · simp only [List.isEmpty_cons, Bool.false_eq_true, if_false, List.getLastD_concat, ← List.cons_append,
        List.dropLast_concat]
    · rw [List.flatten_cons, List.append_assoc, hflatten]
    · intro l hl
      exact (List.mem_cons.mp hl).imp id (List.mem_append_left _)

theorem flatten_filled (overflow : Overflow) (width : Nat) (current : Text) (used : Nat) (ws : List Text) :
    (filled overflow width current used ws).flatten = current ++ ws.flatten := by
  induction ws generalizing current used with
  | nil => simp [filled]
  | cons w ws ih =>
    by_cases hfits : used + Text.cells (Text.trimEnd w) ≤ width
    · rw [filled, if_pos hfits, ih, List.flatten_cons, List.append_assoc]
    · obtain ⟨lines, last, hfilled, hflatten, -, -⟩ := filled_of_over overflow current hfits ws
      rw [hfilled, List.flatten_append, ih, ← List.append_assoc, hflatten, List.flatten_cons, List.append_assoc]

@[simp]
theorem flatten_broken (overflow : Overflow) (width : Nat) (s : Text) : (broken overflow width s).flatten = s := by
  rw [broken]
  split
  · exact List.append_nil s
  · split
    · exact List.append_nil s
    · rename_i hws
      rw [flatten_filled, List.nil_append, flatten_spacedWords hws]

end Parts

section Fitting

theorem cellsOf_le_two (c : Char) : Text.cellsOf c ≤ 2 := by
  rw [Text.cellsOf]
  split
  · decide
  · split
    · decide
    · split <;> decide

theorem cells_le_of_sublist (h : s.Sublist t) : Text.cells s ≤ Text.cells t := by
  induction h with
  | slnil => exact Nat.le_refl 0
  | cons c _ ih => exact Nat.le_trans ih (Nat.le_add_left _ _)
  | cons_cons c _ ih => exact Nat.add_le_add_left ih _

theorem cells_prefix_le (h : t <+: s) : Text.cells t ≤ Text.cells s := cells_le_of_sublist h.sublist

theorem cells_trimEnd_append_le (s t : Text) :
    Text.cells (Text.trimEnd (s ++ t)) ≤ Text.cells s + Text.cells (Text.trimEnd t) := by
  rw [Text.trimEnd, List.reverse_append, List.dropWhile_append]
  split
  · have hprefix := cells_prefix_le (Text.trimEnd_prefix s)
    exact Nat.le_trans hprefix (Nat.le_add_right _ _)
  · rw [List.reverse_append, List.reverse_reverse, Text.cells_append]
    exact Nat.le_refl _

theorem cells_le_of_mem_chopped {piece : Text} (hpiece : Text.cells piece ≤ width)
    (hs : ∀ c ∈ s, Text.cellsOf c ≤ width) :
    ∀ p ∈ chopped width piece (Text.cells piece) s, Text.cells p ≤ width := by
  induction s generalizing piece with
  | nil => simpa [chopped] using hpiece
  | cons c s ih =>
    obtain ⟨hc, hs⟩ := List.forall_mem_cons.mp hs
    have hone : Text.cells [c] = Text.cellsOf c := Nat.add_zero _
    rw [chopped]
    split
    · rename_i hfits
      rw [← hone, ← Text.cells_append] at hfits ⊢
      exact ih hfits hs
    · rw [← hone] at hc ⊢
      exact List.forall_mem_cons.mpr ⟨hpiece, ih hc hs⟩

theorem cells_le_of_mem_parts (hw : ∀ c ∈ w, Text.cellsOf c ≤ width) :
    ∀ p ∈ Overflow.folds.parts width w, Text.cells (Text.trimEnd p) ≤ width := by
  intro p hp
  rw [Overflow.parts] at hp
  split at hp
  · rwa [List.mem_singleton.mp hp]
  · have hnil : Text.cells [] ≤ width := Nat.zero_le width
    have hpiece := cells_le_of_mem_chopped hnil hw p hp
    exact Nat.le_trans (cells_prefix_le (Text.trimEnd_prefix p)) hpiece

/-- But for the white space at its end, each line that words are put on fits. -/
theorem cells_le_of_mem_filled {current : Text} (hcurrent : Text.cells (Text.trimEnd current) ≤ width)
    (hws : ∀ w ∈ ws, ∀ c ∈ w, Text.cellsOf c ≤ width) :
    ∀ l ∈ filled .folds width current (Text.cells current) ws, Text.cells (Text.trimEnd l) ≤ width := by
  induction ws generalizing current with
  | nil => simpa [filled] using hcurrent
  | cons w ws ih =>
    obtain ⟨hw, hws⟩ := List.forall_mem_cons.mp hws
    by_cases hfits : Text.cells current + Text.cells (Text.trimEnd w) ≤ width
    · rw [filled, if_pos hfits, ← Text.cells_append]
      exact ih (Nat.le_trans (cells_trimEnd_append_le current w) hfits) hws
    · obtain ⟨lines, last, hfilled, -, hlast, hlines⟩ := filled_of_over .folds current hfits ws
      rw [hfilled, List.forall_mem_append]
      constructor
      · intro l hl
        rcases hlines l hl with rfl | hpart
        · exact hcurrent
        · exact cells_le_of_mem_parts hw l hpart
      · exact ih (cells_le_of_mem_parts hw last hlast) hws

theorem trimEnd_of_no_words (h : spacedWords s = []) : Text.trimEnd s = [] := by
  unfold spacedWords at h
  split at h
  · rename_i hwords
    have hflatten := flatten_words (s.dropWhile Text.isBlank)
    rw [hwords, List.flatten_nil, eq_comm, List.dropWhile_eq_nil_iff] at hflatten
    exact List.rdropWhile_eq_nil_iff.mpr hflatten
  · cases h

theorem cells_le_of_mem_broken (hs : ∀ c ∈ s, Text.cellsOf c ≤ width) :
    ∀ l ∈ broken .folds width s, Text.cells (Text.trimEnd l) ≤ width := by
  intro l hl
  rw [broken] at hl
  split at hl
  · rename_i hfits
    rw [List.mem_singleton.mp hl]
    exact Nat.le_trans (cells_prefix_le (Text.trimEnd_prefix s)) hfits
  · split at hl
    · rename_i hwords
      rw [List.mem_singleton.mp hl, trimEnd_of_no_words hwords]
      exact Nat.zero_le width
    · rename_i hwords
      refine cells_le_of_mem_filled (Nat.zero_le width) (fun w hw c hc => hs c ?_) l hl
      rw [← flatten_spacedWords hwords]
      exact List.mem_flatten_of_mem hw hc

end Fitting

section Cutting

theorem cells_take_succ {n : Nat} (h : n < s.length) :
    Text.cells (s.take (n + 1)) = Text.cells (s.take n) + Text.cellsOf s[n] := by
  rw [List.take_succ_eq_append_getElem h, Text.cells_append]
  rfl

/-- A start of a text fills some cells, if need be with a space for the first half of a character. -/
inductive Fills (total : Nat) (s : Text) : Text → Prop
  | whole (n : Nat) (h : Text.cells (s.take n) = total) : Fills total s (s.take n)
  | half (n : Nat) (h : n < s.length) (hbefore : Text.cells (s.take n) + 1 = total) (hwide : Text.cellsOf s[n] = 2) :
      Fills total s (s.take n ++ [' '])

theorem getLast?_take_succ {n : Nat} (h : n < s.length) : (s.take (n + 1)).getLast? = some s[n] := by
  rw [List.take_succ_eq_append_getElem h, List.getLast?_concat]

theorem cellsBetween_succ {n low high : Nat} (fuel : Nat) (hn : n = (low + high) / 2) (h : n < s.length) :
    cellsBetween total s (fuel + 1) low high =
      if Text.cells (s.take (n + 1)) = total + 1 ∧ Text.cellsOf s[n] = 2 then s.take n ++ [' ']
      else if Text.cells (s.take (n + 1)) = total then s.take (n + 1)
      else if total < Text.cells (s.take (n + 1)) then cellsBetween total s fuel low n
      else cellsBetween total s fuel n high := by
  subst hn
  have hlast := getLast?_take_succ h
  have hstart : (s.take ((low + high) / 2 + 1)).dropLast = s.take ((low + high) / 2) := by
    rw [List.take_succ_eq_append_getElem h, List.dropLast_concat]
  simp only [cellsBetween, hlast, hstart, Option.map_some, Option.some.injEq]

/-- The bounds close in on the start that is looked for: before the lower one less is filled, and at the upper one
too much, without a character there that could be halved. -/
theorem fills_cellsBetween {fuel low high : Nat} (htotal : 0 < total) (hs : total < Text.cells s)
    (hfuel : high - low < fuel) (hbounds : low < high) (hend : high ≤ s.length)
    (hlow : low = 0 ∨ Text.cells (s.take (low + 1)) < total)
    (hhigh : ∀ h : high < s.length, total < Text.cells (s.take (high + 1)) ∧
      ¬ (Text.cells (s.take (high + 1)) = total + 1 ∧ Text.cellsOf s[high] = 2)) :
    Fills total s (cellsBetween total s fuel low high) := by
  induction fuel generalizing low high with
  | zero => omega
  | succ fuel ih =>
    obtain ⟨n, hn⟩ : ∃ n, n = (low + high) / 2 := ⟨_, rfl⟩
    have hmiddle : n < s.length := by omega
    have hstep := cells_take_succ hmiddle
    rw [cellsBetween_succ fuel hn hmiddle]
    split
    · rename_i hhalf
      exact .half n hmiddle (by omega) hhalf.2
    · rename_i hwhole
      split
      · rename_i hcells
        exact .whole (n + 1) hcells
      · split
        · rename_i hexact hmore
          have hpast : low < n := by
            refine Nat.lt_of_le_of_ne (by omega) fun heq => ?_
            subst heq
            rcases hlow with rfl | hless
            · have hwide := cellsOf_le_two s[0]
              have hnone : Text.cells (s.take 0) = 0 := rfl
              omega
            · omega
          exact ih (by omega) hpast (by omega) hlow fun _ => ⟨hmore, hwhole⟩
        · rename_i hexact hmore
          have hbefore : n + 1 < high := by
            refine Nat.lt_of_le_of_ne (by omega) fun heq => ?_
            subst heq
            rcases Nat.lt_or_ge (n + 1) s.length with hinside | hpast
            · obtain ⟨hover, hnone⟩ := hhigh hinside
              have hnext := cells_take_succ hinside
              have hwide := cellsOf_le_two s[n + 1]
              exact hnone ⟨by omega, by omega⟩
            · rw [List.take_of_length_le hpast] at hmore
              exact hmore hs
          exact ih (by omega) (by omega) hend (.inr (by omega)) hhigh

theorem fills_firstCells (htotal : 0 < total) (hs : total < Text.cells s) : Fills total s (firstCells total s) := by
  have hlength : 0 < s.length := by
    refine List.length_pos_of_ne_nil fun h => ?_
    rw [h] at hs
    exact absurd hs (Nat.not_lt_zero total)
  rw [firstCells, if_neg (Nat.ne_of_gt htotal)]
  exact fills_cellsBetween htotal hs (by omega) hlength (Nat.le_refl _) (.inl rfl) fun h => absurd h (Nat.lt_irrefl _)

theorem Fills.cells_eq (h : Fills total s t) : Text.cells t = total := by
  cases h with
  | whole n h => exact h
  | half n _ hbefore _ =>
    rw [Text.cells_append]
    exact hbefore

theorem cells_firstCells_le (total : Nat) (s : Text) (hs : total < Text.cells s) :
    Text.cells (firstCells total s) ≤ total := by
  cases total with
  | zero => exact Nat.le_refl 0
  | succ total => exact Nat.le_of_eq (fills_firstCells (Nat.succ_pos total) hs).cells_eq

theorem cells_cut_le (hwidth : 0 < width) (overflow : Overflow) (s : Text) :
    Text.cells (cut overflow width s) ≤ width := by
  unfold cut
  split
  · assumption
  · rename_i hover
    cases overflow with
    | folds => exact cells_firstCells_le width s (by omega)
    | cuts =>
      have hstart := cells_firstCells_le (width - 1) s (by omega)
      have hdots : Text.cells ['…'] = 1 := by decide +kernel
      rw [Text.cells_append, hdots]
      omega

theorem exists_trimEnd_append (s : Text) : ∃ t, Text.trimEnd s ++ t = s ∧ ∀ c ∈ t, Text.isBlank c = true :=
  ⟨s.rtakeWhile Text.isBlank, List.rdropWhile_append_rtakeWhile, fun _ => List.mem_rtakeWhile_imp⟩

theorem trimEnd_eq_of_between (hlow : Text.trimEnd s <+: t) (hhigh : t <+: s) : Text.trimEnd t = Text.trimEnd s := by
  obtain ⟨u, rfl⟩ := hlow
  obtain ⟨v, hv⟩ := hhigh
  obtain ⟨blanks, hs, hblanks⟩ := exists_trimEnd_append s
  have htail : u ++ v = blanks := List.append_cancel_left (by rw [← List.append_assoc, hv, hs])
  have hidem : Text.trimEnd (Text.trimEnd s) = Text.trimEnd s := List.rdropWhile_idempotent _ s
  rw [Text.trimEnd_append_blanks (fun c hc => hblanks c (htail ▸ List.mem_append_left v hc)), hidem]

theorem closed_prefix_self (width : Nat) (s : Text) : closed width s <+: s := List.take_prefix _ _

theorem trimEnd_prefix_closed (width : Nat) (s : Text) : Text.trimEnd s <+: closed width s := by
  have hlength := congrArg List.length (List.takeWhile_append_dropWhile (p := Text.isBlank) (l := s.reverse))
  rw [List.length_append, List.length_reverse] at hlength
  rw [closed, List.prefix_take_iff]
  refine ⟨Text.trimEnd_prefix s, ?_⟩
  rw [Text.trimEnd, List.length_reverse]
  omega

@[simp] theorem trimEnd_closed (width : Nat) (s : Text) : Text.trimEnd (closed width s) = Text.trimEnd s :=
  trimEnd_eq_of_between (trimEnd_prefix_closed width s) (closed_prefix_self width s)

theorem eq_nil_of_cells (hs : ∀ c ∈ s, 0 < Text.cellsOf c) (h : Text.cells s = 0) : s = [] := by
  cases s with
  | nil => rfl
  | cons c s =>
    have hc := hs c List.mem_cons_self
    rw [Text.cells] at h
    omega

theorem prefix_of_cells_le (hs : ∀ c ∈ s, 0 < Text.cellsOf c) (ht : t <+: s) (hu : u <+: s)
    (h : Text.cells t ≤ Text.cells u) : t <+: u := by
  rcases List.prefix_or_prefix_of_prefix ht hu with hpre | ⟨v, rfl⟩
  · exact hpre
  · rw [Text.cells_append] at h
    have hv : v = [] := eq_nil_of_cells (fun c hc => hs c (ht.subset (List.mem_append_right u hc))) (by omega)
    rw [hv]
    exact ⟨[], by simp⟩

theorem trimEnd_cut (hs : ∀ c ∈ s, 0 < Text.cellsOf c) (hfits : Text.cells (Text.trimEnd s) ≤ width) :
    Text.trimEnd (cut .folds width s) = Text.trimEnd s := by
  have hstart := Text.trimEnd_prefix s
  unfold cut
  split
  · rfl
  · rename_i hover
    rcases Nat.eq_zero_or_pos width with rfl | hpos
    · have hnone := eq_nil_of_cells (fun c hc => hs c (hstart.subset hc)) (Nat.le_zero.mp hfits)
      rw [hnone]
      rfl
    · have hfills := fills_firstCells hpos (Nat.lt_of_not_le hover)
      simp only
      generalize firstCells width s = start at hfills ⊢
      cases hfills with
      | whole n h =>
        have htake := List.take_prefix n s
        exact trimEnd_eq_of_between (prefix_of_cells_le hs hstart htake (by omega)) htake
      | half n h hbefore hwide =>
        have htake := List.take_prefix n s
        have hlow : Text.trimEnd s <+: s.take n := by
          have hnext := cells_take_succ h
          have hpast := prefix_of_cells_le hs hstart (List.take_prefix (n + 1) s) (by omega)
          rw [List.take_succ_eq_append_getElem h, List.prefix_concat_iff,
            ← List.take_succ_eq_append_getElem h] at hpast
          refine hpast.resolve_left fun heq => ?_
          rw [heq] at hfits
          omega
        have hspace : ∀ c ∈ [' '], Text.isBlank c = true := List.forall_mem_singleton.mpr (by decide)
        rw [Text.trimEnd_append_blanks hspace, trimEnd_eq_of_between hlow htake]

/-- A text stands on some lines: cut into parts it appears with one of them on each, but for white space at their
ends. -/
def StandsOn (width : Nat) (lines : List Text) (s : Text) : Prop :=
  ∃ parts, parts.flatten = s ∧
    List.Forall₂ (fun part line => Text.cells line ≤ width ∧ Text.trimEnd line = Text.trimEnd part) parts lines

theorem standsOn_broken (hwidth : 0 < width) (h : ∀ c ∈ s, 0 < Text.cellsOf c ∧ Text.cellsOf c ≤ width) :
    StandsOn width ((broken .folds width s).map fun part => cut .folds width (closed width part)) s := by
  refine ⟨broken .folds width s, flatten_broken .folds width s, ?_⟩
  rw [List.forall₂_map_right_iff, List.forall₂_same]
  intro part hpart
  have hmem (c : Char) (hc : c ∈ closed width part) : c ∈ s := by
    rw [← flatten_broken .folds width s]
    exact List.mem_flatten_of_mem hpart ((closed_prefix_self width part).subset hc)
  have hfits := cells_le_of_mem_broken (fun c hc => (h c hc).2) part hpart
  constructor
  · exact cells_cut_le hwidth .folds _
  · rw [trimEnd_cut (fun c hc => (h c (hmem c hc)).1), trimEnd_closed]
    rwa [trimEnd_closed]

end Cutting

section Lines

theorem filled_ne_nil (overflow : Overflow) (width : Nat) (current : Text) (used : Nat) (ws : List Text) :
    filled overflow width current used ws ≠ [] := by
  induction ws generalizing current used with
  | nil => exact List.cons_ne_nil current []
  | cons w ws ih =>
    rw [filled]
    split
    · exact ih _ _
    · exact List.append_ne_nil_of_right_ne_nil _ (ih _ _)

theorem broken_ne_nil (overflow : Overflow) (width : Nat) (s : Text) : broken overflow width s ≠ [] := by
  rw [broken]
  split
  · exact List.cons_ne_nil s []
  · split
    · exact List.cons_ne_nil s []
    · exact filled_ne_nil overflow width [] 0 _

theorem laid_ne_nil (overflow : Overflow) (width : Nat) (s : Text) : laid overflow width s ≠ [] := by
  obtain ⟨l, ls, hlines⟩ := List.exists_cons_of_ne_nil (Text.pieces_ne_nil (· == '\n') (visible s))
  rw [laid, Text.splitOn, hlines, List.flatMap_cons]
  exact List.append_ne_nil_of_left_ne_nil (fun h => broken_ne_nil overflow width _ (List.map_eq_nil_iff.mp h)) _

theorem join_append (lines : List Text) (h : lines ≠ []) :
    Text.join ['\n'] lines ++ ['\n'] = lines.flatMap (· ++ ['\n']) := by
  induction lines with
  | nil => exact absurd rfl h
  | cons l ls ih =>
    cases ls with
    | nil => simp [Text.join]
    | cons m ms =>
      have hrest := ih (List.cons_ne_nil m ms)
      rw [Text.join, List.append_assoc, hrest]
      rfl

theorem line_eq_flatMap (hwidth : 0 < width) (s : Text) :
    line width s = (laid .folds width s).flatMap (· ++ ['\n']) := by
  rw [line, if_neg (Nat.ne_of_gt hwidth), printed, if_neg (Nat.ne_of_gt hwidth)]
  exact join_append _ (laid_ne_nil .folds width s)

end Lines

end JobBoards.Screen
