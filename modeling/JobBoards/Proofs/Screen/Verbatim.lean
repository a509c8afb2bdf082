import JobBoards.Proofs.Screen.Columns
import JobBoards.Proofs.Screen.Rendering
import JobBoards.Proofs.Screen.Wrapping
namespace JobBoards.Screen

def isPlain (c : Char) : Bool :=
  decide (32 ≤ c.toNat ∧ ¬ (127 ≤ c.toNat ∧ c.toNat ≤ 159) ∧ c.toNat ≠ 0x2028 ∧ c.toNat ≠ 0x2029)

def Plain (s : Text) : Prop := s.all isPlain = true

instance (s : Text) : Decidable (Plain s) := inferInstanceAs (Decidable (_ = _))

/-- Somewhere a backslash stands before a bracket that could not open a tag. -/
inductive LosesBackslash : Text → Prop
  | here {s : Text} (h : mayMark s = false) : LosesBackslash ('\x5c' :: '[' :: s)
  | later {s : Text} (c : Char) (h : LosesBackslash s) : LosesBackslash (c :: s)

def framed (alignsRight : Bool) (width : Nat) (s : Text) : Text := ' ' :: Table.pad alignsRight (width - 2) s ++ [' ']

/-- The white space at the end of a text that a line of some width drops. -/
def overhang (width : Nat) (s : Text) : Text := s.drop (closed width s).length

structure Verbatim (width : Nat) (s : Text) : Prop where
  room : 2 < width
  fits : Text.cells s ≤ width - 2
  keeps : ¬ LosesBackslash s
  single : endsInBackslash s = false
  spaces : ∀ c ∈ overhang (width - 2) s, c = ' '

variable {s t u : Text} {c : Char} {width : Nat}

theorem literal_diverges (h : LosesBackslash s) :
    ∃ before rest shown, s = before ++ '\x5c' :: rest ∧ literal s = before ++ '[' :: shown := by
  induction h with
  | @here s hmark =>
    refine ⟨[], '[' :: s, literal s, rfl, ?_⟩
    rw [literal_cons, if_pos ⟨rfl, rfl, hmark⟩, literal_cons, if_neg (by simp), List.nil_append]
  | @later s c _ ih =>
    rw [literal_cons]
    split
    · rename_i hc
      obtain ⟨rest, rfl⟩ := List.head?_eq_some_iff.mp hc.2.1
      refine ⟨[], '[' :: rest, literal rest, by rw [hc.1, List.nil_append], ?_⟩
      rw [literal_cons, if_neg (by simp), List.nil_append]
    · obtain ⟨before, rest, shown, hs, hshown⟩ := ih
      exact ⟨c :: before, rest, shown, by rw [hs, List.cons_append], by rw [hshown, List.cons_append]⟩

theorem literal_eq_self_iff : literal s = s ↔ ¬ LosesBackslash s := by
  constructor
  · intro hself hloses
    obtain ⟨before, rest, shown, hs, hshown⟩ := literal_diverges hloses
    have heq := hshown.symm.trans (hself.trans hs)
    have hhead := (List.cons.inj (List.append_cancel_left heq)).1
    revert hhead
    decide
  · intro hkeeps
    induction s with
    | nil => rfl
    | cons c s ih =>
      rw [literal_cons, if_neg, ih fun h => hkeeps (.later c h)]
      rintro ⟨rfl, hhead, hmark⟩
      obtain ⟨rest, rfl⟩ := List.head?_eq_some_iff.mp hhead
      exact hkeeps (.here hmark)

theorem literal_sublist (s : Text) : (literal s).Sublist s := by
  induction s with
  | nil => exact List.Sublist.refl []
  | cons c s ih =>
    rw [literal_cons]
    split
    · exact ih.cons c
    · exact ih.cons_cons c

theorem plain_iff : Plain s ↔
    ∀ c ∈ s, 32 ≤ c.toNat ∧ ¬ (127 ≤ c.toNat ∧ c.toNat ≤ 159) ∧ c.toNat ≠ 0x2028 ∧ c.toNat ≠ 0x2029 := by
  simp only [Plain, List.all_eq_true, isPlain, decide_eq_true_eq]

namespace Plain

theorem of_sublist (h : Plain s) (ht : t.Sublist s) : Plain t :=
  plain_iff.mpr fun c hc => plain_iff.mp h c (ht.subset hc)

theorem append (h : Plain s) (ht : Plain t) : Plain (s ++ t) := by
  rw [Plain, List.all_append, Bool.and_eq_true]
  exact ⟨h, ht⟩

theorem literalCell (h : Plain s) : Plain (literalCell s) := by
  apply (h.of_sublist (literal_sublist s)).append
  cases endsInBackslash s with
  | true => decide
  | false => decide

theorem visible_eq (h : Plain s) : visible s = s := by
  apply List.filter_eq_self.mpr
  intro c hc
  obtain ⟨hlow, -⟩ := plain_iff.mp h c hc
  simp only [isShown, decide_eq_true_eq, List.mem_cons, List.not_mem_nil, or_false]
  omega

theorem aligned_eq (h : Plain s) (column : Nat) : aligned column s = s := by
  induction s generalizing column with
  | nil => rfl
  | cons c s ih =>
    obtain ⟨hc, hs⟩ : isPlain c = true ∧ Plain s := by rwa [Plain, List.all_cons, Bool.and_eq_true] at h
    have hline : c ≠ '\n' := by
      rintro rfl
      cases hc
    have htab : c ≠ '\t' := by
      rintro rfl
      cases hc
    rw [aligned, if_neg hline, if_neg htab, ih hs]

theorem notMem_newline (h : Plain s) : '\n' ∉ s := by
  intro hmem
  have hlow := (plain_iff.mp h '\n' hmem).1
  revert hlow
  decide

theorem splitOn_eq (h : Plain s) : Text.splitOn '\n' s = [s] :=
  Text.pieces_eq_singleton (Text.beq_eq_false_of_notMem h.notMem_newline)

theorem measured_eq (h : Plain s) : measured s = Text.cells s := by
  have hpieces : Text.pieces endsMeasure s = [s] := by
    apply Text.pieces_eq_singleton
    intro c hc
    obtain ⟨hlow, hdel, hbreaks⟩ := plain_iff.mp h c hc
    simp only [endsMeasure, Text.inRanges, List.any_cons, List.any_nil, Bool.or_false, Bool.or_eq_false_iff,
      Bool.and_eq_false_iff, decide_eq_false_iff_not]
    omega
  rw [measured, h.visible_eq, hpieces]
  simp

theorem laid_eq (h : Plain s) (overflow : Overflow) (width : Nat) :
    laid overflow width s = (broken overflow width s).map fun part => cut overflow width (closed width part) := by
  rw [laid, h.visible_eq, h.splitOn_eq, List.flatMap_singleton, h.aligned_eq]

theorem laid_of_fits (h : Plain s) (overflow : Overflow) (hfits : Text.cells s ≤ width) :
    laid overflow width s = [closed width s] := by
  have hclosed := Nat.le_trans (cells_prefix_le (closed_prefix_self width s)) hfits
  rw [laid_eq h, broken, if_pos hfits, List.map_singleton, cut.eq_def, if_pos hclosed]

theorem laid_eq_singleton (h : Plain s) {overflow : Overflow} {l : Text} (hl : laid overflow width s = [l]) :
    l = cut overflow width (closed width s) := by
  rw [laid_eq h, List.map_eq_singleton_iff] at hl
  obtain ⟨part, hpart, rfl⟩ := hl
  have hflatten := flatten_broken overflow width s
  rw [hpart, List.flatten_singleton] at hflatten
  rw [hflatten]

end Plain

@[simp] theorem closed_append_overhang (width : Nat) (s : Text) : closed width s ++ overhang width s = s := by
  have hstart := List.prefix_iff_eq_take.mp (closed_prefix_self width s)
  conv => lhs; arg 1; rw [hstart]
  exact List.take_append_drop _ s

theorem prefix_closed (hc : Text.isBlank c = false) (width : Nat) (u v : Text) :
    u ++ [c] <+: closed width (u ++ c :: v) := by
  have hblank : ((u ++ c :: v).reverse.takeWhile Text.isBlank).length ≤ v.length := by
    have h := Text.length_takeWhile_append_cons_le hc v.reverse u.reverse
    simpa using h
  rw [closed, List.prefix_take_iff]
  constructor
  · exact ⟨v, by rw [List.append_assoc, List.singleton_append]⟩
  · rw [List.length_append, List.length_append, List.length_singleton, List.length_cons] at *
    omega

@[simp] theorem cells_spaces (n : Nat) : Text.cells (List.replicate n ' ') = n := by
  induction n with
  | zero => rfl
  | succ n ih =>
    have hspace : Text.cellsOf ' ' = 1 := by decide
    rw [List.replicate_succ, Text.cells, ih, hspace, Nat.add_comm]

theorem pad_append_iff (h : Text.cells (s ++ t) ≤ width) :
    Table.pad false width s = Table.pad false width (s ++ t) ↔ ∀ c ∈ t, c = ' ' := by
  simp only [Table.pad, Bool.false_eq_true, if_false, List.append_assoc, List.append_cancel_left_eq]
  constructor
  · intro heq c hc
    have hmem : c ∈ List.replicate (width - Text.cells s) ' ' := by
      rw [heq]
      exact List.mem_append_left _ hc
    exact List.eq_of_mem_replicate hmem
  · intro hspaces
    obtain ⟨n, rfl⟩ : ∃ n, t = List.replicate n ' ' := ⟨t.length, List.eq_replicate_of_mem hspaces⟩
    rw [Text.cells_append, cells_spaces] at h ⊢
    rw [List.replicate_append_replicate]
    congr 1
    omega

theorem pad_closed_iff (h : Text.cells s ≤ width) :
    Table.pad false width (closed width s) = Table.pad false width s ↔ ∀ c ∈ overhang width s, c = ' ' := by
  have hsplit := closed_append_overhang width s
  have hfits : Text.cells (closed width s ++ overhang width s) ≤ width := by rwa [hsplit]
  have hpad := pad_append_iff hfits
  rwa [hsplit] at hpad

theorem eq_of_last_of_start {d : Char} (hc : u ++ [c] <+: s) (hd : u ++ [d] <+: s) : c = d := by
  have hprefix := List.prefix_of_prefix_length_le hc hd (by simp)
  have heq := hprefix.eq_of_length (by simp)
  exact (List.cons.inj (List.append_cancel_left heq)).1

section Column

theorem not_losesBackslash_of_pad
    (h : Table.pad false width (closed width (literalCell s)) = Table.pad false width s) : ¬ LosesBackslash s := by
  intro hloses
  obtain ⟨before, rest, shown, hs, hshown⟩ := literal_diverges hloses
  have hbracket : before ++ ['['] <+: Table.pad false width s := by
    rw [← h]
    apply List.IsPrefix.trans _ (List.prefix_append _ _)
    rw [literalCell, hshown, List.append_assoc, List.cons_append]
    exact prefix_closed (by decide) width before _
  have hslash : before ++ ['\x5c'] <+: Table.pad false width s := by
    apply List.IsPrefix.trans _ (List.prefix_append _ _)
    exact ⟨rest, by rw [hs, List.append_assoc, List.singleton_append]⟩
  have heq := eq_of_last_of_start hbracket hslash
  revert heq
  decide

theorem endsInBackslash_of_pad
    (h : Table.pad false width (closed width (literalCell s)) = Table.pad false width s)
    (hkeeps : ¬ LosesBackslash s) : endsInBackslash s = false := by
  rw [Bool.eq_false_iff]
  intro hend
  have hdoubled : literalCell s = s ++ ['\x5c'] := by
    rw [literalCell, literal_eq_self_iff.mpr hkeeps, if_pos hend]
  have hslash : s ++ ['\x5c'] <+: Table.pad false width s := by
    rw [← h, hdoubled]
    exact (prefix_closed (by decide) width s []).trans (List.prefix_append _ _)
  rw [Table.pad, if_neg Bool.false_ne_true, List.prefix_append_right_inj] at hslash
  have heq := List.eq_of_mem_replicate (hslash.subset List.mem_cons_self)
  revert heq
  decide

theorem literalCell_eq_self (hkeeps : ¬ LosesBackslash s) (hsingle : endsInBackslash s = false) :
    literalCell s = s := by
  rw [literalCell, literal_eq_self_iff.mpr hkeeps, hsingle, if_neg Bool.false_ne_true, List.append_nil]

theorem cells_pad (alignsRight : Bool) (h : Text.cells s ≤ width) :
    Text.cells (Table.pad alignsRight width s) = width := by
  unfold Table.pad
  split
  · rw [Text.cells_append, cells_spaces]
    omega
  · rw [Text.cells_append, cells_spaces]
    omega

theorem cells_le_of_pad (h : Table.pad false width t = Table.pad false width s) (ht : Text.cells t ≤ width) :
    Text.cells s ≤ width := by
  have hcells := cells_pad false ht
  have hstart : s <+: Table.pad false width s := List.prefix_append _ _
  rw [h] at hcells
  rw [← hcells]
  exact cells_prefix_le hstart

/-- A text that the doubled backslash alone makes too wide has a full line, which the cut one differs from. -/
theorem pad_cut_ne {start : Text} (hs : Text.cells s ≤ width) (hover : width < Text.cells (literalCell s)) :
    Table.pad false width (start ++ ['…']) ≠ Table.pad false width s := by
  have hliteral := cells_le_of_sublist (literal_sublist s)
  have hslash : Text.cells ['\x5c'] = 1 := by decide
  have hend : endsInBackslash s = true := by
    rw [← Bool.not_eq_false]
    intro hsingle
    rw [literalCell, hsingle, if_neg Bool.false_ne_true, List.append_nil] at hover
    omega
  rw [literalCell, if_pos hend, Text.cells_append, hslash] at hover
  have hfull : Table.pad false width s = s := by
    have hnone : width - Text.cells s = 0 := by omega
    rw [Table.pad, if_neg Bool.false_ne_true, hnone]
    exact List.append_nil s
  have hlast : s.getLast? = some '\x5c' := by
    by_contra hother
    rw [endsInBackslash_of_getLast? hother] at hend
    cases hend
  rw [hfull]
  intro heq
  rw [← heq, Table.pad, if_neg Bool.false_ne_true, List.getLast?_append] at hlast
  cases hspace : width - Text.cells (start ++ ['…']) with
  | zero =>
    rw [hspace, List.replicate_zero, List.getLast?_nil, Option.none_or, List.getLast?_concat] at hlast
    revert hlast
    decide
  | succ n =>
    rw [hspace, List.getLast?_replicate, if_neg (Nat.succ_ne_zero n), Option.some_or] at hlast
    revert hlast
    decide

theorem framed_inj (alignsRight : Bool) :
    framed alignsRight width s = framed alignsRight width t ↔
      Table.pad alignsRight (width - 2) s = Table.pad alignsRight (width - 2) t := by
  simp [framed]

theorem cellLines_of_room (alignsRight : Bool) (hroom : 2 < width) (s : Text) :
    Table.cellLines alignsRight width s = (laid .cuts (width - 2) s).map (framed alignsRight width) := by
  rw [Table.cellLines, if_neg (Nat.not_le_of_lt hroom)]
  rfl

theorem exists_parts_of_room (h : Plain s) (alignsRight : Bool) (hroom : 2 < width) :
    ∃ parts : List Text, parts.flatten = s ∧ Table.cellLines alignsRight width s =
      parts.map fun p => framed alignsRight width (cut .cuts (width - 2) (closed (width - 2) p)) := by
  refine ⟨broken .cuts (width - 2) s, flatten_broken .cuts _ s, ?_⟩
  rw [cellLines_of_room alignsRight hroom, h.laid_eq, List.map_map]
  rfl

theorem cellLines_of_fits (h : Plain s) (alignsRight : Bool) (hroom : 2 < width) (hfits : Text.cells s ≤ width - 2) :
    Table.cellLines alignsRight width s = [framed alignsRight width (closed (width - 2) s)] := by
  rw [cellLines_of_room alignsRight hroom, h.laid_of_fits .cuts hfits, List.map_singleton]

theorem verbatim_of_cellLines (h : Plain s)
    (heq : Table.cellLines false width (literalCell s) = [framed false width s]) : Verbatim width s := by
  have hroom : 2 < width := by
    refine Nat.lt_of_not_le fun hnone => ?_
    rw [Table.cellLines, if_pos hnone] at heq
    cases heq
  rw [cellLines_of_room false hroom, List.map_eq_singleton_iff] at heq
  obtain ⟨l, hlaid, hframed⟩ := heq
  have hpad := (framed_inj false).mp hframed
  have hl := h.literalCell.laid_eq_singleton hlaid
  have hcut := cells_cut_le (by omega : 0 < width - 2) .cuts (closed (width - 2) (literalCell s))
  rw [← hl] at hcut
  have hfits := cells_le_of_pad hpad hcut
  by_cases hclosed : Text.cells (closed (width - 2) (literalCell s)) ≤ width - 2
  · rw [cut.eq_def, if_pos hclosed] at hl
    rw [hl] at hpad
    have hkeeps := not_losesBackslash_of_pad hpad
    have hsingle := endsInBackslash_of_pad hpad hkeeps
    rw [literalCell_eq_self hkeeps hsingle] at hpad
    exact ⟨hroom, hfits, hkeeps, hsingle, (pad_closed_iff hfits).mp hpad⟩
  · have hover := Nat.lt_of_lt_of_le (Nat.lt_of_not_le hclosed) (cells_prefix_le (closed_prefix_self _ _))
    rw [cut.eq_def, if_neg hclosed] at hl
    rw [hl] at hpad
    exact absurd hpad (pad_cut_ne hfits hover)

/-- A column shows a text as it is unless the text is too wide for it, a backslash is lost or doubled or white space at
its end is dropped. -/
theorem cellLines_eq_iff (h : Plain s) :
    Table.cellLines false width (literalCell s) = [framed false width s] ↔ Verbatim width s := by
  constructor
  · exact verbatim_of_cellLines h
  · rintro ⟨hroom, hfits, hkeeps, hsingle, hspaces⟩
    rw [literalCell_eq_self hkeeps hsingle, cellLines_of_fits h false hroom hfits, List.cons.injEq, framed_inj]
    exact ⟨(pad_closed_iff hfits).mpr hspaces, rfl⟩

end Column

section Message

theorem Plain.exists_parts_of_line (h : Plain s) (hwidth : 0 < width) :
    ∃ parts : List Text, parts.flatten = s ∧
      line width s = parts.flatMap fun p => cut .folds width (closed width p) ++ ['\n'] := by
  refine ⟨broken .folds width s, flatten_broken .folds width s, ?_⟩
  rw [line_eq_flatMap hwidth, h.laid_eq, List.flatMap_map]

theorem Plain.standsOn (h : Plain s) (hwidth : 0 < width)
    (hcells : ∀ c ∈ s, 0 < Text.cellsOf c ∧ Text.cellsOf c ≤ width) :
    StandsOn width (laid .folds width s) s := by
  rw [h.laid_eq]
  exact standsOn_broken hwidth hcells

theorem closed_eq_self (hs : Text.trimEnd s = s) (width : Nat) : closed width s = s := by
  have hstart := trimEnd_prefix_closed width s
  rw [hs] at hstart
  exact (closed_prefix_self width s).eq_of_length_le hstart.length_le

theorem eq_singleton_of_flatMap {lines : List Text} (h : '\n' ∉ t)
    (heq : lines.flatMap (· ++ ['\n']) = t ++ ['\n']) : lines = [t] := by
  have hcount := congrArg (List.count '\n') heq
  cases lines with
  | nil => simp at heq
  | cons l ls =>
    rw [List.flatMap_cons, List.count_append, List.count_append, List.count_append, List.count_eq_zero.mpr h,
      List.count_singleton_self] at hcount
    cases ls with
    | nil => simpa using heq
    | cons m ms =>
      rw [List.flatMap_cons, List.count_append, List.count_append, List.count_singleton_self] at hcount
      omega

theorem Plain.line_eq_iff (ht : Plain t) (hink : 0 < Text.cells t) (hsub : s.Sublist t)
    (hend : Text.trimEnd s = s) : line width s = t ++ ['\n'] ↔ s = t ∧ Text.cells t ≤ width := by
  have hs := ht.of_sublist hsub
  rcases Nat.eq_zero_or_pos width with rfl | hwidth
  · constructor
    · intro heq
      simp [line] at heq
    · rintro ⟨-, hfits⟩
      omega
  rw [line_eq_flatMap hwidth]
  constructor
  · intro heq
    have hlaid := eq_singleton_of_flatMap ht.notMem_newline heq
    have hcut := hs.laid_eq_singleton hlaid
    rw [closed_eq_self hend] at hcut
    have hfits := cells_cut_le hwidth .folds s
    rw [← hcut] at hfits
    have hself := Nat.le_trans (cells_le_of_sublist hsub) hfits
    rw [cut.eq_def, if_pos hself] at hcut
    exact ⟨hcut.symm, hfits⟩
  · rintro ⟨rfl, hfits⟩
    rw [hs.laid_of_fits .folds hfits, closed_eq_self hend, List.flatMap_singleton]

end Message

end JobBoards.Screen
