import JobBoards.Proofs.Text.Pieces
import JobBoards.Shell
import Mathlib.Data.List.TakeWhile
namespace JobBoards.Dialogue

/-- The lines of an input; the last one may go without a line break. -/
def lines (input : Text) : List Text :=
  let pieces := Text.splitOn '\n' input
  if pieces.getLast? = some [] then pieces.dropLast else pieces

def terminated (lines : List Text) : Text := lines.flatMap fun line => line ++ ['\n']

def leaves (line : Text) : Bool := Text.trim line == "exit".toList

def answered (input : Text) : List Text := (lines input).takeWhile fun line => !leaves line

def read (input : Text) : Text := terminated ((lines input).take ((answered input).length + 1))

def unread (input : Text) : Text := input.drop (read input).length

def Unbroken (line : Text) : Prop := ∀ c ∈ line, (c == '\n') = false

variable {input line rest : Text}

theorem unbroken_or_append (input : Text) :
    Unbroken input ∨ ∃ line rest, Unbroken line ∧ input = line ++ '\n' :: rest := by
  induction input with
  | nil =>
    refine .inl fun c hc => ?_
    cases hc
  | cons c s ih =>
    by_cases hc : (c == '\n') = true
    · obtain rfl := eq_of_beq hc
      refine .inr ⟨[], s, fun c hc => ?_, rfl⟩
      cases hc
    · have hc := Bool.eq_false_iff.mpr hc
      rcases ih with hs | ⟨line, rest, hline, rfl⟩
      · exact .inl (List.forall_mem_cons.mpr ⟨hc, hs⟩)
      · exact .inr ⟨c :: line, rest, List.forall_mem_cons.mpr ⟨hc, hline⟩, rfl⟩

@[elab_as_elim]
theorem input_induction {P : Text → Prop} (input : Text) (empty : P [])
    (last : ∀ line, Unbroken line → line ≠ [] → P line)
    (more : ∀ line rest, Unbroken line → P rest → P (line ++ '\n' :: rest)) : P input := by
  induction hn : input.length using Nat.strongRecOn generalizing input with
  | _ n ih =>
    rcases unbroken_or_append input with hline | ⟨line, rest, hline, rfl⟩
    · by_cases hempty : input = []
      · rw [hempty]
        exact empty
      · exact last input hline hempty
    · have hshorter : rest.length < n := by
        rw [← hn, List.length_append, List.length_cons]
        omega
      exact more line rest hline (ih rest.length hshorter rest rfl)

theorem nextLine_append (h : Unbroken line) (rest : Text) :
    Shell.nextLine (line ++ '\n' :: rest) = (line, rest) := by
  have hne : ∀ c ∈ line, (c != '\n') = true := fun c hc => congrArg not (h c hc)
  rw [Shell.nextLine, List.takeWhile_append_of_pos hne, List.dropWhile_append_of_pos hne]
  simp

theorem nextLine_last (h : Unbroken line) : Shell.nextLine line = (line, []) := by
  have hne : ∀ c ∈ line, (c != '\n') = true := fun c hc => congrArg not (h c hc)
  rw [Shell.nextLine, List.takeWhile_eq_self_iff.mpr hne, List.dropWhile_eq_nil_iff.mpr hne]
  rfl

theorem lines_append (h : Unbroken line) (rest : Text) :
    lines (line ++ '\n' :: rest) = line :: lines rest := by
  have hpieces := Text.pieces_append_cons h (beq_self_eq_true '\n') rest
  obtain ⟨piece, pieces, hrest⟩ := List.exists_cons_of_ne_nil (Text.pieces_ne_nil (· == '\n') rest)
  simp only [lines, Text.splitOn, hpieces, hrest, List.getLast?_cons_cons]
  split <;> rfl

theorem lines_last (h : Unbroken line) (hline : line ≠ []) : lines line = [line] := by
  simp [lines, Text.splitOn, Text.pieces_eq_singleton h, hline]

theorem read_append_of_leaves (h : Unbroken line) (hleaves : leaves line = true) (rest : Text) :
    answered (line ++ '\n' :: rest) = [] ∧ read (line ++ '\n' :: rest) = line ++ ['\n'] ∧
      unread (line ++ '\n' :: rest) = rest := by
  have hanswered : answered (line ++ '\n' :: rest) = [] := by
    simp [answered, lines_append h, hleaves]
  have hread : read (line ++ '\n' :: rest) = line ++ ['\n'] := by
    simp [read, hanswered, lines_append h, terminated]
  refine ⟨hanswered, hread, ?_⟩
  rw [unread, hread]
  simp

theorem read_append (h : Unbroken line) (hleaves : leaves line = false) (rest : Text) :
    answered (line ++ '\n' :: rest) = line :: answered rest ∧
      read (line ++ '\n' :: rest) = line ++ '\n' :: read rest ∧
      unread (line ++ '\n' :: rest) = unread rest := by
  have hanswered : answered (line ++ '\n' :: rest) = line :: answered rest := by
    simp [answered, lines_append h, hleaves]
  have hread : read (line ++ '\n' :: rest) = line ++ '\n' :: read rest := by
    simp [read, hanswered, lines_append h, terminated]
  refine ⟨hanswered, hread, ?_⟩
  rw [unread, hread, unread]
  simp

theorem read_last (h : Unbroken line) (hline : line ≠ []) :
    answered line = (if leaves line then [] else [line]) ∧ read line = line ++ ['\n'] ∧
      unread line = [] := by
  have hread : read line = line ++ ['\n'] := by
    simp [read, lines_last h hline, terminated]
  refine ⟨?_, hread, ?_⟩
  · cases hleaves : leaves line <;> simp [answered, lines_last h hline, hleaves]
  · rw [unread, hread]
    simp

theorem leaves_of_mem_answered (h : line ∈ answered input) : leaves line = false := by
  have hstays := List.mem_takeWhile_imp h
  rwa [Bool.not_eq_true'] at hstays

theorem read_append_any (h : ∃ line ∈ lines input, leaves line = true) (rest : Text) :
    answered (read input ++ rest) = answered input ∧ unread (read input ++ rest) = rest := by
  induction input using input_induction with
  | empty =>
    obtain ⟨other, hmem, -⟩ := h
    cases hmem
  | last line hline hne =>
    obtain ⟨other, hmem, hleaves⟩ := h
    rw [lines_last hline hne, List.mem_singleton] at hmem
    rw [hmem] at hleaves
    obtain ⟨hanswered, hread, -⟩ := read_last hline hne
    obtain ⟨hanswered', -, hunread⟩ := read_append_of_leaves hline hleaves rest
    rw [hread, hanswered, if_pos hleaves, List.append_assoc]
    exact ⟨hanswered', hunread⟩
  | more line later hline ih =>
    cases hleaves : leaves line with
    | true =>
      obtain ⟨hanswered, hread, -⟩ := read_append_of_leaves hline hleaves later
      obtain ⟨hanswered', -, hunread⟩ := read_append_of_leaves hline hleaves rest
      rw [hread, hanswered, List.append_assoc]
      exact ⟨hanswered', hunread⟩
    | false =>
      obtain ⟨other, hmem, hother⟩ := h
      rw [lines_append hline, List.mem_cons] at hmem
      rcases hmem with rfl | hmem
      · rw [hleaves] at hother
        cases hother
      · obtain ⟨hanswered, hread, -⟩ := read_append hline hleaves later
        obtain ⟨hanswered', -, hunread'⟩ := read_append hline hleaves (read later ++ rest)
        obtain ⟨ihanswered, ihunread⟩ := ih ⟨other, hmem, hother⟩
        rw [hread, hanswered, List.append_assoc, List.cons_append, hanswered', hunread', ihanswered]
        exact ⟨rfl, ihunread⟩

end JobBoards.Dialogue
