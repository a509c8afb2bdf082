import JobBoards.Proofs.Dialogue.Transcript
import JobBoards.Proofs.Screen.Verbatim
import JobBoards.Proofs.Text.Digits
namespace JobBoards.Dialogue
open Screen (Renderer Plain LosesBackslash Verbatim StandsOn)

structure Outside (d : Renderer) (s : Text) : Prop where
  plain : Plain s
  codeFree : d.CodeFree s

def complaint (line : Text) : Text := '\x22' :: line ++ "\" is not a valid command".toList

def errorOf (r : Report) : Text := r.outcome.error?.getD []

def columnWidth (width : Nat) (reports : List Report) (n : Nat) : Nat :=
  ((Shell.reportTable reports).widths width).getD n 0

def fullWidth (reports : List Report) : Nat := Screen.Table.total (Shell.reportTable reports).asked + 5

def reportCells (width : Nat) (reports : List Report) (r : Report) : List (List Text) :=
  [Screen.Table.cellLines false (columnWidth width reports 0) (Screen.literalCell r.source),
    Screen.Table.cellLines false (columnWidth width reports 1) (if r.outcome.isOk then "ok" else "failed"),
    Screen.Table.cellLines true (columnWidth width reports 2) (Text.ofNat r.outcome.count),
    Screen.Table.cellLines false (columnWidth width reports 3) (Screen.literalCell (errorOf r))]

def reportLine (width : Nat) (reports : List Report) (r : Report) (n : Nat) : Text :=
  Screen.Table.joined Screen.Table.row ((reportCells width reports r).zipIdx.map fun c =>
    c.1.getD n (List.replicate (columnWidth width reports c.2) ' '))

def reportLines (width : Nat) (reports : List Report) (r : Report) : List Text :=
  (List.range (((reportCells width reports r).map List.length).foldl max 1)).map (reportLine width reports r)

/-- A message is printed in parts, one line each, which are shortened to the width of the console; where each character
takes a cell and has room, white space at the ends of lines is all that is lost. -/
structure Wrapped (width : Nat) (s printed : Text) : Prop where
  parts : 0 < width → ∃ parts : List Text, parts.flatten = s ∧
    printed = parts.flatMap fun p => Screen.cut .folds width (Screen.closed width p) ++ ['\n']
  ink : 0 < width → (∀ c ∈ s, 0 < Text.cellsOf c ∧ Text.cellsOf c ≤ width) →
    ∃ lines, StandsOn width lines s ∧ printed = lines.flatMap (· ++ ['\n'])

/-- A column shows a text as it is rendered, in parts on as many lines as it takes. -/
structure Shown (d : Renderer) (width : Nat) (s : Text) : Prop where
  rendered : d.rendered (Screen.escape s) = some (Screen.literalCell s)
  parts : 2 < width → ∃ parts : List Text, parts.flatten = Screen.literalCell s ∧
    Screen.Table.cellLines false width (Screen.literalCell s) =
      parts.map fun p => Screen.framed false width (Screen.cut .cuts (width - 2) (Screen.closed (width - 2) p))
  verbatim_iff : Screen.Table.cellLines false width (Screen.literalCell s) = [Screen.framed false width s] ↔
    Verbatim width s

structure Listed (d : Renderer) (width : Nat) (reports : List Report) (r : Report) : Prop where
  lines : 5 ≤ width → ∃ above below,
    (Shell.reportTable reports).text width = above ++ (reportLines width reports r).flatMap (· ++ ['\n']) ++ below
  source : Shown d (columnWidth width reports 0) r.source
  error : Shown d (columnWidth width reports 3) (errorOf r)
  line : fullWidth reports ≤ width → reportLines width reports r = [reportLine width reports r 0]
  source_iff : fullWidth reports ≤ width → (Verbatim (columnWidth width reports 0) r.source ↔
    ¬ LosesBackslash r.source ∧ Screen.endsInBackslash r.source = false ∧
      ∀ c ∈ Screen.overhang (columnWidth width reports 0 - 2) r.source, c = ' ')
  error_iff : fullWidth reports ≤ width → (Verbatim (columnWidth width reports 3) (errorOf r) ↔
    ¬ LosesBackslash (errorOf r) ∧ Screen.endsInBackslash (errorOf r) = false ∧
      ∀ c ∈ Screen.overhang (columnWidth width reports 3 - 2) (errorOf r), c = ' ')

variable {d : Renderer} {s : Shell} {width : Nat} {reports : List Report} {r : Report} {input line rest : Text}

theorem leaves_eq_false (h : Command.ofLine line ≠ .leave) : leaves line = false := by
  rw [Bool.eq_false_iff]
  intro hleaves
  exact h (ofLine_of_leaves hleaves)

theorem converse_of_unknown (hinput : input ≠ []) (hnext : Shell.nextLine input = (line, rest))
    (h : Command.ofLine line = .unknown line) :
    s.converse input = (s.ask.say (complaint line)).converse rest := by
  have hstays := leaves_eq_false fun hleave => Command.noConfusion (h.symm.trans hleave)
  rw [converse_of_stays hinput hnext hstays, reply, h]
  rfl

theorem converse_of_sources (hinput : input ≠ []) (hnext : Shell.nextLine input = (line, rest))
    (h : Command.ofLine line = .sources) :
    s.converse input = s.ask.showReports.converse rest := by
  have hstays := leaves_eq_false fun hleave => Command.noConfusion (h.symm.trans hleave)
  rw [converse_of_stays hinput hnext hstays, reply, h]
  rfl

theorem plain_complaint (h : Plain line) : Plain (complaint line) := by
  have hquote : Plain ['\x22'] := by decide
  have hend : Plain "\" is not a valid command".toList := by decide
  exact (hquote.append h).append hend

theorem codeFree_complaint (h : d.CodeFree line) : d.CodeFree (complaint line) := by
  have hquoted : d.CodeFree ('\x22' :: line) := Renderer.CodeFree.cons (by decide) h
  exact hquoted.append (by decide)

@[simp]
theorem literal_complaint (line : Text) : Screen.literal (complaint line) = complaint (Screen.literal line) := by
  rw [complaint, Screen.literal_append_closed (by decide) (by decide), Screen.literal_cons, if_neg, complaint]
  rintro ⟨h, -⟩
  revert h
  decide

@[simp] theorem complaint_inj {other : Text} : complaint line = complaint other ↔ line = other := by
  simp [complaint]

@[simp] theorem trimEnd_complaint (line : Text) : Text.trimEnd (complaint line) = complaint line := by
  have hlast : "\" is not a valid command".toList = "\" is not a valid comman".toList ++ ['d'] := by decide
  rw [complaint, hlast, ← List.append_assoc]
  exact List.rdropWhile_concat_neg _ _ _ (by decide)

theorem wrapped_line {t : Text} (h : Plain t) (width : Nat) : Wrapped width t (Screen.line width t) where
  parts := fun hwidth => h.exists_parts_of_line hwidth
  ink := fun hwidth hcells => ⟨_, h.standsOn hwidth hcells, Screen.line_eq_flatMap hwidth t⟩

theorem line_complaint_iff (h : Plain line) :
    Screen.line width (Screen.literal (complaint line)) = complaint line ++ ['\n'] ↔
      ¬ LosesBackslash line ∧ Text.cells (complaint line) ≤ width := by
  have hink : 0 < Text.cells (complaint line) := by
    have hquote : Text.cellsOf '\x22' = 1 := by decide
    rw [complaint, List.cons_append, Text.cells, hquote]
    omega
  have hend : Text.trimEnd (Screen.literal (complaint line)) = Screen.literal (complaint line) := by
    rw [literal_complaint, trimEnd_complaint]
  rw [(plain_complaint h).line_eq_iff hink (Screen.literal_sublist _) hend, literal_complaint, complaint_inj,
    Screen.literal_eq_self_iff]

theorem rendered_complaint (h : Outside d line) :
    d.rendered (Screen.emphasised (Screen.escape (complaint line))) = some (Screen.literal (complaint line)) := by
  apply Renderer.rendered_emphasised (codeFree_complaint h.codeFree)
  have hend : "\" is not a valid command".toList.getLast? = some 'd' := by decide
  rw [complaint, List.getLast?_append, hend, Option.some_or]
  decide


section Table

theorem widths_reportTable (width : Nat) (reports : List Report) : (Shell.reportTable reports).widths width =
    [columnWidth width reports 0, columnWidth width reports 1, columnWidth width reports 2,
      columnWidth width reports 3] := by
  have hlength := (Shell.reportTable reports).length_widths width
  obtain ⟨a, b, c, e, hwidths⟩ := List.length_eq_four.mp hlength
  simp [columnWidth, hwidths]

theorem rowLines_report (width : Nat) (reports : List Report) (r : Report) :
    Screen.Table.rowLines Screen.Table.row (Shell.reportTable reports).columns
      ((Shell.reportTable reports).widths width) (Shell.reportRow r) = reportLines width reports r := by
  rw [widths_reportTable]
  rfl

theorem across_le (hwidth : 5 ≤ width) (reports : List Report) :
    Screen.Table.total ((Shell.reportTable reports).widths width) + (Shell.reportTable reports).columns.length + 1 ≤
      width := by
  have htotal := (Shell.reportTable reports).total_widths_le width
  have hcolumns : (Shell.reportTable reports).columns.length = 4 := rfl
  rw [Screen.Table.room, hcolumns] at htotal
  rw [hcolumns]
  omega

theorem exists_lines (hr : r ∈ reports) (hwidth : 5 ≤ width) : ∃ above below,
    (Shell.reportTable reports).text width =
      above ++ (reportLines width reports r).flatMap (· ++ ['\n']) ++ below := by
  have hrow : Shell.reportRow r ∈ (Shell.reportTable reports).rows := List.mem_map_of_mem hr
  obtain ⟨above, below, hlines⟩ := Screen.Table.exists_lines_of_mem (across_le hwidth reports) hrow
  have hpos : width ≠ 0 := by omega
  rw [rowLines_report] at hlines
  rw [Screen.Table.text, if_neg hpos, hlines, List.flatMap_append, List.flatMap_append]
  exact ⟨_, _, rfl⟩

theorem plain_count (n : Nat) : Plain (Text.ofNat n) := by
  rw [Screen.plain_iff]
  intro c hc
  have hdigit := Text.toNat_of_isDigit (Text.isDigit_of_mem_ofNat n c hc)
  omega

theorem plain_reportRow (hsource : Plain r.source) (herror : Plain (errorOf r)) :
    ∀ s ∈ Shell.reportRow r, Plain s := by
  have hstatus : Plain (if r.outcome.isOk then "ok" else "failed" : Text) := by
    cases r.outcome.isOk with
    | true => decide
    | false => decide
  simp only [Shell.reportRow, List.forall_mem_cons, List.not_mem_nil, false_implies, implies_true, and_true]
  exact ⟨hsource.literalCell, hstatus, plain_count _, herror.literalCell⟩

theorem columnWidth_of_full (hwidth : fullWidth reports ≤ width) (n : Nat) :
    columnWidth width reports n = (Shell.reportTable reports).asked.getD n 0 := by
  rw [columnWidth, Screen.Table.widths_eq_asked hwidth]

theorem cells_le_columnWidth (hr : r ∈ reports) (hwidth : fullWidth reports ≤ width) {n : Nat} (hn : n < 4)
    (h : Plain ((Shell.reportRow r).getD n [])) :
    Text.cells ((Shell.reportRow r).getD n []) ≤ columnWidth width reports n - 2 := by
  have hrow : Shell.reportRow r ∈ (Shell.reportTable reports).rows := List.mem_map_of_mem hr
  have hasked := Screen.Table.measured_le_asked hrow hn
  rw [← h.measured_eq, columnWidth_of_full hwidth]
  omega

theorem two_lt_columnWidth (hwidth : fullWidth reports ≤ width) {n : Nat} (hn : n < 4) :
    2 < columnWidth width reports n := by
  have htitle := Screen.Table.measured_title_le_asked (t := Shell.reportTable reports) hn
  have hmeasured : ∀ c ∈ (Shell.reportTable reports).columns, 0 < Screen.measured c.title := by
    simp only [Shell.reportTable]
    decide
  have hpos := hmeasured _ (List.getElem_mem hn)
  rw [columnWidth_of_full hwidth]
  omega

theorem reportLines_of_full (hr : r ∈ reports) (hwidth : fullWidth reports ≤ width) (hsource : Plain r.source)
    (herror : Plain (errorOf r)) : reportLines width reports r = [reportLine width reports r 0] := by
  have hplain := plain_reportRow hsource herror
  simp only [Shell.reportRow, List.forall_mem_cons] at hplain
  obtain ⟨hfirst, hsecond, hthird, hfourth, -⟩ := hplain
  have hcell {n : Nat} (hn : n < 4) (h : Plain ((Shell.reportRow r).getD n [])) (alignsRight : Bool) :
      (Screen.Table.cellLines alignsRight (columnWidth width reports n) ((Shell.reportRow r).getD n [])).length = 1 := by
    rw [Screen.cellLines_of_fits h alignsRight (two_lt_columnWidth hwidth hn) (cells_le_columnWidth hr hwidth hn h)]
    rfl
  have hheight : (reportCells width reports r).map List.length = [1, 1, 1, 1] := by
    simp only [reportCells, List.map_cons, List.map_nil, List.cons.injEq, and_true]
    exact ⟨hcell (n := 0) (by decide) hfirst false, hcell (n := 1) (by decide) hsecond false,
      hcell (n := 2) (by decide) hthird true, hcell (n := 3) (by decide) hfourth false⟩
  rw [reportLines, hheight]
  rfl

theorem shown (h : Outside d line) (width : Nat) : Shown d width line where
  rendered := Renderer.rendered_escape h.codeFree
  parts := Screen.exists_parts_of_room h.plain.literalCell false
  verbatim_iff := Screen.cellLines_eq_iff h.plain

theorem verbatim_iff_of_full (hr : r ∈ reports) (hwidth : fullWidth reports ≤ width) {n : Nat} (hn : n < 4) {t : Text}
    (ht : Plain t) (hcell : (Shell.reportRow r).getD n [] = Screen.literalCell t) :
    Verbatim (columnWidth width reports n) t ↔ ¬ LosesBackslash t ∧ Screen.endsInBackslash t = false ∧
      ∀ c ∈ Screen.overhang (columnWidth width reports n - 2) t, c = ' ' := by
  constructor
  · intro h
    exact ⟨h.keeps, h.single, h.spaces⟩
  · rintro ⟨hkeeps, hsingle, hspaces⟩
    have hplain : Plain ((Shell.reportRow r).getD n []) := by
      rw [hcell]
      exact ht.literalCell
    have hfits := cells_le_columnWidth hr hwidth hn hplain
    rw [hcell, Screen.literalCell_eq_self hkeeps hsingle] at hfits
    exact ⟨two_lt_columnWidth hwidth hn, hfits, hkeeps, hsingle, hspaces⟩

theorem listed (hr : r ∈ reports) (hsource : Outside d r.source) (herror : Outside d (errorOf r)) (width : Nat) :
    Listed d width reports r where
  lines := exists_lines hr
  source := shown hsource _
  error := shown herror _
  line := fun hwidth => reportLines_of_full hr hwidth hsource.plain herror.plain
  source_iff := fun hwidth => verbatim_iff_of_full hr hwidth (by decide) hsource.plain rfl
  error_iff := fun hwidth => verbatim_iff_of_full hr hwidth (by decide) herror.plain rfl

end Table

def pictureless : Renderer where
  styleName := Text.trim
  isPicture := fun _ => false
  pictured := id
  notMem_picture := fun _ h => absurd h Bool.false_ne_true
  pictured_eq := fun _ _ => rfl

theorem outside_pictureless {t : Text} (h : Plain t) : Outside pictureless t :=
  ⟨h, fun _ hname => absurd hname Bool.false_ne_true⟩

def reporting (width : Nat) (error : Text) : Shell :=
  .start width { Repository.new [] none .standard none with
    snapshot := { Snapshot.empty with reports := [⟨"board", .failed error⟩] } }

def tagged : Text := "[b] \\[/b] [c:\\d".toList

end JobBoards.Dialogue
