import JobBoards.Posting.Field
import JobBoards.Posting.Sheet
import JobBoards.Proofs.Text.Pieces
namespace JobBoards

def Marking.cut (text : Text) (m : Marking) : Text := (text.drop m.start).take (m.stop - m.start)

theorem Marking.cut_append (before piece after : Text) (style : Style) :
    cut (before ++ (piece ++ after)) ⟨before.length, before.length + piece.length, style⟩ = piece := by
  rw [cut, Nat.add_sub_cancel_left, List.drop_left, List.take_left]

namespace Styled
variable {s : Styled} {piece : Text}

@[simp] theorem append_nil (s : Styled) (style : Option Style) : s.append [] style = s := rfl

theorem append_char {c : Char} (hc : Screen.isShown c = true) (s : Styled) :
    s.append [c] none = ⟨s.text ++ [c], s.markings⟩ := by
  rw [append, if_neg (by simp), Screen.visible, List.filter_cons_of_pos hc]
  rfl

theorem append_marked (h : piece ≠ []) (s : Styled) (style : Style) :
    s.append piece (some style) = ⟨s.text ++ Screen.visible piece,
      s.markings ++ [⟨s.text.length, s.text.length + (Screen.visible piece).length, style⟩]⟩ :=
  if_neg (mt List.isEmpty_iff.mp h)

end Styled

namespace SheetRow
variable {row : SheetRow} {rows : List SheetRow} {s : Styled}

def line (row : SheetRow) : Text := row.label ++ ' ' :: Screen.visible row.value

def lines (rows : List SheetRow) : Text := rows.flatMap fun row => row.line ++ ['\n']

def markings (start : Nat) (row : SheetRow) : List Marking :=
  ⟨start, start + row.label.length, .label⟩ ::
    if row.value = [] then [] else [⟨start + row.label.length + 1, start + row.line.length, row.style⟩]

def allMarkings : Nat → List SheetRow → List Marking
  | _, [] => []
  | start, row :: rows => row.markings start ++ allMarkings (start + row.line.length + 1) rows

def marked (row : SheetRow) : List (Text × Style) :=
  (row.label, .label) :: if row.value = [] then [] else [(Screen.visible row.value, row.style)]

structure Labelled (row : SheetRow) : Prop where
  visible_label : Screen.visible row.label = row.label
  label_ne : row.label ≠ []
  label_line : '\n' ∉ row.label
  style_ne : row.style ≠ .label

@[simp] theorem length_line (row : SheetRow) :
    row.line.length = row.label.length + 1 + (Screen.visible row.value).length := by
  simp only [line, List.length_append, List.length_cons]
  omega

theorem stop_value (start : Nat) (row : SheetRow) :
    start + row.label.length + 1 + (Screen.visible row.value).length = start + row.line.length := by
  rw [length_line]
  omega

theorem addRow_eq (h : row.Labelled) (s : Styled) :
    Posting.addRow s row = ⟨s.text ++ (row.line ++ ['\n']), s.markings ++ row.markings s.text.length⟩ := by
  rw [Posting.addRow, Styled.append_marked h.label_ne, h.visible_label, Styled.append_char (c := ' ') rfl]
  by_cases hvalue : row.value = []
  · rw [hvalue, Styled.append_nil, Styled.append_char (c := '\n') rfl, line, markings, hvalue]
    simp [Screen.visible]
  · have hstart : (s.text ++ row.label ++ [' ']).length = s.text.length + row.label.length + 1 := by
      simp [Nat.add_assoc]
    rw [Styled.append_marked hvalue, Styled.append_char (c := '\n') rfl, markings, if_neg hvalue]
    simp only [hstart, stop_value, line]
    simp

theorem foldl_addRow (h : ∀ row ∈ rows, row.Labelled) (s : Styled) :
    rows.foldl Posting.addRow s = ⟨s.text ++ lines rows, s.markings ++ allMarkings s.text.length rows⟩ := by
  induction rows generalizing s with
  | nil => simp [lines, allMarkings]
  | cons row rows ih =>
    obtain ⟨hrow, hrows⟩ := List.forall_mem_cons.mp h
    rw [List.foldl_cons, ih hrows, addRow_eq hrow]
    simp [lines, allMarkings, Nat.add_assoc]

@[simp]
theorem lines_cons (row : SheetRow) (rows : List SheetRow) : lines (row :: rows) = row.line ++ '\n' :: lines rows := by
  simp [lines]

theorem markings_within (start : Nat) (row : SheetRow) :
    ∀ m ∈ row.markings start, start ≤ m.start ∧ m.start ≤ m.stop ∧ m.stop ≤ start + row.line.length := by
  have hline := row.length_line
  unfold markings
  rw [List.forall_mem_cons]
  constructor
  · dsimp only
    omega
  · split
    · simp
    · rw [List.forall_mem_singleton]
      dsimp only
      omega

theorem markings_apart (start : Nat) (row : SheetRow) :
    (row.markings start).Pairwise fun a b => a.stop < b.start := by
  unfold markings
  split
  · exact List.pairwise_singleton _ _
  · rw [List.pairwise_pair]
    dsimp only
    omega

theorem allMarkings_within (start : Nat) (rows : List SheetRow) :
    ∀ m ∈ allMarkings start rows, start ≤ m.start ∧ m.start ≤ m.stop ∧ m.stop < start + (lines rows).length := by
  induction rows generalizing start with
  | nil => simp [allMarkings]
  | cons row rows ih =>
    have hlines : (lines (row :: rows)).length = row.line.length + 1 + (lines rows).length := by
      rw [lines_cons, List.length_append, List.length_cons]
      omega
    rw [allMarkings, List.forall_mem_append]
    constructor
    · intro m hm
      have hrow := row.markings_within start m hm
      omega
    · intro m hm
      have hrest := ih _ m hm
      omega

/-- The line breaks keep the markings of different rows apart, and the spaces those of one row. -/
theorem allMarkings_apart (start : Nat) (rows : List SheetRow) :
    (allMarkings start rows).Pairwise fun a b => a.stop < b.start := by
  induction rows generalizing start with
  | nil => exact .nil
  | cons row rows ih =>
    rw [allMarkings, List.pairwise_append]
    refine ⟨row.markings_apart start, ih _, fun a ha b hb => ?_⟩
    have hrow := row.markings_within start a ha
    have hrest := allMarkings_within _ rows b hb
    omega

theorem cut_markings (before after : Text) (row : SheetRow) :
    (row.markings before.length).map (fun m => (m.cut (before ++ (row.line ++ after)), m.style)) = row.marked := by
  have hlabel := Marking.cut_append before row.label (' ' :: Screen.visible row.value ++ after) .label
  have hvalue := Marking.cut_append (before ++ (row.label ++ [' '])) (Screen.visible row.value) after row.style
  have hstart : (before ++ (row.label ++ [' '])).length = before.length + row.label.length + 1 := by
    rw [List.length_append, List.length_append, List.length_singleton, Nat.add_assoc]
  have htext : before ++ (row.label ++ [' ']) ++ (Screen.visible row.value ++ after) =
      before ++ (row.line ++ after) := by
    simp [line]
  rw [hstart, stop_value, htext] at hvalue
  rw [← List.append_assoc row.label, ← line] at hlabel
  unfold markings marked
  split
  · rw [List.map_singleton, hlabel]
  · rw [List.map_cons, List.map_singleton, hlabel, hvalue]

theorem cut_allMarkings (before after : Text) (rows : List SheetRow) :
    (allMarkings before.length rows).map (fun m => (m.cut (before ++ (lines rows ++ after)), m.style)) =
      rows.flatMap marked := by
  induction rows generalizing before with
  | nil => rfl
  | cons row rows ih =>
    have hrow := cut_markings before ('\n' :: lines rows ++ after) row
    have hrest := ih (before ++ (row.line ++ ['\n']))
    have hstart : (before ++ (row.line ++ ['\n'])).length = before.length + row.line.length + 1 := by
      rw [List.length_append, List.length_append, List.length_singleton, Nat.add_assoc]
    rw [hstart, List.append_assoc, List.append_assoc, List.singleton_append] at hrest
    rw [allMarkings, List.map_append, lines_cons, List.append_assoc, hrow, List.cons_append, hrest, List.flatMap_cons]

theorem filter_marked (h : row.Labelled) : row.marked.filter (·.2 = .label) = [(row.label, .label)] := by
  unfold marked
  split
  · rfl
  · simp [h.style_ne]

theorem filter_flatMap_marked (h : ∀ row ∈ rows, row.Labelled) :
    ((rows.flatMap marked).filter (·.2 = .label)).map Prod.fst = rows.map label := by
  induction rows with
  | nil => rfl
  | cons row rows ih =>
    obtain ⟨hrow, hrows⟩ := List.forall_mem_cons.mp h
    rw [List.flatMap_cons, List.filter_append, filter_marked hrow, List.map_append, ih hrows]
    rfl

theorem splitOn_lines (h : ∀ row ∈ rows, '\n' ∉ row.line) (rest : Text) :
    Text.splitOn '\n' (lines rows ++ rest) = rows.map line ++ Text.splitOn '\n' rest := by
  induction rows with
  | nil => rfl
  | cons row rows ih =>
    obtain ⟨hrow, hrows⟩ := List.forall_mem_cons.mp h
    rw [lines_cons, List.append_assoc, List.cons_append, Text.splitOn_append hrow, ih hrows]
    rfl

end SheetRow

namespace Field

def shown : List Field := [.title, .company, .date, .location, .pay, .tags, .link, .source]

def label : Field → Text
  | .title => "Position:"
  | .company => "Company:"
  | .date => "Date Posted:"
  | .location => "Location:"
  | .pay => "Remuneration:"
  | .tags => "Tags:"
  | .link => "Apply:"
  | .source => "Site:"

theorem label_stays (f : Field) : Screen.visible f.label = f.label ∧ f.label ≠ [] ∧ '\n' ∉ f.label := by
  cases f
  all_goals decide

end Field

namespace Posting

@[simp] theorem map_label_rows (p : Posting) : p.rows.map SheetRow.label = Field.shown.map Field.label := rfl

theorem style_rows (p : Posting) : ∀ row ∈ p.rows, row.style ≠ .label := by
  by_cases hlink : p.link = []
  · simp [rows, hlink]
  · simp [rows, hlink]

theorem labelled_rows (p : Posting) {row : SheetRow} (h : row ∈ p.rows) : row.Labelled := by
  have hlabel : row.label ∈ Field.shown.map Field.label := p.map_label_rows ▸ List.mem_map_of_mem h
  obtain ⟨f, -, hf⟩ := List.mem_map.mp hlabel
  obtain ⟨hvisible, hne, hline⟩ := f.label_stays
  rw [hf] at hvisible hne hline
  exact ⟨hvisible, hne, hline, p.style_rows row h⟩

theorem sheet_eq (p : Posting) : p.sheet =
    ⟨SheetRow.lines p.rows ++ '\n' :: separator,
      SheetRow.allMarkings 0 p.rows ++
        [⟨(SheetRow.lines p.rows).length + 1, (SheetRow.lines p.rows).length + 1 + separator.length, .plain⟩]⟩ := by
  have hseparator : Screen.visible separator = separator := by decide
  rw [sheet, SheetRow.foldl_addRow (fun row => p.labelled_rows), Styled.append_char (c := '\n') rfl,
    Styled.append_marked (by decide), hseparator]
  simp [Styled.empty]

structure LinesUp (rows : List SheetRow) (s : Styled) : Prop where
  text_eq : s.text = SheetRow.lines rows ++ '\n' :: separator
  markings_eq : s.markings = SheetRow.allMarkings 0 rows ++
    [⟨(SheetRow.lines rows).length + 1, s.text.length, .plain⟩]
  within : ∀ m ∈ s.markings, m.start ≤ m.stop ∧ m.stop ≤ s.text.length
  apart : s.markings.Pairwise fun a b => a.start < b.start ∧ a.stop < b.start
  covered : s.markings.map (fun m => (m.cut s.text, m.style)) = rows.flatMap SheetRow.marked ++ [(separator, .plain)]
  labels : (s.markings.filter (·.style = .label)).map (·.cut s.text) = rows.map SheetRow.label
  unbroken : (∀ row ∈ rows, '\n' ∉ Screen.visible row.value) →
    Text.splitOn '\n' s.text = rows.map SheetRow.line ++ [[], separator]

section LinesUp
variable (p : Posting)

@[simp] theorem text_sheet : p.sheet.text = SheetRow.lines p.rows ++ '\n' :: separator := by
  rw [sheet_eq]

theorem length_text_sheet : p.sheet.text.length = (SheetRow.lines p.rows).length + 1 + separator.length := by
  rw [text_sheet, List.length_append, List.length_cons]
  omega

theorem markings_sheet : p.sheet.markings = SheetRow.allMarkings 0 p.rows ++
    [⟨(SheetRow.lines p.rows).length + 1, p.sheet.text.length, .plain⟩] := by
  rw [length_text_sheet, sheet_eq]

theorem sheet_within : ∀ m ∈ p.sheet.markings, m.start ≤ m.stop ∧ m.stop ≤ p.sheet.text.length := by
  have hlength := p.length_text_sheet
  rw [markings_sheet, List.forall_mem_append, List.forall_mem_singleton]
  constructor
  · intro m hm
    have hrows := SheetRow.allMarkings_within 0 p.rows m hm
    omega
  · dsimp only
    omega

theorem sheet_apart : p.sheet.markings.Pairwise fun a b => a.start < b.start ∧ a.stop < b.start := by
  have hwithin := SheetRow.allMarkings_within 0 p.rows
  have hrows : (SheetRow.allMarkings 0 p.rows).Pairwise fun a b => a.start < b.start ∧ a.stop < b.start := by
    refine (SheetRow.allMarkings_apart 0 p.rows).imp_of_mem fun {a b} ha _ hlt => ?_
    have ha := hwithin a ha
    omega
  rw [markings_sheet, List.pairwise_append]
  refine ⟨hrows, List.pairwise_singleton _ _, fun a ha b hb => ?_⟩
  obtain rfl := List.mem_singleton.mp hb
  have ha := hwithin a ha
  dsimp only
  omega

theorem sheet_covered : p.sheet.markings.map (fun m => (m.cut p.sheet.text, m.style)) =
    p.rows.flatMap SheetRow.marked ++ [(separator, .plain)] := by
  have hrows := SheetRow.cut_allMarkings [] ('\n' :: separator) p.rows
  have hseparator := Marking.cut_append (SheetRow.lines p.rows ++ ['\n']) separator [] .plain
  rw [List.append_nil, List.append_assoc, List.singleton_append, ← text_sheet, List.length_append,
    List.length_singleton, ← length_text_sheet] at hseparator
  rw [List.nil_append, ← text_sheet] at hrows
  rw [markings_sheet, List.map_append, List.map_singleton, hseparator]
  exact congrArg (· ++ _) hrows

theorem sheet_labels : (p.sheet.markings.filter (·.style = .label)).map (·.cut p.sheet.text) =
    p.rows.map SheetRow.label := by
  have hpairs : (p.sheet.markings.filter (·.style = .label)).map (·.cut p.sheet.text) =
      ((p.sheet.markings.map fun m => (m.cut p.sheet.text, m.style)).filter (·.2 = .label)).map Prod.fst := by
    rw [List.filter_map, List.map_map]
    rfl
  rw [hpairs, sheet_covered, List.filter_append, List.map_append,
    SheetRow.filter_flatMap_marked fun row => p.labelled_rows]
  exact List.append_nil _

theorem splitOn_sheet (h : ∀ row ∈ p.rows, '\n' ∉ Screen.visible row.value) :
    Text.splitOn '\n' p.sheet.text = p.rows.map SheetRow.line ++ [[], separator] := by
  have hline : ∀ row ∈ p.rows, '\n' ∉ row.line := by
    intro row hrow
    have hlabel := (p.labelled_rows hrow).label_line
    have hvalue := h row hrow
    simp [SheetRow.line, hlabel, hvalue]
  have hend : Text.splitOn '\n' ('\n' :: separator) = [[], separator] :=
    Text.splitOn_append_cons (a := []) List.not_mem_nil (by decide)
  rw [text_sheet, SheetRow.splitOn_lines hline, hend]

end LinesUp

/-- The labels and the values of a sheet, without the codes that are never shown, stand on lines of their own, and
the markings cover just these and the separator. -/
theorem sheet_lines_up (p : Posting) :
    p.rows.map SheetRow.label =
      (["Position:", "Company:", "Date Posted:", "Location:", "Remuneration:", "Tags:", "Apply:",
        "Site:"] : List Text) ∧
    LinesUp p.rows p.sheet ∧
    ((∀ row ∈ p.rows, '\n' ∉ Screen.visible row.value) → (Text.splitOn '\n' p.sheet.text).length = 10) := by
  refine ⟨rfl, ⟨p.text_sheet, p.markings_sheet, p.sheet_within, p.sheet_apart, p.sheet_covered, p.sheet_labels,
    p.splitOn_sheet⟩, fun h => ?_⟩
  rw [p.splitOn_sheet h]
  rfl

end Posting
end JobBoards
