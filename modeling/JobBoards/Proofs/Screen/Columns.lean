import JobBoards.Screen.Table
namespace JobBoards.Screen.Table
variable {t : Table} {width step amount room fuel n : Nat} {ws : List Nat}

@[simp] theorem total_cons (w : Nat) (ws : List Nat) : total (w :: ws) = w + total ws := rfl

theorem le_foldl_max (ns : List Nat) (m : Nat) : m ≤ ns.foldl max m ∧ ∀ n ∈ ns, n ≤ ns.foldl max m := by
  induction ns generalizing m with
  | nil => exact ⟨Nat.le_refl m, fun n hn => absurd hn List.not_mem_nil⟩
  | cons n ns ih =>
    obtain ⟨hstart, hall⟩ := ih (max m n)
    refine ⟨Nat.le_trans (Nat.le_max_left m n) hstart, List.forall_mem_cons.mpr ⟨?_, hall⟩⟩
    exact Nat.le_trans (Nat.le_max_right m n) hstart

theorem foldl_max_mem (ns : List Nat) (m : Nat) : ns.foldl max m = m ∨ ns.foldl max m ∈ ns := by
  induction ns generalizing m with
  | nil => exact .inl rfl
  | cons n ns ih =>
    rcases ih (max m n) with heq | hmem
    · rw [List.foldl_cons, heq]
      rcases Nat.le_total m n with hle | hle
      · exact .inr (by rw [Nat.max_eq_right hle]; exact List.mem_cons_self)
      · exact .inl (Nat.max_eq_left hle)
    · exact .inr (List.mem_cons_of_mem n hmem)

theorem foldl_max_lt (h : ∀ w ∈ ws, w < width) (hwidth : 0 < width) : ws.foldl max 0 < width := by
  rcases foldl_max_mem ws 0 with hzero | hmem
  · rwa [hzero]
  · exact h _ hmem

theorem le_total {w : Nat} (h : w ∈ ws) : w ≤ total ws := by
  induction ws with
  | nil => cases h
  | cons v ws ih =>
    rw [total_cons]
    rcases List.mem_cons.mp h with rfl | hmem
    · exact Nat.le_add_right _ _
    · exact Nat.le_trans (ih hmem) (Nat.le_add_left _ _)

theorem total_eq_zero (h : ∀ w ∈ ws, w = 0) : total ws = 0 := by
  induction ws with
  | nil => rfl
  | cons w ws ih =>
    obtain ⟨hw, hws⟩ := List.forall_mem_cons.mp h
    rw [total_cons, hw, ih hws]

theorem foldl_max_pos (h : 0 < total ws) : 0 < ws.foldl max 0 := by
  refine Nat.pos_of_ne_zero fun hzero => ?_
  have hnone : total ws = 0 := total_eq_zero fun w hw => Nat.le_zero.mp (hzero ▸ (le_foldl_max ws 0).2 w hw)
  omega

section Narrowed

@[simp] theorem length_narrowed (width step amount n : Nat) (ws : List Nat) :
    (narrowed width step amount n ws).length = ws.length := by
  induction ws generalizing amount n with
  | nil => rfl
  | cons w ws ih =>
    rw [narrowed]
    split
    · exact congrArg (· + 1) (ih _ _)
    · exact congrArg (· + 1) (ih _ _)

theorem total_narrowed_le (width step amount n : Nat) (ws : List Nat) :
    total (narrowed width step amount n ws) ≤ total ws := by
  induction ws generalizing amount n with
  | nil => exact Nat.le_refl 0
  | cons w ws ih =>
    rw [narrowed]
    split
    · exact Nat.add_le_add (Nat.sub_le _ _) (ih _ _)
    · exact Nat.add_le_add_left (ih _ _) w

@[simp] theorem portion_one (amount : Nat) : portion amount 1 = amount := by
  simp [portion, Nat.mod_one]

/-- The last of the widest columns has to take all that is left, so one of them takes something. -/
theorem total_narrowed_lt (hstep : 0 < step) (hwidth : step ≤ width) (hamount : 0 < amount)
    (hn : ws.count width = n) (hpos : 0 < n) : total (narrowed width step amount n ws) < total ws := by
  induction ws generalizing n with
  | nil =>
    rw [List.count_nil] at hn
    omega
  | cons w ws ih =>
    rw [narrowed, total_cons]
    split
    · rename_i heq
      subst heq
      rw [List.count_cons_self] at hn
      rcases Nat.eq_zero_or_pos (min step (portion amount n)) with hnone | hsome
      · have hmore : 0 < ws.count w := by
          refine Nat.pos_of_ne_zero fun hlast => ?_
          have hone : n = 1 := by omega
          rw [hone, portion_one] at hnone
          omega
        have hrest := ih (n := n - 1) (by omega) (by omega)
        simp only [hnone, Nat.sub_zero, total_cons]
        omega
      · have hrest := total_narrowed_le w step (amount - min step (portion amount n)) (n - 1) ws
        simp only [total_cons]
        omega
    · rename_i hne
      rw [List.count_cons_of_ne hne] at hn
      exact Nat.add_lt_add_left (ih hn hpos) w

end Narrowed

section Collapsed

@[simp] theorem length_collapsed (room fuel : Nat) (ws : List Nat) : (collapsed room fuel ws).length = ws.length := by
  induction fuel generalizing ws with
  | zero => rfl
  | succ fuel ih =>
    rw [collapsed]
    split
    · rfl
    · rw [ih, length_narrowed]

theorem collapsed_eq_self (h : total ws ≤ room) (fuel : Nat) : collapsed room fuel ws = ws := by
  cases fuel with
  | zero => rfl
  | succ fuel => rw [collapsed, if_pos h]

theorem total_round_lt (h : room < total ws) : let most := ws.foldl max 0
    total (narrowed most (min (total ws - room) (most - (ws.filter (· ≠ most)).foldl max 0)) (total ws - room)
      (ws.count most) ws) < total ws := by
  intro most
  have hmost : 0 < most := foldl_max_pos (Nat.lt_of_le_of_lt (Nat.zero_le room) h)
  have hmem : most ∈ ws := (foldl_max_mem ws 0).resolve_left (Nat.ne_of_gt hmost)
  have hnext : (ws.filter (· ≠ most)).foldl max 0 < most := by
    refine foldl_max_lt (fun w hw => ?_) hmost
    obtain ⟨hmem, hne⟩ := List.mem_filter.mp hw
    exact Nat.lt_of_le_of_ne ((le_foldl_max ws 0).2 w hmem) (of_decide_eq_true hne)
  exact total_narrowed_lt (by omega) (by omega) (by omega) rfl (List.count_pos_iff.mpr hmem)

theorem total_collapsed (h : total ws - room ≤ fuel) : total (collapsed room fuel ws) ≤ room := by
  induction fuel generalizing ws with
  | zero =>
    rw [collapsed]
    omega
  | succ fuel ih =>
    rw [collapsed]
    split
    · assumption
    · rename_i hover
      have hless := total_round_lt (Nat.lt_of_not_le hover)
      exact ih (by omega)

end Collapsed

@[simp] theorem length_asked (t : Table) : t.asked.length = t.columns.length := by
  simp [asked]

@[simp] theorem length_widths (t : Table) (width : Nat) : (t.widths width).length = t.columns.length := by
  rw [widths, length_collapsed, List.length_map, length_asked]

theorem total_widths_le (t : Table) (width : Nat) : total (t.widths width) ≤ t.room width :=
  total_collapsed (Nat.sub_le _ _)

theorem widths_eq_asked (h : total t.asked + t.columns.length + 1 ≤ width) : t.widths width = t.asked := by
  have hroom : total t.asked ≤ t.room width := by
    rw [room]
    omega
  have hmin : t.asked.map (min · (t.room width)) = t.asked := by
    refine (List.map_congr_left fun w hw => ?_).trans (List.map_id _)
    exact Nat.min_eq_left (Nat.le_trans (le_total hw) hroom)
  rw [widths, hmin]
  exact collapsed_eq_self hroom _

theorem measured_le_widest {cells : List Text} {s : Text} (h : s ∈ cells) : measured s ≤ widest cells :=
  (le_foldl_max _ 0).2 _ (List.mem_map_of_mem h)

theorem asked_getD (hn : n < t.columns.length) :
    t.asked.getD n 0 = widest (t.columns[n].title :: t.rows.map fun r => r.getD n []) + 2 := by
  have hlength : n < t.asked.length := by rwa [length_asked]
  rw [List.getD_eq_getElem?_getD, List.getElem?_eq_getElem hlength, Option.getD_some]
  simp only [asked, List.getElem_map, List.getElem_zipIdx, Nat.zero_add]

theorem measured_le_asked {cells : List Text} (hrow : cells ∈ t.rows) (hn : n < t.columns.length) :
    measured (cells.getD n []) + 2 ≤ t.asked.getD n 0 := by
  rw [asked_getD hn]
  apply Nat.add_le_add_right
  apply measured_le_widest
  exact List.mem_cons_of_mem _ (List.mem_map_of_mem hrow)

theorem measured_title_le_asked (hn : n < t.columns.length) :
    measured t.columns[n].title + 2 ≤ t.asked.getD n 0 := by
  rw [asked_getD hn]
  apply Nat.add_le_add_right
  exact measured_le_widest List.mem_cons_self

theorem exists_lines_of_mem {cells : List Text} (hfits : total (t.widths width) + t.columns.length + 1 ≤ width)
    (hrow : cells ∈ t.rows) :
    ∃ above below, t.lines width = above ++ rowLines row t.columns (t.widths width) cells ++ below := by
  obtain ⟨head, foot, hlines⟩ : ∃ head foot,
      t.lines width = head ++ t.rows.flatMap (rowLines row t.columns (t.widths width)) ++ foot := by
    rw [lines, if_pos hfits]
    exact ⟨_, _, rfl⟩
  obtain ⟨before, after, hrows⟩ := List.append_of_mem hrow
  rw [hlines, hrows, List.flatMap_append, List.flatMap_cons]
  exact ⟨head ++ before.flatMap (rowLines row t.columns (t.widths width)),
    after.flatMap (rowLines row t.columns (t.widths width)) ++ foot, by simp only [List.append_assoc]⟩

end JobBoards.Screen.Table
