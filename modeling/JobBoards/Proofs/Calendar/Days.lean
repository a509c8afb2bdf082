import JobBoards.Calendar.Date
import Mathlib.Order.Monotone.Basic
namespace JobBoards.Date

def totalOf (lengths : List Nat) (i : Nat) : Nat := (lengths.take i).foldr (· + ·) 0

@[simp] theorem totalOf_succ (lengths : List Nat) (i : Nat) :
    totalOf lengths (i + 1) = totalOf lengths i + lengths.getD i 0 := by
  induction lengths generalizing i with
  | nil => simp [totalOf]
  | cons length lengths ih =>
    cases i with
    | zero => simp [totalOf]
    | succ i =>
      have hi := ih i
      simp only [totalOf, List.take_succ_cons, List.foldr_cons, List.getD_cons_succ] at hi ⊢
      omega

theorem totalOf_mono (lengths : List Nat) {i j : Nat} (h : i ≤ j) :
    totalOf lengths i ≤ totalOf lengths j := by
  have hstep (i : Nat) : totalOf lengths i ≤ totalOf lengths (i + 1) := by
    rw [totalOf_succ]
    exact Nat.le_add_right _ _
  exact monotone_nat_of_le_succ hstep h

theorem monthAndDay_eq {lengths : List Nat} {rest : Nat} (month : Nat)
    (h : rest < totalOf lengths lengths.length) :
    ∃ i j, i < lengths.length ∧ j < lengths.getD i 0 ∧ rest = totalOf lengths i + j ∧
      monthAndDay lengths month rest = (month + i, j + 1) := by
  induction lengths generalizing month rest with
  | nil => simp [totalOf] at h
  | cons length lengths ih =>
    by_cases hrest : rest < length
    · refine ⟨0, rest, Nat.succ_pos _, hrest, ?_, ?_⟩
      · simp [totalOf]
      · simp [monthAndDay, hrest]
    · have htail : rest - length < totalOf lengths lengths.length := by
        simp only [totalOf, List.take_length, List.foldr_cons] at h ⊢
        omega
      obtain ⟨i, j, hi, hj, hsplit, hmonth⟩ := ih (month + 1) htail
      refine ⟨i + 1, j, Nat.succ_lt_succ hi, hj, ?_, ?_⟩
      · simp only [totalOf, List.take_succ_cons, List.foldr_cons] at hsplit ⊢
        omega
      · rw [monthAndDay, if_neg hrest, hmonth, Nat.add_right_comm, Nat.add_assoc]

def yearLength (year : Nat) : Nat := totalOf (monthLengths year) 12

theorem yearLength_eq (year : Nat) : yearLength year = if isLeap year then 366 else 365 := by
  unfold yearLength monthLengths totalOf
  cases isLeap year <;> rfl

theorem isLeap_iff (year : Nat) :
    isLeap year = true ↔ year % 4 = 0 ∧ (year % 100 ≠ 0 ∨ year % 400 = 0) := by
  simp [isLeap]

@[simp] theorem daysInYears_succ (years : Nat) :
    daysInYears (years + 1) = daysInYears years + yearLength (years + 1) := by
  have h100 : years / 100 ≤ years / 4 := Nat.div_le_div_left (by decide) (by decide)
  have h4 : (years + 1) / 4 = years / 4 + if (years + 1) % 4 = 0 then 1 else 0 := by
    split <;> omega
  have h100' : (years + 1) / 100 = years / 100 + if (years + 1) % 100 = 0 then 1 else 0 := by
    split <;> omega
  have h400 : (years + 1) / 400 = years / 400 + if (years + 1) % 400 = 0 then 1 else 0 := by
    split <;> omega
  have hmod : (years + 1) % 400 = 0 → (years + 1) % 100 = 0 := by omega
  have hmod' : (years + 1) % 100 = 0 → (years + 1) % 4 = 0 := by omega
  rw [yearLength_eq]
  simp only [daysInYears, h4, h100', h400, isLeap_iff]
  generalize years / 4 = q4 at *
  generalize years / 100 = q100 at *
  generalize (years + 1) % 4 = m4 at *
  generalize (years + 1) % 100 = m100 at *
  generalize (years + 1) % 400 = m400 at *
  split <;> split <;> split <;> split <;> omega

theorem daysInYears_mono {a b : Nat} (h : a ≤ b) : daysInYears a ≤ daysInYears b := by
  have hstep (years : Nat) : daysInYears years ≤ daysInYears (years + 1) := by
    rw [daysInYears_succ]
    exact Nat.le_add_right _ _
  exact monotone_nat_of_le_succ hstep h

def ofCycles (a b c d : Nat) : Nat := a * 400 + b * 100 + c * 4 + d

theorem daysInYears_ofCycles (a : Nat) {b c d : Nat} (hb : b ≤ 3) (hc : c ≤ 24) (hd : d ≤ 3) :
    daysInYears (ofCycles a b c d) = a * 146097 + b * 36524 + c * 1461 + d * 365 := by
  have h4 : ofCycles a b c d / 4 = a * 100 + b * 25 + c := by
    unfold ofCycles
    omega
  have h100 : ofCycles a b c d / 100 = a * 4 + b := by
    unfold ofCycles
    omega
  have h400 : ofCycles a b c d / 400 = a := by
    unfold ofCycles
    omega
  rw [daysInYears, h4, h100, h400, ofCycles]
  omega

theorem isLeap_ofCycles (a : Nat) {b c d : Nat} (hb : b ≤ 3) (hc : c ≤ 24) (hd : d ≤ 3) :
    isLeap (ofCycles a b c d + 1) = true ↔ d = 3 ∧ (c ≠ 24 ∨ b = 3) := by
  have h4 : (ofCycles a b c d + 1) % 4 = (d + 1) % 4 := by
    unfold ofCycles
    omega
  have h100 : (ofCycles a b c d + 1) % 100 = (c * 4 + d + 1) % 100 := by
    unfold ofCycles
    omega
  have h400 : (ofCycles a b c d + 1) % 400 = (b * 100 + c * 4 + d + 1) % 400 := by
    unfold ofCycles
    omega
  rw [isLeap_iff, h4, h100, h400]
  omega

theorem yearAndRest_cycles (n : Nat) :
    ∃ a b c d rest, b ≤ 3 ∧ c ≤ 24 ∧ d ≤ 3 ∧ yearAndRest n = (ofCycles a b c d + 1, rest) ∧
      n = a * 146097 + b * 36524 + c * 1461 + d * 365 + rest ∧
      rest ≤ 365 ∧ (rest = 365 → d = 3 ∧ (c ≠ 24 ∨ b = 3)) := by
  have hn : n = n / 146097 * 146097 + n % 146097 := (Nat.div_add_mod' n 146097).symm
  have h400 : n % 146097 < 146097 := Nat.mod_lt n (Nat.succ_pos _)
  unfold yearAndRest
  generalize n / 146097 = a at *
  generalize n % 146097 = r400 at *
  simp only
  have hb : min 3 (r400 / 36524) ≤ 3 := Nat.min_le_left _ _
  have hr400 : r400 = min 3 (r400 / 36524) * 36524 + (r400 - min 3 (r400 / 36524) * 36524) := by
    omega
  have h100 : r400 - min 3 (r400 / 36524) * 36524 ≤ 36524 := by omega
  have hlast : r400 - min 3 (r400 / 36524) * 36524 = 36524 → min 3 (r400 / 36524) = 3 := by omega
  generalize min 3 (r400 / 36524) = b at *
  generalize r400 - b * 36524 = r100 at *
  have hr100 : r100 = r100 / 1461 * 1461 + r100 % 1461 := (Nat.div_add_mod' r100 1461).symm
  have hr4 : r100 % 1461 < 1461 := Nat.mod_lt r100 (Nat.succ_pos _)
  have hc : r100 / 1461 ≤ 24 := by omega
  generalize r100 / 1461 = c at *
  generalize r100 % 1461 = r4 at *
  have hd : min 3 (r4 / 365) ≤ 3 := Nat.min_le_left _ _
  have hr4' : r4 = min 3 (r4 / 365) * 365 + (r4 - min 3 (r4 / 365) * 365) := by omega
  have hrest : r4 - min 3 (r4 / 365) * 365 ≤ 365 := by omega
  have hlast' : r4 - min 3 (r4 / 365) * 365 = 365 → min 3 (r4 / 365) = 3 := by omega
  generalize min 3 (r4 / 365) = d at *
  generalize r4 - d * 365 = rest at *
  refine ⟨a, b, c, d, rest, hb, hc, hd, rfl, ?_, hrest, ?_⟩
  · rw [hn, hr400, hr100, hr4']
    simp only [Nat.add_assoc]
  · intro h
    have hd3 := hlast' h
    omega

theorem yearAndRest_eq (n : Nat) :
    ∃ years rest, yearAndRest n = (years + 1, rest) ∧ n = daysInYears years + rest ∧
      rest < yearLength (years + 1) := by
  obtain ⟨a, b, c, d, rest, hb, hc, hd, hyear, hn, hrest, hlast⟩ := yearAndRest_cycles n
  refine ⟨ofCycles a b c d, rest, hyear, ?_, ?_⟩
  · rw [daysInYears_ofCycles a hb hc hd, hn]
  · rw [yearLength_eq]
    split
    · exact Nat.lt_succ_of_le hrest
    · rename_i hleap
      have hnot := mt (isLeap_ofCycles a hb hc hd).mpr hleap
      exact Nat.lt_of_le_of_ne hrest (mt hlast hnot)

end JobBoards.Date
