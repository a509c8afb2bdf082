import JobBoards.Text.Order
import Mathlib.Data.Char
import Mathlib.Data.List.Lex
namespace JobBoards.Text
variable {s t : Text}

theorem compare_eq_ord (s t : Text) : compare s t = Ord.compare s t := rfl

@[simp] theorem compare_cons (c d : Char) (s t : Text) :
    compare (c :: s) (d :: t) = (Ord.compare c d).then (compare s t) :=
  List.compareLex_cons_cons

theorem compare_swap (s t : Text) : compare s t = (compare t s).swap := by
  simp only [compare_eq_ord]
  exact Std.OrientedOrd.eq_swap

@[simp] theorem compare_eq_lt : compare s t = .lt ↔ s < t := by
  induction s generalizing t with
  | nil => cases t <;> simp [compare_eq_ord]
  | cons c s ih =>
    cases t with
    | nil => simp [compare_eq_ord]
    | cons d t =>
      have hchar : Ord.compare c d = .lt ↔ c < d := compareOfLessAndEq_eq_lt
      rw [compare_cons, Ordering.then_eq_lt, hchar, ih, List.cons_lt_cons_iff]
      simp

@[simp] theorem le_iff : le s t = true ↔ s ≤ t := by
  refine Iff.trans ?_ not_lt
  rw [← compare_eq_lt, compare_swap t s, le]
  cases compare s t <;> simp

theorem compare_append {a b : Text} (h : a.length = b.length) (s t : Text) :
    compare (a ++ s) (b ++ t) = (compare a b).then (compare s t) := by
  induction a generalizing b with
  | nil =>
    obtain rfl := List.length_eq_zero_iff.mp h.symm
    rfl
  | cons c a ih =>
    cases b with
    | nil => cases h
    | cons d b =>
      have htail : a.length = b.length := Nat.succ.inj h
      rw [List.cons_append, List.cons_append, compare_cons, compare_cons, ih htail,
        Ordering.then_assoc]

end JobBoards.Text
