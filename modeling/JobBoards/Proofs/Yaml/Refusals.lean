import JobBoards.Proofs.Yaml.Parsing
import JobBoards.Yaml.Value
namespace JobBoards.Yaml

namespace Scalar

theorem fails_bool (s : Text) : Fails Refusal (bool s) :=
  .ite trivial (.ite trivial (.inr (.word _)))

theorem fails_whole (base : Nat) (s : Text) : Fails Refusal (whole base s) := by
  unfold whole
  split
  · trivial
  · exact .inl (.inl rfl)
  · exact refusal_badValue _

theorem fails_signed (s : Text) : Fails Refusal (signed s) := by
  unfold signed
  split
  · exact .inr .digits
  all_goals trivial

theorem fails_magnitude (s : Text) : Fails Refusal (magnitude s) := by
  unfold magnitude
  split
  · trivial
  · exact fails_whole 2 _
  · exact fails_whole 16 _
  · exact fails_whole 8 _
  · exact .inr .digits
  · exact .ite ((Fails.mapM (fails_whole 10) _).bind fun _ => trivial) (fails_whole 10 _)

theorem fails_int (s : Text) : Fails Refusal (int s) :=
  (fails_signed _).bind fun ⟨_, r⟩ => (fails_magnitude r).bind fun _ => trivial

theorem fails_binary (s : Text) : Fails Refusal (binary s) := by
  unfold binary
  split
  · trivial
  · exact refusal_badValue _

theorem fails_weighed (sum : Binary) (weight : Nat) (parts : List Binary) :
    Fails Refusal (weighed sum weight parts) := by
  induction parts generalizing sum weight with
  | nil => trivial
  | cons x xs ih =>
    unfold weighed
    split
    · exact .inr .weight
    · exact ih _ _

theorem fails_real (s : Text) : Fails Refusal (real s) := by
  refine (fails_signed _).bind fun ⟨_, r⟩ => .ite trivial (.ite trivial (.ite ?_ ?_))
  · exact (Fails.mapM fails_binary _).bind fun _ => (fails_weighed _ _ _).bind fun _ => trivial
  · exact (fails_binary r).bind fun _ => trivial

theorem fails_checkDate (d : Date) : Fails Refusal (checkDate d) :=
  .ite (refusal_badValue _) (.ite (refusal_badValue _) (.ite (refusal_badValue _) trivial))

theorem fails_checkTime (hour minute second : Nat) : Fails Refusal (checkTime hour minute second) :=
  .ite (refusal_badValue _) (.ite (refusal_badValue _) (.ite (refusal_badValue _) trivial))

theorem fails_offset (zone : Option (Bool × Text × Text)) : Fails Refusal (offset zone) := by
  unfold offset
  split
  · trivial
  · exact .ite (refusal_badValue _) trivial

theorem fails_timestamp (s : Text) : Fails Refusal (timestamp s) := by
  unfold timestamp
  split
  · exact .inr .time
  · simp only
    split
    · exact (fails_checkDate _).bind fun _ => trivial
    · rename_i k _
      have hzone : Fails Refusal (k.zone.mapM offset) := by
        cases k.zone with
        | none => trivial
        | some zone => exact (fails_offset zone).map some
      exact hzone.bind fun _ => (fails_checkDate _).bind fun _ => (fails_checkTime ..).bind fun _ => trivial

theorem fails_bytes (s : Text) : Fails Refusal (bytes s) := by
  refine .ite ?_ refusal_malformed
  split
  · trivial
  · exact refusal_malformed

end Scalar

namespace Built
variable {α β : Type}

abbrev Flawed (x : Built α) : Prop := Fails (fun flaw => Refusal flaw.fault) x

theorem flawed_malformed (depth : Nat) : Flawed (malformed depth : Built α) := refusal_malformed

theorem flawed_placed {x : Except Fault α} (h : Fails Refusal x) (depth : Nat) : Flawed (placed depth x) := by
  cases x with
  | ok a => trivial
  | error f => exact h

theorem flawed_both {a : Built α} {b : Built β} (ha : Flawed a) (hb : Flawed b) : Flawed (both a b) := by
  unfold both
  split
  · trivial
  · exact hb
  · exact ha
  · show Refusal _
    split
    · exact hb
    · exact ha

theorem flawed_all {l : List (Built α)} (h : ∀ a ∈ l, Flawed a) : Flawed (all l) := by
  induction l with
  | nil => trivial
  | cons a l ih =>
    obtain ⟨ha, hl⟩ := List.forall_mem_cons.mp h
    exact (flawed_both ha (ih hl)).map _

end Built

namespace Node
open Built (Flawed flawed_malformed)

theorem fails_scalarText (fuel : Nat) (n : Node) : Fails Refusal (n.scalarText fuel) := by
  fun_induction scalarText fuel n with
  | case1 => exact refusal_malformed
  | case2 => trivial
  | case3 _ _ _ _ _ ih => exact ih
  | case4 => exact refusal_malformed
  | case5 => exact refusal_malformed

theorem fails_timestamp (n : Node) (s : Text) : Fails Refusal (n.timestamp s) := by
  cases n with
  | scalar kind t => exact Scalar.fails_timestamp s
  | sequence => exact .inr .type
  | mapping => exact .inr .type
  | again => exact .inr .type

theorem fails_scalarValue (kind : Text) (n : Node) (s : Text) : Fails Refusal (scalarValue kind n s) :=
  .ite trivial <| .ite (Scalar.fails_bool s) <| .ite (Scalar.fails_int s) <| .ite (Scalar.fails_real s) <|
    .ite (n.fails_timestamp s) <| .ite (Scalar.fails_bytes s) <| .ite trivial refusal_malformed

theorem flawed_keyOf {built : Built Value} (h : Flawed built) (depth : Nat) : Flawed (keyOf depth built) := by
  unfold keyOf
  split
  · exact .ite trivial (flawed_malformed depth)
  · exact .ite h (flawed_malformed depth)

theorem flawed_build (fuel depth : Nat) (n : Node) : Flawed (n.build fuel depth) := by
  induction fuel generalizing depth n with
  | zero => exact flawed_malformed depth
  | succ fuel ih =>
    unfold build
    extract_lets kind pairs
    have hpairs (entries : List (Node × Node)) : Flawed (pairs entries) := by
      simp only [pairs]
      split
      · exact flawed_malformed _
      · refine Built.flawed_all fun a ha => ?_
        obtain ⟨e, -, rfl⟩ := List.mem_map.mp ha
        refine Built.flawed_both (.ite ?_ ?_) (ih _ _)
        · exact (Built.flawed_placed (fails_scalarText _ e.1) _).map _
        · exact flawed_keyOf (ih _ _) _
    split
    · trivial
    refine .ite ?_ (.ite ?_ (.ite ?_ (.ite ?_ ?_)))
    · split
      · refine (Built.flawed_all fun a ha => ?_).map _
        obtain ⟨item, -, rfl⟩ := List.mem_map.mp ha
        exact ih _ _
      · exact flawed_malformed _
    · split
      · exact (hpairs _).map _
      · exact flawed_malformed _
    · split
      · exact (hpairs _).map _
      · exact flawed_malformed _
    · split
      · refine (Built.flawed_all fun a ha => ?_).map _
        obtain ⟨item, -, rfl⟩ := List.mem_map.mp ha
        split
        · exact (Built.flawed_both (ih _ _) (ih _ _)).map _
        · exact flawed_malformed _
      · exact flawed_malformed _
    · exact Built.flawed_placed ((fails_scalarText _ _).bind fun s => fails_scalarValue kind n s) _

theorem fails_value (n : Node) : Fails Refusal n.value := by
  have hbuild := n.flawed_build (n.depth + 1) 0
  unfold value
  split
  · trivial
  · rename_i flaw hflaw
    exact hbuild.of_error hflaw

end Node

theorem refusal_of_load {calls : Nat} {s : Text} {fault : Fault} (h : load calls s = .error fault) : Refusal fault := by
  have hload : Fails Refusal (load calls s) := by
    refine (fails_parse calls s).bind fun node? => ?_
    split
    · trivial
    · exact Node.fails_value _
  exact hload.of_error h

end JobBoards.Yaml
