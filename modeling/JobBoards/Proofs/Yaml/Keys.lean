import JobBoards.Proofs.Faults
import JobBoards.Yaml.Value
namespace JobBoards

namespace Value
variable {key value : Value} {entries : List (Value × Value)} {name : Text}

def Keyed (entries : List (Value × Value)) : Prop := entries.Pairwise fun a b => a.1.sameKey b.1 = false

@[simp] theorem sameKey_text : key.sameKey (.text name) = true ↔ key = .text name := by
  cases key <;> simp [sameKey, number?]

theorem mem_put {e : Value × Value} (h : e ∈ put key value entries) :
    (e.1 = key ∨ ∃ f ∈ entries, e.1 = f.1) ∧ (e.2 = value ∨ ∃ f ∈ entries, e.2 = f.2) := by
  induction entries with
  | nil =>
    obtain rfl := List.mem_singleton.mp h
    exact ⟨.inl rfl, .inl rfl⟩
  | cons f entries ih =>
    obtain ⟨k, v⟩ := f
    rw [put] at h
    split at h
    · rcases List.mem_cons.mp h with rfl | h
      · exact ⟨.inr ⟨(k, v), List.mem_cons_self, rfl⟩, .inl rfl⟩
      · exact ⟨.inr ⟨e, List.mem_cons_of_mem _ h, rfl⟩, .inr ⟨e, List.mem_cons_of_mem _ h, rfl⟩⟩
    · rcases List.mem_cons.mp h with rfl | h
      · exact ⟨.inr ⟨(k, v), List.mem_cons_self, rfl⟩, .inr ⟨(k, v), List.mem_cons_self, rfl⟩⟩
      · obtain ⟨hkey, hvalue⟩ := ih h
        refine ⟨hkey.imp_right ?_, hvalue.imp_right ?_⟩
        · exact fun ⟨f, hf, heq⟩ => ⟨f, List.mem_cons_of_mem _ hf, heq⟩
        · exact fun ⟨f, hf, heq⟩ => ⟨f, List.mem_cons_of_mem _ hf, heq⟩

theorem Keyed.put (h : Keyed entries) (key value : Value) : Keyed (put key value entries) := by
  induction entries with
  | nil => exact List.pairwise_singleton _ _
  | cons f entries ih =>
    obtain ⟨k, v⟩ := f
    obtain ⟨hfirst, hrest⟩ := List.pairwise_cons.mp h
    rw [Value.put]
    split
    · exact List.pairwise_cons.mpr ⟨hfirst, hrest⟩
    · rename_i hkey
      refine List.pairwise_cons.mpr ⟨fun e he => ?_, ih hrest⟩
      rcases (mem_put he).1 with heq | ⟨g, hg, heq⟩
      · rw [heq]
        exact Bool.eq_false_iff.mpr hkey
      · rw [heq]
        exact hfirst g hg

@[simp] theorem field?_cons_text (v : Value) (entries : List (Value × Value)) :
    field? name ((.text name, v) :: entries) = some v := by
  simp [field?, sameKey]

theorem field?_cons_of_ne (h : key ≠ .text name) (v : Value) (entries : List (Value × Value)) :
    field? name ((key, v) :: entries) = field? name entries := by
  have hkey : key.sameKey (.text name) = false := Bool.eq_false_iff.mpr (mt sameKey_text.mp h)
  simp [field?, hkey]

theorem field?_eq_none_of_keyed {v : Value} (h : Keyed ((.text name, v) :: entries)) :
    field? name entries = none := by
  rw [field?, Option.map_eq_none_iff, List.find?_eq_none]
  intro e he hsame
  have hkey := (List.pairwise_cons.mp h).1 e he
  rw [sameKey_text.mp hsame] at hkey
  simp [sameKey] at hkey

@[simp] theorem field?_put_self (v : Value) : field? name (put (.text name) v entries) = some v := by
  induction entries with
  | nil => exact field?_cons_text v []
  | cons e entries ih =>
    obtain ⟨k, w⟩ := e
    rw [put]
    split
    · rename_i hkey
      obtain rfl := sameKey_text.mp hkey
      exact field?_cons_text v entries
    · rename_i hkey
      rw [field?_cons_of_ne (mt sameKey_text.mpr hkey), ih]

theorem field?_put_of_ne {other : Text} (h : other ≠ name) (v : Value) :
    field? other (put (.text name) v entries) = field? other entries := by
  have hname : Value.text name ≠ .text other := fun heq => h (Value.text.inj heq).symm
  induction entries with
  | nil => exact field?_cons_of_ne hname v []
  | cons e entries ih =>
    obtain ⟨k, w⟩ := e
    rw [put]
    split
    · rename_i hkey
      obtain rfl := sameKey_text.mp hkey
      rw [field?_cons_of_ne hname, field?_cons_of_ne hname]
    · by_cases hother : k = .text other
      · rw [hother, field?_cons_text, field?_cons_text]
      · rw [field?_cons_of_ne hother, field?_cons_of_ne hother, ih]

end Value

namespace Yaml
open Value (Keyed)

namespace Built
variable {α β : Type}

theorem both_eq_ok {a : Built α} {b : Built β} {x : α} {y : β} (h : both a b = .ok (x, y)) :
    a = .ok x ∧ b = .ok y := by
  unfold both at h
  split at h
  · obtain ⟨rfl, rfl⟩ := Prod.mk.inj (Except.ok.inj h)
    exact ⟨rfl, rfl⟩
  all_goals cases h

theorem map_eq_ok {a : Built α} {f : α → β} {y : β} (h : a.map f = .ok y) :
    ∃ x, a = .ok x ∧ f x = y := by
  cases a with
  | error flaw => cases h
  | ok x => exact ⟨x, rfl, Except.ok.inj h⟩

theorem mem_of_all {l : List (Built α)} {xs : List α} (h : all l = .ok xs) : ∀ x ∈ xs, .ok x ∈ l := by
  induction l generalizing xs with
  | nil =>
    obtain rfl := Except.ok.inj h
    intro x hx
    cases hx
  | cons a l ih =>
    obtain ⟨⟨y, ys⟩, hboth, rfl⟩ := map_eq_ok h
    obtain ⟨ha, hall⟩ := both_eq_ok hboth
    intro x hx
    rcases List.mem_cons.mp hx with rfl | hx
    · exact ha ▸ List.mem_cons_self
    · exact List.mem_cons_of_mem a (ih hall x hx)

end Built

namespace Scalar

abbrev NoMap (x : Except Fault Value) : Prop := Ends (fun _ => True) (fun v => ∀ entries, v ≠ .map entries) x

theorem noMap_bool (s : Text) : NoMap (bool s) :=
  .ite nofun (.ite nofun trivial)

theorem noMap_int (s : Text) : NoMap (int s) :=
  Ends.any.bind fun _ _ => Ends.any.bind fun _ _ => nofun

theorem noMap_real (s : Text) : NoMap (real s) := by
  refine Ends.any.bind fun _ _ => .ite nofun (.ite nofun (.ite ?_ ?_))
  · exact Ends.any.bind fun _ _ => Ends.any.bind fun _ _ => nofun
  · exact Ends.any.bind fun _ _ => nofun

theorem noMap_timestamp (s : Text) : NoMap (timestamp s) := by
  unfold timestamp
  split
  · trivial
  · simp only
    split
    · exact Ends.any.bind fun _ _ => nofun
    · exact Ends.any.bind fun _ _ => Ends.any.bind fun _ _ => Ends.any.bind fun _ _ => nofun

theorem noMap_bytes (s : Text) : NoMap (bytes s) := by
  refine .ite ?_ trivial
  split
  · exact nofun
  · trivial

end Scalar

namespace Node

theorem keyed_foldl_put {start : List (Value × Value)} (h : Keyed start) (built : List (Value × Value)) :
    Keyed (built.foldl (fun entries e => Value.put e.1 e.2 entries) start) ∧
      ∀ e ∈ built.foldl (fun entries e => Value.put e.1 e.2 entries) start,
        ∃ f ∈ start ++ built, e.2 = f.2 := by
  induction built generalizing start with
  | nil => exact ⟨h, fun e he => ⟨e, List.mem_append_left _ he, rfl⟩⟩
  | cons b built ih =>
    obtain ⟨hkeyed, hvalues⟩ := ih (h.put b.1 b.2)
    refine ⟨hkeyed, fun e he => ?_⟩
    obtain ⟨f, hf, heq⟩ := hvalues e he
    rcases List.mem_append.mp hf with hf | hf
    · rcases (Value.mem_put hf).2 with hnew | ⟨g, hg, hold⟩
      · exact ⟨b, by simp, heq.trans hnew⟩
      · exact ⟨g, by simp [hg], heq.trans hold⟩
    · exact ⟨f, by simp [hf], heq⟩

def Means (v : Value) : Prop := ∃ fuel depth node, build fuel depth node = .ok v

theorem noMap_timestamp (n : Node) (s : Text) : Scalar.NoMap (n.timestamp s) := by
  cases n with
  | scalar kind t => exact Scalar.noMap_timestamp s
  | _ => trivial

theorem noMap_scalarValue (kind : Text) (n : Node) (s : Text) : Scalar.NoMap (scalarValue kind n s) :=
  .ite nofun <| .ite (Scalar.noMap_bool s) <| .ite (Scalar.noMap_int s) <| .ite (Scalar.noMap_real s) <|
    .ite (n.noMap_timestamp s) <| .ite (Scalar.noMap_bytes s) <| .ite nofun trivial

theorem means_map {entries : List (Value × Value)} (h : Means (.map entries)) :
    Keyed entries ∧ ∀ e ∈ entries, Means e.2 := by
  obtain ⟨fuel, depth, node, h⟩ := h
  cases fuel with
  | zero => cases h
  | succ fuel =>
    unfold build at h
    simp only at h
    split at h
    · cases h
    split at h
    · split at h
      · obtain ⟨_, _, h⟩ := Built.map_eq_ok h
        cases h
      · cases h
    split at h
    · split at h
      · obtain ⟨built, hbuilt, h⟩ := Built.map_eq_ok h
        obtain rfl := Value.map.inj h
        split at hbuilt
        · cases hbuilt
        obtain ⟨hkeyed, hvalues⟩ := keyed_foldl_put .nil built
        refine ⟨hkeyed, fun e he => ?_⟩
        obtain ⟨f, hf, heq⟩ := hvalues e he
        obtain ⟨entry, -, hboth⟩ := List.mem_map.mp (Built.mem_of_all hbuilt f hf)
        rw [heq]
        exact ⟨fuel, depth + 1, entry.2, (Built.both_eq_ok hboth).2⟩
      · cases h
    split at h
    · split at h
      · obtain ⟨_, _, h⟩ := Built.map_eq_ok h
        cases h
      · cases h
    split at h
    · split at h
      · obtain ⟨_, _, h⟩ := Built.map_eq_ok h
        cases h
      · cases h
    · unfold Built.placed at h
      split at h
      · rename_i v hv
        obtain rfl := Except.ok.inj h
        obtain ⟨s, -, hs⟩ := Fault.bind_eq_ok.mp hv
        exact absurd rfl ((noMap_scalarValue _ _ s).of_ok hs entries)
      · cases h

end Node

theorem means_of_load {calls : Nat} {s : Text} {v : Value} (h : load calls s = .ok v) : v = .null ∨ Node.Means v := by
  obtain ⟨node?, -, h⟩ := Fault.bind_eq_ok.mp h
  cases node? with
  | none => exact .inl (Except.ok.inj h).symm
  | some node =>
    simp only [Node.value] at h
    split at h
    · rename_i w hbuild
      obtain rfl := Except.ok.inj h
      exact .inr ⟨_, _, _, hbuild⟩
    · cases h

end Yaml
end JobBoards
