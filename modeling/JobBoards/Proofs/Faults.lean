import JobBoards.Fault
import Mathlib.Data.List.Forall2
namespace JobBoards

def Ends {ε α : Type} (P : ε → Prop) (Q : α → Prop) : Except ε α → Prop
  | .ok a => Q a
  | .error e => P e

abbrev Fails {ε α : Type} (P : ε → Prop) (x : Except ε α) : Prop := Ends P (fun _ => True) x

section
variable {ε α β : Type} {P : ε → Prop} {Q : α → Prop} {R : β → Prop} {x : Except ε α}

@[simp] theorem ok_bind (a : α) (f : α → Except ε β) : (.ok a >>= f) = f a := rfl

@[simp] theorem error_bind (e : ε) (f : α → Except ε β) : (.error e >>= f) = .error e := rfl

@[simp] theorem pure_eq_ok (a : α) : (pure a : Except ε α) = .ok a := rfl

@[simp] theorem map_ok (f : α → β) (a : α) : (.ok a : Except ε α).map f = .ok (f a) := rfl

@[simp] theorem map_error (f : α → β) (e : ε) : (.error e : Except ε α).map f = .error e := rfl

theorem Ends.bind {f : α → Except ε β} (hx : Ends P Q x) (hf : ∀ a, Q a → Ends P R (f a)) : Ends P R (x >>= f) := by
  cases x with
  | ok a => exact hf a hx
  | error e => exact hx

theorem Ends.ite {y : Except ε α} {c : Prop} [Decidable c] (hx : Ends P Q x) (hy : Ends P Q y) :
    Ends P Q (if c then x else y) := by
  split
  · exact hx
  · exact hy

theorem Ends.any : Ends (fun _ => True) (fun _ => True) x := by
  cases x <;> trivial

theorem Ends.of_ok (hx : Ends P Q x) {a : α} (h : x = .ok a) : Q a := by
  rw [h] at hx
  exact hx

theorem Ends.of_error (hx : Ends P Q x) {e : ε} (h : x = .error e) : P e := by
  rw [h] at hx
  exact hx

theorem Fails.bind {f : α → Except ε β} (hx : Fails P x) (hf : ∀ a, Ends P R (f a)) : Ends P R (x >>= f) :=
  Ends.bind hx fun a _ => hf a

theorem Fails.map (hx : Fails P x) (f : α → β) : Fails P (x.map f) := by
  cases x with
  | ok a => trivial
  | error e => exact hx

theorem Fails.mapM {f : α → Except ε β} (h : ∀ a, Fails P (f a)) (l : List α) : Fails P (l.mapM f) := by
  induction l with
  | nil => trivial
  | cons a l ih =>
    rw [List.mapM_cons]
    exact (h a).bind fun _ => ih.bind fun _ => trivial

end

namespace Fault
variable {α β : Type}

def IsValue (fault : Fault) : Prop := fault.kind = "ValueError" ∨ fault.kind = "UnicodeDecodeError"

instance (fault : Fault) : Decidable fault.IsValue := inferInstanceAs (Decidable (_ ∨ _))

theorem bind_eq_ok {x : Except Fault α} {f : α → Except Fault β} {b : β} :
    (x >>= f) = .ok b ↔ ∃ a, x = .ok a ∧ f a = .ok b := by
  cases x with
  | error fault => simp
  | ok a => simp

theorem bind_eq_error {x : Except Fault α} {f : α → Except Fault β} {fault : Fault} :
    (x >>= f) = .error fault ↔ x = .error fault ∨ ∃ a, x = .ok a ∧ f a = .error fault := by
  cases x with
  | error fault => simp
  | ok a => simp

@[simp] theorem map_eq_error {x : Except Fault α} {f : α → β} {fault : Fault} :
    x.map f = .error fault ↔ x = .error fault := by
  cases x with
  | error fault => simp
  | ok a => simp

theorem exists_ok_iff {x : Except Fault α} : (∃ a, x = .ok a) ↔ ∀ fault, x ≠ .error fault := by
  cases x with
  | ok a => simp
  | error fault => simp

theorem mem_of_mapM {f : α → Except Fault β} {l : List α} {bs : List β} (h : l.mapM f = .ok bs) :
    ∀ b ∈ bs, ∃ a ∈ l, f a = .ok b := by
  induction l generalizing bs with
  | nil =>
    obtain rfl := Except.ok.inj h
    intro b hb
    cases hb
  | cons a l ih =>
    rw [List.mapM_cons, bind_eq_ok] at h
    obtain ⟨c, hc, h⟩ := h
    obtain ⟨cs, hcs, h⟩ := bind_eq_ok.mp h
    obtain rfl := Except.ok.inj h
    intro b hb
    rcases List.mem_cons.mp hb with rfl | hb
    · exact ⟨a, List.mem_cons_self, hc⟩
    · obtain ⟨d, hd, hfd⟩ := ih hcs b hb
      exact ⟨d, List.mem_cons_of_mem a hd, hfd⟩

theorem mapM_eq_ok {f : α → Except Fault β} {l : List α} {bs : List β} :
    l.mapM f = .ok bs ↔ List.Forall₂ (fun a b => f a = .ok b) l bs := by
  induction l generalizing bs with
  | nil => simp [eq_comm]
  | cons a l ih =>
    rw [List.mapM_cons, bind_eq_ok, List.forall₂_cons_left_iff]
    constructor
    · rintro ⟨b, hb, h⟩
      obtain ⟨bs, hbs, h⟩ := bind_eq_ok.mp h
      exact ⟨b, bs, hb, ih.mp hbs, (Except.ok.inj h).symm⟩
    · rintro ⟨b, bs, hb, hbs, rfl⟩
      exact ⟨b, hb, bind_eq_ok.mpr ⟨bs, ih.mpr hbs, rfl⟩⟩

theorem mapM_eq_error {f : α → Except Fault β} {l : List α} {fault : Fault} :
    l.mapM f = .error fault ↔
      ∃ before a after, l = before ++ a :: after ∧ (∀ x ∈ before, ∃ b, f x = .ok b) ∧
        f a = .error fault := by
  induction l with
  | nil => simp
  | cons x l ih =>
    rw [List.mapM_cons, bind_eq_error]
    constructor
    · rintro (hx | ⟨b, hx, h⟩)
      · exact ⟨[], x, l, rfl, by simp, hx⟩
      · rcases bind_eq_error.mp h with hl | ⟨bs, -, h⟩
        · obtain ⟨before, a, after, rfl, hbefore, ha⟩ := ih.mp hl
          exact ⟨x :: before, a, after, rfl, List.forall_mem_cons.mpr ⟨⟨b, hx⟩, hbefore⟩, ha⟩
        · cases h
    · rintro ⟨before, a, after, hl, hbefore, ha⟩
      cases before with
      | nil =>
        obtain ⟨rfl, rfl⟩ := List.cons.inj hl
        exact .inl ha
      | cons y before =>
        obtain ⟨rfl, rfl⟩ := List.cons.inj hl
        obtain ⟨⟨b, hx⟩, hbefore⟩ := List.forall_mem_cons.mp hbefore
        refine .inr ⟨b, hx, bind_eq_error.mpr (.inl ?_)⟩
        exact ih.mpr ⟨before, a, after, rfl, hbefore, ha⟩

end Fault
end JobBoards
