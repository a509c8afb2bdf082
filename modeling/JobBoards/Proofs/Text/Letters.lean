import JobBoards.Proofs.Text.Lower
import JobBoards.Proofs.Text.Small
import Mathlib.Data.Bool.AllAny
import Mathlib.Data.List.Count
import Mathlib.Data.List.Infix
namespace JobBoards.Text
variable {c : Char} {a b s t w word : Text}

theorem isPlain_of_sign (h : c.toNat < 65) : IsPlain c := by
  refine ⟨by omega, ?_, ?_⟩
  · rintro rfl
    exact absurd h (by decide)
  · rintro rfl
    exact absurd h (by decide)

theorem toLower_of_not_ascii (h : 128 ≤ c.toNat) : c.toLower = c := by
  refine dif_neg fun hupper => ?_
  have hlast : c.toNat ≤ 90 := hupper.2
  omega

theorem toLower_signs : ∀ n < 128, n < 65 ∨ (Char.ofNat n).toLower.toNat < 65 →
    (Char.ofNat n).toLower = Char.ofNat n := by
  decide +kernel

theorem toLower_of_sign (h : c.toNat < 65 ∨ c.toLower.toNat < 65) : c.toLower = c := by
  by_cases hascii : c.toNat < 128
  · have hself := toLower_signs c.toNat hascii
    rw [Char.ofNat_toNat] at hself
    exact hself h
  · exact toLower_of_not_ascii (Nat.not_lt.mp hascii)

theorem toLower_eq_iff_of_sign {d : Char} (hc : c.toNat < 65) : d.toLower = c ↔ d = c := by
  constructor
  · intro h
    rw [← h, toLower_of_sign (.inr (h ▸ hc))]
  · rintro rfl
    exact toLower_of_sign (.inl hc)

inductive Lowered : Text → Text → Prop
  | nil : Lowered [] []
  | cons {c : Char} {piece s t : Text} (hc : Becomes c piece) (h : Lowered s t) : Lowered (c :: s) (piece ++ t)

theorem lowered_lowerAfter (cased : Bool) (s : Text) : Lowered s (lowerAfter cased s) := by
  induction s generalizing cased with
  | nil => exact .nil
  | cons c s ih =>
    obtain ⟨piece, next, hpiece, hbecomes⟩ := lowerAfter_cons cased c s
    rw [hpiece]
    exact .cons hbecomes (ih next)

theorem lowered_lower (s : Text) : Lowered s (lower s) := lowered_lowerAfter false s

theorem infix_append_cons (hc : c ∉ w) : w <:+: a ++ c :: b ↔ w <:+: a ∨ w <:+: b := by
  rw [List.infix_append_iff]
  constructor
  · rintro (h | h | ⟨u, v, rfl, hu, hv⟩)
    · exact .inl h
    · rcases List.infix_cons_iff.mp h with h | h
      · rcases List.prefix_cons_iff.mp h with rfl | ⟨v, rfl, -⟩
        · exact .inl List.nil_infix
        · exact absurd List.mem_cons_self hc
      · exact .inr h
    · rcases List.prefix_cons_iff.mp hv with rfl | ⟨v, rfl, -⟩
      · rw [List.append_nil]
        exact .inl hu.isInfix
      · exact absurd (List.mem_append_right u List.mem_cons_self) hc
  · rintro (h | h)
    · exact .inl h
    · exact .inr (.inl (List.infix_cons h))

theorem infix_append_of_apart (h : ∀ c ∈ a, c ∉ w) : w <:+: a ++ b ↔ w <:+: b := by
  induction a with
  | nil => rfl
  | cons c a ih =>
    obtain ⟨hc, ha⟩ := List.forall_mem_cons.mp h
    have hcut := infix_append_cons (a := []) (b := a ++ b) hc
    rw [List.nil_append, List.infix_nil] at hcut
    rw [List.cons_append, hcut, ih ha, or_iff_right_of_imp]
    rintro rfl
    exact List.nil_infix

namespace Lowered

theorem append_left {u : Text} (h : Lowered (a ++ b) u) : ∃ s t, u = s ++ t ∧ Lowered a s ∧ Lowered b t := by
  induction a generalizing u with
  | nil => exact ⟨[], u, rfl, .nil, h⟩
  | cons c a ih =>
    cases h with
    | cons hc h =>
      obtain ⟨s, t, rfl, ha, hb⟩ := ih h
      exact ⟨_, t, (List.append_assoc _ _ _).symm, .cons hc ha, hb⟩

theorem eq_self (h : Lowered s t) (hs : ∀ c ∈ s, c.toNat < 65) : t = s := by
  induction h with
  | nil => rfl
  | cons hc h ih =>
    obtain ⟨hsign, hs⟩ := List.forall_mem_cons.mp hs
    rw [hc.ascii (by omega), ih hs, toLower_of_sign (.inl hsign)]
    rfl

theorem tight (h : Lowered s t) (hs : Tight s) : Tight t := by
  constructor
  · cases h with
    | nil => exact hs.1
    | cons hc h =>
      obtain ⟨x, piece, rfl⟩ := List.exists_cons_of_ne_nil hc.ne_nil
      intro d hd
      obtain rfl : x = d := Option.some.inj hd
      exact hc.blank (hs.1 _ rfl) x List.mem_cons_self
  · rcases List.eq_nil_or_concat s with rfl | ⟨a, c, rfl⟩
    · cases h
      exact hs.2
    · rw [List.concat_eq_append] at h hs
      obtain ⟨u, v, rfl, -, hlast⟩ := h.append_left
      cases hlast with
      | cons hc hnil =>
        cases hnil
        intro d hd
        rw [List.append_nil, List.getLast?_append_of_ne_nil u hc.ne_nil] at hd
        exact hc.blank (hs.2 _ (by simp)) d (List.mem_of_getLast? hd)

theorem count_eq (h : Lowered s t) (hc : c.toNat < 65) : t.count c = s.count c := by
  induction h with
  | nil => rfl
  | @cons d piece s t hd h ih =>
    rw [List.count_append, ih, List.count_cons, Nat.add_comm]
    congr 1
    by_cases hascii : d.toNat < 128
    · rw [hd.ascii hascii, List.count_singleton]
      simp only [beq_iff_eq, toLower_eq_iff_of_sign hc]
    · have hpiece : c ∉ piece := fun hmem => hd.other (Nat.not_lt.mp hascii) c hmem (isPlain_of_sign hc)
      have hself : d ≠ c := by
        rintro rfl
        omega
      rw [List.count_eq_zero.mpr hpiece, if_neg (by simpa using hself)]

theorem prefix_iff (h : Lowered s t) (hw : ∀ c ∈ w, IsPlain c) : w <+: t ↔ w <+: s.map Char.toLower := by
  induction h generalizing w with
  | nil => rfl
  | @cons d piece s t hd h ih =>
    cases w with
    | nil => simp
    | cons x w =>
      obtain ⟨hx, hw⟩ := List.forall_mem_cons.mp hw
      rw [List.map_cons, List.cons_prefix_cons]
      by_cases hascii : d.toNat < 128
      · rw [hd.ascii hascii, List.singleton_append, List.cons_prefix_cons, ih hw]
      · have hbeyond := Nat.not_lt.mp hascii
        obtain ⟨y, piece, rfl⟩ := List.exists_cons_of_ne_nil hd.ne_nil
        rw [List.cons_append, List.cons_prefix_cons, toLower_of_not_ascii hbeyond]
        constructor
        · rintro ⟨rfl, -⟩
          exact absurd hx (hd.other hbeyond x List.mem_cons_self)
        · rintro ⟨rfl, -⟩
          exact absurd hx.1 hascii

theorem infix_iff (h : Lowered s t) (hw : ∀ c ∈ w, IsPlain c) : w <:+: t ↔ w <:+: s.map Char.toLower := by
  induction h with
  | nil => rfl
  | @cons d piece s t hd h ih =>
    rw [List.map_cons]
    by_cases hascii : d.toNat < 128
    · have hprefix := (Lowered.cons hd h).prefix_iff hw
      rw [hd.ascii hascii] at hprefix ⊢
      rw [List.singleton_append, List.infix_cons_iff, List.infix_cons_iff, ih]
      exact or_congr_left hprefix
    · have hbeyond := Nat.not_lt.mp hascii
      have hself : ∀ y ∈ [d.toLower], y ∉ w := by
        rw [List.forall_mem_singleton, toLower_of_not_ascii hbeyond]
        exact fun hmem => absurd (hw d hmem).1 hascii
      rw [infix_append_of_apart fun y hy hmem => hd.other hbeyond y hy (hw y hmem), ih]
      exact (infix_append_of_apart hself).symm

end Lowered

theorem Tight.lowerAfter (h : Tight s) (cased : Bool) : Tight (lowerAfter cased s) :=
  (lowered_lowerAfter cased s).tight h

theorem map_toLower_of_lowerAfter (hword : ∀ c ∈ word, c.toNat < 128 ∧ c ≠ 'k') {cased : Bool}
    (h : lowerAfter cased s = word) : s.map Char.toLower = word := by
  suffices hascii : ∀ c ∈ s, c.toNat < 128 by rw [← h, lowerAfter_eq_map hascii]
  induction s generalizing cased word with
  | nil => exact List.forall_mem_nil _
  | cons c s ih =>
    subst h
    rw [lowerAfter] at hword
    obtain ⟨hpiece, hrest⟩ := List.forall_mem_append.mp hword
    refine List.forall_mem_cons.mpr ⟨Nat.lt_of_not_le fun hbeyond => ?_, ih hrest rfl⟩
    by_cases hsigma : c.toNat = 0x3A3
    · rw [if_pos hsigma] at hpiece
      have hascii := (hpiece _ (List.mem_singleton_self _)).1
      split at hascii
      · exact absurd hascii (by decide)
      · exact absurd hascii (by decide)
    · rw [if_neg hsigma] at hpiece
      obtain ⟨d, hd, hk⟩ := exists_beyond_of_lowerOf hbeyond
      obtain ⟨hascii, hne⟩ := hpiece d hd
      exact hne (hk hascii)

/-- A text becomes a word without the letter `k` exactly where it is that word in any letter case of ASCII. -/
theorem lower_eq_iff (hword : ∀ c ∈ word, c.toNat < 128 ∧ c ≠ 'k') : lower s = word ↔ s.map Char.toLower = word := by
  refine ⟨map_toLower_of_lowerAfter hword, ?_⟩
  rintro rfl
  refine lowerAfter_eq_map (fun c hc => Nat.lt_of_not_le fun hbeyond => ?_) false
  have hascii := (hword _ (List.mem_map_of_mem hc)).1
  rw [toLower_of_not_ascii hbeyond] at hascii
  omega

def Says (word s : Text) : Prop := word <:+: s.map Char.toLower

instance (word s : Text) : Decidable (Says word s) := inferInstanceAs (Decidable (_ <:+: _))

theorem infix_lower_iff (hword : ∀ c ∈ word, IsPlain c) (s : Text) : word <:+: lower s ↔ Says word s :=
  (lowered_lower s).infix_iff hword

@[simp] theorem says_nil : Says word [] ↔ word = [] := by
  rw [Says, List.map_nil, List.infix_nil]

theorem says_append_cons (hc : c.toLower ∉ word) : Says word (a ++ c :: b) ↔ Says word a ∨ Says word b := by
  rw [Says, List.map_append, List.map_cons, infix_append_cons hc]
  rfl

theorem says_join (hword : word ≠ []) (hcomma : ',' ∉ word) (hspace : ' ' ∉ word) (l : List Text) :
    Says word (join ", " l) ↔ ∃ s ∈ l, Says word s := by
  induction l with
  | nil => simp [join, hword]
  | cons s l ih =>
    cases l with
    | nil => simp [join]
    | cons t l =>
      have hjoin : join ", " (s :: t :: l) = s ++ ',' :: ([] ++ ' ' :: join ", " (t :: l)) := by
        rw [join, List.append_assoc]
        rfl
      rw [hjoin, says_append_cons hcomma, says_append_cons hspace, says_nil, or_iff_right hword, ih]
      simp only [List.exists_mem_cons_iff]

end JobBoards.Text
