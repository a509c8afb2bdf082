import JobBoards.Proofs.Text.Pieces
import JobBoards.Text.Case
namespace JobBoards.Text
open Case
variable {c d : Char} {s : Text}

def IsSmall (c : Char) : Prop := c.toNat ≠ 0x3A3 ∧ lowerOf c = [c]

instance (c : Char) : Decidable (IsSmall c) := inferInstanceAs (Decidable (_ ∧ _))

namespace Case.Run
variable {r : Run} {n : Nat}

def low (r : Run) : Nat := (r.first + r.shift).toNat

def high (r : Run) : Nat := r.low + (r.last - r.first)

def leadsTo (r q : Run) : Bool :=
  Nat.ble q.first r.high && Nat.ble r.low q.last &&
    (List.range (r.last + 1 - r.first)).any fun k => Nat.beq (k % r.step) 0 && q.covers (r.low + k)

def Avoids (r : Run) (ranges : List (Nat × Nat)) : Prop :=
  0 ≤ r.first + r.shift ∧ (r.high < 0xD800 ∨ 0xE000 ≤ r.low ∧ r.high < 0x110000) ∧
    (128 ≤ r.low ∨ 97 ≤ r.low ∧ r.high < 128) ∧ ∀ b ∈ ranges, r.high < b.1 ∨ b.2 < r.low

instance (r : Run) (ranges : List (Nat × Nat)) : Decidable (r.Avoids ranges) :=
  inferInstanceAs (Decidable (_ ∧ _))

@[simp] theorem covers_iff : r.covers n = true ↔ r.first ≤ n ∧ n ≤ r.last ∧ (n - r.first) % r.step = 0 := by
  simp [covers, and_assoc]

theorem leadsTo_lowerRuns : (lowerRuns.all fun r => lowerRuns.all fun q => !r.leadsTo q) = true := by
  decide +kernel

theorem avoids_lowerRuns :
    ∀ r ∈ lowerRuns, r.Avoids ((0x130, 0x130) :: (0x3A3, 0x3A3) :: blankRanges) := by
  decide +kernel

theorem bounds_of_covers (h : r.covers n = true) :
    r.low ≤ r.low + (n - r.first) ∧ r.low + (n - r.first) ≤ r.high := by
  obtain ⟨hfirst, hlast, -⟩ := covers_iff.mp h
  unfold high
  omega

theorem toNat_of_covers (h : r.covers n = true) (hsign : 0 ≤ r.first + r.shift) :
    (n + r.shift).toNat = r.low + (n - r.first) := by
  obtain ⟨hfirst, -, -⟩ := covers_iff.mp h
  unfold low
  omega

theorem toNat_ofNat_of_covers (hr : r ∈ lowerRuns) (h : r.covers n = true) :
    (Char.ofNat (n + r.shift).toNat).toNat = r.low + (n - r.first) := by
  obtain ⟨hsign, hvalid, -⟩ := avoids_lowerRuns r hr
  obtain ⟨hlow, hhigh⟩ := bounds_of_covers h
  have hchar : (r.low + (n - r.first)).isValidChar := by
    unfold Nat.isValidChar
    omega
  rw [toNat_of_covers h hsign]
  exact congrArg Char.toNat (dif_pos hchar)

theorem not_covers_of_covers {q : Run} (hr : r ∈ lowerRuns) (hq : q ∈ lowerRuns) (h : r.covers n = true) :
    q.covers (r.low + (n - r.first)) = false := by
  obtain ⟨hfirst, hlast, hstep⟩ := covers_iff.mp h
  have hleads := List.all_eq_true.mp (List.all_eq_true.mp leadsTo_lowerRuns r hr) q hq
  cases hcovers : q.covers (r.low + (n - r.first)) with
  | false => rfl
  | true =>
    obtain ⟨hqfirst, hqlast, -⟩ := covers_iff.mp hcovers
    obtain ⟨hlow, hhigh⟩ := bounds_of_covers h
    have hoffset : n - r.first ∈ List.range (r.last + 1 - r.first) := List.mem_range.mpr (by omega)
    have hany : ((List.range (r.last + 1 - r.first)).any fun k =>
        Nat.beq (k % r.step) 0 && q.covers (r.low + k)) = true :=
      List.any_eq_true.mpr ⟨n - r.first, hoffset, by simp [hstep, hcovers]⟩
    have hmeets : r.leadsTo q = true := by
      rw [leadsTo, hany, Bool.and_true, Bool.and_eq_true, Nat.ble_eq, Nat.ble_eq]
      omega
    rw [hmeets] at hleads
    cases hleads

end Case.Run

theorem isSmall_ascii : ∀ n < 128, IsSmall (Char.ofNat n).toLower ∧
    isBlank (Char.ofNat n).toLower = isBlank (Char.ofNat n) ∧
    (97 ≤ n → IsSmall (Char.ofNat n)) := by
  decide +kernel

theorem isSmall_of_not_covers (hascii : 128 ≤ c.toNat) (hdot : c.toNat ≠ 0x130) (hsigma : c.toNat ≠ 0x3A3)
    (h : ∀ r ∈ lowerRuns, r.covers c.toNat = false) : IsSmall c := by
  have hfind : lowerRuns.find? (fun r => r.covers c.toNat) = none :=
    List.find?_eq_none.mpr fun r hr => by simp [h r hr]
  refine ⟨hsigma, ?_⟩
  rw [lowerOf, if_neg (by omega), if_neg hdot, shifted, hfind]

theorem isSmall_of_covers {r : Run} (hr : r ∈ lowerRuns) {n : Nat} (h : r.covers n = true) :
    IsSmall (Char.ofNat (n + r.shift).toNat) ∧ isBlank (Char.ofNat (n + r.shift).toNat) = false := by
  obtain ⟨hsign, -, hascii, hranges⟩ := Run.avoids_lowerRuns r hr
  obtain ⟨hdot, hsigma, hblank⟩ := by simpa only [List.forall_mem_cons] using hranges
  obtain ⟨hlow, hhigh⟩ := Run.bounds_of_covers h
  have hnat := Run.toNat_ofNat_of_covers hr h
  rw [Run.toNat_of_covers h hsign] at hnat ⊢
  constructor
  · by_cases hsmall : r.low + (n - r.first) < 128
    · exact (isSmall_ascii _ hsmall).2.2 (by omega)
    · refine isSmall_of_not_covers ?_ ?_ ?_ ?_
      · omega
      · omega
      · omega
      · rw [hnat]
        exact fun q hq => Run.not_covers_of_covers hr hq h
  · rw [isBlank, hnat, inRanges, List.any_eq_false]
    intro b hb
    have := hblank b hb
    simp
    omega

theorem small_of_mem_lowerOf (hsigma : c.toNat ≠ 0x3A3) (hd : d ∈ lowerOf c) :
    IsSmall d ∧ (isBlank c = false → isBlank d = false) := by
  unfold lowerOf at hd
  split at hd
  · rename_i hascii
    obtain rfl := List.mem_singleton.mp hd
    have hlower := isSmall_ascii c.toNat hascii
    rw [Char.ofNat_toNat] at hlower
    exact ⟨hlower.1, fun hblank => hlower.2.1.trans hblank⟩
  rename_i hascii
  split at hd
  · have hletter : IsSmall 'i' ∧ isBlank 'i' = false := by decide
    have hmark : IsSmall (Char.ofNat 0x307) ∧ isBlank (Char.ofNat 0x307) = false := by decide
    rcases List.mem_cons.mp hd with rfl | hd
    · exact ⟨hletter.1, fun _ => hletter.2⟩
    · obtain rfl := List.mem_singleton.mp hd
      exact ⟨hmark.1, fun _ => hmark.2⟩
  rename_i hdot
  unfold shifted at hd
  split at hd
  · rename_i r hr
    obtain rfl := List.mem_singleton.mp hd
    obtain ⟨hsmall, hblank⟩ := isSmall_of_covers (List.mem_of_find?_eq_some hr)
      (List.find?_some (p := fun r : Run => r.covers c.toNat) hr)
    exact ⟨hsmall, fun _ => hblank⟩
  · rename_i hnone
    obtain rfl := List.mem_singleton.mp hd
    refine ⟨isSmall_of_not_covers (Nat.not_lt.mp hascii) hdot hsigma fun r hr => ?_, id⟩
    exact Bool.eq_false_iff.mpr (List.find?_eq_none.mp hnone r hr)

theorem lowerOf_ne_nil (c : Char) : lowerOf c ≠ [] := by
  unfold lowerOf
  split
  · exact List.cons_ne_nil _ _
  · split <;> exact List.cons_ne_nil _ _

/-- An ASCII character that is the small letter of ASCII characters only; `i` and `k` also come from others. -/
def IsPlain (c : Char) : Prop := c.toNat < 128 ∧ c ≠ 'i' ∧ c ≠ 'k'

instance (c : Char) : Decidable (IsPlain c) := inferInstanceAs (Decidable (_ ∧ _))

theorem Case.Run.low_lowerRuns : ∀ r ∈ lowerRuns, r.last < 128 ∨ 128 ≤ r.low ∨ r.low = 107 ∧ r.high = 107 := by
  decide +kernel

/-- Of the runs beyond ASCII only that of the Kelvin sign leads back into it. -/
theorem eq_k_of_covers {r : Run} (hr : r ∈ lowerRuns) (hc : 128 ≤ c.toNat) (h : r.covers c.toNat = true)
    (hascii : (Char.ofNat (c.toNat + r.shift).toNat).toNat < 128) : Char.ofNat (c.toNat + r.shift).toNat = 'k' := by
  obtain ⟨-, hlast, -⟩ := Run.covers_iff.mp h
  obtain ⟨hlow, hhigh⟩ := Run.bounds_of_covers h
  have hnat := Run.toNat_ofNat_of_covers hr h
  rcases Run.low_lowerRuns r hr with hletters | hbeyond | ⟨hkelvin, hkelvin'⟩
  · omega
  · omega
  · refine Char.toNat_inj.mp (hnat.trans ?_)
    change _ = 107
    omega

theorem not_plain_of_covers {r : Run} (hr : r ∈ lowerRuns) (hc : 128 ≤ c.toNat) (h : r.covers c.toNat = true) :
    ¬ IsPlain (Char.ofNat (c.toNat + r.shift).toNat) := by
  rintro ⟨hascii, -, hk⟩
  exact hk (eq_k_of_covers hr hc h hascii)

theorem exists_beyond_of_lowerOf (hc : 128 ≤ c.toNat) : ∃ d ∈ lowerOf c, d.toNat < 128 → d = 'k' := by
  rw [lowerOf, if_neg (Nat.not_lt.mpr hc)]
  split
  · exact ⟨Char.ofNat 0x307, by simp, fun hascii => absurd hascii (by decide)⟩
  · refine ⟨shifted lowerRuns c, List.mem_singleton_self _, ?_⟩
    unfold shifted
    split
    · rename_i r hr
      exact eq_k_of_covers (List.mem_of_find?_eq_some hr) hc
        (List.find?_some (p := fun r : Run => r.covers c.toNat) hr)
    · exact fun hascii => absurd hascii (Nat.not_lt.mpr hc)

theorem not_plain_of_mem_lowerOf (hc : 128 ≤ c.toNat) (hd : d ∈ lowerOf c) : ¬ IsPlain d := by
  rw [lowerOf, if_neg (Nat.not_lt.mpr hc)] at hd
  split at hd
  · have hboth : ¬ IsPlain 'i' ∧ ¬ IsPlain (Char.ofNat 0x307) := by decide
    rcases List.mem_cons.mp hd with rfl | hd
    · exact hboth.1
    · obtain rfl := List.mem_singleton.mp hd
      exact hboth.2
  · obtain rfl := List.mem_singleton.mp hd
    unfold shifted
    split
    · rename_i r hr
      exact not_plain_of_covers (List.mem_of_find?_eq_some hr) hc
        (List.find?_some (p := fun r : Run => r.covers c.toNat) hr)
    · exact fun hplain => absurd hplain.1 (Nat.not_lt.mpr hc)

structure Becomes (c : Char) (piece : Text) : Prop where
  ne_nil : piece ≠ []
  small : ∀ d ∈ piece, IsSmall d
  blank : isBlank c = false → ∀ d ∈ piece, isBlank d = false
  ascii : c.toNat < 128 → piece = [c.toLower]
  other : 128 ≤ c.toNat → ∀ d ∈ piece, ¬ IsPlain d

theorem becomes_lowerOf (hsigma : c.toNat ≠ 0x3A3) : Becomes c (lowerOf c) where
  ne_nil := lowerOf_ne_nil c
  small _ hd := (small_of_mem_lowerOf hsigma hd).1
  blank h _ hd := (small_of_mem_lowerOf hsigma hd).2 h
  ascii h := by rw [lowerOf, if_pos h]
  other h _ hd := not_plain_of_mem_lowerOf h hd

theorem becomes_sigma (hsigma : c.toNat = 0x3A3) : ∀ n ∈ [0x3C2, 0x3C3], Becomes c [Char.ofNat n] := by
  have hall : ∀ n ∈ [0x3C2, 0x3C3], IsSmall (Char.ofNat n) ∧ isBlank (Char.ofNat n) = false ∧
      ¬ IsPlain (Char.ofNat n) := by
    decide +kernel
  intro n hn
  obtain ⟨hsmall, hblank, hplain⟩ := hall n hn
  refine ⟨List.cons_ne_nil _ _, ?_, fun _ => ?_, fun hascii => ?_, fun _ => ?_⟩
  · exact List.forall_mem_singleton.mpr hsmall
  · exact List.forall_mem_singleton.mpr hblank
  · omega
  · exact List.forall_mem_singleton.mpr hplain

theorem lowerAfter_cons (cased : Bool) (c : Char) (s : Text) :
    ∃ piece next, lowerAfter cased (c :: s) = piece ++ lowerAfter next s ∧ Becomes c piece := by
  by_cases hsigma : c.toNat = 0x3A3
  · refine ⟨_, _, by rw [lowerAfter, if_pos hsigma], becomes_sigma hsigma _ ?_⟩
    split <;> simp
  · exact ⟨_, _, by rw [lowerAfter, if_neg hsigma], becomes_lowerOf hsigma⟩

theorem isSmall_of_mem_lowerAfter (cased : Bool) (s : Text) : ∀ d ∈ lowerAfter cased s, IsSmall d := by
  induction s generalizing cased with
  | nil => simp [lowerAfter]
  | cons c s ih =>
    obtain ⟨piece, next, hpiece, hbecomes⟩ := lowerAfter_cons cased c s
    rw [hpiece]
    intro d hd
    rcases List.mem_append.mp hd with hd | hd
    · exact hbecomes.small d hd
    · exact ih next d hd

theorem lowerAfter_eq_self (h : ∀ c ∈ s, IsSmall c) (cased : Bool) : lowerAfter cased s = s := by
  induction s generalizing cased with
  | nil => rfl
  | cons c s ih =>
    obtain ⟨⟨hsigma, hlower⟩, hs⟩ := List.forall_mem_cons.mp h
    rw [lowerAfter, if_neg hsigma, hlower, ih hs]
    rfl

@[simp] theorem lower_lower (s : Text) : lower (lower s) = lower s :=
  lowerAfter_eq_self (isSmall_of_mem_lowerAfter false s) false

def Tight (s : Text) : Prop :=
  (∀ c, s.head? = some c → isBlank c = false) ∧ ∀ c, s.getLast? = some c → isBlank c = false

instance (s : Text) : Decidable (Tight s) :=
  decidable_of_iff ((s.head?.all fun c => !isBlank c) = true ∧ (s.getLast?.all fun c => !isBlank c) = true)
    (by simp [Tight, Option.all_eq_true])

theorem trimEnd_prefix (s : Text) : trimEnd s <+: s := by
  have hprefix := List.reverse_prefix.mpr (List.dropWhile_suffix (l := s.reverse) isBlank)
  rwa [List.reverse_reverse] at hprefix

theorem not_blank_of_head?_dropWhile (h : (s.dropWhile isBlank).head? = some c) : isBlank c = false := by
  have hhead := List.head?_dropWhile_not isBlank s
  rw [h] at hhead
  exact hhead

theorem tight_trim (s : Text) : Tight (trim s) := by
  refine ⟨fun c hc => ?_, fun c hc => ?_⟩
  · obtain ⟨rest, hrest⟩ := trimEnd_prefix (trimStart s)
    have hstart : (trimStart s).head? = some c := by
      rw [← hrest, List.head?_append]
      exact congrArg (·.or rest.head?) hc
    exact not_blank_of_head?_dropWhile hstart
  · rw [trim, trimEnd, List.getLast?_reverse] at hc
    exact not_blank_of_head?_dropWhile hc

theorem exists_append_trim (s : Text) : ∃ a b, s = a ++ trim s ++ b ∧ (∀ c ∈ a, isBlank c = true) ∧
    ∀ c ∈ b, isBlank c = true := by
  have hstart := List.takeWhile_append_dropWhile (p := isBlank) (l := s)
  have hend := List.takeWhile_append_dropWhile (p := isBlank) (l := (trimStart s).reverse)
  refine ⟨s.takeWhile isBlank, ((trimStart s).reverse.takeWhile isBlank).reverse, ?_, ?_, ?_⟩
  · rw [List.append_assoc, trim, trimEnd, ← List.reverse_append, hend, List.reverse_reverse]
    exact hstart.symm
  · exact fun c hc => List.mem_takeWhile_imp hc
  · exact fun c hc => List.mem_takeWhile_imp (List.mem_reverse.mp hc)

theorem count_trim (hc : isBlank c = false) (s : Text) : (trim s).count c = s.count c := by
  obtain ⟨a, b, hs, ha, hb⟩ := exists_append_trim s
  have hnone {t : Text} (ht : ∀ d ∈ t, isBlank d = true) : t.count c = 0 := by
    rw [List.count_eq_zero]
    intro hmem
    rw [ht c hmem] at hc
    cases hc
  conv => rhs; rw [hs]
  rw [List.count_append, List.count_append, hnone ha, hnone hb, Nat.zero_add, Nat.add_zero]

theorem dropWhile_of_head? (h : ∀ c, s.head? = some c → isBlank c = false) : s.dropWhile isBlank = s := by
  cases s with
  | nil => rfl
  | cons c s => simp [h c rfl]

theorem Tight.trim_blanks {a b : Text} (h : Tight s) (ha : ∀ c ∈ a, isBlank c = true)
    (hb : ∀ c ∈ b, isBlank c = true) : trim (a ++ s ++ b) = s := by
  rw [trim, trimStart, List.append_assoc, List.dropWhile_append_of_pos ha]
  cases s with
  | nil =>
    rw [List.nil_append, List.dropWhile_eq_nil_iff.mpr hb]
    rfl
  | cons c s =>
    have hb' : ∀ c ∈ b.reverse, isBlank c = true := fun c hc => hb c (List.mem_reverse.mp hc)
    rw [dropWhile_of_head? (s := c :: s ++ b) h.1, trimEnd, List.reverse_append, List.dropWhile_append_of_pos hb',
      dropWhile_of_head?, List.reverse_reverse]
    rw [List.head?_reverse]
    exact h.2

@[simp] theorem trim_trim (s : Text) : trim (trim s) = trim s := by
  have htrim := (tight_trim s).trim_blanks (a := []) (b := []) (List.forall_mem_nil _) (List.forall_mem_nil _)
  rwa [List.nil_append, List.append_nil] at htrim

@[simp] theorem trim_ne_nil_iff : trim s ≠ [] ↔ ∃ c ∈ s, isBlank c = false := by
  obtain ⟨a, b, hs, ha, hb⟩ := exists_append_trim s
  constructor
  · intro h
    obtain ⟨c, rest, hrest⟩ := List.exists_cons_of_ne_nil h
    refine ⟨c, ?_, (tight_trim s).1 c (congrArg List.head? hrest)⟩
    rw [hs, hrest]
    simp
  · rintro ⟨c, hc, hblank⟩ hnil
    rw [hs, hnil, List.append_nil, List.mem_append] at hc
    rcases hc with hc | hc
    · rw [ha c hc] at hblank
      cases hblank
    · rw [hb c hc] at hblank
      cases hblank

end JobBoards.Text
