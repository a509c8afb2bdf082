import JobBoards.Pay
import JobBoards.Proofs.Text.Letters
namespace JobBoards.Pay
variable {markers low high s t : Text}

def written (low high : Text) : Text := '$' :: low ++ " - $".toList ++ high

structure Bound (s : Text) : Prop where
  dash : '-' ∉ s
  tight : Text.Tight s

theorem Bound.lowered (h : Bound s) (hs : Text.Lowered s t) : Bound t := by
  refine ⟨?_, hs.tight h.tight⟩
  rw [← List.count_eq_zero, hs.count_eq (by decide)]
  exact List.count_eq_zero.mpr h.dash

theorem written_ne_nil (low high : Text) : written low high ≠ [] := List.cons_ne_nil _ _

theorem count_written (low high : Text) : (written low high).count '$' = 2 + (low.count '$' + high.count '$') := by
  have hbetween : " - $".toList.count '$' = 1 := by decide
  rw [written, List.count_append, List.count_append, List.count_cons_self, hbetween]
  omega

def OneSignEach (pay : Text) : Prop := (∃ low high, pay = written low high) ∧ pay.count '$' = 2

@[simp] theorem oneSignEach_written : OneSignEach (written low high) ↔ low.count '$' + high.count '$' = 0 := by
  rw [OneSignEach, count_written, and_iff_right ⟨low, high, rfl⟩]
  omega

theorem lower_written (low high : Text) : ∃ low' high', Text.lower (written low high) = written low' high' ∧
    Text.Lowered low low' ∧ Text.Lowered high high' := by
  have hsign : ∀ c ∈ ['$'], c.toNat < 65 := List.all_iff_forall_prop.mp (by decide)
  have hbetween : ∀ c ∈ " - $".toList, c.toNat < 65 := List.all_iff_forall_prop.mp (by decide)
  have h : Text.Lowered (['$'] ++ low ++ " - $".toList ++ high) (Text.lower (written low high)) :=
    Text.lowered_lower _
  obtain ⟨_, high', hlower, h, hhigh⟩ := h.append_left
  obtain ⟨_, between, rfl, h, hb⟩ := h.append_left
  obtain ⟨sign, low', rfl, hs, hlow⟩ := h.append_left
  obtain rfl := hs.eq_self hsign
  obtain rfl := hb.eq_self hbetween
  exact ⟨low', high', hlower, hlow, hhigh⟩

theorem count_stripped {c : Char} (hc : c ∉ markers) (s : Text) : (stripped markers s).count c = s.count c :=
  List.count_filter (by simpa using hc)

@[simp]
theorem stripped_append (markers s t : Text) : stripped markers (s ++ t) = stripped markers s ++ stripped markers t :=
  List.filter_append s t

theorem bound_stripped (h : '-' ∉ s) (markers : Text) : Bound (Text.trim (stripped markers s)) := by
  refine ⟨?_, Text.tight_trim _⟩
  rw [← List.count_eq_zero, Text.count_trim (by decide), List.count_eq_zero]
  exact fun hmem => h (List.mem_of_mem_filter hmem)

theorem range_lowered (markers s : Text) : range markers true s = Text.lower (range markers false s) := by
  unfold range
  split <;> rfl

theorem range_of_dash (hm : '-' ∉ markers) (hs : '-' ∉ s) (ht : '-' ∉ t) :
    range markers false (s ++ '-' :: t) =
      written (Text.trim (stripped markers s)) (Text.trim (stripped markers t)) := by
  have hkept {u : Text} (hu : '-' ∉ u) : '-' ∉ stripped markers u := fun h => hu (List.mem_of_mem_filter h)
  have hstripped : stripped markers (s ++ '-' :: t) = stripped markers s ++ '-' :: stripped markers t := by
    rw [stripped_append]
    congr 1
    exact List.filter_cons_of_pos (by simpa using hm)
  unfold range
  rw [hstripped, Text.splitOn_append_cons (hkept hs) (hkept ht)]
  rfl

theorem range_of_count_ne (hm : '-' ∉ markers) (h : s.count '-' ≠ 1) (lowered : Bool) :
    range markers lowered s = [] := by
  unfold range
  split
  · rename_i hparts
    have hlength := congrArg List.length hparts
    rw [List.length_map, Text.length_splitOn, count_stripped hm] at hlength
    exact absurd (Nat.succ.inj hlength) h
  · rfl

theorem range_of_count_eq (hm : '-' ∉ markers) (h : s.count '-' = 1) (lowered : Bool) :
    ∃ low high, range markers lowered s = written low high ∧ Bound low ∧ Bound high ∧
      low.count '$' + high.count '$' = (stripped markers s).count '$' := by
  obtain ⟨u, v, rfl, hu, hv⟩ := Text.exists_of_count_eq_one h
  have hlow := bound_stripped hu markers
  have hhigh := bound_stripped hv markers
  have hsigns : (Text.trim (stripped markers u)).count '$' + (Text.trim (stripped markers v)).count '$' =
      (stripped markers (u ++ '-' :: v)).count '$' := by
    have hdash : (stripped markers ['-']).count '$' = 0 :=
      List.count_eq_zero.mpr fun hmem => by simp [stripped] at hmem
    rw [Text.count_trim (by decide), Text.count_trim (by decide), stripped_append, List.count_append,
      ← List.singleton_append, stripped_append, List.count_append, hdash, Nat.zero_add]
  cases lowered with
  | false => exact ⟨_, _, range_of_dash hm hu hv, hlow, hhigh, hsigns⟩
  | true =>
    obtain ⟨low, high, hlower, hl, hh⟩ :=
      lower_written (Text.trim (stripped markers u)) (Text.trim (stripped markers v))
    refine ⟨low, high, ?_, hlow.lowered hl, hhigh.lowered hh, ?_⟩
    · rw [range_lowered, range_of_dash hm hu hv, hlower]
    · rw [hl.count_eq (by decide), hh.count_eq (by decide), hsigns]

@[simp] theorem stripped_singleton (marker : Char) (s : Text) : stripped [marker] s = Text.without marker s := by
  refine List.filter_congr fun c _ => ?_
  rw [List.contains_cons, List.contains_nil, Bool.or_false]
  rfl

theorem range_congr (h : Text.without '$' t = Text.without '$' s) (lowered : Bool) :
    range ['$'] lowered t = range ['$'] lowered s := by
  unfold range
  rw [stripped_singleton, stripped_singleton, h]

theorem range_of_marker {marker : Char} (hmarker : marker ≠ '-') (hs : '-' ∉ s) (ht : '-' ∉ t) (lowered : Bool) :
    let pay := written (Text.trim (Text.without marker s)) (Text.trim (Text.without marker t))
    range [marker] lowered (s ++ '-' :: t) = if lowered then Text.lower pay else pay := by
  have hdash : range [marker] false (s ++ '-' :: t) =
      written (Text.trim (Text.without marker s)) (Text.trim (Text.without marker t)) := by
    rw [range_of_dash (by simpa using hmarker.symm) hs ht, stripped_singleton, stripped_singleton]
  cases lowered with
  | false => exact hdash
  | true => exact (range_lowered _ _).trans (congrArg Text.lower hdash)

theorem range_written (hlow : Bound low) (hhigh : Bound high) (hlow' : '$' ∉ low) (hhigh' : '$' ∉ high) :
    range ['$'] false (written low high) = written low high := by
  have hself {u : Text} (hu : '$' ∉ u) : stripped ['$'] u = u := by
    rw [stripped, List.filter_eq_self]
    intro c hc
    simpa using fun h : c = '$' => hu (h ▸ hc)
  have hsplit : written low high = ('$' :: low ++ [' ']) ++ '-' :: ([' ', '$'] ++ high) := by
    simp [written]
  have hleft : Text.trim (stripped ['$'] ('$' :: low ++ [' '])) = low := by
    have hstripped : stripped ['$'] ('$' :: low ++ [' ']) = [] ++ low ++ [' '] := by
      rw [stripped_append]
      exact congrArg (· ++ [' ']) (hself hlow')
    rw [hstripped]
    exact hlow.tight.trim_blanks (List.forall_mem_nil _) (List.all_eq_true.mp (by decide))
  have hright : Text.trim (stripped ['$'] ([' ', '$'] ++ high)) = high := by
    have hstripped : stripped ['$'] ([' ', '$'] ++ high) = [' '] ++ high ++ [] := by
      rw [stripped_append, hself hhigh', List.append_nil]
      rfl
    rw [hstripped]
    exact hhigh.tight.trim_blanks (List.all_eq_true.mp (by decide)) (List.forall_mem_nil _)
  rw [hsplit, range_of_dash (by decide), hleft, hright, ← hsplit]
  · simpa using hlow.dash
  · simpa using hhigh.dash

theorem exists_written_of_count (h : s.count '-' = 1) (lowered : Bool) : ∃ low high,
    range ['$'] lowered s = written low high ∧ Bound low ∧ Bound high ∧ '$' ∉ low ∧ '$' ∉ high := by
  have hmarker : '-' ∉ ['$'] := by decide
  obtain ⟨low, high, hrange, hlow, hhigh, hsigns⟩ := range_of_count_eq hmarker h lowered
  have hnone : (stripped ['$'] s).count '$' = 0 := List.count_eq_zero.mpr fun hmem => by simp [stripped] at hmem
  rw [hnone, Nat.add_eq_zero_iff, List.count_eq_zero, List.count_eq_zero] at hsigns
  exact ⟨low, high, hrange, hlow, hhigh, hsigns⟩

@[simp] theorem range_range (lowered : Bool) (s : Text) :
    range ['$'] lowered (range ['$'] lowered s) = range ['$'] lowered s := by
  by_cases h : s.count '-' = 1
  · obtain ⟨low, high, hrange, hlow, hhigh, hlow', hhigh'⟩ := exists_written_of_count h lowered
    have hwritten := range_written hlow hhigh hlow' hhigh'
    cases lowered with
    | false => rw [hrange, hwritten]
    | true =>
      -- what comes out in small letters stays so
      have hsmall : Text.lower (written low high) = written low high := by
        rw [← hrange, range_lowered, Text.lower_lower]
      rw [hrange, range_lowered, hwritten, hsmall]
  · rw [range_of_count_ne (by decide) h, range_of_count_ne (by decide) (by decide)]

theorem range_ne_nil_iff (lowered : Bool) (s : Text) : range ['$'] lowered s ≠ [] ↔ s.count '-' = 1 := by
  by_cases h : s.count '-' = 1
  · obtain ⟨low, high, hrange, -⟩ := exists_written_of_count h lowered
    rw [hrange]
    exact iff_of_true (written_ne_nil low high) h
  · rw [range_of_count_ne (by decide) h]
    exact iff_of_false (fun hne => hne rfl) h

/-- Pay ranges are normal forms, and the currency signs of a text have no part in them. -/
theorem range_normal (lowered : Bool) (s : Text) :
    (range ['$'] lowered s ≠ [] ↔ s.count '-' = 1) ∧
    (range ['$'] lowered s ≠ [] → ∃ low high, range ['$'] lowered s = written low high ∧
      Bound low ∧ Bound high ∧ '$' ∉ low ∧ '$' ∉ high) ∧
    range ['$'] lowered (range ['$'] lowered s) = range ['$'] lowered s ∧
    (∀ t, Text.without '$' t = Text.without '$' s → range ['$'] lowered t = range ['$'] lowered s) ∧
    ∀ before after, s = before ++ '-' :: after → '-' ∉ before → '-' ∉ after →
      let pay := written (Text.trim (Text.without '$' before)) (Text.trim (Text.without '$' after))
      range ['$'] lowered s = if lowered then Text.lower pay else pay := by
  have hiff := range_ne_nil_iff lowered s
  refine ⟨hiff, fun h => exists_written_of_count (hiff.mp h) lowered, range_range lowered s,
    fun t h => range_congr h lowered, ?_⟩
  rintro before after rfl hbefore hafter
  exact range_of_marker (by decide) hbefore hafter lowered

theorem range_greekLetters :
    range ['$'] true "$ΑΣ-12Σ".toList ≠ [] ∧
    range ['$'] true "$ΑΣ-12Σ".toList = written "ας".toList "12σ".toList ∧
    range ['$'] true "$ας - $12σ".toList = "$ας - $12σ".toList ∧
    Text.without '$' "Α$Σ-$$12Σ".toList = Text.without '$' "$ΑΣ-12Σ".toList ∧
    range ['$'] true "Α$Σ-$$12Σ".toList = range ['$'] true "$ΑΣ-12Σ".toList := by
  obtain ⟨hiff, -, hagain, hsigns, hbounds⟩ := range_normal true "$ΑΣ-12Σ".toList
  have hwithout : Text.without '$' "Α$Σ-$$12Σ".toList = Text.without '$' "$ΑΣ-12Σ".toList := by decide
  have hpay : range ['$'] true "$ΑΣ-12Σ".toList = written "ας".toList "12σ".toList :=
    (hbounds "$ΑΣ".toList "12Σ".toList rfl (by decide) (by decide)).trans (by decide +kernel)
  rw [hpay] at hagain
  exact ⟨hiff.mpr (by decide), hpay, hagain, hwithout, hsigns _ hwithout⟩

end JobBoards.Pay
