import JobBoards.Index
import JobBoards.Proofs.Batch
import Mathlib.Data.List.Perm.Basic
namespace JobBoards.Buckets
variable {κ : Type} [DecidableEq κ]

theorem fst_file (key : κ) (entry : Entry) (b : Buckets κ) :
    (file key entry b).map Prod.fst =
      if key ∈ b.map Prod.fst then b.map Prod.fst else b.map Prod.fst ++ [key] := by
  induction b with
  | nil => rfl
  | cons bucket rest ih =>
    by_cases h : bucket.1 = key
    · simp [file, h]
    · rw [file, if_neg h, List.map_cons, ih, List.map_cons]
      by_cases hmem : key ∈ rest.map Prod.fst
      · rw [if_pos hmem, if_pos (List.mem_cons_of_mem _ hmem)]
      · rw [if_neg hmem, if_neg (List.not_mem_cons_of_ne_of_not_mem (Ne.symm h) hmem),
          List.cons_append]

@[simp] theorem get_cons (key : κ) (bucket : κ × List Entry) (rest : Buckets κ) :
    get key (bucket :: rest) = if bucket.1 = key then bucket.2 else get key rest := by
  obtain ⟨k, es⟩ := bucket
  by_cases h : k = key
  · simp [get, h]
  · simp [get, List.lookup_cons, h, beq_false_of_ne (Ne.symm h)]

@[simp] theorem get_file (key other : κ) (entry : Entry) (b : Buckets κ) :
    get other (file key entry b) =
      if key = other then get other b ++ [entry] else get other b := by
  induction b with
  | nil =>
    rw [file, get_cons]
    rfl
  | cons bucket rest ih =>
    by_cases h : bucket.1 = key
    · subst h
      rw [file, if_pos rfl, get_cons, get_cons]
      split <;> rfl
    · rw [file, if_neg h, get_cons, get_cons, ih]
      by_cases hother : bucket.1 = other
      · rw [if_pos hother, if_pos hother, if_neg (hother ▸ Ne.symm h)]
      · rw [if_neg hother, if_neg hother]

theorem perm_file (key : κ) (entry : Entry) (b : Buckets κ) :
    ((file key entry b).flatMap Prod.snd).Perm (b.flatMap Prod.snd ++ [entry]) := by
  induction b with
  | nil => exact .rfl
  | cons bucket rest ih =>
    by_cases h : bucket.1 = key
    · simp only [file, if_pos h, List.flatMap_cons, List.append_assoc]
      exact List.perm_append_comm.append_left _
    · simp only [file, if_neg h, List.flatMap_cons, List.append_assoc]
      exact ih.append_left _

def filings (keys : Posting → List κ) (entries : List Entry) : List (κ × Entry) :=
  entries.flatMap fun e => (keys e.posting).map fun key => (key, e)

theorem build_eq_foldl (keys : Posting → List κ) (entries : List Entry) :
    build keys entries = (filings keys entries).foldl (fun b f => file f.1 f.2 b) [] := by
  simp only [build, filings, List.foldl_flatMap, List.foldl_map]

/-- The loop invariant of filing: what the buckets hold after the filings so far. -/
structure Holds (filed : List (κ × Entry)) (b : Buckets κ) : Prop where
  keys_eq : b.map Prod.fst = (filed.map Prod.fst).eraseDups
  get_eq : ∀ key, get key b = (filed.filter (·.1 = key)).map Prod.snd
  perm : (b.flatMap Prod.snd).Perm (filed.map Prod.snd)

theorem Holds.file {filed : List (κ × Entry)} {b : Buckets κ} (h : Holds filed b) (key : κ)
    (entry : Entry) : Holds (filed ++ [(key, entry)]) (file key entry b) where
  keys_eq := by
    rw [fst_file, List.map_append, List.map_singleton, eraseDups_concat, h.keys_eq]
    simp only [List.mem_eraseDups]
  get_eq other := by
    rw [get_file, h.get_eq, List.filter_append, List.map_append]
    by_cases hkey : key = other
    · simp [hkey]
    · simp [hkey]
  perm := by
    rw [List.map_append, List.map_singleton]
    exact (perm_file key entry b).trans (h.perm.append_right _)

theorem holds_build (keys : Posting → List κ) (entries : List Entry) :
    Holds (filings keys entries) (build keys entries) := by
  rw [build_eq_foldl]
  generalize filings keys entries = filed
  induction filed using List.reverseRecOn with
  | nil => exact ⟨rfl, fun _ => rfl, .nil⟩
  | append_singleton filed f ih =>
    rw [List.foldl_append]
    exact ih.file f.1 f.2

section Build
variable (keys : Posting → List κ) (entries : List Entry)

@[simp] theorem fst_build :
    (build keys entries).map Prod.fst = (entries.flatMap fun e => keys e.posting).eraseDups := by
  rw [(holds_build keys entries).keys_eq, filings, List.map_flatMap]
  simp only [List.map_map, Function.comp_def, List.map_id']

theorem nodup_fst_build : ((build keys entries).map Prod.fst).Nodup := by
  rw [fst_build]
  exact nodup_eraseDups _

@[simp] theorem get_build (key : κ) :
    get key (build keys entries) =
      entries.flatMap fun e => List.replicate ((keys e.posting).count key) e := by
  rw [(holds_build keys entries).get_eq, filings, List.filter_flatMap, List.map_flatMap]
  refine congrArg (List.flatMap · entries) (funext fun e => ?_)
  rw [List.filter_map, List.map_map, List.count_eq_length_filter]
  exact List.map_const'

theorem flatMap_replicate_ite (entries : List Entry) (p : Entry → Prop) [DecidablePred p] :
    (entries.flatMap fun e => List.replicate (if p e then 1 else 0) e) = entries.filter (p ·) := by
  induction entries with
  | nil => rfl
  | cons e entries ih =>
    rw [List.flatMap_cons, ih]
    by_cases h : p e
    · simp [h]
    · simp [h]

theorem get_build_of_nodup (h : ∀ posting, (keys posting).Nodup) (key : κ) :
    get key (build keys entries) = entries.filter fun e => key ∈ keys e.posting := by
  rw [get_build, ← flatMap_replicate_ite]
  exact congrArg (List.flatMap · entries) (funext fun e => by rw [(h e.posting).count])

theorem snd_eq_get {b : Buckets κ} (h : (b.map Prod.fst).Nodup) {bucket : κ × List Entry}
    (hb : bucket ∈ b) : bucket.2 = get bucket.1 b := by
  induction b with
  | nil => cases hb
  | cons first rest ih =>
    rw [List.map_cons, List.nodup_cons] at h
    rw [get_cons]
    rcases List.mem_cons.mp hb with rfl | hrest
    · rw [if_pos rfl]
    · have hne : first.1 ≠ bucket.1 := fun heq => h.1 (heq ▸ List.mem_map_of_mem hrest)
      rw [if_neg hne]
      exact ih h.2 hrest

theorem snd_eq_get_build {bucket : κ × List Entry} (hb : bucket ∈ build keys entries) :
    bucket.2 = get bucket.1 (build keys entries) :=
  snd_eq_get (nodup_fst_build keys entries) hb

theorem bucket_ne_nil {bucket : κ × List Entry} (hb : bucket ∈ build keys entries) :
    bucket.2 ≠ [] := by
  have hkey : bucket.1 ∈ entries.flatMap fun e => keys e.posting := by
    rw [← List.mem_eraseDups, ← fst_build]
    exact List.mem_map_of_mem hb
  obtain ⟨e, he, hkey⟩ := List.mem_flatMap.mp hkey
  have hmem : e ∈ bucket.2 := by
    rw [snd_eq_get_build keys entries hb, get_build]
    have hcount := Nat.ne_of_gt (List.count_pos_iff.mpr hkey)
    exact List.mem_flatMap.mpr ⟨e, he, List.mem_replicate.mpr ⟨hcount, rfl⟩⟩
  exact List.ne_nil_of_mem hmem

end Build
end JobBoards.Buckets
