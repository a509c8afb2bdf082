import JobBoards.Proofs.Index.Buckets
import JobBoards.Proofs.Rules.Keyword
import Mathlib.Algebra.BigOperators.Group.List.Basic
import Mathlib.Algebra.GroupWithZero.Nat
import Mathlib.Data.List.Nodup
namespace JobBoards

namespace Buckets
variable {κ : Type} [DecidableEq κ]

structure Partitions (key : Posting → κ) (entries : List Entry) (b : Buckets κ) : Prop where
  keys_eq : b.map Prod.fst = (entries.map fun e => key e.posting).eraseDups
  bucket_eq : ∀ bucket ∈ b, bucket.2 = entries.filter fun e => key e.posting = bucket.1
  bucket_ne_nil : ∀ bucket ∈ b, bucket.2 ≠ []
  bucket_unique : ∀ i ∈ entries.map Entry.position,
    ∃! bucket, bucket ∈ b ∧ i ∈ bucket.2.map Entry.position
  perm : (b.flatMap Prod.snd).Perm entries
  length_eq : (b.map fun bucket => bucket.2.length).sum = entries.length

/-- Every entry is filed under a label as often as rows of the table with that label call for it. -/
structure Tallies (table : Table κ) (entries : List Entry) (b : Buckets κ) : Prop where
  keys_eq : b.map Prod.fst = (entries.flatMap fun e => table.labels e.posting.title).eraseDups
  mem_keys : ∀ label, label ∈ b.map Prod.fst ↔
    ∃ e ∈ entries, ∃ row ∈ table, row.1 = label ∧ Table.Holds row.2 e.posting.title
  bucket_eq : ∀ bucket ∈ b, bucket.2 = entries.flatMap fun e =>
    List.replicate
      (table.countP fun row => decide (row.1 = bucket.1 ∧ Table.Holds row.2 e.posting.title)) e
  bucket_ne_nil : ∀ bucket ∈ b, bucket.2 ≠ []
  bucket_eq_filter : (table.map Prod.fst).Nodup → ∀ bucket ∈ b, bucket.2 = entries.filter fun e =>
    ∃ row ∈ table, row.1 = bucket.1 ∧ Table.Holds row.2 e.posting.title

section Single
variable (key : Posting → κ) (entries : List Entry)

theorem get_build_single (k : κ) :
    get k (build (fun posting => [key posting]) entries) =
      entries.filter fun e => key e.posting = k := by
  rw [get_build_of_nodup _ _ fun posting => List.nodup_singleton (key posting)]
  exact List.filter_congr fun e _ => by simp [eq_comm]

theorem perm_build_single :
    ((build (fun posting => [key posting]) entries).flatMap Prod.snd).Perm entries := by
  have h := (holds_build (fun posting => [key posting]) entries).perm
  have hfiled : (filings (fun posting => [key posting]) entries).map Prod.snd = entries := by
    simp only [filings, List.map_cons, List.map_nil, ← List.map_eq_flatMap, List.map_map,
      Function.comp_def, List.map_id']
  rwa [hfiled] at h

theorem mem_bucket_single {bucket : κ × List Entry}
    (hb : bucket ∈ build (fun posting => [key posting]) entries) (e : Entry) :
    e ∈ bucket.2 ↔ e ∈ entries ∧ key e.posting = bucket.1 := by
  rw [snd_eq_get_build _ _ hb, get_build_single]
  simp

theorem existsUnique_bucket (hn : (entries.map Entry.position).Nodup) {i : Nat}
    (hi : i ∈ entries.map Entry.position) :
    ∃! bucket, bucket ∈ build (fun posting => [key posting]) entries ∧
      i ∈ bucket.2.map Entry.position := by
  obtain ⟨e, he, rfl⟩ := List.mem_map.mp hi
  have hkeys := fst_build (fun posting => [key posting]) entries
  have hkey : key e.posting ∈ (build (fun posting => [key posting]) entries).map Prod.fst := by
    rw [hkeys, List.mem_eraseDups]
    exact List.mem_flatMap.mpr ⟨e, he, List.mem_singleton_self _⟩
  obtain ⟨bucket, hb, hbucket⟩ := List.mem_map.mp hkey
  refine ⟨bucket, ⟨hb, List.mem_map_of_mem ?_⟩, ?_⟩
  · exact (mem_bucket_single key entries hb e).mpr ⟨he, hbucket.symm⟩
  · rintro other ⟨ho, hi⟩
    obtain ⟨e', he', hposition⟩ := List.mem_map.mp hi
    obtain ⟨hmem, hother⟩ := (mem_bucket_single key entries ho e').mp he'
    obtain rfl : e' = e := List.inj_on_of_nodup_map hn hmem he hposition
    exact List.inj_on_of_nodup_map (nodup_fst_build _ entries) ho hb (hother.symm.trans hbucket.symm)

theorem partitions_build (hn : (entries.map Entry.position).Nodup) :
    Partitions key entries (build (fun posting => [key posting]) entries) where
  keys_eq := by
    rw [fst_build, List.map_eq_flatMap]
  bucket_eq bucket hb := by
    rw [snd_eq_get_build _ _ hb, get_build_single]
  bucket_ne_nil bucket hb := bucket_ne_nil _ entries hb
  bucket_unique i hi := existsUnique_bucket key entries hn hi
  perm := perm_build_single key entries
  length_eq := by
    rw [← (perm_build_single key entries).length_eq, List.length_flatMap]

end Single

theorem tallies_build (table : Table κ) (entries : List Entry) :
    Tallies table entries (build (fun posting => table.labels posting.title) entries) where
  keys_eq := fst_build _ entries
  mem_keys label := by
    simp only [fst_build, List.mem_eraseDups, List.mem_flatMap, Table.mem_labels]
  bucket_eq bucket hb := by
    rw [snd_eq_get_build _ _ hb, get_build]
    simp only [Table.count_labels]
  bucket_ne_nil bucket hb := bucket_ne_nil _ entries hb
  bucket_eq_filter hn bucket hb := by
    rw [snd_eq_get_build _ _ hb, get_build_of_nodup _ _ fun p => Table.nodup_labels hn p.title]
    simp only [Table.mem_labels]

end Buckets

namespace Index

theorem index_files_every_posting (rules : Rules) (postings : List Posting) :
    (build rules (Entry.number postings)).date.Partitions Posting.date (Entry.number postings) ∧
    (build rules (Entry.number postings)).company.Partitions Posting.company
      (Entry.number postings) ∧
    (build rules (Entry.number postings)).location.Partitions rules.location
      (Entry.number postings) ∧
    (build rules (Entry.number postings)).skill.Tallies rules.skills (Entry.number postings) ∧
    (build rules (Entry.number postings)).level.Tallies rules.levels (Entry.number postings) := by
  have hn : ((Entry.number postings).map Entry.position).Nodup := by
    rw [Entry.map_position_number]
    exact List.nodup_range
  exact ⟨Buckets.partitions_build _ _ hn, Buckets.partitions_build _ _ hn,
    Buckets.partitions_build _ _ hn, Buckets.tallies_build _ _, Buckets.tallies_build _ _⟩

end Index
end JobBoards
