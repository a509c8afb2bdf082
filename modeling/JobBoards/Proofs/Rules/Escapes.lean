import JobBoards.Proofs.Rules.Reading
import JobBoards.Proofs.Yaml.Refusals
namespace JobBoards

namespace Value

def Unwritten (fault : Fault) : Prop := fault = .numberTooLongToWrite ∨ fault = tooDeep

theorem unwritten_tooDeep : ∀ fault ∈ some tooDeep, Unwritten fault := by
  rintro fault ⟨⟩
  exact .inr rfl

theorem Unwritten.or {a b : Option Fault} (ha : ∀ fault ∈ a, Unwritten fault) (hb : ∀ fault ∈ b, Unwritten fault) :
    ∀ fault ∈ a.or b, Unwritten fault := by
  cases a with
  | none => exact hb
  | some fault => exact ha

mutual

theorem unwritten_obstacle : ∀ (room : Nat) (v : Value), ∀ fault ∈ v.obstacle room, Unwritten fault
  | room, .int n => by
      unfold obstacle
      split
      · rintro fault ⟨⟩
        exact .inl rfl
      · exact nofun
  | room, .time t => by
      unfold obstacle
      split
      · exact unwritten_tooDeep
      · exact nofun
  | room, .list items => unwritten_obstacleIn room items
  | room, .set members => unwritten_obstacleIn (room - 1) members
  | room, .pair a b => by
      unfold obstacle
      split
      · exact unwritten_tooDeep
      · exact Unwritten.or (unwritten_obstacle (room - 1) a) (unwritten_obstacle (room - 1) b)
  | room, .map entries => unwritten_obstacleInEntries room entries
  | _, .null | _, .bool _ | _, .real _ | _, .text _ | _, .date _ | _, .bytes _ | _, .again _ => nofun

theorem unwritten_obstacleIn : ∀ (room : Nat) (vs : List Value), ∀ fault ∈ obstacleIn room vs, Unwritten fault
  | _, [] => nofun
  | room, v :: vs => by
      unfold obstacleIn
      split
      · exact unwritten_tooDeep
      · exact Unwritten.or (unwritten_obstacle (room - 1) v) (unwritten_obstacleIn room vs)

theorem unwritten_obstacleInEntries : ∀ (room : Nat) (es : List (Value × Value)),
    ∀ fault ∈ obstacleInEntries room es, Unwritten fault
  | _, [] => nofun
  | room, (k, v) :: es => by
      unfold obstacleInEntries
      split
      · exact unwritten_tooDeep
      · exact Unwritten.or (unwritten_obstacle (room - 1) k)
          (Unwritten.or (unwritten_obstacle (room - 1) v) (unwritten_obstacleInEntries room es))

end

theorem unwritten_obstacleShown (room : Nat) (v : Value) : ∀ fault ∈ v.obstacleShown room, Unwritten fault := by
  unfold obstacleShown
  split
  · exact nofun
  · exact unwritten_obstacle room v

namespace Unwritten
variable {fault : Fault}

theorem eq_tooDeep (h : Unwritten fault) (hvalue : ¬ fault.IsValue) : fault = tooDeep :=
  h.resolve_left fun heq => hvalue (heq ▸ .inl rfl)

end Unwritten

theorem not_isValue_tooDeep : ¬ tooDeep.IsValue := by decide

end Value

namespace Rules
open Category (Lawful)
variable {α : Type} [Category α] {calls room : Nat} {fault : Fault}

def TooDeepAmong (room : Nat) (vs : List Value) : Prop :=
  ∃ before v after, vs = before ++ v :: after ∧ v.obstacleShown room = some Value.tooDeep ∧
    ∀ w ∈ before, w.obstacleShown room = none

theorem tooDeepAmong_iff {vs : List Value} :
    TooDeepAmong room vs ↔ vs.findSome? (Value.obstacleShown room) = some Value.tooDeep :=
  List.findSome?_eq_some_iff.symm

theorem tooDeepAmong_singleton {v : Value} :
    TooDeepAmong room [v] ↔ v.obstacleShown room = some Value.tooDeep := by
  rw [tooDeepAmong_iff, List.findSome?_singleton]

theorem keywords_stray_iff {name : Value} {items : List Value} :
    keywords calls name items = .error fault ∧ ¬ fault.IsValue ↔
      fault = Value.tooDeep ∧ TooDeepAmong (calls - 2) items := by
  rw [tooDeepAmong_iff]
  unfold keywords
  cases hfound : items.findSome? (Value.obstacleShown (calls - 2)) with
  | none =>
    simp only [reduceCtorEq, and_false, iff_false]
    rintro ⟨h, hvalue⟩
    split at h
    · cases h
    · exact hvalue (Except.error.inj h ▸ .inl rfl)
  | some other =>
    obtain ⟨v, -, hv⟩ := List.exists_of_findSome?_eq_some hfound
    have hother := Value.unwritten_obstacleShown (calls - 2) v other hv
    simp only [Except.error.injEq, Option.some.injEq]
    constructor
    · rintro ⟨rfl, hvalue⟩
      have hdeep := hother.eq_tooDeep hvalue
      exact ⟨hdeep, hdeep⟩
    · rintro ⟨rfl, rfl⟩
      exact ⟨rfl, Value.not_isValue_tooDeep⟩

inductive RowTooDeep (α : Type) [Category α] (calls : Nat) (entry : Value × Value) : Prop where
  | name (hname : ∀ label : α, entry.1 ≠ .text (Category.name label))
      (h : entry.1.obstacle calls = some Value.tooDeep)
  | keyword (label : α) (hname : entry.1 = .text (Category.name label)) (h : TooDeepAmong (calls - 2) entry.2.items)

@[simp] theorem ofName?_name [Lawful α] (label : α) : Category.ofName? (Category.name label) = some label := by
  cases hfound : (Category.ofName? (Category.name label) : Option α) with
  | none =>
    have hnone := List.find?_eq_none.mp hfound label (Lawful.mem_all label)
    exact absurd (beq_self_eq_true _) hnone
  | some found =>
    have hname : (Category.name found == Category.name label) = true :=
      List.find?_some (p := fun other => Category.name other == Category.name label) hfound
    rw [Category.name_injective (beq_iff_eq.mp hname)]

theorem labelOf_eq_ok_iff [Lawful α] {name : Value} {label : α} :
    labelOf calls name = .ok label ↔ name = .text (Category.name label) := by
  refine ⟨labelOf_eq_ok, ?_⟩
  rintro rfl
  rw [labelOf, ofName?_name]

theorem labelOf_eq_error_iff [Lawful α] {name : Value} :
    labelOf (α := α) calls name = .error fault ↔
      (∀ label : α, name ≠ .text (Category.name label)) ∧ unknownLabel α calls name = fault := by
  have hfault {f : Fault} (h : labelOf (α := α) calls name = .error f) : unknownLabel α calls name = f := by
    unfold labelOf at h
    split at h
    · split at h
      · cases h
      · exact Except.error.inj h
    · exact Except.error.inj h
  constructor
  · intro h
    refine ⟨fun label hname => ?_, hfault h⟩
    rw [labelOf_eq_ok_iff.mpr hname] at h
    cases h
  · rintro ⟨hname, rfl⟩
    cases h : labelOf (α := α) calls name with
    | ok label => exact absurd (labelOf_eq_ok h) (hname label)
    | error other => rw [hfault h]

theorem unknownLabel_stray_iff {name : Value} :
    unknownLabel α calls name = fault ∧ ¬ fault.IsValue ↔
      fault = Value.tooDeep ∧ name.obstacle calls = some Value.tooDeep := by
  unfold unknownLabel
  cases hname : name.obstacle calls with
  | none =>
    simp only [Option.getD_none, reduceCtorEq, and_false, iff_false]
    rintro ⟨rfl, hvalue⟩
    exact hvalue (.inl rfl)
  | some other =>
    have hother := Value.unwritten_obstacle calls name other hname
    simp only [Option.getD_some, Option.some.injEq]
    constructor
    · rintro ⟨rfl, hvalue⟩
      have hdeep := hother.eq_tooDeep hvalue
      exact ⟨hdeep, hdeep⟩
    · rintro ⟨rfl, rfl⟩
      exact ⟨rfl, Value.not_isValue_tooDeep⟩

theorem row_of_items {name value : Value} {label : α} (hlabel : labelOf calls name = .ok label)
    (hvalue : (∃ items, value = .list items) ∨ ∃ a b, value = .pair a b) :
    row calls (name, value) = (keywords calls name value.items).map (label, ·) := by
  rcases hvalue with ⟨items, rfl⟩ | ⟨a, b, rfl⟩
  · rw [row, hlabel]
    rfl
  · rw [row, hlabel]
    rfl

theorem row_of_no_items {name value : Value} {label : α} (hlabel : labelOf calls name = .ok label)
    (hlist : ∀ items, value ≠ .list items) (hpair : ∀ a b, value ≠ .pair a b) :
    row (α := α) calls (name, value) = .error (.keywordsNotList name.quoted) := by
  rw [row, hlabel]
  cases value with
  | list items => exact absurd rfl (hlist items)
  | pair a b => exact absurd rfl (hpair a b)
  | _ => rfl

theorem items_eq_nil {value : Value} (hlist : ∀ items, value ≠ .list items) (hpair : ∀ a b, value ≠ .pair a b) :
    value.items = [] := by
  cases value with
  | list items => exact absurd rfl (hlist items)
  | pair a b => exact absurd rfl (hpair a b)
  | _ => rfl

theorem row_stray_iff [Lawful α] {entry : Value × Value} :
    row (α := α) calls entry = .error fault ∧ ¬ fault.IsValue ↔ fault = Value.tooDeep ∧ RowTooDeep α calls entry := by
  cases hlabel : labelOf (α := α) calls entry.1 with
  | error other =>
    obtain ⟨hname, hother⟩ := labelOf_eq_error_iff.mp hlabel
    have hrow : row (α := α) calls entry = .error other := by
      rw [row, hlabel]
      rfl
    rw [hrow, Except.error.injEq, ← hother, unknownLabel_stray_iff]
    refine and_congr_right fun _ => ⟨.name hname, ?_⟩
    rintro (⟨-, h⟩ | ⟨label, heq, -⟩)
    · exact h
    · exact absurd heq (hname label)
  | ok label =>
    have hname := labelOf_eq_ok hlabel
    have hkeywords : RowTooDeep α calls entry ↔ TooDeepAmong (calls - 2) entry.2.items := by
      refine ⟨?_, .keyword label hname⟩
      rintro (⟨hnone, -⟩ | ⟨-, -, h⟩)
      · exact absurd hname (hnone label)
      · exact h
    rw [hkeywords]
    obtain ⟨name, value⟩ := entry
    by_cases hitems : (∃ items, value = .list items) ∨ ∃ a b, value = .pair a b
    · rw [row_of_items hlabel hitems, Fault.map_eq_error, keywords_stray_iff]
    · have hlist : ∀ items, value ≠ .list items := fun items h => hitems (.inl ⟨items, h⟩)
      have hpair : ∀ a b, value ≠ .pair a b := fun a b h => hitems (.inr ⟨a, b, h⟩)
      rw [row_of_no_items hlabel hlist hpair, items_eq_nil hlist hpair, tooDeepAmong_iff]
      constructor
      · rintro ⟨h, hvalue⟩
        exact absurd (.inl (Except.error.inj h ▸ rfl)) hvalue
      · rintro ⟨-, h⟩
        cases h

theorem foldlM_overrideRow_error_iff [DecidableEq α] {entries : List (Value × Value)} {table : Table α} :
    entries.foldlM (overrideRow calls) table = .error fault ↔
      ∃ before entry after, entries = before ++ entry :: after ∧
        (∀ e ∈ before, ∃ r : α × List Text, row calls e = .ok r) ∧ row (α := α) calls entry = .error fault := by
  induction entries generalizing table with
  | nil => simp
  | cons entry entries ih =>
    have hrow : overrideRow calls table entry = .error fault ↔ row (α := α) calls entry = .error fault := by
      cases hrow : row (α := α) calls entry with
      | ok r => simp [overrideRow, hrow]
      | error other => simp [overrideRow, hrow]
    rw [List.foldlM_cons, Fault.bind_eq_error, hrow]
    constructor
    · rintro (h | ⟨next, hnext, h⟩)
      · exact ⟨[], entry, entries, rfl, by simp, h⟩
      · obtain ⟨before, other, after, rfl, hbefore, hother⟩ := ih.mp h
        obtain ⟨r, hr, -⟩ := Fault.bind_eq_ok.mp hnext
        exact ⟨entry :: before, other, after, rfl, List.forall_mem_cons.mpr ⟨⟨r, hr⟩, hbefore⟩, hother⟩
    · rintro ⟨before, other, after, heq, hbefore, hother⟩
      cases before with
      | nil =>
        obtain ⟨rfl, rfl⟩ := List.cons.inj heq
        exact .inl hother
      | cons first before =>
        obtain ⟨rfl, rfl⟩ := List.cons.inj heq
        obtain ⟨⟨r, hr⟩, hbefore⟩ := List.forall_mem_cons.mp hbefore
        have hnext : overrideRow calls table entry = .ok (table.override r.1 r.2) := by
          rw [overrideRow, hr]
          rfl
        exact .inr ⟨_, hnext, ih.mpr ⟨before, other, after, rfl, hbefore, hother⟩⟩

inductive Stuck (α : Type) [Category α] (calls : Nat) : Value → Fault → Prop where
  | noTable {v : Value} (hfull : v.isEmpty = false) (hmap : ∀ entries, v ≠ .map entries) :
      Stuck α calls v (.tableNotMapping v.typeName)
  | row {before after : List (Value × Value)} {entry : Value × Value}
      (hbefore : ∀ e ∈ before, ∃ r : α × List Text, row (calls - 1) e = .ok r)
      (hentry : RowTooDeep α (calls - 1) entry) : Stuck α calls (.map (before ++ entry :: after)) Value.tooDeep

theorem not_isValue_tableNotMapping (type : Text) : ¬ (Fault.tableNotMapping type).IsValue := by
  have hkind : ("AttributeError".toList : Text) ≠ "ValueError" ∧ ("AttributeError".toList : Text) ≠
      "UnicodeDecodeError" := by decide
  rintro (h | h)
  · exact hkind.1 h
  · exact hkind.2 h

@[simp] theorem isEmpty_append_cons (before after : List (Value × Value)) (entry : Value × Value) :
    (Value.map (before ++ entry :: after)).isEmpty = false := by
  cases before <;> rfl

theorem overridden_stray_iff [DecidableEq α] [Lawful α] {table : Table α} {v : Value} :
    overridden calls table v = .error fault ∧ ¬ fault.IsValue ↔ Stuck α calls v fault := by
  constructor
  · rintro ⟨h, hvalue⟩
    unfold overridden at h
    split at h
    · cases h
    · rename_i hfull
      split at h
      · obtain ⟨before, entry, after, rfl, hbefore, hentry⟩ := foldlM_overrideRow_error_iff.mp h
        obtain ⟨rfl, hdeep⟩ := row_stray_iff.mp ⟨hentry, hvalue⟩
        exact .row hbefore hdeep
      · rename_i hmap
        obtain rfl := Except.error.inj h
        exact .noTable (Bool.eq_false_iff.mpr hfull) hmap
  · intro h
    cases h with
    | noTable hfull hmap =>
      refine ⟨?_, not_isValue_tableNotMapping v.typeName⟩
      unfold overridden
      rw [hfull]
      cases v with
      | map entries => exact absurd rfl (hmap entries)
      | _ => rfl
    | row hbefore hentry =>
      obtain ⟨hrow, hvalue⟩ := row_stray_iff.mpr ⟨rfl, hentry⟩
      refine ⟨?_, hvalue⟩
      rw [overridden, isEmpty_append_cons]
      exact foldlM_overrideRow_error_iff.mpr ⟨_, _, _, rfl, hbefore, hrow⟩

theorem remoteKeywordOf_stray_iff {v : Value} :
    remoteKeywordOf calls v = .error fault ∧ ¬ fault.IsValue ↔
      fault = Value.tooDeep ∧ v.obstacleShown (calls - 2) = some Value.tooDeep := by
  have herror : remoteKeywordOf calls v = .error fault ↔
      keywords calls (.text "remote_keyword") [v] = .error fault := by
    rw [remoteKeywordOf, Fault.bind_eq_error]
    refine or_iff_left ?_
    rintro ⟨words, -, h⟩
    cases words <;> cases h
  rw [herror, keywords_stray_iff, tooDeepAmong_singleton]

/-- What a mapping is refused for without being called a bad value: of the tables and the remote keyword, which are
read in this order, the first that cannot be read. -/
inductive Refused (calls : Nat) (entries : List (Value × Value)) : Fault → Prop where
  | skills {fault : Fault} (h : Stuck Skill calls (part "skills" entries) fault) : Refused calls entries fault
  | levels {fault : Fault} {skills : Table Skill}
      (hskills : overridden calls Table.defaultSkills (part "skills" entries) = .ok skills)
      (h : Stuck Level calls (part "levels" entries) fault) : Refused calls entries fault
  | remoteKeyword {skills : Table Skill} {levels : Table Level} {v : Value}
      (hskills : overridden calls Table.defaultSkills (part "skills" entries) = .ok skills)
      (hlevels : overridden calls Table.defaultLevels (part "levels" entries) = .ok levels)
      (hv : Value.field? "remote_keyword" entries = some v)
      (h : v.obstacleShown (calls - 2) = some Value.tooDeep) : Refused calls entries Value.tooDeep

theorem not_refused_nil : ¬ Refused calls [] fault := by
  have hstuck {α : Type} [Category α] : ¬ Stuck α calls .null fault := by
    rintro ⟨hfull, -⟩
    cases hfull
  rintro (h | ⟨-, h⟩ | ⟨-, -, hv, -⟩)
  · exact hstuck h
  · exact hstuck h
  · cases hv

variable {path : Text} {v : Value}

theorem ofValue_cons_stray_iff {entry : Value × Value} {entries : List (Value × Value)} :
    ofValue calls path (.map (entry :: entries)) = .error fault ∧ ¬ fault.IsValue ↔
      Refused calls (entry :: entries) fault := by
  simp only [ofValue, Value.isEmpty, List.isEmpty_cons, Bool.false_eq_true, if_false, Fault.bind_eq_error]
  constructor
  · rintro ⟨h, hvalue⟩
    rcases h with h | ⟨skills, hskills, h | ⟨levels, hlevels, h | ⟨remote, -, h⟩⟩⟩
    · exact .skills (overridden_stray_iff.mp ⟨h, hvalue⟩)
    · exact .levels hskills (overridden_stray_iff.mp ⟨h, hvalue⟩)
    · obtain ⟨rfl, hdeep⟩ := remoteKeywordOf_stray_iff.mp ⟨h, hvalue⟩
      cases hv : Value.field? "remote_keyword" (entry :: entries) with
      | none =>
        rw [hv] at hdeep
        cases hdeep
      | some v =>
        rw [hv] at hdeep
        exact .remoteKeyword hskills hlevels hv hdeep
    · cases h
  · intro h
    cases h with
    | skills h =>
      obtain ⟨h, hvalue⟩ := overridden_stray_iff.mpr h
      exact ⟨.inl h, hvalue⟩
    | levels hskills h =>
      obtain ⟨h, hvalue⟩ := overridden_stray_iff.mpr h
      exact ⟨.inr ⟨_, hskills, .inl h⟩, hvalue⟩
    | remoteKeyword hskills hlevels hv h =>
      obtain ⟨h, hvalue⟩ := remoteKeywordOf_stray_iff.mpr ⟨rfl, h⟩
      exact ⟨.inr ⟨_, hskills, .inr ⟨_, hlevels, .inl (by rwa [hv])⟩⟩, hvalue⟩

theorem ofValue_stray_iff :
    ofValue calls path v = .error fault ∧ ¬ fault.IsValue ↔
      ∃ entries, v = .map entries ∧ Refused calls entries fault := by
  by_cases hmap : ∃ entries, v = .map entries
  · obtain ⟨entries, rfl⟩ := hmap
    simp only [Value.map.injEq, exists_eq_left']
    cases entries with
    | nil =>
      refine iff_of_false ?_ not_refused_nil
      rintro ⟨h, -⟩
      cases h
    | cons entry entries => exact ofValue_cons_stray_iff
  · refine iff_of_false ?_ fun ⟨entries, heq, _⟩ => hmap ⟨entries, heq⟩
    rintro ⟨h, hvalue⟩
    unfold ofValue at h
    split at h
    · cases h
    · split at h
      · exact hmap ⟨_, rfl⟩
      · exact hvalue (Except.error.inj h ▸ .inl rfl)

/-- What a settings file is refused for without being called a bad value: a fault of reading the file as a document, or
one of the mapping that the document holds. -/
inductive Escapes (reader : Reader) (b : ByteArray) : Fault → Prop where
  | document {fault : Fault} (h : reader.value b = .error fault) (hfault : ¬ fault.IsValue) : Escapes reader b fault
  | mapping {entries : List (Value × Value)} {fault : Fault} (h : reader.value b = .ok (.map entries))
      (hrefused : Refused reader.calls entries fault) : Escapes reader b fault

theorem loadBy_stray_iff {reader : Reader} {b : ByteArray} :
    loadBy reader path (.bytes b) = .error fault ∧ ¬ fault.IsValue ↔ Escapes reader b fault := by
  have hload : loadBy reader path (.bytes b) =
      reader.value b >>= fun v => ofValue reader.calls (Path.normal path) v := rfl
  rw [hload, Fault.bind_eq_error]
  constructor
  · rintro ⟨h | ⟨v, hv, h⟩, hvalue⟩
    · exact .document h hvalue
    · obtain ⟨entries, rfl, hrefused⟩ := ofValue_stray_iff.mp ⟨h, hvalue⟩
      exact .mapping hv hrefused
  · rintro (⟨h, hvalue⟩ | ⟨hv, hrefused⟩)
    · exact ⟨.inl h, hvalue⟩
    · obtain ⟨h, hvalue⟩ := ofValue_stray_iff.mpr ⟨_, rfl, hrefused⟩
      exact ⟨.inr ⟨_, hv, h⟩, hvalue⟩

def strayKinds : List Text :=
  ["YAMLError", "KeyError", "IndexError", "OverflowError", "AttributeError", "TypeError", "RecursionError"]

theorem kind_mem_of_stray (h : Yaml.Stray fault) : fault.kind ∈ strayKinds := by
  cases h with
  | word s =>
    have hkey : ("KeyError".toList : Text) ∈ strayKinds := by decide
    exact hkey
  | _ => decide

theorem kind_mem_of_refused {entries : List (Value × Value)} (h : Refused calls entries fault) :
    fault.kind ∈ strayKinds := by
  have hstuck {α : Type} [Category α] {v : Value} (h : Stuck α calls v fault) : fault.kind ∈ strayKinds := by
    cases h with
    | noTable =>
      have hattribute : ("AttributeError".toList : Text) ∈ strayKinds := by decide
      exact hattribute
    | row => decide
  cases h with
  | skills h => exact hstuck h
  | levels _ h => exact hstuck h
  | remoteKeyword => decide

/-- Reading a file while its bytes are decoded piece by piece: text is read as YAML, and bytes that are no text are
refused for that or for what stands before them. -/
structure Reader.ReadsYaml (reader : Reader) : Prop where
  text {b : ByteArray} {s : Text} (h : decoded b = .ok s) : reader.value b = Yaml.load reader.calls s
  cut {b : ByteArray} {fault : Fault} (h : decoded b = .error fault) :
    reader.value b = .error fault ∨
      ∃ n s before, decoded (b.extract 0 n) = .ok s ∧ Yaml.load reader.calls s = .error before ∧
        reader.value b = .error before

theorem Reader.readsYaml_yaml (calls : Nat) : (Reader.yaml calls).ReadsYaml where
  text h := by
    show (do Yaml.load calls (← decoded _)) = _
    rw [h]
    rfl
  cut h := by
    refine .inl ?_
    show (do Yaml.load calls (← decoded _)) = _
    rw [h]
    rfl

theorem isValue_of_decoded {b : ByteArray} (h : decoded b = .error fault) : fault.IsValue := by
  unfold decoded at h
  split at h
  · cases h
  · exact Except.error.inj h ▸ .inr rfl

theorem Reader.ReadsYaml.stray {reader : Reader} (hreader : reader.ReadsYaml) {b : ByteArray}
    (h : reader.value b = .error fault) (hvalue : ¬ fault.IsValue) : Yaml.Stray fault := by
  have hload : ∃ s, Yaml.load reader.calls s = .error fault := by
    cases hdecoded : decoded b with
    | ok s => exact ⟨s, hreader.text hdecoded ▸ h⟩
    | error unread =>
      rcases hreader.cut hdecoded with hcut | ⟨n, s, before, -, hbefore, hcut⟩
      · obtain rfl := Except.error.inj (hcut.symm.trans h)
        exact absurd (isValue_of_decoded hdecoded) hvalue
      · obtain rfl := Except.error.inj (hcut.symm.trans h)
        exact ⟨s, hbefore⟩
  obtain ⟨s, hload⟩ := hload
  exact (Yaml.refusal_of_load hload).resolve_left hvalue

/-- However the bytes of a settings file are read as a document, they give rules or are refused as a bad value, but for
the faults of the reading itself, which pass through as they are, for a value that is asked for its entries and is no
mapping, and for what lies too deep to be written in a message or as a keyword. -/
theorem load_escapes_iff (reader : Reader) (path : Text) (b : ByteArray) (fault : Fault) :
    (loadBy reader path (.bytes b) = .error fault ∧ ¬ fault.IsValue ↔ Escapes reader b fault) ∧
    (reader.ReadsYaml → loadBy reader path (.bytes b) = .error fault ∧ ¬ fault.IsValue →
      fault.kind ∈ strayKinds) := by
  refine ⟨loadBy_stray_iff, fun hreader h => ?_⟩
  rcases loadBy_stray_iff.mp h with ⟨hload, hvalue⟩ | ⟨-, hrefused⟩
  · exact kind_mem_of_stray (hreader.stray hload hvalue)
  · exact kind_mem_of_refused hrefused

theorem load_listOfSkills :
    load 980 "rules.yml" (.bytes "skills: [a]\n".toUTF8) = .error (.tableNotMapping "list") := by
  decide +kernel

theorem load_escapes_listOfSkills :
    Escapes (.yaml 980) "skills: [a]\n".toUTF8 (.tableNotMapping "list") ∧
    (Fault.tableNotMapping "list").kind ∈ strayKinds := by
  have hescapes := load_escapes_iff (.yaml 980) "rules.yml" "skills: [a]\n".toUTF8 (.tableNotMapping "list")
  have hlist := And.intro load_listOfSkills (show ¬ (Fault.tableNotMapping "list").IsValue by decide)
  exact ⟨hescapes.1.mp hlist, hescapes.2 (Reader.readsYaml_yaml 980) hlist⟩

theorem not_forall_isValue :
    load 980 "rules.yml" (.bytes "skills: [a]\n".toUTF8) = .error (.tableNotMapping "list") ∧
    load 980 "rules.yml" (.bytes "skills: \x7ba: [\x7d\n".toUTF8) = .error .malformedYaml ∧
    ¬ ∀ calls path b fault, load calls path (.bytes b) = .error fault → fault.IsValue := by
  refine ⟨load_listOfSkills, by decide +kernel, fun h => ?_⟩
  have hvalue := h _ _ _ _ load_listOfSkills
  revert hvalue
  decide

end Rules
end JobBoards
