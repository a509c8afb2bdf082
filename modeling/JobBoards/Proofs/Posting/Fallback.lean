import JobBoards.Proofs.Posting.Sheet
import JobBoards.Proofs.Rules.Keyword
import Mathlib.Data.List.Forall2
namespace JobBoards

namespace Field
variable {p : Posting} {f : Field} {s : Text}

def hasFallback : Field → Bool
  | .location | .pay | .tags | .link => true
  | .title | .company | .date | .source => false

def IsEmpty (p : Posting) : Field → Prop
  | .tags => p.tags.names = []
  | f => f.value p = [[]]

def written (p : Posting) : Field → Text
  | .tags => "[ ".toList ++ Text.join ", " p.tags.names ++ " ]".toList
  | f => Text.join [] (f.value p)

structure Shows (p : Posting) (f : Field) (row : SheetRow) : Prop where
  empty : f.IsEmpty p → row.line = f.label ++ ' ' :: if f.hasFallback then Posting.notAvailable else []
  filled : ¬ f.IsEmpty p → row.line = f.label ++ ' ' :: Screen.visible (f.written p)

theorem isEmpty_iff (hf : f ≠ .tags) (hs : f.value p = [s]) : f.IsEmpty p ↔ s = [] := by
  cases f with
  | tags => exact absurd rfl hf
  | title | company | date | location | pay | source | link =>
    simp only [IsEmpty, hs, List.singleton_inj]

theorem written_eq (hf : f ≠ .tags) (hs : f.value p = [s]) : f.written p = s := by
  cases f with
  | tags => exact absurd rfl hf
  | title | company | date | location | pay | source | link =>
    simp only [written, hs, Text.join]

@[simp] theorem visible_notAvailable : Screen.visible Posting.notAvailable = Posting.notAvailable := by decide

theorem shows_text (hf : f ≠ .tags) (hs : f.value p = [s]) (style : Style) :
    f.Shows p ⟨f.label, if f.hasFallback then Posting.orNotAvailable s else s, style⟩ := by
  constructor
  · intro hempty
    obtain rfl := (isEmpty_iff hf hs).mp hempty
    cases f.hasFallback with
    | true => exact congrArg (f.label ++ ' ' :: ·) visible_notAvailable
    | false => rfl
  · intro hfilled
    have hne : s ≠ [] := mt (isEmpty_iff hf hs).mpr hfilled
    have hkept : Posting.orNotAvailable s = s := if_neg (mt List.isEmpty_iff.mp hne)
    rw [SheetRow.line, written_eq hf hs, hkept, ite_self]

theorem shows_tags (p : Posting) (style : Style) : tags.Shows p ⟨tags.label, Posting.tagsText p.tags, style⟩ := by
  constructor
  · intro hempty
    have hnone : p.tags.names = [] := hempty
    rw [SheetRow.line, Posting.tagsText, hnone, List.isEmpty_nil, if_pos rfl, visible_notAvailable]
    rfl
  · intro hfilled
    have hsome : ¬ p.tags.names.isEmpty = true := mt List.isEmpty_iff.mp hfilled
    rw [SheetRow.line, Posting.tagsText, if_neg hsome, written]

end Field

namespace Posting

/-- A sheet has a row for each field. Location, pay, tags and link are told to be missing where they are empty; the
title, the company, the date and the site then leave their rows blank behind the label. -/
theorem sheet_shows_fields (p : Posting) :
    p.sheet.text = SheetRow.lines p.rows ++ '\n' :: separator ∧ List.Forall₂ (Field.Shows p) Field.shown p.rows := by
  refine ⟨p.text_sheet, ?_⟩
  refine .cons (Field.shows_text (f := .title) nofun rfl _) ?_
  refine .cons (Field.shows_text (f := .company) nofun rfl _) ?_
  refine .cons (Field.shows_text (f := .date) nofun rfl _) ?_
  refine .cons (Field.shows_text (f := .location) nofun rfl _) ?_
  refine .cons (Field.shows_text (f := .pay) nofun rfl _) ?_
  refine .cons (Field.shows_tags p _) ?_
  refine .cons (Field.shows_text (f := .link) nofun rfl _) ?_
  exact .cons (Field.shows_text (f := .source) nofun rfl _) .nil

def untitled : Posting := ⟨"", "Acme", "2024-01-01", "Remote", "", "a", ⟨[], true⟩, ""⟩

theorem not_notAvailable_untitled : ¬ ∀ (p : Posting) (f : Field), f.IsEmpty p →
    f.label ++ ' ' :: notAvailable <:+: p.sheet.text := by
  intro h
  have hhas := (Text.has_iff_infix _ _).mpr (h untitled .title rfl)
  revert hhas
  decide +kernel

end Posting
end JobBoards
