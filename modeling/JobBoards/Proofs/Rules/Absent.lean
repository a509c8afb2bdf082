import JobBoards.Proofs.Rules.Reading
import JobBoards.Proofs.Yaml.Keys
namespace JobBoards

namespace Value
variable {name other : Text}

def without (name : Text) (entries : List (Value × Value)) : List (Value × Value) :=
  entries.filter fun e => !e.1.sameKey (.text name)

@[simp] theorem field?_without_self (name : Text) (entries : List (Value × Value)) :
    field? name (without name entries) = none := by
  rw [field?, Option.map_eq_none_iff, List.find?_eq_none]
  intro e he
  have hkept : e.1.sameKey (.text name) = false := by simpa using (List.mem_filter.mp he).2
  exact Bool.eq_false_iff.mp hkept

theorem field?_without_of_ne (h : other ≠ name) (entries : List (Value × Value)) :
    field? other (without name entries) = field? other entries := by
  rw [without, field?, field?, List.find?_filter]
  refine congrArg (fun p => (entries.find? p).map Prod.snd) (funext fun e => ?_)
  cases hother : e.1.sameKey (.text other) with
  | false => simp
  | true =>
    have hname : e.1.sameKey (.text name) = false := by
      rw [sameKey_text.mp hother]
      simpa [sameKey] using h
    simp [hname]

end Value

namespace Rules
open Value (put field? without)

@[simp] theorem remoteKeywordOf_null (calls : Nat) : remoteKeywordOf calls .null = .ok "none" := by
  have hany : remoteKeywordOf calls .null = remoteKeywordOf 0 .null := rfl
  rw [hany]
  decide +kernel

namespace Setting
variable {calls : Nat} {rules : Rules} {setting other : Setting}

def reset (rules : Rules) : Setting → Rules
  | .skills => { rules with skills := standard.skills }
  | .levels => { rules with levels := standard.levels }
  | .remoteKeyword => { rules with remoteKeyword := standard.remoteKeyword }

def blank (rules : Rules) : Setting → Rules
  | .remoteKeyword => { rules with remoteKeyword := "none" }
  | setting => setting.reset rules

theorem reads_reset (setting : Setting) : setting.Reads calls (setting.reset rules) none := by
  cases setting with
  | skills => rfl
  | levels => rfl
  | remoteKeyword => exact remoteKeywordOf_standard calls

theorem reads_blank (setting : Setting) : setting.Reads calls (setting.blank rules) (some .null) := by
  cases setting with
  | skills => rfl
  | levels => rfl
  | remoteKeyword => exact remoteKeywordOf_null calls

theorem Reads.reset_of_ne {v? : Option Value} (h : other.Reads calls rules v?) (hne : other ≠ setting) :
    other.Reads calls (setting.reset rules) v? := by
  cases other <;> cases setting <;> first | exact absurd rfl hne | exact h

theorem Reads.blank_of_ne {v? : Option Value} (h : other.Reads calls rules v?) (hne : other ≠ setting) :
    other.Reads calls (setting.blank rules) v? := by
  cases other <;> cases setting <;> first | exact absurd rfl hne | exact h

theorem blank_eq_reset_iff : setting.blank rules = setting.reset rules ↔ setting ≠ .remoteKeyword := by
  cases setting with
  | skills => simp [blank]
  | levels => simp [blank]
  | remoteKeyword =>
    have hkeyword : ("none".toList : Text) ≠ standard.remoteKeyword := by decide
    simpa [blank, reset] using hkeyword

end Setting

variable {calls : Nat} {path : Text} {entries : List (Value × Value)} {rules : Rules}

theorem ofValue_without (h : ofValue calls path (.map entries) = .ok rules) (setting : Setting) :
    ofValue calls path (.map (without setting.name entries)) = .ok (setting.reset rules) := by
  rw [ofValue_map_eq_ok] at h ⊢
  intro other
  by_cases hother : other = setting
  · rw [hother, Value.field?_without_self]
    exact setting.reads_reset
  · rw [Value.field?_without_of_ne (Setting.name_injective.ne hother)]
    exact (h other).reset_of_ne hother

theorem ofValue_put_null (h : ofValue calls path (.map entries) = .ok rules) (setting : Setting) :
    ofValue calls path (.map (put (.text setting.name) .null entries)) = .ok (setting.blank rules) := by
  rw [ofValue_map_eq_ok] at h ⊢
  intro other
  by_cases hother : other = setting
  · rw [hother, Value.field?_put_self]
    exact setting.reads_blank
  · rw [Value.field?_put_of_ne (Setting.name_injective.ne hother)]
    exact (h other).blank_of_ne hother

/-- A setting without a value counts as left out, the remote keyword excepted: that one becomes the word for the
missing value. -/
theorem ofValue_null_or_without (h : ofValue calls path (.map entries) = .ok rules) (setting : Setting) :
    ofValue calls path (.map (put (.text setting.name) .null entries)) = .ok (setting.blank rules) ∧
      ofValue calls path (.map (without setting.name entries)) = .ok (setting.reset rules) ∧
      (setting.blank rules = setting.reset rules ↔ setting ≠ .remoteKeyword) :=
  ⟨ofValue_put_null h setting, ofValue_without h setting, Setting.blank_eq_reset_iff⟩

def siteEntries : List (Value × Value) :=
  [(.text "remote_keyword", .text "Anywhere"),
    (.text "skills", .map [(.text "DevOps", .list [.text "sre"])])]

def anywhere : Rules :=
  { standard with skills := Table.defaultSkills.override .devops ["sre"], remoteKeyword := "anywhere" }

theorem ofValue_null_or_without_siteEntries :
    ofValue 980 "rules.yml" (.map siteEntries) = .ok anywhere ∧
      ofValue 980 "rules.yml" (.map (put (.text "remote_keyword") .null siteEntries)) =
        .ok { anywhere with remoteKeyword := "none" } ∧
      ofValue 980 "rules.yml" (.map (without "remote_keyword" siteEntries)) =
        .ok { anywhere with remoteKeyword := "remote" } ∧
      ofValue 980 "rules.yml" (.map (put (.text "skills") .null siteEntries)) =
        ofValue 980 "rules.yml" (.map (without "skills" siteEntries)) := by
  have h : ofValue 980 "rules.yml" (.map siteEntries) = .ok anywhere := by decide +kernel
  obtain ⟨hnull, hwithout, -⟩ := ofValue_null_or_without h .remoteKeyword
  obtain ⟨hskills, hbare, heq⟩ := ofValue_null_or_without h .skills
  have hsame := heq.mpr Setting.noConfusion
  exact ⟨h, hnull, hwithout, (hskills.trans (congrArg Except.ok hsame)).trans hbare.symm⟩

theorem not_null_eq_without :
    ¬ ∀ (calls : Nat) (setting : Setting) (path : Text) (entries : List (Value × Value)) (rules : Rules),
    ofValue calls path (.map entries) = .ok rules →
      ofValue calls path (.map (put (.text setting.name) .null entries)) =
        ofValue calls path (.map (without setting.name entries)) := by
  intro h
  have hsame := h 980 .remoteKeyword "rules.yml" [] standard rfl
  revert hsame
  decide +kernel

example : load 980 "rules.yml" (.bytes "remote_keyword:\n".toUTF8) = .ok { standard with remoteKeyword := "none" } ∧
    load 980 "rules.yml" (.bytes "skills:\nlevels:\n".toUTF8) = .ok standard := by
  decide +kernel

end Rules
end JobBoards
