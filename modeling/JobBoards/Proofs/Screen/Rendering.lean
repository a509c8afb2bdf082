import JobBoards.Proofs.Screen.Tags
namespace JobBoards.Screen
open Piece (addChar)

def unescaped : Text → Text
  | [] => []
  | '\x5c' :: '[' :: s => '[' :: unescaped s
  | c :: s => c :: unescaped s

/-- What renders messages: how it spells the names of styles, and how it replaces the codes of pictures in a text. No
name of a picture holds an opening bracket, and a text without codes stays as it is. -/
structure Renderer where
  styleName : Text → Text
  isPicture : Text → Bool
  pictured : Text → Text
  notMem_picture : ∀ name, isPicture name = true → '[' ∉ name
  pictured_eq : ∀ s, (∀ name, isPicture name = true → ¬ ':' :: (name ++ [':']) <:+: s) → pictured s = s

namespace Renderer

def CodeFree (d : Renderer) (s : Text) : Prop :=
  ∀ name, d.isPicture name = true → ¬ ':' :: (name ++ [':']) <:+: s

/-- The styles that are open after a tag; a closing tag needs an open style that it closes. What an opening tag says
after an equals sign is not looked at. -/
def openAfter (d : Renderer) (styles : List Text) (tag : Text) : Option (List Text) :=
  match tag.takeWhile (· != '=') with
  | '/' :: name =>
      let name := Text.trim name
      if name.isEmpty then (if styles.isEmpty then none else some (styles.drop 1))
      else if styles.contains (d.styleName name) then some (styles.erase (d.styleName name)) else none
  | name => some (d.styleName name :: styles)

def render (d : Renderer) : List Text → List Piece → Option Text
  | _, [] => some []
  | styles, .plain s :: ps => (d.render styles ps).map (d.pictured (unescaped s) ++ ·)
  | styles, .tag n name :: ps =>
      let before := d.pictured (unescaped (slashes (n / 2)))
      if n % 2 = 1 then
        (d.render styles ps).map (before ++ d.pictured (unescaped ('[' :: (name ++ [']']))) ++ ·)
      else (d.openAfter styles name).bind fun styles => (d.render styles ps).map (before ++ ·)

def rendered (d : Renderer) (s : Text) : Option Text := d.render [] (pieces s)

end Renderer

def emphasised (s : Text) : Text := "[bold green]".toList ++ s ++ "[/bold green]".toList

def Piece.appearance : Piece → Text
  | .plain s => unescaped s
  | .tag n name => (Piece.tag n name).written

def opensBracket : List Piece → Bool
  | .plain s :: _ => s.head? == some '['
  | _ => false

variable {s t name rest : Text} {n : Nat} {c : Char} {d : Renderer}

theorem literal_cons (c : Char) (s : Text) : literal (c :: s) =
    if c = '\x5c' ∧ s.head? = some '[' ∧ mayMark s.tail = false then literal s else c :: literal s := by
  by_cases hslash : c = '\x5c'
  · subst hslash
    cases s with
    | nil => simp [literal]
    | cons d s =>
      by_cases hbracket : d = '['
      · subst hbracket
        cases hmark : mayMark s <;> simp [literal, hmark]
      · simp [literal, hbracket]
  · simp [literal, hslash]

theorem unescaped_cons (c : Char) (s : Text) :
    unescaped (c :: s) = if c = '\x5c' ∧ s.head? = some '[' then unescaped s else c :: unescaped s := by
  by_cases hslash : c = '\x5c'
  · subst hslash
    cases s with
    | nil => simp [unescaped]
    | cons d s =>
      by_cases hbracket : d = '['
      · simp [unescaped, hbracket]
      · simp [unescaped, hbracket]
  · simp [unescaped, hslash]

theorem unescaped_eq_self (h : ∀ c ∈ s, c ≠ '[') : unescaped s = s := by
  induction s with
  | nil => rfl
  | cons c s ih =>
    obtain ⟨-, hs⟩ := List.forall_mem_cons.mp h
    have hhead : s.head? ≠ some '[' := fun hhead => hs '[' (List.mem_of_head? hhead) rfl
    rw [unescaped_cons, if_neg fun hc => hhead hc.2, ih hs]

theorem literal_append (h : ∀ c ∈ s, c ≠ '[') (ht : t.head? ≠ some '[') : literal (s ++ t) = s ++ literal t := by
  induction s with
  | nil => rfl
  | cons c s ih =>
    obtain ⟨-, hs⟩ := List.forall_mem_cons.mp h
    have hhead : (s ++ t).head? ≠ some '[' := by
      cases s with
      | nil => exact ht
      | cons d s => simpa using hs d List.mem_cons_self
    rw [List.cons_append, literal_cons, if_neg fun hc => hhead hc.2.1, ih hs, List.cons_append]

theorem literal_tag (h : IsName name) (n : Nat) (rest : Text) :
    literal (slashes n ++ '[' :: (name ++ ']' :: rest)) = slashes n ++ '[' :: (name ++ ']' :: literal rest) := by
  have hmark : mayMark (name ++ ']' :: rest) = true := mayMark_iff.mpr ⟨name, rest, h, rfl⟩
  induction n with
  | zero =>
    have hclose : literal (']' :: rest) = ']' :: literal rest := by simp [literal_cons]
    have hname : literal (name ++ ']' :: rest) = name ++ literal (']' :: rest) :=
      literal_append h.notMem.1 (by simp)
    simp [slashes, literal_cons '[', hname, hclose]
  | succ n ih =>
    have hkeeps : ¬ ('\x5c' = '\x5c' ∧ (slashes n ++ '[' :: (name ++ ']' :: rest)).head? = some '[' ∧
        mayMark (slashes n ++ '[' :: (name ++ ']' :: rest)).tail = false) := by
      cases n with
      | zero => simp [slashes, hmark]
      | succ n => simp [slashes, List.replicate_succ]
    rw [slashes, List.replicate_succ, List.cons_append, ← slashes, literal_cons, if_neg hkeeps, ih]
    rfl

theorem literal_append_closed (ht : closes t = false) (hbracket : '[' ∉ t) (s : Text) :
    literal (s ++ t) = literal s ++ t := by
  induction s with
  | nil =>
    have h := literal_append (fun c hc heq => hbracket (heq ▸ hc)) (t := []) (by simp)
    simpa [literal] using h
  | cons c s ih =>
    have hhead : (s ++ t).head? = some '[' ↔ s.head? = some '[' := by
      cases s with
      | nil =>
        constructor
        · intro h
          exact absurd (List.mem_of_head? h) hbracket
        · intro h
          cases h
      | cons d s => rfl
    rw [List.cons_append, literal_cons, literal_cons, ih]
    by_cases hs : s.head? = some '['
    · obtain ⟨u, rfl⟩ := List.head?_eq_some_iff.mp hs
      have hmark : mayMark (u ++ t) = mayMark u := mayMark_append ht u
      simp only [List.cons_append, List.head?_cons, List.tail_cons, hmark, true_and]
      split <;> rfl
    · rw [if_neg fun h => hs (hhead.mp h.2.1), if_neg fun h => hs h.2.1]
      rfl

@[simp] theorem opensBracket_addChar (c : Char) (ps : List Piece) : opensBracket (addChar c ps) = (c == '[') := by
  cases ps with
  | nil => rfl
  | cons p ps => cases p <;> rfl

@[simp] theorem opensBracket_pieces (s : Text) :
    opensBracket (pieces s) = (s.head? == some '[' && !mayMark s.tail) := by
  cases s with
  | nil => simp [pieces, opensBracket]
  | cons c s =>
    cases htag : tag? (c :: s) with
    | some x =>
      obtain ⟨n, name, rest⟩ := x
      obtain ⟨hname, hs⟩ := eq_of_tag? htag
      rw [hs, pieces_tag hname]
      cases n with
      | zero => simp [opensBracket, slashes, mayMark_iff.mpr ⟨name, rest, hname, rfl⟩]
      | succ n => simp [opensBracket, slashes, List.replicate_succ]
    | none =>
      rw [pieces_char htag, opensBracket_addChar]
      by_cases hc : c = '['
      · subst hc
        cases hmark : mayMark s with
        | false => simp [hmark]
        | true => simp [tag?, hmark] at htag
      · simp [hc]

theorem appearance_addChar (c : Char) (ps : List Piece) : (addChar c ps).flatMap Piece.appearance =
    if c = '\x5c' ∧ opensBracket ps = true then ps.flatMap Piece.appearance
    else c :: ps.flatMap Piece.appearance := by
  cases ps with
  | nil => simp [addChar, opensBracket, Piece.appearance, unescaped_cons, unescaped]
  | cons p ps =>
    cases p with
    | tag n name => simp [addChar, opensBracket, Piece.appearance, unescaped_cons, unescaped]
    | plain t =>
      simp only [addChar, opensBracket, List.flatMap_cons, Piece.appearance, unescaped_cons, beq_iff_eq]
      split <;> rfl

@[simp] theorem appearance_pieces (s : Text) : (pieces s).flatMap Piece.appearance = literal s := by
  induction s using pieces_induction with
  | nil => simp [pieces, literal]
  | tag n name rest hname ih =>
    rw [pieces_tag hname, literal_tag hname, List.flatMap_cons, ih]
    simp [Piece.appearance, Piece.written]
  | char c s hnone ih =>
    rw [pieces_char hnone, appearance_addChar, opensBracket_pieces, ih, literal_cons]
    simp only [Bool.and_eq_true, beq_iff_eq, Bool.not_eq_true']

theorem prefix_of_prefix_unescaped (ht : '[' ∉ t) (h : t <+: unescaped s) : t <+: s := by
  induction s generalizing t with
  | nil => exact h
  | cons c s ih =>
    cases t with
    | nil => exact List.nil_prefix
    | cons e t =>
      obtain ⟨he, ht⟩ : '[' ≠ e ∧ '[' ∉ t := by simpa [not_or] using ht
      rw [unescaped_cons] at h
      split at h
      · rename_i hc
        obtain ⟨u, rfl⟩ := List.head?_eq_some_iff.mp hc.2
        rw [unescaped_cons, if_neg (by simp), List.cons_prefix_cons] at h
        exact absurd h.1.symm he
      · obtain ⟨hhead, htail⟩ := List.cons_prefix_cons.mp h
        exact List.cons_prefix_cons.mpr ⟨hhead, ih ht htail⟩

namespace Renderer.CodeFree

theorem of_infix (h : d.CodeFree s) (ht : t <:+: s) : d.CodeFree t :=
  fun name hname hcode => h name hname (hcode.trans ht)

theorem unescaped (h : d.CodeFree s) : d.CodeFree (unescaped s) := by
  intro name hname hcode
  have hbracket : '[' ∉ ':' :: (name ++ [':']) := by
    simp [d.notMem_picture name hname]
  induction s with
  | nil => exact h name hname hcode
  | cons c s ih =>
    rw [unescaped_cons] at hcode
    split at hcode
    · exact ih (h.of_infix (List.suffix_cons c s).isInfix) hcode
    · rename_i hc
      rcases List.infix_cons_iff.mp hcode with hfirst | hlater
      · apply h name hname
        apply (prefix_of_prefix_unescaped hbracket _).isInfix
        rwa [unescaped_cons, if_neg hc]
      · exact ih (h.of_infix (List.suffix_cons c s).isInfix) hlater

theorem cons (hc : c ≠ ':') (h : d.CodeFree s) : d.CodeFree (c :: s) := by
  intro name hname hcode
  rcases List.infix_cons_iff.mp hcode with hfirst | hlater
  · exact hc (List.cons_prefix_cons.mp hfirst).1.symm
  · exact h name hname hlater

theorem append (h : d.CodeFree s) (ht : ':' ∉ t) : d.CodeFree (s ++ t) := by
  induction t using List.reverseRecOn with
  | nil => rwa [List.append_nil]
  | append_singleton t c ih =>
    obtain ⟨ht, hc⟩ : ':' ∉ t ∧ ':' ≠ c := by simpa [not_or] using ht
    intro name hname hcode
    rw [← List.append_assoc] at hcode
    rcases List.infix_concat_iff.mp hcode with hlast | hearlier
    · have hend := hlast.getLast (List.cons_ne_nil _ _)
      rw [List.getLast_append_singleton, List.getLast_cons (by simp), List.getLast_append_singleton] at hend
      exact hc hend
    · exact ih ht name hname hearlier

end Renderer.CodeFree

namespace Renderer

theorem render_tag (d : Renderer) (styles : List Text) (name : Text) (ps : List Piece) :
    d.render styles (.tag 0 name :: ps) = (d.openAfter styles name).bind fun styles => d.render styles ps := by
  have hnone : d.pictured (unescaped (slashes (0 / 2))) = [] :=
    d.pictured_eq [] fun name _ hcode => by simp at hcode
  rw [render, hnone]
  simp

theorem openAfter_closing (hname : name.takeWhile (· != '=') = name) (htrim : Text.trim name = name)
    (hne : name ≠ []) (styles : List Text) : d.openAfter (d.styleName name :: styles) ('/' :: name) = some styles := by
  have htag : ('/' :: name).takeWhile (· != '=') = '/' :: name := by
    rw [List.takeWhile_cons_of_pos (by decide), hname]
  have hempty : ¬ name.isEmpty = true := by simpa using hne
  unfold openAfter
  simp only [htag, htrim]
  rw [if_neg hempty, if_pos (by simp), List.erase_cons_head]

theorem render_escaped (d : Renderer) (styles : List Text) (ps qs : List Piece)
    (hfree : ∀ p ∈ ps, d.CodeFree p.written) (hname : ∀ n name, .tag n name ∈ ps → IsName name) :
    d.render styles (ps.map Piece.escaped ++ qs) =
      (d.render styles qs).map (ps.flatMap Piece.appearance ++ ·) := by
  induction ps with
  | nil => simp
  | cons p ps ih =>
    obtain ⟨hp, hps⟩ := List.forall_mem_cons.mp hfree
    have ih := ih hps fun n name h => hname n name (List.mem_cons_of_mem p h)
    cases p with
    | plain s =>
      have hplain : d.pictured (unescaped s) = unescaped s := d.pictured_eq _ (CodeFree.unescaped hp)
      rw [List.map_cons, List.cons_append, Piece.escaped, render, ih, Option.map_map, hplain]
      simp [Function.comp_def, Piece.appearance]
    | tag n name =>
      have hbrackets := (hname n name List.mem_cons_self).notMem.1
      have hslashes : d.pictured (unescaped (slashes n)) = slashes n := by
        rw [unescaped_eq_self fun c hc => by rw [List.eq_of_mem_replicate hc]; decide]
        exact d.pictured_eq _ (hp.of_infix (List.prefix_append _ _).isInfix)
      have htag : d.pictured (unescaped ('[' :: (name ++ [']']))) = '[' :: (name ++ [']']) := by
        have hinner : unescaped (name ++ [']']) = name ++ [']'] := by
          apply unescaped_eq_self
          intro c hc
          rcases List.mem_append.mp hc with hc | hc
          · exact hbrackets c hc
          · rw [List.mem_singleton.mp hc]
            decide
        rw [unescaped_cons, if_neg (by simp), hinner]
        exact d.pictured_eq _ (hp.of_infix (List.suffix_append _ _).isInfix)
      -- escaping left an odd number of backslashes, so half of them stay and the tag is text
      have hodd : (2 * n + 1) / 2 = n ∧ (2 * n + 1) % 2 = 1 := by omega
      rw [List.map_cons, List.cons_append, Piece.escaped, render, hodd.1, if_pos hodd.2, ih, Option.map_map, hslashes,
        htag]
      simp [Function.comp_def, Piece.appearance, Piece.written]

theorem render_escapeTags (h : d.CodeFree s) (styles : List Text) (qs : List Piece) :
    d.render styles (pieces (escapeTags s) ++ qs) = (d.render styles qs).map (literal s ++ ·) := by
  have hfree : ∀ p ∈ pieces s, d.CodeFree p.written := by
    intro p hp
    obtain ⟨before, after, hsplit⟩ := List.append_of_mem hp
    have hwritten := flatMap_written s
    rw [hsplit, List.flatMap_append, List.flatMap_cons, ← List.append_assoc] at hwritten
    exact h.of_infix ⟨_, _, hwritten⟩
  rw [pieces_escapeTags, render_escaped d styles (pieces s) qs hfree fun n name => isName_of_mem_pieces,
    appearance_pieces]

theorem rendered_escapeTags (h : d.CodeFree s) : d.rendered (escapeTags s) = some (literal s) := by
  have happend := render_escapeTags h [] []
  rw [List.append_nil] at happend
  rw [rendered, happend]
  simp [render]

theorem rendered_escape (h : d.CodeFree s) : d.rendered (escape s) = some (literalCell s) := by
  rw [escape, endsInBackslash_escapeTags, literalCell]
  cases hend : endsInBackslash s with
  | true =>
    have hslash : literal (s ++ ['\x5c']) = literal s ++ ['\x5c'] :=
      literal_append_closed rfl (by simp) s
    rw [if_pos rfl, if_pos rfl, ← escapeTags_concat, rendered_escapeTags (h.append (by simp)), hslash]
  | false =>
    rw [if_neg Bool.false_ne_true, if_neg Bool.false_ne_true, rendered_escapeTags h, List.append_nil]

theorem rendered_emphasised (h : d.CodeFree s) (hslash : s.getLast? ≠ some '\x5c') :
    d.rendered (emphasised (escape s)) = some (literal s) := by
  have hescape : escape s = escapeTags s := by
    rw [escape, endsInBackslash_escapeTags, endsInBackslash_of_getLast? hslash]
    rfl
  have hlast : (escapeTags s).getLast? ≠ some '\x5c' := by rwa [getLast?_escapeTags]
  have hbold : IsName "bold green".toList := by simp [IsName, isSmallLetter]
  have hend : IsName "/bold green".toList := by simp [IsName]
  have hopen := pieces_tag hbold 0 (escapeTags s ++ "[/bold green]".toList)
  have hclose := pieces_append_tag hlast hend
  have hmessage : pieces (emphasised (escape s)) =
      .tag 0 "bold green".toList :: (pieces (escapeTags s) ++ [.tag 0 "/bold green".toList]) := by
    rw [hescape, ← hclose]
    exact hopen
  have hopened : d.openAfter [] "bold green".toList = some [d.styleName "bold green".toList] := rfl
  have hclosed : d.openAfter [d.styleName "bold green".toList] "/bold green".toList = some [] :=
    openAfter_closing (by decide) (by decide) (by decide) []
  rw [rendered, hmessage, render_tag, hopened, Option.bind_some, render_escapeTags h, render_tag, hclosed,
    Option.bind_some, render]
  simp

end Renderer

end JobBoards.Screen
