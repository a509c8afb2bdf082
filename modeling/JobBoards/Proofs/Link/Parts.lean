import JobBoards.Proofs.Board.Links
import JobBoards.Proofs.Text.Pieces
import Mathlib.Data.List.Induction
namespace JobBoards.Link

def keeps (c : Char) : Bool := !(c == '\t' || c == '\r' || c == '\n')

def parts (scheme authority s : Text) : Link :=
  let (s, fragment) := cut '#' s
  let (path, query) := cut '?' s
  let (path, parameters) := if parameterSchemes.contains scheme then splitParameters path else (path, [])
  ⟨scheme, authority, path, parameters, query, fragment⟩

def undotted (l : Link) : Link := { l with path := joinPath [] l.path }

def Tidy (s : Text) : Prop := (split [] s).map text = .ok s

def Stops (s : Text) : Prop := ∀ c ∈ s.head?, isDelimiter c = true

variable {s t a r path base target : Text} {b l : Link} {c : Char}

theorem cleaned_cons (hc : 32 < c.toNat) (s : Text) : cleaned (c :: s) = c :: s.filter keeps := by
  have hkeeps : keeps c = true := by
    have hbreak (d : Char) (hd : d.toNat ≤ 32) : (c == d) = false := by
      rw [beq_eq_false_iff_ne]
      rintro rfl
      omega
    rw [keeps, hbreak '\t' (by decide), hbreak '\r' (by decide), hbreak '\n' (by decide)]
    rfl
  have hblank : decide (c.toNat ≤ 32) = false := decide_eq_false (by omega)
  rw [cleaned, List.dropWhile_cons, hblank]
  exact List.filter_cons_of_pos hkeeps

theorem cleaned_https (ha : ∀ c ∈ a, keeps c = true) (r : Text) :
    cleaned ("https://".toList ++ (a ++ r)) = "https://".toList ++ (a ++ r.filter keeps) := by
  have hfilter : (a ++ r).filter keeps = a ++ r.filter keeps := by
    rw [List.filter_append, List.filter_eq_self.mpr ha]
  rw [← hfilter]
  exact cleaned_cons (by decide) _

@[simp] theorem scheme?_slash (s : Text) : scheme? ('/' :: s) = none := by
  simp [scheme?, Text.isLetter]

@[simp]
theorem scheme?_https (s : Text) : scheme? ("https://".toList ++ s) = some ("https".toList, '/' :: '/' :: s) := by
  rfl

theorem split_eq_parts (scheme s : Text) :
    split scheme s =
      (let (scheme, s) := (scheme? (cleaned s)).getD (scheme, cleaned s)
       Host.check (splitAuthority s).1 >>= fun _ => .ok (parts scheme (splitAuthority s).1 (splitAuthority s).2)) := by
  unfold split Host.check parts
  simp only [bind_assoc]
  rfl

theorem split_slash (scheme s : Text) : split scheme ('/' :: s) =
    Host.check (authorityOf ('/' :: s)) >>= fun _ =>
      .ok (parts scheme (authorityOf ('/' :: s)) (splitAuthority ('/' :: s.filter keeps)).2) := by
  rw [split_eq_parts, authorityOf, cleaned_cons (by decide), scheme?_slash]
  rfl

theorem split_https (ha : ∀ c ∈ a, keeps c = true) (r : Text) : split [] ("https://".toList ++ (a ++ r)) =
    Host.check (splitAuthority ('/' :: '/' :: (a ++ r.filter keeps))).1 >>= fun _ =>
      .ok (parts "https" (splitAuthority ('/' :: '/' :: (a ++ r.filter keeps))).1
        (splitAuthority ('/' :: '/' :: (a ++ r.filter keeps))).2) := by
  rw [split_eq_parts, cleaned_https ha, scheme?_https]
  rfl

theorem splitAuthority_append (ha : ∀ c ∈ a, isDelimiter c = false) (hr : Stops r) :
    splitAuthority ('/' :: '/' :: (a ++ r)) = (a, r) := by
  have ha : ∀ c ∈ a, (!isDelimiter c) = true := fun c hc => congrArg not (ha c hc)
  have hstop : r.takeWhile (fun c => !isDelimiter c) = [] ∧ r.dropWhile (fun c => !isDelimiter c) = r := by
    cases r with
    | nil => exact ⟨rfl, rfl⟩
    | cons c r =>
      have hc : (!isDelimiter c) = false := congrArg not (hr c rfl)
      simp [hc]
  rw [splitAuthority, List.takeWhile_append_of_pos ha, List.dropWhile_append_of_pos ha, hstop.1, hstop.2,
    List.append_nil]

theorem keeps_of_isDelimiter (hc : isDelimiter c = true) : keeps c = true := by
  simp only [isDelimiter, Bool.or_eq_true, beq_iff_eq] at hc
  obtain (rfl | rfl) | rfl := hc
  all_goals rfl

theorem authorityOf_https (ha : ∀ c ∈ a, isDelimiter c = false ∧ keeps c = true) (hr : Stops r) :
    authorityOf ("https://".toList ++ (a ++ r)) = a := by
  have hstop : Stops (r.filter keeps) := by
    cases r with
    | nil => exact hr
    | cons c r =>
      have hc := hr c rfl
      have hkeeps : keeps c = true := keeps_of_isDelimiter hc
      rw [List.filter_cons_of_pos hkeeps]
      exact fun d hd => hr d hd
  rw [authorityOf, cleaned_https (fun c hc => (ha c hc).2), scheme?_https]
  exact congrArg Prod.fst (splitAuthority_append (fun c hc => (ha c hc).1) hstop)

theorem mem_authorityOf (hc : c ∈ authorityOf ('/' :: s)) : isDelimiter c = false ∧ keeps c = true := by
  rw [authorityOf, cleaned_cons (by decide), scheme?_slash] at hc
  change c ∈ (splitAuthority ('/' :: s.filter keeps)).1 at hc
  generalize hkept : s.filter keeps = kept at hc
  have hkeeps : ∀ d ∈ kept, keeps d = true := by
    rw [← hkept]
    exact fun d hd => (List.mem_filter.mp hd).2
  unfold splitAuthority at hc
  split at hc
  · rename_i r heq
    have hmem : c ∈ kept := by
      rw [(List.cons.inj heq).2]
      exact List.mem_cons_of_mem _ (List.takeWhile_subset _ hc)
    have hstay := List.mem_takeWhile_imp hc
    rw [Bool.not_eq_true'] at hstay
    exact ⟨hstay, hkeeps c hmem⟩
  · cases hc

def slashed (path : Text) : Text := if path.isEmpty || path.head? == some '/' then path else '/' :: path

theorem stops_append (hs : Stops s) (ht : Stops t) : Stops (s ++ t) := by
  cases s with
  | nil => exact ht
  | cons c s => exact hs

theorem stops_part (hc : isDelimiter c = true) (s : Text) : Stops (part c s) := by
  unfold part
  split
  · simp [Stops]
  · simpa [Stops] using hc

theorem stops_slashed (path : Text) : Stops (slashed path) := by
  unfold slashed
  split
  · rename_i h
    cases path with
    | nil => simp [Stops]
    | cons c path => 
      have hc : c = '/' := by simpa using h
      simp [Stops, hc, isDelimiter]
  · simp [Stops, isDelimiter]

theorem text_https (h : l.scheme = "https".toList) : l.text =
    "https://".toList ++ (l.authority ++ (slashed (l.path ++ part ';' l.parameters) ++
      (part '?' l.query ++ part '#' l.fragment))) := by
  have hhosts : (!l.authority.isEmpty || (!l.scheme.isEmpty && hostSchemes.contains l.scheme) ||
      (l.path ++ part ';' l.parameters).take 2 == ['/', '/']) = true := by
    rw [h, Bool.or_eq_true, Bool.or_eq_true]
    exact .inl (.inr (by decide))
  unfold text
  simp only [hhosts, if_true]
  rw [h]
  simp [slashed]

theorem authorityOf_text (h : l.scheme = "https".toList)
    (ha : ∀ c ∈ l.authority, isDelimiter c = false ∧ keeps c = true) : authorityOf l.text = l.authority := by
  rw [text_https h]
  apply authorityOf_https ha
  exact stops_append (stops_slashed _) (stops_append (stops_part rfl _) (stops_part rfl _))

section Path

theorem splitParameters_slash (s : Text) : ∃ w, w <+: s ∧ (splitParameters ('/' :: s)).1 = '/' :: w := by
  have hcons {r : Text} (hne : r ≠ []) (hr : r <+: '/' :: s) : ∃ w, w <+: s ∧ r = '/' :: w := by
    cases r with
    | nil => exact absurd rfl hne
    | cons c w =>
      obtain ⟨rfl, hw⟩ := List.cons_prefix_cons.mp hr
      exact ⟨w, hw, rfl⟩
  unfold splitParameters
  generalize hlast : (('/' :: s).reverse.takeWhile (· != '/')).reverse = last
  dsimp only
  split
  · have hend : last <:+ '/' :: s := by
      have hreverse := (List.takeWhile_prefix (l := ('/' :: s).reverse) (· != '/')).reverse
      rwa [hlast, List.reverse_reverse] at hreverse
    have hshort : last.length ≤ s.length := by
      have hlength := Text.length_takeWhile_append_cons_le (p := (· != '/')) (c := '/') rfl s.reverse []
      rw [← hlast]
      simpa using hlength
    apply hcons
    · simp
      omega
    · have hsplit := List.suffix_iff_eq_drop.mp hend
      conv => rhs; rw [← List.take_append_drop (('/' :: s).length - last.length) ('/' :: s), ← hsplit]
      exact (List.prefix_append_right_inj _).mpr (List.takeWhile_prefix _)
  · exact hcons (List.cons_ne_nil _ _) List.prefix_rfl

theorem path_parts (scheme a s : Text) : ∃ w, w <+: s ∧ (parts scheme a ('/' :: s)).path = '/' :: w := by
  have hquery : (cut '?' (cut '#' ('/' :: s)).1).1 = '/' :: (cut '?' (cut '#' s).1).1 := rfl
  have hstart : (cut '?' (cut '#' s).1).1 <+: s := (List.takeWhile_prefix _).trans (List.takeWhile_prefix _)
  unfold parts
  simp only [hquery]
  split
  · obtain ⟨w, hw, hpath⟩ := splitParameters_slash (cut '?' (cut '#' s).1).1
    exact ⟨w, hw.trans hstart, hpath⟩
  · exact ⟨_, hstart, rfl⟩

theorem joinPath_slash (base s : Text) : joinPath base ('/' :: s) = joinPath [] ('/' :: s) := rfl

theorem resolveSegments_eq_self {segments : List Text} (h : ∀ s ∈ segments, s ≠ ['.'] ∧ s ≠ ['.', '.']) :
    resolveSegments segments = segments := by
  induction segments using List.reverseRecOn with
  | nil => rfl
  | append_singleton segments s ih =>
    have hlast := h s (by simp)
    have hinit := ih fun t ht => h t (List.mem_append_left _ ht)
    unfold resolveSegments at hinit ⊢
    rw [List.foldl_append, hinit]
    simp [hlast]

theorem joinPath_eq_self (h : ∀ t ∈ Text.splitOn '/' ('/' :: s), t ≠ ['.'] ∧ t ≠ ['.', '.']) :
    joinPath [] ('/' :: s) = '/' :: s := by
  have hlast : (Text.splitOn '/' ('/' :: s)).getLastD [] ∈ Text.splitOn '/' ('/' :: s) := by
    have hne : Text.splitOn '/' ('/' :: s) ≠ [] := Text.pieces_ne_nil _ _
    rw [List.getLastD_eq_getLast?, List.getLast?_eq_some_getLast hne, Option.getD_some]
    exact List.getLast_mem _
  have hends : ¬ ((Text.splitOn '/' ('/' :: s)).getLastD [] = ['.'] ∨
      (Text.splitOn '/' ('/' :: s)).getLastD [] = ['.', '.']) := by
    rintro (hdot | hdots)
    · exact (h _ hlast).1 hdot
    · exact (h _ hlast).2 hdots
  simp only [joinPath, List.head?_cons, if_true, resolveSegments_eq_self h, if_neg hends, List.append_nil,
    Text.join_splitOn]

theorem splitAuthority_one (h : ¬ ['/', '/'] <+: s) : splitAuthority s = ([], s) := by
  unfold splitAuthority
  split
  · rename_i r
    exact absurd ⟨r, rfl⟩ h
  · rfl

theorem authorityOf_one (h : ¬ ['/', '/'] <+: '/' :: s.filter keeps) : authorityOf ('/' :: s) = [] := by
  rw [authorityOf, cleaned_cons (by decide), scheme?_slash]
  exact congrArg Prod.fst (splitAuthority_one h)

theorem tidy_slash (h : ¬ ['/', '/'] <+: '/' :: s.filter keeps) :
    Tidy ('/' :: s) ↔ (parts [] [] ('/' :: s.filter keeps)).text = '/' :: s := by
  rw [Tidy, split_slash, authorityOf_one h, splitAuthority_one h]
  constructor
  · intro htidy
    exact Except.ok.inj htidy
  · intro htext
    exact congrArg Except.ok htext

theorem parts_eq (a s : Text) : parts "https" a s = { parts [] [] s with scheme := "https".toList, authority := a } :=
  rfl

theorem text_bare (hscheme : l.scheme = []) (hauthority : l.authority = [])
    (hsingle : ¬ ['/', '/'] <+: l.path ++ part ';' l.parameters) :
    l.text = l.path ++ part ';' l.parameters ++ (part '?' l.query ++ part '#' l.fragment) := by
  have htake : ((l.path ++ part ';' l.parameters).take 2 == ['/', '/']) = false := by
    rw [beq_eq_false_iff_ne]
    intro htake
    exact hsingle (List.prefix_iff_eq_take.mpr htake.symm)
  unfold text
  rw [hscheme, hauthority]
  simp only [List.isEmpty_nil, Bool.not_true, Bool.false_and, Bool.or_self, htake, Bool.false_eq_true, if_false,
    if_true, List.nil_append, List.append_assoc]

theorem single_parts (h : ¬ ['/', '/'] <+: '/' :: s) :
    ¬ ['/', '/'] <+: (parts [] [] ('/' :: s)).path ++ part ';' (parts [] [] ('/' :: s)).parameters := by
  obtain ⟨w, hw, hpath⟩ := path_parts [] [] s
  rw [hpath, List.cons_append, List.cons_prefix_cons]
  rintro ⟨-, hslash⟩
  cases w with
  | nil =>
    unfold part at hslash
    split at hslash
    · simp at hslash
    · simp at hslash
  | cons c w =>
    obtain ⟨rfl, -⟩ := List.cons_prefix_cons.mp hslash
    obtain ⟨u, hu⟩ := hw
    exact h ⟨w ++ u, by rw [← hu]; rfl⟩

theorem text_parts (h : ¬ ['/', '/'] <+: '/' :: s) (a : Text) :
    (parts "https" a ('/' :: s)).text = "https://".toList ++ (a ++ (parts [] [] ('/' :: s)).text) := by
  obtain ⟨w, -, hpath⟩ := path_parts [] [] s
  have hslash : slashed ((parts [] [] ('/' :: s)).path ++ part ';' (parts [] [] ('/' :: s)).parameters) =
      (parts [] [] ('/' :: s)).path ++ part ';' (parts [] [] ('/' :: s)).parameters := by
    rw [hpath]
    rfl
  rw [text_bare rfl rfl (single_parts h), text_https rfl, parts_eq, hslash]

end Path

def landing (b l : Link) : Link :=
  if !l.authority.isEmpty then l
  else if l.path.isEmpty && l.parameters.isEmpty then
    ⟨l.scheme, b.authority, b.path, b.parameters, if l.query.isEmpty then b.query else l.query, l.fragment⟩
  else ⟨l.scheme, b.authority, joinPath b.path l.path, l.parameters, l.query, l.fragment⟩

@[simp] theorem scheme_landing (b l : Link) : (landing b l).scheme = l.scheme := by
  unfold landing
  repeat' split
  all_goals rfl

@[simp] theorem authority_landing (b l : Link) :
    (landing b l).authority = if l.authority = [] then b.authority else l.authority := by
  unfold landing
  cases hl : l.authority with
  | nil =>
    simp only [List.isEmpty_nil, Bool.not_true, Bool.false_eq_true, if_false, if_true]
    split
    all_goals rfl
  | cons c a => simp [hl]

section Resolving
variable (hne : base ≠ []) (hbase : split [] base = .ok b) (hscheme : b.scheme = "https".toList)
include hne hbase hscheme

theorem resolve_of_split {link : Text} (hlink : link ≠ []) (hl : split "https" link = .ok l)
    (hsame : l.scheme = "https".toList) : resolve base link = .ok (landing b l).text := by
  have hhosts : hostSchemes.contains l.scheme = true := by
    rw [hsame]
    decide
  have hrelative : ¬ (l.scheme ≠ b.scheme ∨ ¬ relativeSchemes.contains l.scheme = true) := by
    rw [hsame, hscheme]
    decide
  have hl : split b.scheme link = .ok l := by rwa [hscheme]
  unfold resolve
  rw [if_neg (by simpa using hne), if_neg (by simpa using hlink), hbase]
  change (split b.scheme link >>= _) = _
  rw [hl]
  change (if _ then _ else _) = _
  rw [if_neg hrelative, hhosts]
  unfold landing
  cases hauthority : l.authority with
  | nil =>
    simp only [List.isEmpty_nil, Bool.not_true, Bool.and_false, Bool.false_eq_true, if_false, if_true]
    split
    all_goals rfl
  | cons c a => rfl

theorem resolve_slash (s : Text) : resolve base ('/' :: s) = Host.check (authorityOf ('/' :: s)) >>= fun _ =>
    .ok (landing b (parts "https" (authorityOf ('/' :: s)) (splitAuthority ('/' :: s.filter keeps)).2)).text := by
  have hsplit := split_slash "https" s
  -- the base is fine, so only the authority of the link can be refused
  cases hcheck : Host.check (authorityOf ('/' :: s)) with
  | error fault => exact (resolve_error_iff hne (List.cons_ne_nil _ _) (check_of_split hbase)).mpr hcheck
  | ok _ =>
    rw [hcheck] at hsplit
    exact resolve_of_split hne hbase hscheme (List.cons_ne_nil _ _) hsplit rfl

theorem resolve_one (h : ¬ ['/', '/'] <+: '/' :: s.filter keeps) :
    resolve base ('/' :: s) = .ok (undotted (parts "https" b.authority ('/' :: s.filter keeps))).text := by
  have hlanding : landing b (parts "https" [] ('/' :: s.filter keeps)) =
      undotted (parts "https" b.authority ('/' :: s.filter keeps)) := by
    obtain ⟨w, -, hpath⟩ := path_parts "https" [] (s.filter keeps)
    have hsome : ¬ ((parts "https" [] ('/' :: s.filter keeps)).path.isEmpty &&
        (parts "https" [] ('/' :: s.filter keeps)).parameters.isEmpty) = true := by
      rw [hpath]
      exact Bool.false_ne_true
    have hnone : ¬ (!(parts "https" [] ('/' :: s.filter keeps)).authority.isEmpty) = true := Bool.false_ne_true
    rw [landing, if_neg hnone, if_neg hsome, hpath, joinPath_slash, ← hpath]
    rfl
  rw [resolve_slash hne hbase hscheme, authorityOf_one h, splitAuthority_one h, hlanding]
  rfl

theorem authorityOf_resolve (hb : ∀ c ∈ b.authority, isDelimiter c = false ∧ keeps c = true)
    (h : resolve base ('/' :: s) = .ok target) :
    authorityOf target = if authorityOf ('/' :: s) = [] then b.authority else authorityOf ('/' :: s) := by
  rw [resolve_slash hne hbase hscheme, Fault.bind_eq_ok] at h
  obtain ⟨_, -, htarget⟩ := h
  obtain rfl := Except.ok.inj htarget
  rw [authorityOf_text, authority_landing]
  · rfl
  · rw [scheme_landing]
    rfl
  · intro c hc
    rw [authority_landing] at hc
    split at hc
    · exact hb c hc
    · exact mem_authorityOf hc

end Resolving

end JobBoards.Link
