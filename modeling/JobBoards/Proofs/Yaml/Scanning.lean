import JobBoards.Proofs.Faults
import JobBoards.Yaml.Token.Scan
namespace JobBoards.Yaml

inductive Stray : Fault → Prop where
  | malformed : Stray .malformedYaml
  /-- A code point of more than 31 bits. -/
  | codePoint : Stray .dayCountBeyondWord
  | word (s : Text) : Stray (.badKey s)
  | digits : Stray .emptyNumber
  /-- A number with so many parts that the weight of one of them is out of range. -/
  | weight : Stray .wholeBeyondReal
  | time : Stray .noMatch
  /-- A time whose text stands in a mapping. -/
  | type : Stray (.textExpected "list")
  | depth : Stray (.callsTooDeep [])

def Refusal (f : Fault) : Prop := f.IsValue ∨ Stray f

theorem refusal_malformed : Refusal .malformedYaml := .inr .malformed

theorem refusal_badValue (message : Text) : Refusal (.badValue message) := .inl (.inl rfl)

theorem Cursor.fails_expect (c : Cursor) (p : Char → Bool) : Fails Refusal (c.expect p) := by
  unfold expect
  split
  · trivial
  · exact refusal_malformed

theorem fails_uriBytes (s : Text) : Fails Refusal (uriBytes s) := by
  fun_induction uriBytes s with
  | case1 _ _ _ _ _ _ _ ih => exact ih.bind fun _ => trivial
  | case2 => exact refusal_malformed
  | case3 => exact refusal_malformed
  | case4 => trivial

theorem fails_uri (c : Cursor) : Fails Refusal (uri c) := by
  -- `uri` goes on only where fewer characters are left, so the induction is on their number
  induction hc : c.left using Nat.strongRecOn generalizing c with
  | ind left ih =>
    unfold uri
    simp only
    split
    · refine (fails_uriBytes _).bind fun bytes => ?_
      split
      · exact refusal_malformed
      · split
        · rename_i hleft
          exact (ih _ (hc ▸ hleft) _ rfl).bind fun _ => trivial
        · exact refusal_malformed
    · trivial

theorem fails_someUri (c : Cursor) : Fails Refusal (someUri c) := by
  refine (fails_uri c).bind fun ⟨s, d⟩ => ?_
  simp only
  split
  · exact refusal_malformed
  · trivial

theorem fails_handle (c : Cursor) : Fails Refusal (handle c) := by
  refine (c.fails_expect _).bind fun _ => ?_
  split
  · trivial
  · exact (Cursor.fails_expect _ _).bind fun _ => trivial

theorem fails_tag (c : Cursor) : Fails Refusal (tag c) := by
  refine .ite ?_ (.ite ?_ (.ite ?_ ?_))
  · exact (fails_someUri _).bind fun ⟨_, d⟩ => (d.fails_expect _).bind fun _ =>
      (Cursor.fails_expect _ _).bind fun _ => trivial
  · exact (Cursor.fails_expect _ _).bind fun _ => trivial
  · exact (fails_handle c).bind fun ⟨_, d⟩ => (fails_someUri d).bind fun ⟨_, e⟩ =>
      (e.fails_expect _).bind fun _ => trivial
  · exact (fails_someUri _).bind fun ⟨_, e⟩ => (e.fails_expect _).bind fun _ => trivial

theorem fails_anchorName (c : Cursor) : Fails Refusal (anchorName c) := by
  unfold anchorName
  simp only
  split
  · exact refusal_malformed
  · exact (Cursor.fails_expect _ _).bind fun _ => trivial

theorem fails_number (c : Cursor) : Fails Refusal (number c) := by
  unfold number
  simp only
  split
  · exact refusal_malformed
  · trivial

theorem fails_versionValue (c : Cursor) : Fails Refusal (versionValue c) :=
  (fails_number _).bind fun ⟨_, d⟩ => (d.fails_expect _).bind fun _ => (fails_number d.next).bind fun ⟨_, e⟩ =>
    (e.fails_expect _).bind fun _ => trivial

theorem fails_tagHandleValue (c : Cursor) : Fails Refusal (tagHandleValue c) :=
  (fails_handle _).bind fun ⟨_, d⟩ => (d.fails_expect _).bind fun _ => (fails_someUri _).bind fun ⟨_, e⟩ =>
    (e.fails_expect _).bind fun _ => trivial

theorem fails_directive (c : Cursor) : Fails Refusal (directive c) := by
  unfold directive
  simp only
  split
  · exact refusal_malformed
  · refine (Cursor.fails_expect _ _).bind fun _ => ?_
    split
    · exact fails_versionValue _
    · split
      · exact fails_tagHandleValue _
      · trivial

namespace Scalar

theorem fails_codePoint (n : Nat) : Fails Refusal (codePoint n) := by
  unfold codePoint
  split
  · trivial
  · split
    · exact refusal_badValue _
    · exact .inr .codePoint

theorem fails_quotedBreaks (c : Cursor) : Fails Refusal (quotedBreaks c) := by
  induction hc : c.left using Nat.strongRecOn generalizing c with
  | ind left ih =>
    unfold quotedBreaks
    simp only
    split
    · exact refusal_malformed
    · split
      · split
        · rename_i hleft
          exact (ih _ (hc ▸ hleft) _ rfl).bind fun _ => trivial
        · trivial
      · trivial

theorem fails_quotedSpaces (c : Cursor) : Fails Refusal (quotedSpaces c) := by
  unfold quotedSpaces
  simp only
  split
  · exact refusal_malformed
  · split
    · exact (fails_quotedBreaks _).map _
    · trivial

theorem fails_quotedEscape (c : Cursor) : Fails Refusal (quotedEscape c) := by
  unfold quotedEscape
  simp only
  split
  · trivial
  · split
    · exact (fails_codePoint _).bind fun _ => trivial
    · exact refusal_malformed
  · split
    · exact fails_quotedBreaks _
    · exact refusal_malformed

theorem fails_quotedStep (isDouble : Bool) (c : Cursor) : Fails Refusal (quotedStep isDouble c) := by
  refine .ite trivial (.ite trivial (.ite trivial (.ite ?_ (.ite trivial ?_))))
  · exact (fails_quotedEscape _).map some
  · exact (fails_quotedSpaces c).map some

theorem fails_quoted (isDouble : Bool) (c : Cursor) : Fails Refusal (quoted isDouble c) := by
  induction hc : c.left using Nat.strongRecOn generalizing c with
  | ind left ih =>
    unfold quoted
    refine (fails_quotedStep isDouble c).bind fun step => ?_
    cases step with
    | none => trivial
    | some piece =>
      simp only
      split
      · rename_i hleft
        exact (ih _ (hc ▸ hleft) _ rfl).bind fun _ => trivial
      · exact refusal_malformed

theorem fails_indentDigit (c : Cursor) : Fails Refusal (indentDigit c) := by
  unfold indentDigit
  split
  · split
    · exact refusal_malformed
    · trivial
  · trivial

theorem fails_blockStyle (c : Cursor) : Fails Refusal (blockStyle c) := by
  unfold blockStyle
  split
  · exact (fails_indentDigit _).bind fun ⟨_, d⟩ => (d.fails_expect _).bind fun _ => trivial
  · exact (fails_indentDigit c).bind fun _ => (Cursor.fails_expect _ _).bind fun _ => trivial

theorem fails_ignoredLine (c : Cursor) : Fails Refusal (ignoredLine c) :=
  (Cursor.fails_expect _ _).bind fun _ => trivial

theorem fails_block (folds : Bool) (indent : Int) (c : Cursor) : Fails Refusal (block folds indent c) := by
  refine (fails_blockStyle c).bind fun ⟨style, d⟩ => (fails_ignoredLine d).bind fun _ => ?_
  simp only
  split <;> trivial

end Scalar

namespace Scanner
variable (s : Scanner)

theorem fails_dropPlace : Fails Refusal s.dropPlace := by
  unfold dropPlace
  split
  · trivial
  · split
    · exact refusal_malformed
    · trivial

theorem fails_savePlace : Fails Refusal s.savePlace := by
  unfold savePlace
  split
  · exact s.fails_dropPlace.bind fun _ => trivial
  · trivial

theorem fails_dropStale : Fails Refusal s.dropStale := by
  unfold dropStale
  split
  · exact refusal_malformed
  · trivial

theorem fails_openBlock (t : Token) : Fails Refusal (s.openBlock t) := by
  unfold openBlock
  split
  · trivial
  · split
    · trivial
    · exact refusal_malformed

theorem fails_directiveToken : Fails Refusal s.directiveToken :=
  (fails_dropPlace _).bind fun s => (fails_directive s.cursor).bind fun ⟨_, c⟩ =>
    (Scalar.fails_ignoredLine c).bind fun _ => trivial

theorem fails_valueToken : Fails Refusal s.valueToken := by
  unfold valueToken
  split
  · trivial
  · exact (s.fails_openBlock .blockMapping).bind fun s => s.fails_dropPlace.bind fun _ => trivial

theorem fails_mayBeKey {read : Cursor → Except Fault (Token × Cursor)} (h : ∀ c, Fails Refusal (read c)) :
    Fails Refusal (s.mayBeKey read) :=
  s.fails_savePlace.bind fun s => (h s.cursor).bind fun _ => trivial

theorem fails_blockToken (folds : Bool) : Fails Refusal (blockToken folds s) :=
  s.fails_dropPlace.bind fun s => (Scalar.fails_block folds s.indent s.cursor.next).bind fun _ => trivial

theorem fails_fetch : Fails Refusal s.fetch := by
  have hborder (t : Token) : Fails Refusal (s.borderToken t) := (fails_dropPlace _).bind fun _ => trivial
  have hopen (t : Token) : Fails Refusal (s.openBracket t) := s.fails_savePlace.bind fun _ => trivial
  have hclose (t : Token) : Fails Refusal (s.closeBracket t) := s.fails_dropPlace.bind fun _ => trivial
  have hcomma : Fails Refusal s.commaToken := s.fails_dropPlace.bind fun _ => trivial
  have hentry : Fails Refusal s.entryToken :=
    (s.fails_openBlock _).bind fun s => s.fails_dropPlace.bind fun _ => trivial
  have hkey : Fails Refusal s.keyToken :=
    (s.fails_openBlock _).bind fun s => s.fails_dropPlace.bind fun _ => trivial
  have hname (f : Text → Token) : Fails Refusal (s.mayBeKey fun c => (anchorName c).map fun p => (f p.1, p.2)) :=
    s.fails_mayBeKey fun c => (fails_anchorName c).map _
  have hquoted (isDouble : Bool) : Fails Refusal (s.mayBeKey (quotedToken isDouble)) :=
    s.fails_mayBeKey fun c => (Scalar.fails_quoted isDouble c.next).map _
  have hplain : Fails Refusal s.plainToken := s.fails_savePlace.bind fun _ => trivial
  exact .ite s.fails_directiveToken <| .ite (hborder _) <| .ite (hopen _) <| .ite (hopen _) <|
    .ite (hclose _) <| .ite (hclose _) <| .ite hcomma <| .ite hentry <| .ite hkey <| .ite s.fails_valueToken <|
    .ite (hname .alias) <| .ite (hname .anchor) <| .ite (s.fails_mayBeKey fails_tag) <|
    .ite (s.fails_blockToken _) <| .ite (hquoted _) <| .ite hplain refusal_malformed

theorem fails_prepare : Fails Refusal s.prepare :=
  (fails_dropStale _).bind fun _ => trivial

theorem fails_finish : Fails Refusal s.finish :=
  (fails_dropPlace _).bind fun _ => trivial

theorem refusal_run {fault : Fault} (h : s.run.2 = some fault) : Refusal fault := by
  induction hs : s.cursor.left using Nat.strongRecOn generalizing s with
  | ind left ih =>
    unfold run at h
    split at h
    · rename_i f hprepare
      obtain rfl : f = fault := Option.some.inj h
      exact s.fails_prepare.of_error hprepare
    · rename_i p _
      split at h
      · split at h
        · rename_i f hfinish
          obtain rfl : f = fault := Option.some.inj h
          exact p.fails_finish.of_error hfinish
        · cases h
      · split at h
        · rename_i f hfetch
          obtain rfl : f = fault := Option.some.inj h
          exact p.fails_fetch.of_error hfetch
        · split at h
          · rename_i hleft
            exact ih _ (hs ▸ hleft) _ h rfl
          · obtain rfl : Fault.malformedYaml = fault := Option.some.inj h
            exact refusal_malformed

end Scanner

theorem refusal_tokens {s : Text} {fault : Fault} (h : (tokens s).2 = some fault) : Refusal fault := by
  unfold tokens at h
  split at h
  · exact (Scanner.start s).refusal_run h
  · obtain rfl : Fault.malformedYaml = fault := Option.some.inj h
    exact refusal_malformed

end JobBoards.Yaml
