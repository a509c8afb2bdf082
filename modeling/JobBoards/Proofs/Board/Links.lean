import JobBoards.Listing.Cards
import JobBoards.Proofs.Faults
namespace JobBoards

namespace Host

def check (authority : Text) : Except Fault Unit := do
  checkBrackets authority
  checkNormal authority

theorem kind_of_checkBrackets {authority : Text} {fault : Fault}
    (h : checkBrackets authority = .error fault) : fault.kind = "ValueError" := by
  unfold checkBrackets checkBracketed at h
  repeat' split at h
  all_goals cases h
  all_goals rfl

theorem kind_of_check {authority : Text} {fault : Fault} (h : check authority = .error fault) :
    fault.kind = "ValueError" := by
  rcases Fault.bind_eq_error.mp h with hbrackets | ⟨-, -, hnormal⟩
  · exact kind_of_checkBrackets hbrackets
  · unfold checkNormal at hnormal
    split at hnormal
    · obtain rfl := Except.error.inj hnormal
      rfl
    · cases hnormal

end Host

namespace Link

def splitAuthority : Text → Text × Text
  | '/' :: '/' :: r => (r.takeWhile fun c => !isDelimiter c, r.dropWhile fun c => !isDelimiter c)
  | r => ([], r)

def authorityOf (s : Text) : Text :=
  (splitAuthority (((scheme? (cleaned s)).map Prod.snd).getD (cleaned s))).1

theorem split_eq (scheme s : Text) :
    ∃ l, split scheme s = Host.check (authorityOf s) >>= fun _ => .ok l := by
  -- the scheme that stands in for a missing one has no say in the rest
  have hrest : ((scheme? (cleaned s)).getD (scheme, cleaned s)).2 =
      ((scheme? (cleaned s)).map Prod.snd).getD (cleaned s) := by
    cases scheme? (cleaned s) <;> rfl
  unfold authorityOf Host.check
  rw [← hrest]
  simp only [bind_assoc]
  exact ⟨_, rfl⟩

theorem split_eq_error {scheme s : Text} {fault : Fault} :
    split scheme s = .error fault ↔ Host.check (authorityOf s) = .error fault := by
  obtain ⟨l, hl⟩ := split_eq scheme s
  rw [hl, Fault.bind_eq_error]
  simp

theorem check_of_split {scheme s : Text} {l : Link} (h : split scheme s = .ok l) :
    Host.check (authorityOf s) = .ok () := by
  obtain ⟨_, hl⟩ := split_eq scheme s
  rw [hl, Fault.bind_eq_ok] at h
  obtain ⟨_, hcheck, -⟩ := h
  exact hcheck

theorem resolve_eq_error {base link : Text} {fault : Fault}
    (h : resolve base link = .error fault) :
    Host.check (authorityOf base) = .error fault ∨
      Host.check (authorityOf base) = .ok () ∧ Host.check (authorityOf link) = .error fault := by
  unfold resolve at h
  split at h
  · cases h
  split at h
  · cases h
  rcases Fault.bind_eq_error.mp h with hbase | ⟨b, hbase, h⟩
  · exact .inl (split_eq_error.mp hbase)
  · refine .inr ⟨check_of_split hbase, ?_⟩
    rcases Fault.bind_eq_error.mp h with hlink | ⟨l, -, h⟩
    · exact split_eq_error.mp hlink
    · simp only at h
      repeat' split at h
      all_goals cases h

theorem resolve_error_iff {base link : Text} {fault : Fault} (hbase : base ≠ []) (hlink : link ≠ [])
    (hcheck : Host.check (authorityOf base) = .ok ()) :
    resolve base link = .error fault ↔ Host.check (authorityOf link) = .error fault := by
  constructor
  · intro h
    rcases resolve_eq_error h with hrefused | ⟨-, hrefused⟩
    · rw [hcheck] at hrefused
      cases hrefused
    · exact hrefused
  · intro h
    obtain ⟨b, hb⟩ := split_eq [] base
    rw [hcheck] at hb
    have hsplit : split [] base = .ok b := hb
    rw [resolve, if_neg (by simpa using hbase), if_neg (by simpa using hlink), hsplit]
    refine Fault.bind_eq_error.mpr (.inr ⟨b, rfl, ?_⟩)
    exact Fault.bind_eq_error.mpr (.inl (split_eq_error.mpr h))

end Link

end JobBoards
