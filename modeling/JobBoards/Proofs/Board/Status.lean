import JobBoards.Proofs.Board.Reading
namespace JobBoards.Board
variable {board : Board} {clock : Nat → Moment} {status : Int} {markup : Text} {body : Body} {fault : Fault}

@[simp] theorem isSuccess_iff : isSuccess status = true ↔ ¬ (400 ≤ status ∧ status ≤ 599) := by
  rw [isSuccess, ← Bool.decide_and, Bool.not_eq_true', decide_eq_false_iff_not]

theorem read_of_success (board : Board) (clock : Nat → Moment) (body : Body) (h : isSuccess status = true) :
    board.read clock (.response status body) = board.read clock (.response 200 body) := by
  cases body with
  | unreadable reason => exact if_pos h
  | page markup => rw [read_page board clock h, read_page board clock rfl]

theorem kind_of_document (h : board.document markup = .error fault) :
    fault.kind ≠ "ResponseStatusError".toList := by
  have hparse : "ParseError".toList ≠ "ResponseStatusError".toList := by decide
  have hrejected : "ParserRejectedMarkup".toList ≠ "ResponseStatusError".toList := by decide
  unfold Board.document at h
  split at h
  · cases h
  · obtain rfl := Except.error.inj h
    exact hrejected
  · obtain rfl := Except.error.inj h
    exact hparse

theorem kind_of_postings {document : List Markup.Node} (hdocument : board.document markup = .ok document)
    (h : board.postings clock document = .error fault) : fault.kind ≠ "ResponseStatusError".toList := by
  have hmissing : "MissingFieldError".toList ≠ "ResponseStatusError".toList := by decide
  have htree : Markup.tree markup = .ok document := by
    rcases board.document_cases markup with
      ⟨other, htree, hother⟩ | ⟨reason, -, hother⟩ | ⟨other, -, hother⟩
    · obtain rfl := Except.ok.inj (hother.symm.trans hdocument)
      exact htree
    · cases hother.symm.trans hdocument
    · cases hother.symm.trans hdocument
  rcases misses_or_strays_of_postings htree h with ⟨field, rfl⟩ | hstrays
  · exact hmissing
  · intro hstatus
    have hkind := hstrays.kind
    rw [hstatus] at hkind
    exact absurd hkind (by decide)

theorem kind_of_read (hstatus : isSuccess status = true)
    (h : board.read clock (.response status body) = .error fault) :
    fault.kind ≠ "ResponseStatusError".toList := by
  have hparse : "ParseError".toList ≠ "ResponseStatusError".toList := by decide
  cases body with
  | unreadable reason =>
    rw [read, if_pos hstatus] at h
    obtain rfl := Except.error.inj h
    exact hparse
  | page markup =>
    rw [read_page board clock hstatus] at h
    rcases Fault.bind_eq_error.mp h with hdocument | ⟨document, hdocument, hpostings⟩
    · exact kind_of_document hdocument
    · exact kind_of_postings hdocument hpostings

/-- The statuses from 400 to 599, and no others, are reported as failures; every other response is read as if
its status were 200, those of redirections among them. -/
theorem read_status_fault_iff (board : Board) (clock : Nat → Moment) (status : Int) (body : Body) :
    (board.read clock (.response status body) = .error (.fetch board.name (.status status)) ↔
      400 ≤ status ∧ status ≤ 599) ∧
    (∀ fault, board.read clock (.response status body) = .error fault →
      (fault.kind = "ResponseStatusError" ↔ 400 ≤ status ∧ status ≤ 599)) ∧
    (¬ (400 ≤ status ∧ status ≤ 599) →
      board.read clock (.response status body) = board.read clock (.response 200 body)) := by
  have hfails (h : 400 ≤ status ∧ status ≤ 599) :
      board.read clock (.response status body) = .error (.fetch board.name (.status status)) :=
    if_neg (mt isSuccess_iff.mp (not_not.mpr h))
  have hkind (fault : Fault) (h : board.read clock (.response status body) = .error fault)
      (hkind : fault.kind = "ResponseStatusError".toList) : 400 ≤ status ∧ status ≤ 599 := by
    by_contra hstatus
    exact kind_of_read (isSuccess_iff.mpr hstatus) h hkind
  refine ⟨⟨fun h => hkind _ h rfl, hfails⟩, fun fault h => ⟨hkind fault h, fun hstatus => ?_⟩,
    fun hstatus => read_of_success board clock body (isSuccess_iff.mpr hstatus)⟩
  obtain rfl := Except.error.inj (h.symm.trans (hfails hstatus))
  rfl

theorem read_redirected :
    (Board.ofSite 30 .near).read (fun _ => ⟨⟨2024, 3, 10⟩, 43200⟩) (.response 404 (.page "<p>")) =
      .error (.fetch "careers.near.org" (.status 404)) ∧
    ¬ (400 ≤ (302 : Int) ∧ (302 : Int) ≤ 599) ∧
    (Board.ofSite 30 .near).read (fun _ => ⟨⟨2024, 3, 10⟩, 43200⟩) (.response 302 (.page "<p>")) =
      (Board.ofSite 30 .near).read (fun _ => ⟨⟨2024, 3, 10⟩, 43200⟩) (.response 200 (.page "<p>")) := by
  have houtside : ¬ (400 ≤ (302 : Int) ∧ (302 : Int) ≤ 599) := by decide
  obtain ⟨hfails, -⟩ :=
    read_status_fault_iff (.ofSite 30 .near) (fun _ => ⟨⟨2024, 3, 10⟩, 43200⟩) 404 (.page "<p>")
  obtain ⟨-, -, hread⟩ :=
    read_status_fault_iff (.ofSite 30 .near) (fun _ => ⟨⟨2024, 3, 10⟩, 43200⟩) 302 (.page "<p>")
  exact ⟨hfails.mpr (by decide), houtside, hread houtside⟩

theorem read_notModified :
    ¬ ∀ (board : Board) (clock : Nat → Moment) (status : Int) (body : Body), ¬ (200 ≤ status ∧ status ≤ 299) →
      board.read clock (.response status body) = .error (.fetch board.name (.status status)) := by
  intro h
  have hread : (Board.ofSite 30 .web3Career).read (fun _ => ⟨⟨2024, 3, 10⟩, 43200⟩) (.response 304 (.page [])) =
      .ok [] := by
    decide +kernel
  have hfails := h (.ofSite 30 .web3Career) (fun _ => ⟨⟨2024, 3, 10⟩, 43200⟩) 304 (.page []) (by decide)
  rw [hread] at hfails
  cases hfails

end JobBoards.Board
