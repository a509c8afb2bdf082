import JobBoards.Proofs.Dialogue.Lines
import JobBoards.Proofs.Posting.Newest
import JobBoards.Proofs.Repository.Refresh
namespace JobBoards

def Repository.recordsOf (r : Repository) (round : Nat) : List Record :=
  match (r.after round).refresh.2 with
  | .ok records => records
  | .error _ => []

namespace Dialogue

def asksRefresh (line : Text) : Bool := Text.trim line == "refresh".toList

def refreshes (lines : List Text) : Nat := lines.countP asksRefresh

inductive Message where
  | opening
  | opened
  | prompt
  | posting (posting : Posting)
  | count (postings : Nat)
  | refreshing
  | refreshed
  | reports (reports : List Report)
  | invalid (line : Text)
  | farewell
  deriving DecidableEq, Repr

namespace Message

def said (width : Nat) (words : Text) : Text := Screen.line width (Screen.literal words)

def text (width : Nat) : Message → Text
  | .opening => said width "Populating/indexing local datastore..."
  | .opened =>
      said width "Population/indexing completed successfully! Please begin your job hunt by entering a query:"
  | .prompt => Screen.printed width Shell.prompt
  | .posting p => Screen.line width p.sheet.text
  | .count n => said width (Text.ofNat n ++ " items returned".toList)
  | .refreshing => said width "Refreshing..."
  | .refreshed => said width "Refresh completed successfully!"
  | .reports shown => (Shell.reportTable shown).text width
  | .invalid line => said width ('\x22' :: line ++ "\" is not a valid command".toList)
  | .farewell => said width "\nThank you for using Job Hunt. Goodbye!"

end Message

inductive Answers (s : Snapshot) (line : Text) : List Message → Prop
  | postings {shown : List Entry} (h : Text.trim line = "fetch jobs".toList)
      (hperm : shown.Perm s.entries) (hsorted : shown.Pairwise Entry.Precedes) :
      Answers s line (shown.map (Message.posting ∘ Entry.posting) ++ [.count s.entries.length])
  | refresh (h : Text.trim line = "refresh".toList) : Answers s line [.refreshing, .refreshed]
  | reports (h : Text.trim line = "sources".toList) : Answers s line [.reports s.reports]
  | invalid (h : Text.trim line ∉ ["fetch jobs".toList, "refresh".toList, "sources".toList]) :
      Answers s line [.invalid line]

/-- The answers to lines, each given while the snapshot is current that the refreshes before it left. -/
structure Answered (r : Repository) (n : Nat) (lines : List Text) (turns : List (List Message)) :
    Prop where
  length_eq : turns.length = lines.length
  answers : ∀ i (hline : i < lines.length) (hturn : i < turns.length),
    Answers (r.after (n + refreshes (lines.take i))).snapshot lines[i] turns[i]

/-- A dialogue in which a repository was refreshed `n` times and nothing but some messages was printed. -/
structure Stands (r : Repository) (width n : Nat) (messages : List Message) (s : Shell) : Prop where
  width_eq : s.width = width
  repository : s.repository = r.after n
  printed : s.printed = messages.flatMap (Message.text width)
  records : s.records = (List.range n).flatMap r.recordsOf

def reply (s : Shell) (line : Text) : Except Fault Shell :=
  s.ask.obey (Command.ofLine line)

variable {r : Repository} {width n : Nat} {s : Shell} {messages : List Message} {input line rest : Text}

theorem ofLine_of_leaves (h : leaves line = true) : Command.ofLine line = .leave :=
  if_pos (eq_of_beq h)

theorem ofLine_cases (h : leaves line = false) :
    (Text.trim line = "fetch jobs".toList ∧ Command.ofLine line = .show) ∨
    (Text.trim line = "refresh".toList ∧ Command.ofLine line = .refresh) ∨
    (Text.trim line = "sources".toList ∧ Command.ofLine line = .sources) ∨
    (Text.trim line ∉ ["fetch jobs".toList, "refresh".toList, "sources".toList] ∧
      Command.ofLine line = .unknown line) := by
  have hstays : Text.trim line ≠ "exit".toList := by simpa [leaves] using h
  unfold Command.ofLine
  simp only [if_neg hstays]
  split
  · rename_i hjobs
    exact .inl ⟨hjobs, rfl⟩
  · split
    · rename_i hrefresh
      exact .inr (.inl ⟨hrefresh, rfl⟩)
    · split
      · rename_i hsources
        exact .inr (.inr (.inl ⟨hsources, rfl⟩))
      · rename_i hjobs hrefresh hsources
        refine .inr (.inr (.inr ⟨?_, rfl⟩))
        simp only [List.mem_cons, List.not_mem_nil, or_false, not_or]
        exact ⟨hjobs, hrefresh, hsources⟩

theorem ne_leave (h : leaves line = false) : Command.ofLine line ≠ .leave := by
  intro hleave
  rcases ofLine_cases h with ⟨-, hline⟩ | ⟨-, hline⟩ | ⟨-, hline⟩ | ⟨-, hline⟩
  all_goals
    rw [hline] at hleave
    cases hleave

@[simp] theorem converse_nil (s : Shell) : s.converse [] = .ok (s.ask, []) := by
  rw [Shell.converse]
  rfl

theorem converse_of_leaves (hinput : input ≠ []) (hnext : Shell.nextLine input = (line, rest))
    (h : leaves line = true) : s.converse input = .ok (s.ask, rest) := by
  rw [Shell.converse, dif_neg hinput, hnext, ofLine_of_leaves h]

theorem converse_of_stays (hinput : input ≠ []) (hnext : Shell.nextLine input = (line, rest))
    (h : leaves line = false) :
    s.converse input = reply s line >>= fun s => s.converse rest := by
  have hne := ne_leave h
  rw [Shell.converse, dif_neg hinput, hnext]
  split
  · rename_i hleave
    exact absurd hleave hne
  · rfl

theorem converse_eq (s : Shell) (input : Text) :
    s.converse input = (answered input).foldlM reply s >>= fun s =>
      .ok (s.ask, unread input) := by
  induction input using input_induction generalizing s with
  | empty => exact converse_nil s
  | last line hline hne =>
    have hnext := nextLine_last hline
    obtain ⟨hanswered, -, hunread⟩ := read_last hline hne
    rw [hanswered, hunread]
    cases hleaves : leaves line with
    | true =>
      rw [converse_of_leaves hne hnext hleaves]
      rfl
    | false =>
      rw [converse_of_stays hne hnext hleaves]
      simp
  | more line rest hline ih =>
    have hne : line ++ '\n' :: rest ≠ [] := List.append_ne_nil_of_right_ne_nil line (List.cons_ne_nil _ _)
    have hnext := nextLine_append hline rest
    cases hleaves : leaves line with
    | true =>
      obtain ⟨hanswered, -, hunread⟩ := read_append_of_leaves hline hleaves rest
      rw [converse_of_leaves hne hnext hleaves, hanswered, hunread]
      rfl
    | false =>
      obtain ⟨hanswered, -, hunread⟩ := read_append hline hleaves rest
      rw [converse_of_stays hne hnext hleaves, hanswered, hunread, List.foldlM_cons, bind_assoc]
      exact congrArg _ (funext ih)

theorem refreshes_singleton (line : Text) :
    refreshes [line] = if Text.trim line = "refresh".toList then 1 else 0 := by
  simp only [refreshes, List.countP_singleton, asksRefresh, beq_iff_eq]

theorem refreshes_cons (line : Text) (lines : List Text) :
    refreshes (line :: lines) = refreshes [line] + refreshes lines := by
  simp only [refreshes, List.countP_cons, List.countP_nil, Nat.zero_add, Nat.add_comm]

theorem Answered.cons {lines : List Text} {turn : List Message} {turns : List (List Message)}
    (hturn : Answers (r.after n).snapshot line turn)
    (hturns : Answered r (n + refreshes [line]) lines turns) :
    Answered r n (line :: lines) (turn :: turns) := by
  refine ⟨congrArg Nat.succ hturns.length_eq, fun i hi hi' => ?_⟩
  cases i with
  | zero => exact hturn
  | succ i =>
    have h := hturns.answers i (Nat.lt_of_succ_lt_succ hi) (Nat.lt_of_succ_lt_succ hi')
    have hcount := refreshes_cons line (lines.take i)
    simp only [List.take_succ_cons, List.getElem_cons_succ, hcount, ← Nat.add_assoc]
    exact h

namespace Stands

theorem start (r : Repository) (width : Nat) : Stands r width 0 [] (.start width r) := ⟨rfl, rfl, rfl, rfl⟩

theorem print (h : Stands r width n messages s) (more : List Message) :
    Stands r width n (messages ++ more) (s.print (more.flatMap (Message.text width))) where
  width_eq := h.width_eq
  repository := h.repository
  printed := by
    rw [List.flatMap_append, ← h.printed]
    rfl
  records := h.records

theorem say (h : Stands r width n messages s) (message : Message) :
    Stands r width n (messages ++ [message]) (s.print (message.text width)) := by
  have hone : [message].flatMap (Message.text width) = message.text width := List.flatMap_singleton _ _
  rw [← hone]
  exact h.print [message]

theorem ask (h : Stands r width n messages s) : Stands r width n (messages ++ [.prompt]) s.ask := by
  obtain rfl := h.width_eq
  exact h.say .prompt

theorem refresh (h : Stands r width n messages s) (hr : ¬ (r.after n).Fails) :
    ∃ t, s.refresh = .ok t ∧ Stands r width (n + 1) messages t := by
  cases hrefresh : (r.after n).refresh.2 with
  | error fault => exact absurd ⟨fault, hrefresh⟩ hr
  | ok records =>
    refine ⟨⟨s.width, r.after (n + 1), s.printed, s.records ++ records⟩, ?_, h.width_eq, rfl, h.printed, ?_⟩
    · rw [Shell.refresh, h.repository]
      simp only [hrefresh]
      rfl
    · have hrecords : r.recordsOf n = records := by
        rw [Repository.recordsOf, hrefresh]
      rw [List.range_succ, List.flatMap_append, List.flatMap_singleton, hrecords, ← h.records]

end Stands

theorem foldl_print (entries : List Entry) (s : Shell) :
    entries.foldl (fun s e => s.print (Screen.line s.width e.posting.sheet.text)) s =
      s.print ((entries.map (Message.posting ∘ Entry.posting)).flatMap (Message.text s.width)) := by
  induction entries generalizing s with
  | nil => simp [Shell.print]
  | cons e entries ih =>
    rw [List.foldl_cons, ih]
    simp [Shell.print, Message.text]

theorem showPostings_eq (s : Shell) :
    s.showPostings =
      (s.print ((s.repository.snapshot.newest.map (Message.posting ∘ Entry.posting)).flatMap
        (Message.text s.width))).print ((Message.count s.repository.snapshot.newest.length).text s.width) := by
  rw [Shell.showPostings, foldl_print]
  rfl

theorem newest_after (hr : ¬ (r.after n).Fails) :
    (r.after (n + 1)).snapshot.newest.Perm (r.after (n + 1)).snapshot.entries ∧
      (r.after (n + 1)).snapshot.newest.Pairwise Entry.Precedes := by
  refine ⟨Entry.perm_newestFirst _, ?_⟩
  rcases r.after_succ_cases n with ⟨c, -, hsnapshot, -⟩ | ⟨fault, -, hfault, -, -⟩
  · rw [hsnapshot]
    exact Entry.precedes_newestFirst_number c.postings
  · exact absurd ⟨fault, hfault⟩ hr

theorem obey_stands (h : Stands r width (n + 1) messages s) (hstays : leaves line = false)
    (hr : ∀ k ≤ n + refreshes [line], ¬ (r.after k).Fails) :
    ∃ t turn, s.obey (Command.ofLine line) = .ok t ∧ Answers (r.after (n + 1)).snapshot line turn ∧
      Stands r width (n + 1 + refreshes [line]) (messages ++ turn) t := by
  have hsnapshot : s.repository.snapshot = (r.after (n + 1)).snapshot := by rw [h.repository]
  obtain rfl := h.width_eq
  -- a listing, a refresh, the reports, and a line that is no command
  rcases ofLine_cases hstays with ⟨hword, hline⟩ | ⟨hword, hline⟩ | ⟨hword, hline⟩ | ⟨hword, hline⟩
  · obtain ⟨hperm, hsorted⟩ := newest_after (hr n (Nat.le_add_right n _))
    rw [hline, refreshes_singleton, hword]
    refine ⟨_, _, rfl, .postings hword hperm hsorted, ?_⟩
    rw [showPostings_eq, hsnapshot, hperm.length_eq, ← List.append_assoc]
    exact (h.print _).say _
  · rw [refreshes_singleton, hword] at hr
    obtain ⟨t, hrefresh, ht⟩ := (h.say .refreshing).refresh (hr (n + 1) (Nat.le_refl _))
    have hobey : s.obey .refresh = .ok (t.print (Message.refreshed.text s.width)) := by
      change (s.print (Message.refreshing.text s.width)).refresh >>= _ = _
      rw [hrefresh, ← ht.width_eq]
      rfl
    rw [hline, refreshes_singleton, hword]
    refine ⟨_, _, hobey, .refresh hword, ?_⟩
    have hsaid := ht.say .refreshed
    rw [List.append_assoc] at hsaid
    exact hsaid
  · rw [hline, refreshes_singleton, hword]
    refine ⟨_, _, rfl, .reports hword, ?_⟩
    rw [Shell.showReports, hsnapshot]
    exact h.say (.reports _)
  · have hnot : Text.trim line ≠ "refresh".toList := by
      rintro heq
      rw [heq] at hword
      exact hword (by decide)
    rw [hline, refreshes_singleton, if_neg hnot]
    exact ⟨_, _, rfl, .invalid hword, h.say (.invalid line)⟩

theorem replies_stand {lines : List Text} (h : Stands r width (n + 1) messages s)
    (hstay : ∀ line ∈ lines, leaves line = false)
    (hr : ∀ k ≤ n + refreshes lines, ¬ (r.after k).Fails) :
    ∃ t turns, lines.foldlM reply s = .ok t ∧ Answered r (n + 1) lines turns ∧
      Stands r width (n + 1 + refreshes lines) (messages ++ turns.flatMap (.prompt :: ·)) t := by
  induction lines generalizing n s messages with
  | nil =>
    refine ⟨s, [], rfl, ⟨rfl, fun i hi => absurd hi (Nat.not_lt_zero i)⟩, ?_⟩
    rw [List.flatMap_nil, List.append_nil]
    exact h
  | cons line lines ih =>
    obtain ⟨hline, hlines⟩ := List.forall_mem_cons.mp hstay
    have hcount := refreshes_cons line lines
    have hindex : n + 1 + refreshes [line] = n + refreshes [line] + 1 := Nat.add_right_comm _ _ _
    -- the turns that follow count their refreshes from the one that this line may have made
    obtain ⟨t, turn, hobey, hanswers, ht⟩ := obey_stands h.ask hline
      fun k hk => hr k (by omega)
    rw [hindex] at ht
    obtain ⟨u, turns, hfold, hanswered, hu⟩ := ih ht hlines fun k hk => hr k (by omega)
    rw [← hindex] at hanswered hu
    refine ⟨u, turn :: turns, ?_, hanswered.cons hanswers, ?_⟩
    · have hreply : reply s line = .ok t := hobey
      rw [List.foldlM_cons, hreply]
      exact hfold
    · rw [hcount, ← Nat.add_assoc]
      simpa using hu

theorem run_eq (r : Repository) (width : Nat) (input : Text) :
    Shell.run width r input = ((Shell.start width r).print (Message.opening.text width)).refresh >>= fun s =>
      (answered input).foldlM reply (s.print (Message.opened.text s.width)) >>= fun s =>
        .ok (s.ask.print (Message.farewell.text s.width), unread input) := by
  rw [Shell.run]
  refine congrArg _ (funext fun s => ?_)
  simp only [converse_eq, bind_assoc]
  rfl

theorem Answers.farewell_notMem {snapshot : Snapshot} {turn : List Message}
    (h : Answers snapshot line turn) : .farewell ∉ turn := by
  cases h <;> simp

theorem Answered.farewell_notMem {lines : List Text} {turns : List (List Message)}
    (h : Answered r n lines turns) : ∀ turn ∈ turns, .farewell ∉ turn := by
  intro turn hturn
  obtain ⟨i, hi, rfl⟩ := List.mem_iff_getElem.mp hturn
  exact (h.answers i (h.length_eq ▸ hi) hi).farewell_notMem

def transcript (turns : List (List Message)) : List Message :=
  [.opening, .opened] ++ turns.flatMap (.prompt :: ·) ++ [.prompt, .farewell]

/-- The lines that are answered decide all that happens. -/
theorem run_stands (width : Nat) (input : Text) (hr : ∀ k ≤ refreshes (answered input), ¬ (r.after k).Fails) :
    ∃ shell turns,
      (∀ other, answered other = answered input → Shell.run width r other = .ok (shell, unread other)) ∧
      Answered r 1 (answered input) turns ∧
      Stands r width (1 + refreshes (answered input)) (transcript turns) shell := by
  obtain ⟨s, hrefresh, hs⟩ := ((Stands.start r width).say .opening).refresh (hr 0 (Nat.zero_le _))
  obtain ⟨t, turns, hfold, hanswered, ht⟩ := replies_stand (hs.say .opened)
    (fun _ => leaves_of_mem_answered) (by simpa using hr)
  have hlast := ht.ask.say .farewell
  refine ⟨_, turns, fun other hother => ?_, by simpa using hanswered, by simpa [transcript] using hlast⟩
  rw [run_eq, hrefresh, hother]
  change List.foldlM reply (s.print (Message.opened.text s.width)) _ >>= _ = _
  rw [hs.width_eq, hfold, ← ht.width_eq]
  rfl

/-- A dialogue reads the lines up to the first that asks to leave and answers each of those before it from
the snapshot of the latest refresh; it refreshes once at its start and for every line that asks for it. -/
theorem run_answers_lines (r : Repository) (width : Nat) (input : Text)
    (hr : ∀ k ≤ refreshes (answered input), ¬ (r.after k).Fails) :
    ∃ shell turns messages,
      Shell.run width r input = .ok (shell, unread input) ∧
      ((∃ line ∈ lines input, leaves line = true) →
        ∀ rest, Shell.run width r (read input ++ rest) = .ok (shell, rest)) ∧
      Stands r width (1 + refreshes (answered input)) (messages ++ [.farewell]) shell ∧
      messages = [.opening, .opened] ++ turns.flatMap (.prompt :: ·) ++ [.prompt] ∧
      Answered r 1 (answered input) turns ∧ .farewell ∉ messages := by
  obtain ⟨shell, turns, hrun, hanswered, hstands⟩ := run_stands width input hr
  refine ⟨shell, turns, _, hrun input rfl, fun hleaves rest => ?_, ?_, rfl, hanswered, ?_⟩
  · obtain ⟨hsame, hrest⟩ := read_append_any hleaves rest
    rw [hrun _ hsame, hrest]
  · simpa [transcript] using hstands
  · simpa using hanswered.farewell_notMem

def dated : Repository :=
  .new [⟨"board", fun round =>
    ⟨.ok [⟨"developer", "company", Text.ofNat round, "remote", "", "board", ⟨[], true⟩, ""⟩], []⟩⟩]
    none .standard none

def listedTwice : Text := "fetch jobs\nrefresh\n fetch jobs \nexit\nrefresh"

theorem run_listedTwice :
    (∀ k ≤ refreshes (answered listedTwice), ¬ (dated.after k).Fails) ∧
      ∃ shell turns, Shell.run 80 dated listedTwice = .ok (shell, "refresh".toList) ∧
        shell.repository = dated.after 2 ∧
        Answered dated 1 ["fetch jobs".toList, "refresh".toList, " fetch jobs ".toList] turns := by
  have hlines : answered listedTwice =
      ["fetch jobs".toList, "refresh".toList, " fetch jobs ".toList] := by decide
  have hunread : unread listedTwice = "refresh".toList := by decide
  have hr : ∀ k ≤ refreshes (answered listedTwice), ¬ (dated.after k).Fails := by
    intro k _
    rw [dated.fails_after_iff k, collect_error_iff]
    simp [dated, Repository.new]
  obtain ⟨shell, turns, messages, hrun, -, hstands, -, hanswered, -⟩ :=
    run_answers_lines dated 80 listedTwice hr
  rw [hunread] at hrun
  rw [hlines] at hstands hanswered
  exact ⟨hr, shell, turns, hrun, hstands.repository, hanswered⟩

end Dialogue
end JobBoards
