import JobBoards.Proofs.Board.Pasted
import JobBoards.Proofs.Calendar.TextOrder
import JobBoards.Proofs.Index.Partition
namespace JobBoards
open Markup Listing

namespace Date
variable {d e : Date}

theorem IsValid.digits (h : d.IsValid) : d.year < 10 ^ 4 ∧ d.month < 10 ^ 2 ∧ d.day < 10 ^ 2 := by
  obtain ⟨hcalendar, hyear⟩ := isValid_iff.mp h
  exact ⟨Nat.lt_succ_of_le hyear, hcalendar.two_digits⟩

theorem IsValid.length_isoText (h : d.IsValid) : d.isoText.length = 10 := by
  obtain ⟨hyear, hmonth, hday⟩ := h.digits
  rw [isoText, List.length_append, List.length_append, List.length_cons, List.length_cons,
    Text.length_padded (by decide) hyear, Text.length_padded Nat.two_pos hmonth, Text.length_padded Nat.two_pos hday]

theorem IsValid.eq_of_isoText (hd : d.IsValid) (he : e.IsValid) (h : d.isoText = e.isoText) : d = e := by
  obtain ⟨hdyear, hdmonth, hdday⟩ := hd.digits
  obtain ⟨heyear, hemonth, heday⟩ := he.digits
  have hyears : (Text.padded 4 d.year).length = (Text.padded 4 e.year).length := by
    rw [Text.length_padded (by decide) hdyear, Text.length_padded (by decide) heyear]
  have hdays : ('-' :: Text.padded 2 d.day).length = ('-' :: Text.padded 2 e.day).length := by
    rw [List.length_cons, List.length_cons, Text.length_padded Nat.two_pos hdday, Text.length_padded Nat.two_pos heday]
  obtain ⟨hbefore, hday⟩ := List.append_inj' h hdays
  obtain ⟨hyear, hmonth⟩ := List.append_inj hbefore hyears
  cases d
  cases e
  rw [mk.injEq]
  exact ⟨Text.padded_injective 4 hyear, Text.padded_injective 2 (List.cons.inj hmonth).2,
    Text.padded_injective 2 (List.cons.inj hday).2⟩

theorem ne_space_of_mem_isoText (d : Date) : ∀ c ∈ d.isoText, (c != ' ') = true := by
  have hpadded (w n : Nat) : ∀ c ∈ Text.padded w n, (c != ' ') = true := by
    intro c hc
    have hdigit := Text.toNat_of_isDigit (Text.isDigit_of_mem_padded w n c hc)
    refine bne_iff_ne.mpr ?_
    rintro rfl
    revert hdigit
    decide
  simp only [isoText, List.forall_mem_append, List.forall_mem_cons]
  exact ⟨⟨hpadded 4 _, by decide, hpadded 2 _⟩, by decide, hpadded 2 _⟩

@[simp] theorem takeWhile_isoText_append (d : Date) (rest : Text) :
    (d.isoText ++ rest).takeWhile (· != ' ') = d.isoText ++ rest.takeWhile (· != ' ') :=
  List.takeWhile_append_of_pos d.ne_space_of_mem_isoText

end Date

inductive Stamp where
  | alone (day : Date)
  | spaced (day : Date) (time : Text)
  | lettered (day : Date) (time : Text)
  deriving DecidableEq, Repr

namespace Site.Layout

def dated? (layout : Layout) (listing : Element) : Option Text :=
  match layout with
  | .rows => ((nth "td" 2 listing).bind (·.first? (.one (.named "time")))).map (·.value "datetime")
  | .cards => (listing.first? (.one (.withValue "meta" "itemprop" "datePosted"))).map (·.value "content")
  | .panels | .items => none

def clipped (layout : Layout) (s : Text) : Text := if layout = .rows then s.takeWhile (· != ' ') else s

end Site.Layout

namespace Stamp
variable {layout : Site.Layout} {d : Date} {p : Posting}

def day : Stamp → Date
  | .alone day | .spaced day _ | .lettered day _ => day

def text : Stamp → Text
  | .alone day => day.isoText
  | .spaced day time => day.isoText ++ ' ' :: time
  | .lettered day time => day.isoText ++ 'T' :: time

def IsCut (layout : Site.Layout) : Stamp → Prop
  | .alone _ => True
  | .spaced _ _ => layout = .rows
  | .lettered _ _ => False

def shown (layout : Site.Layout) : Stamp → Text
  | .alone day => day.isoText
  | .spaced day time => if layout = .rows then day.isoText else day.isoText ++ ' ' :: time
  | .lettered day time => day.isoText ++ 'T' :: layout.clipped time

@[simp] theorem clipped_text (layout : Site.Layout) (s : Stamp) : layout.clipped s.text = s.shown layout := by
  unfold Site.Layout.clipped
  by_cases hrows : layout = .rows
  · rw [if_pos hrows]
    cases s with
    | alone day => exact List.takeWhile_eq_self_iff.mpr day.ne_space_of_mem_isoText
    | spaced day time =>
      rw [text, day.takeWhile_isoText_append, shown, if_pos hrows]
      exact List.append_nil _
    | lettered day time =>
      rw [text, day.takeWhile_isoText_append, shown, Site.Layout.clipped, if_pos hrows]
      rfl
  · rw [if_neg hrows]
    cases s with
    | alone day => rfl
    | spaced day time => exact (if_neg hrows).symm
    | lettered day time => rw [shown, Site.Layout.clipped, if_neg hrows, text]

theorem ne_isoText_of_longer {day : Date} {c : Char} {rest : Text} (hday : day.IsValid) (hd : d.IsValid) :
    day.isoText ++ c :: rest ≠ d.isoText := by
  intro h
  have hlength := congrArg List.length h
  rw [List.length_append, List.length_cons, hday.length_isoText, hd.length_isoText] at hlength
  omega

theorem shown_eq_iff {s : Stamp} (hs : s.day.IsValid) (hd : d.IsValid) :
    s.shown layout = d.isoText ↔ s.IsCut layout ∧ s.day = d := by
  have halone : s.day.isoText = d.isoText ↔ s.day = d := ⟨hs.eq_of_isoText hd, congrArg Date.isoText⟩
  cases s with
  | alone day => exact halone.trans (and_iff_right trivial).symm
  | spaced day time =>
    by_cases hrows : layout = .rows
    · rw [shown, if_pos hrows, IsCut, and_iff_right hrows]
      exact halone
    · rw [shown, if_neg hrows]
      exact iff_of_false (ne_isoText_of_longer hs hd) fun h => hrows h.1
  | lettered day time => exact iff_of_false (ne_isoText_of_longer hs hd) fun h => h.1

structure Dates (layout : Site.Layout) (s : Stamp) (p : Posting) : Prop where
  date : p.date = s.shown layout
  day_iff : p.date = s.day.isoText ↔ s.IsCut layout
  filed_iff : ∀ (rules : Rules) (entries : List Entry), ∀ e ∈ entries, e.posting = p → ∀ d : Date, d.IsValid →
    (e ∈ (Index.build rules entries).date.get d.isoText ↔ s.IsCut layout ∧ s.day = d)

theorem dates_of_clipped {s : Stamp} (hs : s.day.IsValid) (h : p.date = layout.clipped s.text) : s.Dates layout p := by
  rw [clipped_text] at h
  refine ⟨h, ?_, fun rules entries e he hp d hd => ?_⟩
  · rw [h, shown_eq_iff hs hs]
    exact and_iff_left rfl
  · have hbucket := Buckets.get_build_single Posting.date entries d.isoText
    rw [← shown_eq_iff hs hd, ← h, ← hp]
    change e ∈ Buckets.get d.isoText (Buckets.build (fun p => [p.date]) entries) ↔ _
    rw [hbucket, List.mem_filter, and_iff_right he, decide_eq_true_iff]

end Stamp

namespace Listing

theorem Rows.ends_date (board : Board) (row : Element) :
    Ends (fun _ => True) (fun p => ∀ s ∈ Site.Layout.rows.dated? row, p.date = Site.Layout.rows.clipped s)
      (posting board row) := by
  rw [posting_eq]
  refine .bind .any fun _ _ => .bind .any fun _ _ => .bind .any fun _ _ => .bind .any fun _ _ => ?_
  refine .bind .any fun _ _ => .bind .any fun _ _ => .bind (ends_require _ _ _) fun time htime => ?_
  intro s hs
  rw [Site.Layout.dated?, htime] at hs
  obtain rfl := Option.some.inj hs
  rfl

theorem Cards.ends_date (board : Board) (card title : Element) :
    Ends (fun _ => True) (fun p => ∀ s ∈ Site.Layout.cards.dated? card, p.date = Site.Layout.cards.clipped s)
      (posting board card title) := by
  refine .bind .any fun _ _ => .bind (ends_require _ _ _) fun date hdate => .bind .any fun _ _ => ?_
  intro s hs
  rw [Site.Layout.dated?, hdate] at hs
  obtain rfl := Option.some.inj hs
  rfl

end Listing

namespace Board
variable {board : Board} {now : Moment} {clock : Nat → Moment} {listing : Element} {p : Posting}
  {listings : List Element} {ps : List Posting}

theorem date_of_posting (h : board.posting now listing = .ok p) :
    ∀ s ∈ board.site.layout.dated? listing, p.date = board.site.layout.clipped s := by
  unfold posting at h
  cases hlayout : board.site.layout with
  | rows =>
    rw [hlayout] at h
    exact (Rows.ends_date _ _).of_ok h
  | panels | items => exact fun _ hs => nomatch hs
  | cards =>
    rw [hlayout] at h
    exact (Cards.ends_date _ _ _).of_ok h

theorem dates_of_listings {stamps : List Stamp} (h : List.Forall₂ (fun listing p =>
      ∀ s ∈ board.site.layout.dated? listing, p.date = board.site.layout.clipped s) listings ps)
    (hvalid : ∀ s ∈ stamps, s.day.IsValid)
    (hdated : listings.map board.site.layout.dated? = stamps.map (some ∘ Stamp.text)) :
    List.Forall₂ (Stamp.Dates board.site.layout) stamps ps := by
  induction h generalizing stamps with
  | nil =>
    obtain rfl := List.map_eq_nil_iff.mp hdated.symm
    exact .nil
  | @cons listing p listings ps hdate _ ih =>
    obtain ⟨s, stamps, rfl, hs, hstamps⟩ := List.map_eq_cons_iff.mp hdated.symm
    obtain ⟨hday, hvalid⟩ := List.forall_mem_cons.mp hvalid
    exact .cons (Stamp.dates_of_clipped hday (hdate _ hs.symm)) (ih hvalid hstamps.symm)

theorem read_page_eq_ok {status : Int} {markup : Text}
    (h : board.read clock (.response status (.page markup)) = .ok ps) :
    ∃ document, Markup.tree markup = .ok document ∧ board.postings clock document = .ok ps := by
  by_cases hstatus : isSuccess status = true
  · rw [read_page _ clock hstatus, Fault.bind_eq_ok] at h
    obtain ⟨document, hdocument, hpostings⟩ := h
    exact ⟨document, Site.tree_of_document hdocument, hpostings⟩
  · have hfails : board.read clock (.response status (.page markup)) = .error (.fetch board.name (.status status)) :=
      if_neg hstatus
    rw [hfails] at h
    cases h

/-- Where every listing of a page is stamped with a day, rows lose a time of day after a space, and no other time of
day is lost: exactly the stamps that are cut give their day to their postings and file them under it. -/
theorem days_of_read (board : Board) (clock : Nat → Moment) (status : Int) (markup : Text)
    (h : board.read clock (.response status (.page markup)) = .ok ps) :
    ∃ document, Markup.tree markup = .ok document ∧ ∀ stamps : List Stamp, (∀ s ∈ stamps, s.day.IsValid) →
      (board.site.layout.listings document).map board.site.layout.dated? = stamps.map (some ∘ Stamp.text) →
      List.Forall₂ (Stamp.Dates board.site.layout) stamps ps := by
  obtain ⟨document, htree, hpostings⟩ := read_page_eq_ok h
  rw [postings_eq_readEach] at hpostings
  have hdates := forall₂_of_readEach hpostings fun now listing p hread => date_of_posting hread
  exact ⟨document, htree, fun stamps => dates_of_listings hdates⟩

def rowWith (stamp : Text) : Text :=
  "<tr class=table_row><td>Engineer</td><td>Acme</td><td><time datetime=\"".toList ++ stamp ++
    "\"></time></td><td>Rome</td><td></td><td></td></tr>".toList

def rowPosting (date : Text) : Posting :=
  ⟨"Engineer", "Acme", date, "Rome", "", "web3.career", ⟨[], true⟩, ""⟩

def newYear : Date := ⟨2024, 1, 1⟩

def newYearStamps : List Stamp := [.alone newYear, .spaced newYear "09:30:00", .lettered newYear "09:30 +01:00"]

theorem days_of_newYear : ∃ document,
    Markup.tree (newYearStamps.flatMap fun s => rowWith s.text) = .ok document ∧
    (Site.Layout.rows.listings document).map Site.Layout.rows.dated? = newYearStamps.map (some ∘ Stamp.text) ∧
    List.Forall₂ (Stamp.Dates .rows) newYearStamps
      [rowPosting "2024-01-01", rowPosting "2024-01-01", rowPosting "2024-01-01T09:30"] := by
  have hread : (Board.ofSite 30 .web3Career).read (fun _ => Elapsed.springNoon)
      (.response 200 (.page (newYearStamps.flatMap fun s => rowWith s.text))) =
        .ok [rowPosting "2024-01-01", rowPosting "2024-01-01", rowPosting "2024-01-01T09:30"] := by
    decide +kernel
  have hdated : (Markup.tree (newYearStamps.flatMap fun s => rowWith s.text)).map (fun document =>
      (Site.Layout.rows.listings document).map Site.Layout.rows.dated?) =
        .ok (newYearStamps.map (some ∘ Stamp.text)) := by
    decide +kernel
  obtain ⟨document, htree, hdays⟩ := days_of_read _ _ 200 _ hread
  rw [htree] at hdated
  have hdated := Except.ok.inj hdated
  exact ⟨document, htree, hdated, hdays newYearStamps (by decide) hdated⟩

theorem not_days_lettered : ¬ ∀ (board : Board) (clock : Nat → Moment) (status : Int) (markup : Text)
    (ps : List Posting) (document : List Node) (stamps : List Stamp),
      board.site.layout = .rows ∨ board.site.layout = .cards →
      board.read clock (.response status (.page markup)) = .ok ps → Markup.tree markup = .ok document →
      (∀ s ∈ stamps, s.day.IsValid) →
      (board.site.layout.listings document).map board.site.layout.dated? = stamps.map (some ∘ Stamp.text) →
      List.Forall₂ (fun s p => p.date = s.day.isoText) stamps ps := by
  intro h
  have hread : (Board.ofSite 30 .web3Career).read (fun _ => Elapsed.springNoon)
      (.response 200 (.page (rowWith "2024-01-01T09:30"))) = .ok [rowPosting "2024-01-01T09:30"] := by
    decide +kernel
  have hdated : (Markup.tree (rowWith "2024-01-01T09:30")).map (fun document =>
      (Site.Layout.rows.listings document).map Site.Layout.rows.dated?) = .ok [some "2024-01-01T09:30".toList] := by
    decide +kernel
  obtain ⟨document, htree, -⟩ := read_page_eq_ok hread
  rw [htree] at hdated
  have hdays := h _ _ 200 _ _ document [.lettered newYear "09:30"] (.inl rfl) hread htree (by decide)
    (Except.ok.inj hdated)
  obtain ⟨hdate, -⟩ := List.forall₂_cons.mp hdays
  revert hdate
  decide

end Board
end JobBoards
