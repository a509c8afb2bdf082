import JobBoards.Proofs.Yaml.Scanning
import JobBoards.Yaml.Node
namespace JobBoards.Yaml

namespace Parser

/-- The fault that waits behind the last token is one that a document may be refused for. -/
def Sound (p : Parser) : Prop := ∀ f, p.fault = some f → Refusal f

abbrev Reads {α : Type} (x : Except Fault (α × Parser)) : Prop := Ends Refusal (fun r => r.2.Sound) x

variable {p : Parser} {α : Type}

theorem fails_peek (h : p.Sound) : Fails Refusal p.peek := by
  unfold peek
  split
  · trivial
  · cases hfault : p.fault with
    | none => exact refusal_malformed
    | some f => exact h f hfault

theorem ends_expect (h : p.Sound) (t : Token) : Ends Refusal Sound (p.expect t) :=
  (fails_peek h).bind fun _ => .ite h refusal_malformed

theorem Sound.anchored (h : p.Sound) (name : Option Text) (a : Anchor) : (p.anchored name a).Sound := by
  cases name <;> exact h

theorem fails_kindOf (p : Parser) (handle : Option Text) (suffix : Text) :
    Fails Refusal (p.kindOf handle suffix) := by
  unfold kindOf
  split
  · trivial
  · split
    · trivial
    · exact refusal_malformed

theorem reads_properties (h : p.Sound) : Reads p.properties := by
  refine (fails_peek h).bind fun t => ?_
  split
  · refine (fails_peek (p := p.next) h).bind fun t => ?_
    split
    · exact (fails_kindOf ..).bind fun _ => h
    · exact h
  · refine (fails_peek (p := p.next) h).bind fun t => ?_
    split
    · exact (fails_kindOf ..).bind fun _ => h
    · exact (fails_kindOf ..).bind fun _ => h
  · exact h

theorem reads_inside (h : p.Sound) {read : Parser → Except Fault (α × Parser)} (hread : ∀ q, q.Sound → Reads (read q)) :
    Reads (p.inside read) :=
  .ite (.inr .depth) ((hread { p with calls := p.calls - 2 } h).bind fun _ hq => hq)

theorem reads_collection (h : p.Sound) (name : Option Text) (isMap : Bool) (build : α → Node)
    {read : Parser → Except Fault (α × Parser)} (hread : ∀ q, q.Sound → Reads (read q)) :
    Reads (p.collection name isMap build read) :=
  (reads_inside (h.anchored name _) hread).bind fun _ hq => hq.anchored name _

theorem reads_elements {read : Parser → Except Fault (α × Parser)} {more : Parser → Except Fault (List α × Parser)}
    (closes : Token) (h : p.Sound) (hread : ∀ q, q.Sound → Reads (read q)) (hmore : ∀ q, q.Sound → Reads (more q)) :
    Reads (do
      if (← p.peek) = closes then .ok ([], p.next)
      else
        let first ← read p
        let rest ← more first.2
        .ok (first.1 :: rest.1, rest.2)) :=
  (fails_peek h).bind fun _ => .ite h <|
    (hread p h).bind fun first hfirst => (hmore first.2 hfirst).bind fun _ hrest => hrest

structure Steady (fuel : Nat) : Prop where
  node : ∀ place p, Sound p → Reads (node fuel place p)
  nodeUnless : ∀ leavesOut place p, Sound p → Reads (nodeUnless fuel leavesOut place p)
  nodeAfter : ∀ mark leavesOut place p, Sound p → Reads (nodeAfter fuel mark leavesOut place p)
  blockItems : ∀ p, Sound p → Reads (blockItems fuel p)
  indentless : ∀ p, Sound p → Reads (indentless fuel p)
  blockEntries : ∀ p, Sound p → Reads (blockEntries fuel p)
  flowItem : ∀ p, Sound p → Reads (flowItem fuel p)
  flowItems : ∀ isFirst p, Sound p → Reads (flowItems fuel isFirst p)
  flowEntry : ∀ p, Sound p → Reads (flowEntry fuel p)
  flowEntries : ∀ isFirst p, Sound p → Reads (flowEntries fuel isFirst p)

namespace Steady
variable {fuel : Nat}

theorem node_succ (ih : Steady fuel) (place : Place) (h : p.Sound) : Reads (Parser.node (fuel + 1) place p) := by
  refine (fails_peek h).bind fun t => ?_
  split
  · split
    · exact h
    · exact h
    · exact refusal_malformed
  · refine (reads_properties h).bind fun ⟨props, p⟩ h => (fails_peek h).bind fun t => ?_
    refine .ite refusal_malformed (.ite ?_ ?_)
    · exact reads_collection h _ _ _ ih.indentless
    · split
      · exact Sound.anchored (p := p.next) h _ _
      · exact reads_collection (p := p.next) h _ _ _ (ih.flowItems true)
      · exact reads_collection (p := p.next) h _ _ _ (ih.flowEntries true)
      · refine .ite ?_ (.ite ?_ (.ite ?_ refusal_malformed))
        · exact reads_collection (p := p.next) h _ _ _ ih.blockItems
        · exact reads_collection (p := p.next) h _ _ _ ih.blockEntries
        · exact h.anchored _ _

theorem nodeUnless_succ (ih : Steady fuel) (leavesOut : Token → Bool) (place : Place) (h : p.Sound) :
    Reads (Parser.nodeUnless (fuel + 1) leavesOut place p) :=
  (fails_peek h).bind fun _ => .ite h (ih.node place p h)

theorem nodeAfter_succ (ih : Steady fuel) (mark : Token) (leavesOut : Token → Bool) (place : Place) (h : p.Sound) :
    Reads (Parser.nodeAfter (fuel + 1) mark leavesOut place p) :=
  (fails_peek h).bind fun _ => .ite (ih.nodeUnless leavesOut place p.next h) h

theorem blockItems_succ (ih : Steady fuel) (h : p.Sound) : Reads (Parser.blockItems (fuel + 1) p) := by
  refine (fails_peek h).bind fun _ => .ite ?_ ?_
  · exact (ih.nodeUnless _ _ p.next h).bind fun ⟨_, q⟩ hq => (ih.blockItems q hq).bind fun _ hr => hr
  · exact (ends_expect h _).bind fun _ hq => hq

theorem indentless_succ (ih : Steady fuel) (h : p.Sound) : Reads (Parser.indentless (fuel + 1) p) := by
  refine (fails_peek h).bind fun _ => .ite ?_ h
  exact (ih.nodeUnless _ _ p.next h).bind fun ⟨_, q⟩ hq => (ih.indentless q hq).bind fun _ hr => hr

theorem blockEntries_succ (ih : Steady fuel) (h : p.Sound) : Reads (Parser.blockEntries (fuel + 1) p) := by
  refine (fails_peek h).bind fun _ => .ite ?_ ?_
  · exact (ih.nodeUnless _ _ p.next h).bind fun ⟨_, q⟩ hq => (ih.nodeAfter _ _ _ q hq).bind fun ⟨_, r⟩ hr =>
      (ih.blockEntries r hr).bind fun _ ht => ht
  · exact (ends_expect h _).bind fun _ hq => hq

theorem flowItem_succ (ih : Steady fuel) (h : p.Sound) : Reads (Parser.flowItem (fuel + 1) p) := by
  refine (fails_peek h).bind fun _ => .ite ?_ (ih.node _ p h)
  refine (reads_inside (p := p.next) h fun q hq => ?_).bind fun _ hs => hs
  exact (ih.nodeUnless _ _ q hq).bind fun ⟨_, r⟩ hr => (ih.nodeAfter _ _ _ r hr).bind fun _ hs => hs

theorem flowEntry_succ (ih : Steady fuel) (h : p.Sound) : Reads (Parser.flowEntry (fuel + 1) p) := by
  refine (fails_peek h).bind fun _ => .ite ?_ ?_
  · exact (ih.nodeUnless _ _ p.next h).bind fun ⟨_, q⟩ hq => (ih.nodeAfter _ _ _ q hq).bind fun _ hr => hr
  · exact (ih.node _ p h).bind fun _ hq => hq

theorem flowItems_succ (ih : Steady fuel) (isFirst : Bool) (h : p.Sound) :
    Reads (Parser.flowItems (fuel + 1) isFirst p) := by
  refine (fails_peek h).bind fun _ => .ite h (.ite ?_ ?_)
  · exact reads_elements _ h ih.flowItem (ih.flowItems false)
  · exact (ends_expect h .comma).bind fun _ hq => reads_elements _ hq ih.flowItem (ih.flowItems false)

theorem flowEntries_succ (ih : Steady fuel) (isFirst : Bool) (h : p.Sound) :
    Reads (Parser.flowEntries (fuel + 1) isFirst p) := by
  refine (fails_peek h).bind fun _ => .ite h (.ite ?_ ?_)
  · exact reads_elements _ h ih.flowEntry (ih.flowEntries false)
  · exact (ends_expect h .comma).bind fun _ hq => reads_elements _ hq ih.flowEntry (ih.flowEntries false)

end Steady

theorem steady (fuel : Nat) : Steady fuel := by
  induction fuel with
  | zero =>
    constructor
    all_goals
      intros
      exact refusal_malformed
  | succ fuel ih =>
    exact {
      node := fun place _ h => ih.node_succ place h
      nodeUnless := fun leavesOut place _ h => ih.nodeUnless_succ leavesOut place h
      nodeAfter := fun mark leavesOut place _ h => ih.nodeAfter_succ mark leavesOut place h
      blockItems := fun _ h => ih.blockItems_succ h
      indentless := fun _ h => ih.indentless_succ h
      blockEntries := fun _ h => ih.blockEntries_succ h
      flowItem := fun _ h => ih.flowItem_succ h
      flowItems := fun isFirst _ h => ih.flowItems_succ isFirst h
      flowEntry := fun _ h => ih.flowEntry_succ h
      flowEntries := fun isFirst _ h => ih.flowEntries_succ isFirst h }

theorem ends_directives (hasVersion : Bool) (ts : List Token) (h : p.Sound) :
    Ends Refusal Sound (p.directives hasVersion ts) := by
  fun_induction directives p hasVersion ts with
  | case1 => exact refusal_malformed
  | case2 _ _ _ _ _ ih => exact ih h
  | case3 => exact refusal_malformed
  | case4 _ _ _ _ _ _ ih => exact ih h
  | case5 _ _ _ ih => exact ih h
  | case6 => exact h

theorem reads_content (h : p.Sound) : Reads p.content :=
  (fails_peek h).bind fun _ => .ite h ((steady _).node _ p h)

theorem reads_explicitDocument (h : p.Sound) : Reads p.explicitDocument :=
  (fails_peek h).bind fun _ => (ends_directives _ _ h).bind fun _ hq =>
    (ends_expect hq _).bind fun _ hr => reads_content hr

theorem fails_document (h : p.Sound) : Fails Refusal p.document := by
  refine (fails_peek h).bind fun t => ?_
  have hend (r : Node × Parser) (hr : r.2.Sound) : Fails Refusal (do
      let q := r.2.skipEnds
      if (← q.peek) = .streamEnd then .ok (some r.1) else .error .malformedYaml) :=
    (fails_peek (p := r.2.skipEnds) hr).bind fun _ => .ite trivial refusal_malformed
  split
  · trivial
  · split
    case h_5 => exact ((steady _).node .block { p with handles := standardHandles } h).bind hend
    all_goals exact (reads_explicitDocument h).bind hend

end Parser

theorem fails_parse (calls : Nat) (s : Text) : Fails Refusal (parse calls s) :=
  Parser.fails_document fun _ h => refusal_tokens h

end JobBoards.Yaml
