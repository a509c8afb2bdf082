import JobBoards.Yaml.Token.Scan
namespace JobBoards.Yaml

inductive Kind where
  | plain
  | named (name : Text)
  deriving DecidableEq, Repr

inductive Node where
  | scalar (kind : Kind) (s : Text)
  | sequence (kind : Kind) (items : List Node)
  | mapping (kind : Kind) (entries : List (Node × Node))
  | again (isMap : Bool)
  deriving Repr

namespace Node

def standard (name : String) : Kind := .named ("tag:yaml.org,2002:".toList ++ name.toList)

def absent : Node := .scalar .plain []

end Node

/-- A name given to a node: the node itself once it is finished, and before that what it will be. -/
inductive Anchor where
  | finished (node : Node)
  | unfinished (isMap : Bool)

/-- The tokens still to be read, the fault after the last of them, what has been declared, and how many calls inside
each other there is room for. -/
structure Parser where
  tokens : List Token
  fault : Option Fault
  handles : List (Text × Text)
  anchors : List (Text × Anchor)
  calls : Nat

namespace Parser

def standardHandles : List (Text × Text) := [("!", "!"), ("!!", "tag:yaml.org,2002:")]

def peek (p : Parser) : Except Fault Token :=
  match p.tokens with
  | t :: _ => .ok t
  | [] => .error (p.fault.getD .malformedYaml)

def next (p : Parser) : Parser := { p with tokens := p.tokens.drop 1 }

def expect (p : Parser) (t : Token) : Except Fault Parser := do
  if (← p.peek) = t then .ok p.next else .error .malformedYaml

def anchored (p : Parser) (name : Option Text) (a : Anchor) : Parser :=
  match name with
  | none => p
  | some n => { p with anchors := (n, a) :: p.anchors }

structure Properties where
  anchor : Option Text
  kind : Option Text

def kindOf (p : Parser) (handle : Option Text) (suffix : Text) : Except Fault Text :=
  match handle with
  | none => .ok suffix
  | some h =>
      match p.handles.lookup h with
      | some start => .ok (start ++ suffix)
      | none => .error .malformedYaml

def properties (p : Parser) : Except Fault (Properties × Parser) := do
  match ← p.peek with
  | .anchor name =>
      let p := p.next
      match ← p.peek with
      | .tag handle suffix => .ok (⟨some name, some (← p.kindOf handle suffix)⟩, p.next)
      | _ => .ok (⟨some name, none⟩, p)
  | .tag handle suffix =>
      let q := p.next
      match ← q.peek with
      | .anchor name => .ok (⟨some name, some (← p.kindOf handle suffix)⟩, q.next)
      | _ => .ok (⟨none, some (← p.kindOf handle suffix)⟩, q)
  | _ => .ok (⟨none, none⟩, p)

def scalarKind (kind : Option Text) (isPlain : Bool) : Kind :=
  match kind with
  | none => if isPlain then .plain else Node.standard "str"
  | some k => if k = ['!'] then .plain else .named k

def collectionKind (kind : Option Text) (name : String) : Kind :=
  match kind with
  | none => Node.standard name
  | some k => if k = ['!'] then Node.standard name else .named k

def isFree (p : Parser) (name : Option Text) : Bool := name.all fun n => (p.anchors.lookup n).isNone

abbrev Read := Except Fault (Node × Parser)

/-- Reads what stands inside a collection, which takes two calls. -/
def inside (p : Parser) {α : Type} (read : Parser → Except Fault (α × Parser)) : Except Fault (α × Parser) := do
  if p.calls < 2 then .error (.callsTooDeep [])
  else
    let (content, q) ← read { p with calls := p.calls - 2 }
    .ok (content, { q with calls := p.calls })

def collection (p : Parser) (name : Option Text) (isMap : Bool) {α : Type} (build : α → Node)
    (read : Parser → Except Fault (α × Parser)) : Read := do
  let (content, q) ← (p.anchored name (.unfinished isMap)).inside read
  let node := build content
  .ok (node, q.anchored name (.finished node))

def endsBlockPart : Token → Bool
  | .key | .value | .blockEnd => true
  | _ => false

def endsIndentlessPart : Token → Bool
  | .entry | .key | .value | .blockEnd => true
  | _ => false

def endsFlowItem : Token → Bool
  | .comma | .flowSequenceEnd => true
  | _ => false

def endsFlowPart : Token → Bool
  | .comma | .flowMappingEnd => true
  | _ => false

inductive Place where
  | block | blockOrIndentless | flow
  deriving DecidableEq, Repr

mutual

/-- A node; `fuel` bounds the number of steps and is never used up by a list of that many tokens. -/
def node : Nat → Place → Parser → Read
  | 0, _, _ => .error .malformedYaml
  | fuel + 1, place, p => do
      match ← p.peek with
      | .alias name =>
          match p.anchors.lookup name with
          | some (.finished node) => .ok (node, p.next)
          | some (.unfinished isMap) => .ok (.again isMap, p.next)
          | none => .error .malformedYaml
      | _ =>
          let (props, p) ← p.properties
          let sequence := Node.sequence (collectionKind props.kind "seq")
          let mapping := Node.mapping (collectionKind props.kind "map")
          let t ← p.peek
          if !p.isFree props.anchor then .error .malformedYaml
          else if place = .blockOrIndentless ∧ t = .entry then
            p.collection props.anchor false sequence (indentless fuel)
          else
            match t with
            | .scalar s isPlain =>
                let node := Node.scalar (scalarKind props.kind isPlain) s
                .ok (node, p.next.anchored props.anchor (.finished node))
            | .flowSequence => p.next.collection props.anchor false sequence (flowItems fuel true)
            | .flowMapping => p.next.collection props.anchor true mapping (flowEntries fuel true)
            | t =>
                if t = .blockSequence ∧ place ≠ .flow then
                  p.next.collection props.anchor false sequence (blockItems fuel)
                else if t = .blockMapping ∧ place ≠ .flow then
                  p.next.collection props.anchor true mapping (blockEntries fuel)
                else if props.anchor.isSome || props.kind.isSome then
                  let node := Node.scalar (scalarKind props.kind true) []
                  .ok (node, p.anchored props.anchor (.finished node))
                else .error .malformedYaml

def nodeUnless : Nat → (Token → Bool) → Place → Parser → Read
  | 0, _, _, _ => .error .malformedYaml
  | fuel + 1, leavesOut, place, p => do
      if leavesOut (← p.peek) then .ok (.absent, p) else node fuel place p

def nodeAfter : Nat → Token → (Token → Bool) → Place → Parser → Read
  | 0, _, _, _, _ => .error .malformedYaml
  | fuel + 1, mark, leavesOut, place, p => do
      if (← p.peek) = mark then nodeUnless fuel leavesOut place p.next else .ok (.absent, p)

def blockItems : Nat → Parser → Except Fault (List Node × Parser)
  | 0, _ => .error .malformedYaml
  | fuel + 1, p => do
      if (← p.peek) = .entry then
        let (item, p) ← nodeUnless fuel (fun t => t == .entry || t == .blockEnd) .block p.next
        let (items, p) ← blockItems fuel p
        .ok (item :: items, p)
      else .ok ([], ← p.expect .blockEnd)

def indentless : Nat → Parser → Except Fault (List Node × Parser)
  | 0, _ => .error .malformedYaml
  | fuel + 1, p => do
      if (← p.peek) = .entry then
        let (item, p) ← nodeUnless fuel endsIndentlessPart .block p.next
        let (items, p) ← indentless fuel p
        .ok (item :: items, p)
      else .ok ([], p)

def blockEntries : Nat → Parser → Except Fault (List (Node × Node) × Parser)
  | 0, _ => .error .malformedYaml
  | fuel + 1, p => do
      if (← p.peek) = .key then
        let (key, p) ← nodeUnless fuel endsBlockPart .blockOrIndentless p.next
        let (value, p) ← nodeAfter fuel .value endsBlockPart .blockOrIndentless p
        let (entries, p) ← blockEntries fuel p
        .ok ((key, value) :: entries, p)
      else .ok ([], ← p.expect .blockEnd)

/-- A pair in a flow sequence is a mapping of its own. -/
def flowItem : Nat → Parser → Read
  | 0, _ => .error .malformedYaml
  | fuel + 1, p => do
      if (← p.peek) = .key then
        let (entry, p) ← p.next.inside fun p => do
          let (key, p) ← nodeUnless fuel (fun t => t == .value || endsFlowItem t) .flow p
          let (value, p) ← nodeAfter fuel .value endsFlowItem .flow p
          .ok ((key, value), p)
        .ok (.mapping (Node.standard "map") [entry], p)
      else node fuel .flow p

def flowItems : Nat → Bool → Parser → Except Fault (List Node × Parser)
  | 0, _, _ => .error .malformedYaml
  | fuel + 1, isFirst, p => do
      if (← p.peek) = .flowSequenceEnd then .ok ([], p.next)
      else
        let p ← if isFirst then .ok p else p.expect .comma
        if (← p.peek) = .flowSequenceEnd then .ok ([], p.next)
        else
          let (item, p) ← flowItem fuel p
          let (items, p) ← flowItems fuel false p
          .ok (item :: items, p)

def flowEntry : Nat → Parser → Except Fault ((Node × Node) × Parser)
  | 0, _ => .error .malformedYaml
  | fuel + 1, p => do
      if (← p.peek) = .key then
        let (key, p) ← nodeUnless fuel (fun t => t == .value || endsFlowPart t) .flow p.next
        let (value, p) ← nodeAfter fuel .value endsFlowPart .flow p
        .ok ((key, value), p)
      else
        let (key, p) ← node fuel .flow p
        .ok ((key, .absent), p)

def flowEntries : Nat → Bool → Parser → Except Fault (List (Node × Node) × Parser)
  | 0, _, _ => .error .malformedYaml
  | fuel + 1, isFirst, p => do
      if (← p.peek) = .flowMappingEnd then .ok ([], p.next)
      else
        let p ← if isFirst then .ok p else p.expect .comma
        if (← p.peek) = .flowMappingEnd then .ok ([], p.next)
        else
          let (entry, p) ← flowEntry fuel p
          let (entries, p) ← flowEntries fuel false p
          .ok (entry :: entries, p)

end

def directives (p : Parser) (hasVersion : Bool) : List Token → Except Fault Parser
  | .version major :: ts =>
      if hasVersion ∨ major ≠ 1 then .error .malformedYaml
      else { p with tokens := ts }.directives true ts
  | .tagHandle handle start :: ts =>
      if (p.handles.lookup handle).isSome then .error .malformedYaml
      else { p with tokens := ts, handles := (handle, start) :: p.handles }.directives hasVersion ts
  | .reserved :: ts => { p with tokens := ts }.directives hasVersion ts
  | ts => .ok { p with tokens := ts, handles := p.handles ++ standardHandles }

def skipEnds (p : Parser) : Parser := { p with tokens := p.tokens.dropWhile (· == .documentEnd) }

def isDocumentMark : Token → Bool
  | .version _ | .tagHandle _ _ | .reserved | .documentStart | .documentEnd | .streamEnd => true
  | _ => false

def content (p : Parser) : Read := do
  if isDocumentMark (← p.peek) then .ok (.absent, p) else node (8 * p.tokens.length + 8) .block p

def explicitDocument (p : Parser) : Read := do
  let _ ← p.peek
  let p ← p.directives false p.tokens
  (← p.expect .documentStart).content

def document (p : Parser) : Except Fault (Option Node) := do
  match ← p.peek with
  | .streamEnd => .ok none
  | t =>
      let (node, p) ←
        match t with
        | .version _ | .tagHandle _ _ | .reserved | .documentStart => p.explicitDocument
        | _ => node (8 * p.tokens.length + 8) .block { p with handles := standardHandles }
      let p := p.skipEnds
      if (← p.peek) = .streamEnd then .ok (some node) else .error .malformedYaml

end Parser

def parse (calls : Nat) (s : Text) : Except Fault (Option Node) :=
  let (tokens, fault) := tokens s
  Parser.document ⟨tokens, fault, [], [], calls⟩

end JobBoards.Yaml
