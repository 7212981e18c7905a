import ValidatorGen.Yaml.Tokens

/-!
# The structure of a YAML document

The structure is given step by step: scalars, references, and the beginnings and ends of sequences
and mappings. The steps before an error are kept, so that a document that goes wrong late can still
be looked at from its beginning.

## Main definitions

* `Step.Kind`, `Step` — one step through a document
* `Reading` — reads tokens, and says what steps they make
* `node` — the node that comes next
* `firstDocument` — the first document of a text
-/

namespace ValidatorGen.Yaml

/-- One step through a document. References are of type `ρ`. -/
inductive Step.Kind (ρ : Type) where
  /-- The node to which a reference leads. -/
  | reference (target : ρ)
  /-- A scalar, with its anchor and the octets of its tag. -/
  | scalar (anchor : Option (List Char)) (tag : Option (List UInt8)) (style : Style)
      (text : String)
  /-- The beginning of a sequence. -/
  | sequence (anchor : Option (List Char))
  /-- The end of a sequence. -/
  | sequenceEnd
  /-- The beginning of a mapping. -/
  | mapping (anchor : Option (List Char))
  /-- The end of a mapping. -/
  | mappingEnd

/-- One step through a document, and where it stands in the text. -/
structure Step (ρ : Type) where
  /-- The step. -/
  kind : Step.Kind ρ
  /-- The place where it begins. -/
  mark : Mark

/-- What has been read, and what is still to be read. -/
structure Progress where
  /-- What is still to be read. -/
  tokens : Tokens
  /-- The meanings of tag handles. -/
  handles : List (List Char × List UInt8) := []
  /-- The steps so far, the last one first. -/
  steps : List (Step (List Char)) := []

/-- Reads tokens, and says what steps they make. The steps before an error are kept. -/
abbrev Reading := ExceptT Error (StateM Progress)

namespace Reading

/-- What comes next: a token, or the end of the text. -/
structure Ahead where
  /-- What the token is, if there is one. -/
  kind : Option Token.Kind
  /-- Where it begins. -/
  start : Mark
  /-- Where the text goes on after it. -/
  stop : Mark

/-- What comes next. -/
def look : Reading Ahead := do
  match (← get).tokens with
  | ⟨t :: _, _⟩ => return ⟨some t.kind, t.start, t.stop⟩
  | ⟨[], .ok m⟩ => return ⟨none, m, m⟩
  | ⟨[], .error e⟩ => throw e

/-- Passes over the next token. -/
def advance : Reading Unit :=
  modify fun p => { p with tokens := { p.tokens with list := p.tokens.list.tail } }

/-- Makes a step. -/
def step (kind : Step.Kind (List Char)) (mark : Mark) : Reading Unit :=
  modify fun p => { p with steps := ⟨kind, mark⟩ :: p.steps }

/-- Makes the step of a scalar that is not there. -/
def absent (mark : Mark) : Reading Unit := step (.scalar none none .plain "") mark

/-- Fails because of what comes next, in the middle of something that began at `start`. -/
def refuse {α : Type} (problem : Problem) (context : Context) (start : Mark) : Reading α := do
  throw (.within problem (← look).start context start)

end Reading

open Reading

/-- What is said of a node before the node itself. -/
structure Properties where
  /-- Its name. -/
  anchor : Option (List Char) := none
  /-- Its type, and where that stands. -/
  tag : Option (Tag × Mark) := none

/-- What is said of the next node. -/
def properties : Reading Properties := do
  let first ← look
  match first.kind with
  | some (.anchor name) =>
    advance
    let second ← look
    match second.kind with
    | some (.tag tag) => advance; return ⟨name, (tag, second.start)⟩
    | _ => return ⟨name, none⟩
  | some (.tag tag) =>
    advance
    let second ← look
    match second.kind with
    | some (.anchor name) => advance; return ⟨name, (tag, first.start)⟩
    | _ => return ⟨none, (tag, first.start)⟩
  | _ => return {}

/-- The octets of a tag, the handle replaced by its meaning. -/
def fullTag (tag : Tag) (mark start : Mark) : Reading (List UInt8) := do
  if tag.handle.isEmpty then return tag.suffix
  else
    match (← get).handles.lookup tag.handle with
    | some meaning => return meaning ++ tag.suffix
    | none => throw (.within .unknownHandle mark .node start)

/-- The tag that says only that a scalar is to be taken as if it had none. -/
def bareTag : List UInt8 := Text.encode "!"

mutual

/-- Reads the node that comes next. A sequence as the value of a mapping may stand at the column of
its key; then no token announces it. -/
def node : Nat → Bool → Bool → Reading Unit
  | 0, _, _ => return ()
  | fuel + 1, inBlock, inMapping => do
    let first ← look
    match first.kind with
    | some (.reference name) => advance; step (.reference name) first.start
    | _ =>
      let p ← properties
      let tag ← p.tag.mapM fun (tag, mark) => fullTag tag mark first.start
      let next ← look
      match next.kind, inBlock, inMapping with
      | some .entry, _, true => step (.sequence p.anchor) first.start; openEntries fuel
      | some (.scalar style text), _, _ =>
        advance
        let tag := if tag = some bareTag then none else tag
        step (.scalar p.anchor tag style (.ofList text)) first.start
      | some .openSequence, _, _ =>
        step (.sequence p.anchor) first.start
        advance
        flowItems fuel true next.start
      | some .openMapping, _, _ =>
        step (.mapping p.anchor) first.start
        advance
        flowPairs fuel true next.start
      | some .blockSequence, true, _ =>
        step (.sequence p.anchor) first.start
        advance
        blockEntries fuel next.start
      | some .blockMapping, true, _ =>
        step (.mapping p.anchor) first.start
        advance
        blockPairs fuel next.start
      | _, _, _ =>
        if p.anchor.isSome || tag.isSome then
          step (.scalar p.anchor tag .plain "") first.start
        else refuse .noNode (if inBlock then .blockNode else .flowNode) first.start

/-- Reads the items of a sequence that no token announces. -/
def openEntries : Nat → Reading Unit
  | 0 => return ()
  | fuel + 1 => do
    let t ← look
    if t.kind = some .entry then
      advance
      let next ← look
      if next.kind ∈ [some .entry, some .key, some .value, some .blockEnd] then absent t.stop
      else node fuel true false
      openEntries fuel
    else step .sequenceEnd t.start

/-- Reads the items of a sequence that is laid out in lines. -/
def blockEntries : Nat → Mark → Reading Unit
  | 0, _ => return ()
  | fuel + 1, start => do
    let t ← look
    if t.kind = some .entry then
      advance
      let next ← look
      if next.kind ∈ [some .entry, some .blockEnd] then absent t.stop
      else node fuel true false
      blockEntries fuel start
    else if t.kind = some .blockEnd then
      step .sequenceEnd t.start
      advance
    else refuse .noEntry .blockSequence start

/-- Reads the pairs of a mapping that is laid out in lines. -/
def blockPairs : Nat → Mark → Reading Unit
  | 0, _ => return ()
  | fuel + 1, start => do
    let t ← look
    if t.kind = some .key then
      advance
      let next ← look
      if next.kind ∈ [some .key, some .value, some .blockEnd] then absent t.stop
      else node fuel true true
      let t ← look
      if t.kind = some .value then
        advance
        let next ← look
        if next.kind ∈ [some .key, some .value, some .blockEnd] then absent t.stop
        else node fuel true true
      else absent t.start
      blockPairs fuel start
    else if t.kind = some .blockEnd then
      step .mappingEnd t.start
      advance
    else refuse .noKey .blockMapping start

/-- Reads the items of a sequence in brackets. An item may be a mapping with a single pair. -/
def flowItems : Nat → Bool → Mark → Reading Unit
  | 0, _, _ => return ()
  | fuel + 1, isFirst, start => do
    let t ← look
    if !isFirst && t.kind ≠ some .closeSequence then
      if t.kind = some .comma then advance
      else refuse .noSequenceEnd .flowSequence start
    let t ← look
    match t.kind with
    | some .closeSequence => step .sequenceEnd t.start; advance
    | some .key =>
      step (.mapping none) t.start
      advance
      let k ← look
      if k.kind ∈ [some .value, some .comma, some .closeSequence] then advance; absent k.stop
      else node fuel false false
      let v ← look
      if v.kind = some .value then
        advance
        let next ← look
        if next.kind ∈ [some .comma, some .closeSequence] then absent next.start
        else node fuel false false
      else absent v.start
      let last ← look
      step .mappingEnd last.start
      flowItems fuel false start
    | _ => node fuel false false; flowItems fuel false start

/-- Reads the pairs of a mapping in braces. -/
def flowPairs : Nat → Bool → Mark → Reading Unit
  | 0, _, _ => return ()
  | fuel + 1, isFirst, start => do
    let t ← look
    if !isFirst && t.kind ≠ some .closeMapping then
      if t.kind = some .comma then advance
      else refuse .noMappingEnd .flowMapping start
    let t ← look
    match t.kind with
    | some .closeMapping => step .mappingEnd t.start; advance
    | some .key =>
      advance
      let k ← look
      if k.kind ∈ [some .value, some .comma, some .closeMapping] then absent k.start
      else node fuel false false
      let v ← look
      if v.kind = some .value then
        advance
        let next ← look
        if next.kind ∈ [some .comma, some .closeMapping] then absent next.start
        else node fuel false false
      else absent v.start
      flowPairs fuel false start
    | _ =>
      node fuel false false
      absent (← look).start
      flowPairs fuel false start

end

/-- The handles that need no directive, with their meanings. -/
def defaultHandles : List (List Char × List UInt8) :=
  [(['!'], Text.encode "!"), (['!', '!'], Text.encode "tag:yaml.org,2002:")]

/-- Reads the directives before a document, at most `fuel` of them. -/
def directives : Nat → Bool → List (List Char × List UInt8) → Reading Unit
  | 0, _, _ => return ()
  | fuel + 1, versionSeen, handles => do
    let t ← look
    match t.kind with
    | some (.version major minor) =>
      if versionSeen then throw (.text .repeatedVersion t.start)
      if major ≠ 1 || !(minor = 1 || minor = 2) then throw (.text .badVersion t.start)
      advance
      directives fuel true handles
    | some (.handle name meaning) =>
      if (handles.lookup name).isSome then throw (.text .repeatedHandle t.start)
      advance
      directives fuel versionSeen (handles ++ [(name, meaning)])
    | _ => modify fun p => { p with handles := handles ++ defaultHandles }

/-- Reads the first document of a text, if there is one. Neither its directives nor the marker
before it need be there. -/
def firstDocument (fuel : Nat) : Reading Unit := do
  let t ← look
  match t.kind with
  | none => return ()
  | some (.version ..) | some (.handle ..) | some .documentStart =>
    directives fuel false []
    let t ← look
    if t.kind = some .documentStart then advance
    else throw (.text .noDocumentStart t.start)
    let t ← look
    match t.kind with
    | none | some (.version ..) | some (.handle ..) | some .documentStart | some .documentEnd =>
      absent t.start
    | _ => node fuel true false
  | some _ =>
    directives fuel false []
    node fuel true false
  if (← look).kind = some .documentEnd then advance

/-- Whether something comes after the first document, markers of its end apart. -/
def hasFurther : Nat → Reading Bool
  | 0 => return true
  | fuel + 1 => do
    match (← look).kind with
    | none => return false
    | some .documentEnd => advance; hasFurther fuel
    | some _ => return true

end ValidatorGen.Yaml
