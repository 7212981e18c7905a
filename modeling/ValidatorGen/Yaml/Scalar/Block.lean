import ValidatorGen.Yaml.Scalar.Basic

/-!
# Reading block scalars

A block scalar stands in lines of its own, all indented alike. In a literal scalar every line break
counts; in a folded one a single line break between two lines that begin with no blank stands for a
space. How the line breaks at the end are treated, and how deep the lines are indented, may be said
in the header.

## Main definitions

* `Chomping` — which line breaks at the end count
* `Cursor.blockScalar` — the block scalar whose header comes next
-/

namespace ValidatorGen.Yaml

/-- Which of the line breaks at the end of a block scalar count. -/
inductive Chomping where
  /-- None. -/
  | strip
  /-- The first. -/
  | clip
  /-- All. -/
  | keep
deriving DecidableEq

/-- What the header of a block scalar says. -/
structure BlockHeader where
  /-- Which line breaks at the end count. -/
  chomping : Chomping
  /-- How many columns deeper than its surroundings the scalar is indented, if that is said. -/
  increment : Option Nat

/-- The chomping that a character asks for. -/
def chompingOf? (c : Char) : Option Chomping :=
  if c = '+' then some .keep else if c = '-' then some .strip else none

/-- The value of the digit that comes next, if one does. -/
def Cursor.digit? (c : Cursor) : Option Nat :=
  (c.rest.head?.filter Char.isDigit).map fun d => d.toNat - '0'.toNat

/-- The indentation asked for next, if any is, and the cursor after it. -/
def Cursor.increment (c : Cursor) (start : Mark) : Except Error (Option Nat × Cursor) :=
  match c.digit? with
  | none => .ok (none, c)
  | some 0 => .error (.within .zeroIndentation c.mark .blockScalar start)
  | some n => .ok (some n, c.advance)

/-- The header of a block scalar after its indicator, and the cursor at the next line. -/
def Cursor.blockHeader (c : Cursor) (start : Mark) : Except Error (BlockHeader × Cursor) := do
  let (header, c) ←
    match c.rest.head?.bind chompingOf? with
    | some chomping => do
      let (increment, c) ← c.advance.increment start
      pure (⟨chomping, increment⟩, c)
    | none => do
      let (increment, c) ← c.increment start
      match increment.bind fun _ => c.rest.head?.bind chompingOf? with
      | some chomping => pure (⟨chomping, increment⟩, c.advance)
      | none => pure (⟨.clip, increment⟩, c)
  let c := c.skipMargin
  if breakNext c.rest then return (header, c.advance)
  else .error (.within .trailingText c.mark .blockScalar start)

/-- The greatest column of the text that is reached through spaces and empty lines, starting with
`widest`. -/
def deepestIndent : Nat → List Char → Mark → Nat
  | widest, c :: rest, m =>
    if c = ' ' then deepestIndent (max widest (m.column + 1)) rest (m.after c)
    else if isBreak c then deepestIndent widest rest (m.after c)
    else widest
  | widest, [], _ => widest

/-- Whether a tab is reached through spaces and empty lines. -/
def tabAmongIndents : List Char → Mark → Option Mark
  | c :: rest, m =>
    if c = ' ' ∨ isBreak c then tabAmongIndents rest (m.after c)
    else if c = '\t' then some m
    else none
  | [], _ => none

/-- The lines of a block scalar. -/
structure BlockLines where
  /-- Whether line breaks count. -/
  literal : Bool
  /-- The column at which the lines begin. -/
  indent : Nat
  /-- The line breaks at the end that count. -/
  chomping : Chomping
  /-- The place where the scalar begins. -/
  start : Mark

/-- What stands between two lines of a block scalar that are not empty. -/
structure LineGap where
  /-- The line break that ends the line before, if there is such a line. -/
  first : Option Char := none
  /-- The line breaks of empty lines. -/
  later : List Char := []
  /-- Whether the line before begins with a blank. -/
  afterBlank : Bool := false

/-- What the gap means before a line that begins with `c`. -/
def BlockLines.gapText (b : BlockLines) (gap : LineGap) (c : Char) : List Char :=
  if !b.literal ∧ gap.first = some '\n' ∧ !gap.afterBlank ∧ !isBlank c then
    if gap.later.isEmpty then [' '] else gap.later
  else gap.first.toList ++ gap.later

/-- What the gap means at the end of the scalar. -/
def BlockLines.tailText (b : BlockLines) (gap : LineGap) : List Char :=
  match b.chomping with
  | .strip => []
  | .clip => gap.first.toList
  | .keep => gap.first.toList ++ gap.later

/-- What is left of a block scalar: after a gap between lines, or on a line that begins with a blank
or not. -/
def blockLinesFrom (b : BlockLines) :
    LineGap ⊕ Bool → List Char → Mark → Except Error (List Char × Cursor)
  | .inl gap, [], m => .ok (b.tailText gap, ⟨[], m⟩)
  | .inl gap, c :: rest, m =>
    if m.column < b.indent ∧ c = ' ' then blockLinesFrom b (.inl gap) rest (m.after c)
    else if m.column < b.indent ∧ c = '\t' then
      .error (.within .tabInIndentation m .blockScalar b.start)
    else if isBreak c then
      blockLinesFrom b (.inl { gap with later := gap.later ++ [c] }) rest (m.after c)
    else if m.column = b.indent then
      prepend (b.gapText gap c ++ [c]) (blockLinesFrom b (.inr (isBlank c)) rest (m.after c))
    else .ok (b.tailText gap, ⟨c :: rest, m⟩)
  | .inr blank, [], m => .ok (b.tailText ⟨none, [], blank⟩, ⟨[], m⟩)
  | .inr blank, c :: rest, m =>
    if isBreak c then blockLinesFrom b (.inl ⟨some c, [], blank⟩) rest (m.after c)
    else prepend [c] (blockLinesFrom b (.inr blank) rest (m.after c))

/-- The block scalar whose header comes next; what surrounds it is indented by `outer` columns, if
by any. -/
def Cursor.blockScalar (c : Cursor) (literal : Bool) (outer : Option Nat) :
    Except Error (List Char × Cursor) := do
  let start := c.mark
  let (header, c) ← c.advance.blockHeader start
  match header.increment with
  | some n =>
    blockLinesFrom ⟨literal, outer.getD 0 + n, header.chomping, start⟩ (.inl {}) c.rest c.mark
  | none =>
    match tabAmongIndents c.rest c.mark with
    | some m => .error (.within .tabInIndentation m .blockScalar start)
    | none =>
      let least := match outer with | some n => n + 1 | none => 1
      let indent := max (deepestIndent c.mark.column c.rest c.mark) least
      blockLinesFrom ⟨literal, indent, header.chomping, start⟩ (.inl {}) c.rest c.mark

end ValidatorGen.Yaml
