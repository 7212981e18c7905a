import ValidatorGen.Yaml.Error
import ValidatorGen.Yaml.Scalar.Gap

/-!
# Reading plain scalars

A plain scalar stands without quotes. It ends before a comment, before a colon that is followed by a
blank, before a line that is indented too little, and inside brackets before anything that separates
or encloses.

## Main definitions

* `Plain` — a plain scalar and what follows it
* `Cursor.plain` — the plain scalar that comes next
-/

namespace ValidatorGen.Yaml

/-- A plain scalar and what follows it. -/
structure Plain where
  /-- The text that the scalar stands for. -/
  text : List Char
  /-- What follows, after blanks and line breaks. -/
  rest : Cursor
  /-- Whether there is a line break before what follows. -/
  crossed : Bool

/-- The scalar with characters put before it. -/
def Plain.after (before : List Char) (p : Plain) : Plain := { p with text := before ++ p.text }

/-- Where a plain scalar stands. -/
structure PlainSetting where
  /-- Whether it stands inside brackets. -/
  inFlow : Bool
  /-- The least column at which a line may go on, outside brackets. -/
  indent : Nat
  /-- The place where the scalar begins. -/
  start : Mark

/-- Whether a character ends a plain scalar inside brackets. -/
def endsFlowWord (c : Char) : Bool := c ∈ [',', '[', ']', '\x7b', '\x7d']

/-- Whether a character after a colon inside brackets makes the colon an error. -/
def clashesWithColon (c : Char) : Bool := c = '?' || endsFlowWord c

/-- Whether the scalar ends before the character `c` at `m`, when it comes after a gap. -/
def PlainSetting.endsAfter (s : PlainSetting) (gap : Gap) (c : Char) (rest : List Char)
    (m : Mark) : Bool :=
  gap ≠ .empty &&
    ((!s.inFlow && m.column < s.indent) || atDocumentMarker m (c :: rest) || c = '#')

/-- Whether the scalar ends before the character `c` wherever it comes. -/
def PlainSetting.endsBefore (s : PlainSetting) (c : Char) (rest : List Char) : Bool :=
  (c = ':' && blankNext rest) || (s.inFlow && endsFlowWord c)

/-- What is left of a plain scalar after a gap. -/
def plainFrom (s : PlainSetting) : Gap → List Char → Mark → Except Error Plain
  | gap, [], m => .ok ⟨[], ⟨[], m⟩, gap.crosses⟩
  | gap, c :: rest, m =>
    if isBlank c then
      if gap.crosses ∧ m.column < s.indent ∧ c = '\t' then
        .error (.within .tabBeforeText m .plainScalar s.start)
      else plainFrom s (gap.blank c) rest (m.after c)
    else if isBreak c then plainFrom s (gap.lineBreak c) rest (m.after c)
    else if s.endsAfter gap c rest m then .ok ⟨[], ⟨c :: rest, m⟩, gap.crosses⟩
    else if s.inFlow ∧ c = ':' ∧ rest.head?.any clashesWithColon then
      .error (.within .unexpectedColon m .plainScalar s.start)
    else if s.endsBefore c rest then .ok ⟨[], ⟨c :: rest, m⟩, gap.crosses⟩
    else (plainFrom s .empty rest (m.after c)).map (Plain.after (gap.text ++ [c]))

/-- The plain scalar that comes next. -/
def Cursor.plain (c : Cursor) (inFlow : Bool) (indent : Nat) : Except Error Plain :=
  plainFrom ⟨inFlow, indent, c.mark⟩ .empty c.rest c.mark

end ValidatorGen.Yaml
