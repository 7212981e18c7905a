import ValidatorGen.Text.Hexadecimal
import ValidatorGen.Yaml.Scalar.Basic
import ValidatorGen.Yaml.Scalar.Gap

/-!
# Reading quoted scalars

Between single quotes only the quote itself is special: it is written twice. Between double quotes a
backslash begins an escape.

## Main definitions

* `escapeLetters` — the escapes that stand for one character
* `Cursor.singleQuoted`, `Cursor.doubleQuoted` — the scalar whose opening quote comes next
-/

namespace ValidatorGen.Yaml

/-- What is left of a single-quoted scalar that began at `start`. After the first quote of a pair
the next character is passed over. -/
def singleQuotedFrom (start : Mark) :
    Bool → Gap → List Char → Mark → Except Error (List Char × Cursor)
  | _, _, [], m => .error (.within .unexpectedEnd m .quotedScalar start)
  | true, gap, c :: rest, m => singleQuotedFrom start false gap rest (m.after c)
  | false, gap, c :: rest, m =>
    if atDocumentMarker m (c :: rest) then
      .error (.within .documentMarker m .quotedScalar start)
    else if isBlank c then singleQuotedFrom start false (gap.blank c) rest (m.after c)
    else if isBreak c then singleQuotedFrom start false (gap.lineBreak c) rest (m.after c)
    else if c = '\x27' then
      if rest.head? = some '\x27' then
        prepend (gap.text ++ [c]) (singleQuotedFrom start true .empty rest (m.after c))
      else .ok (gap.text, ⟨rest, m.after c⟩)
    else prepend (gap.text ++ [c]) (singleQuotedFrom start false .empty rest (m.after c))

/-- The single-quoted scalar whose opening quote comes next. -/
def Cursor.singleQuoted (c : Cursor) : Except Error (List Char × Cursor) :=
  singleQuotedFrom c.mark false .empty c.advance.rest c.advance.mark

/-- The characters that stand for one character after a backslash, each with that character. -/
def escapeLetters : List (Char × Char) :=
  [('0', '\x00'), ('a', '\x07'), ('b', '\x08'), ('t', '\t'), ('\t', '\t'), ('n', '\n'),
    ('v', '\x0b'), ('f', '\x0c'), ('r', '\r'), ('e', '\x1b'), (' ', ' '), ('"', '"'), ('/', '/'),
    ('\\', '\\'), ('N', '\u0085'), ('_', '\u00a0'), ('L', '\u2028'), ('P', '\u2029')]

/-- The number of digits after a letter that announces the number of a character. -/
def escapeDigits? (c : Char) : Option Nat :=
  if c = 'x' then some 2 else if c = 'u' then some 4 else if c = 'U' then some 8 else none

/-- What an escape stands for. -/
inductive Escape where
  /-- A line break that means nothing. -/
  | lineBreak
  /-- A character, given by so many characters after the backslash. -/
  | char (c : Char) (length : Nat)

/-- The escape that begins with a backslash at `m`, when `rest` comes after the backslash. -/
def escape (start : Mark) (rest : List Char) (m : Mark) : Except Error Escape :=
  match rest with
  | [] => .error (.within .unknownEscape m .quotedEscape start)
  | letter :: digits =>
    if isBreak letter then .ok .lineBreak
    else
      match escapeDigits? letter with
      | some count =>
        match Text.hexNumber? (digits.take count) with
        | some n =>
          if digits.length < count then
            .error (.within .noHexDigits (m.right 2) .quotedEscape start)
          else if n.isValidChar then .ok (.char (Char.ofNat n) (count + 1))
          else .error (.within .badEscapeCode (m.right 2) .quotedEscape start)
        | none => .error (.within .noHexDigits (m.right 2) .quotedEscape start)
      | none =>
        match escapeLetters.lookup letter with
        | some c => .ok (.char c 1)
        | none => .error (.within .unknownEscape m .quotedEscape start)

/-- What is left of a double-quoted scalar that began at `start`, after `skip` characters that
belong to an escape. -/
def doubleQuotedFrom (start : Mark) :
    Nat → Gap → List Char → Mark → Except Error (List Char × Cursor)
  | _, _, [], m => .error (.within .unexpectedEnd m .quotedScalar start)
  | skip + 1, gap, c :: rest, m => doubleQuotedFrom start skip gap rest (m.after c)
  | 0, gap, c :: rest, m =>
    if atDocumentMarker m (c :: rest) then
      .error (.within .documentMarker m .quotedScalar start)
    else if isBlank c then doubleQuotedFrom start 0 (gap.blank c) rest (m.after c)
    else if isBreak c then doubleQuotedFrom start 0 (gap.lineBreak c) rest (m.after c)
    else if c = '"' then .ok (gap.text, ⟨rest, m.after c⟩)
    else if c = '\\' then
      match escape start rest m with
      | .error e => .error e
      | .ok .lineBreak =>
        prepend gap.text (doubleQuotedFrom start 1 (.across none []) rest (m.after c))
      | .ok (.char x length) =>
        prepend (gap.text ++ [x]) (doubleQuotedFrom start length .empty rest (m.after c))
    else prepend (gap.text ++ [c]) (doubleQuotedFrom start 0 .empty rest (m.after c))

/-- The double-quoted scalar whose opening quote comes next. -/
def Cursor.doubleQuoted (c : Cursor) : Except Error (List Char × Cursor) :=
  doubleQuotedFrom c.mark 0 .empty c.advance.rest c.advance.mark

end ValidatorGen.Yaml
