import ValidatorGen.Json.Cursor
import ValidatorGen.Text.Hexadecimal

/-!
# Reading JSON strings

A string ends at the first quote that is not escaped. An escape by code point gives a UTF-16 unit;
a character beyond the first plane takes two of them. Bytes that form no character are noticed only
when the string has ended, so that any other fault in it comes first; they are then looked for in
the text read, and their place is reckoned back from the end of the string as if it had been written
without escapes.

## Main definitions

* `Cursor.string` — the text of the string that has been opened
* `Cursor.skipString` — the end of the string that has been opened, whatever its escapes mean
-/

namespace ValidatorGen.Json

open Text

/-- The position `count` bytes further, or the end of the text if there are fewer. -/
def positionAfter : Nat → List Symbol → Position → Except Position Position
  | 0, _, p => .ok p
  | _, [], p => .error p
  | count, s :: rest, p =>
    if s.size ≤ count then positionAfter (count - s.size) rest (p.after s)
    else .ok ⟨p.line, p.column + count⟩

/-- The four hexadecimal digits that come next, if there are four. -/
def Cursor.hexDigits? (c : Cursor) : Option Nat :=
  match c.rest.take 4 |>.map fun s => s.char?.bind hexValue? with
  | [some a, some b, some d, some e] => some (((a * 16 + b) * 16 + d) * 16 + e)
  | _ => none

/-- The UTF-16 unit given by the next four digits, and the cursor after them. -/
def Cursor.unit (c : Cursor) : Except Error (Nat × Cursor) :=
  match c.hexDigits? with
  | some n => .ok (n, c.advance.advance.advance.advance)
  | none =>
    match positionAfter 4 c.rest c.position with
    | .ok p => .error ⟨.invalidEscape, p⟩
    | .error p => .error ⟨.endInString, p⟩

/-- The cursor after the character that must come next between two UTF-16 units. -/
def Cursor.joint (c : Cursor) (joint : Char) : Except Error Cursor :=
  if c.rest.isEmpty then c.fail .endInString
  else if c.peek? = some joint then .ok c.advance
  else c.failAhead .unfinishedSurrogates

/-- The character given by one or two UTF-16 units, and the cursor after them. -/
def Cursor.codePoint (c : Cursor) : Except Error (Char × Cursor) := do
  let (first, c) ← c.unit
  if 0xdc00 ≤ first ∧ first ≤ 0xdfff then c.fail .loneSurrogate
  else if 0xd800 ≤ first ∧ first ≤ 0xdbff then
    let c ← c.joint '\\'
    let c ← c.joint 'u'
    let (second, c) ← c.unit
    if 0xdc00 ≤ second ∧ second ≤ 0xdfff then
      return (Char.ofNat ((first - 0xd800) * 0x400 + (second - 0xdc00) + 0x10000), c)
    else c.fail .loneSurrogate
  else return (Char.ofNat first, c)

/-- The character that a letter after a backslash stands for. -/
def escapeMeaning? (c : Char) : Option Char :=
  if c = '"' ∨ c = '\\' ∨ c = '/' then some c
  else if c = 'b' then some (Char.ofNat 0x8)
  else if c = 'f' then some (Char.ofNat 0xc)
  else if c = 'n' then some '\n'
  else if c = 'r' then some '\r'
  else if c = 't' then some '\t'
  else none

/-- The character of an escape whose backslash has been read, and the cursor after it. -/
def Cursor.escaped (c : Cursor) : Except Error (Char × Cursor) :=
  if c.rest.isEmpty then c.fail .endInString
  else if c.peek? = some 'u' then c.advance.codePoint
  else
    match c.peek?.bind escapeMeaning? with
    | some meaning => .ok (meaning, c.advance)
    | none => c.failAhead .invalidEscape

/-- What has been read of a string. -/
structure StringProgress where
  /-- The characters, the last one first. -/
  read : List Char := []
  /-- The number of bytes of text from the first that forms no character on, if there is one. -/
  stray : Option Nat := none

/-- The progress after one more character. -/
def StringProgress.push (s : StringProgress) (c : Char) : StringProgress :=
  ⟨c :: s.read, s.stray.map (· + c.utf8Size)⟩

/-- The progress after bytes that form no character. -/
def StringProgress.pushStray (s : StringProgress) (bytes : List UInt8) : StringProgress :=
  ⟨s.read, some (s.stray.getD 0 + bytes.length)⟩

/-- The text that has been read when the string ends before `c`. -/
def StringProgress.finish (s : StringProgress) (c : Cursor) : Except Error (String × Cursor) :=
  match s.stray with
  | some size => .error ⟨.invalidCharacter, ⟨c.position.line, c.position.column - size⟩⟩
  | none => .ok (String.ofList s.read.reverse, c)

/-- The rest of a string and the cursor after it, when the next `skip` symbols belong to an escape.
Each symbol of an escape is a byte, so the column tells how many there are. -/
def stringFrom :
    Nat → StringProgress → List Symbol → Position → Except Error (String × Cursor)
  | _, _, [], p => .error ⟨.endInString, p⟩
  | skip + 1, s, symbol :: rest, p => stringFrom skip s rest (p.after symbol)
  | 0, s, .stray bytes :: rest, p =>
    stringFrom 0 (s.pushStray bytes) rest (p.after (.stray bytes))
  | 0, s, .char x :: rest, p =>
    let next : Cursor := ⟨rest, p.after (.char x)⟩
    if x = '"' then s.finish next
    else if x = '\\' then
      match next.escaped with
      | .ok (meaning, c) =>
        stringFrom (c.position.column - next.position.column) (s.push meaning) rest next.position
      | .error e => .error e
    else if x.toNat < 0x20 then .error ⟨.controlCharacter, p.afterByte (.char x)⟩
    else stringFrom 0 (s.push x) rest next.position

/-- The text of the string that has been opened, and the cursor after it. -/
def Cursor.string (c : Cursor) : Except Error (String × Cursor) :=
  stringFrom 0 {} c.rest c.position

/-- The cursor after an escape whose backslash has been read. -/
def Cursor.skipEscape (c : Cursor) : Except Error Cursor := do
  if c.peek? = some 'u' then
    let (_, c) ← c.advance.unit
    return c
  else
    let (_, c) ← c.escaped
    return c

/-- The cursor after the rest of a string that is not wanted, when the next `skip` symbols belong to
an escape. -/
def skipStringFrom : Nat → List Symbol → Position → Except Error Cursor
  | _, [], p => .error ⟨.endInString, p⟩
  | skip + 1, symbol :: rest, p => skipStringFrom skip rest (p.after symbol)
  | 0, .stray bytes :: rest, p => skipStringFrom 0 rest (p.after (.stray bytes))
  | 0, .char x :: rest, p =>
    let next : Cursor := ⟨rest, p.after (.char x)⟩
    if x = '"' then .ok next
    else if x = '\\' then
      match next.skipEscape with
      | .ok c => skipStringFrom (c.position.column - next.position.column) rest next.position
      | .error e => .error e
    else if x.toNat < 0x20 then .error ⟨.controlCharacter, p⟩
    else skipStringFrom 0 rest next.position

/-- The cursor after the string that has been opened, which is not wanted. -/
def Cursor.skipString (c : Cursor) : Except Error Cursor := skipStringFrom 0 c.rest c.position

end ValidatorGen.Json
