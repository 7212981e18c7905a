import ValidatorGen.Text.Utf8

/-!
# Reading positions in JSON text

A cursor is the text that is still to be read, and the position that has been reached. Columns
count bytes and start again after each line break. A fault is reported either where the cursor
stands or one byte further, at the byte that gave offence.

## Main definitions

* `Position`, `Cursor` — a place in a text, and the text from there on
* `Fault`, `Error` — what is wrong with a text, and where
* `Cursor.fail`, `Cursor.failAhead` — the two ways of reporting a fault
* `Cursor.skipBlanks` — the cursor at the next character that is not blank
-/

namespace ValidatorGen.Json

open Text

/-- A place in a text. -/
structure Position where
  /-- The number of the line, from 1. -/
  line : Nat
  /-- The number of bytes before the place on its line. -/
  column : Nat
deriving DecidableEq

/-- The position after a symbol. -/
def Position.after (p : Position) (s : Symbol) : Position :=
  if s = .char '\n' then ⟨p.line + 1, 0⟩ else ⟨p.line, p.column + s.size⟩

/-- The position after the first byte of a symbol. -/
def Position.afterByte (p : Position) (s : Symbol) : Position :=
  if s = .char '\n' then ⟨p.line + 1, 0⟩ else ⟨p.line, p.column + 1⟩

/-- The ways in which a text is not JSON. -/
inductive Fault where
  /-- The text ends where a value should be. -/
  | endInValue
  /-- The text ends inside an array. -/
  | endInArray
  /-- The text ends inside an object. -/
  | endInObject
  /-- The text ends inside a string. -/
  | endInString
  /-- A name is not followed by a colon. -/
  | expectedColon
  /-- An item is not followed by a comma or the end of the array. -/
  | expectedArrayEnd
  /-- A member is not followed by a comma or the end of the object. -/
  | expectedObjectEnd
  /-- A word other than the three that JSON has. -/
  | expectedWord
  /-- A character that begins no value. -/
  | expectedValue
  /-- An escape that means nothing. -/
  | invalidEscape
  /-- Digits that form no number. -/
  | invalidNumber
  /-- A number beyond the greatest. -/
  | numberOutOfRange
  /-- Bytes in a string that form no character. -/
  | invalidCharacter
  /-- A control character in a string. -/
  | controlCharacter
  /-- A name that is not a string. -/
  | expectedName
  /-- An escape that stands for half a character. -/
  | loneSurrogate
  /-- The first half of a character without the second. -/
  | unfinishedSurrogates
  /-- A comma before the end of an array or an object. -/
  | trailingComma
  /-- Something after the value. -/
  | trailingCharacters
  /-- Too many containers inside one another. -/
  | tooDeep
deriving DecidableEq

/-- What is wrong, in words. -/
def Fault.message : Fault → String
  | .endInValue => "EOF while parsing a value"
  | .endInArray => "EOF while parsing a list"
  | .endInObject => "EOF while parsing an object"
  | .endInString => "EOF while parsing a string"
  | .expectedColon => "expected `:`"
  | .expectedArrayEnd => "expected `,` or `]`"
  | .expectedObjectEnd => "expected `,` or `\x7d`"
  | .expectedWord => "expected ident"
  | .expectedValue => "expected value"
  | .invalidEscape => "invalid escape"
  | .invalidNumber => "invalid number"
  | .numberOutOfRange => "number out of range"
  | .invalidCharacter => "invalid unicode code point"
  | .controlCharacter => "control character (\\u0000-\\u001F) found while parsing a string"
  | .expectedName => "key must be a string"
  | .loneSurrogate => "lone leading surrogate in hex escape"
  | .unfinishedSurrogates => "unexpected end of hex escape"
  | .trailingComma => "trailing comma"
  | .trailingCharacters => "trailing characters"
  | .tooDeep => "recursion limit exceeded"

/-- What is wrong with a text, and where. -/
structure Error where
  /-- What is wrong. -/
  fault : Fault
  /-- Where it is wrong. -/
  position : Position
deriving DecidableEq

/-- A message followed by the place it is about. -/
def Position.located (p : Position) (message : String) : String :=
  message ++ " at line " ++ toString p.line ++ " column " ++ toString p.column

/-- The error in words. -/
def Error.message (e : Error) : String := e.position.located e.fault.message

/-- The text that is still to be read, and the position reached. -/
structure Cursor where
  /-- What is still to be read. -/
  rest : List Symbol
  /-- The position reached. -/
  position : Position
deriving DecidableEq

namespace Cursor

/-- The cursor at the beginning of a sequence of symbols. -/
def start (symbols : List Symbol) : Cursor := ⟨symbols, ⟨1, 0⟩⟩

/-- The position one byte further. -/
def ahead (c : Cursor) : Position :=
  match c.rest with
  | [] => c.position
  | s :: _ => c.position.afterByte s

/-- Reports a fault where the cursor stands. -/
def fail {α : Type} (c : Cursor) (fault : Fault) : Except Error α :=
  .error ⟨fault, c.position⟩

/-- Reports a fault one byte further. -/
def failAhead {α : Type} (c : Cursor) (fault : Fault) : Except Error α :=
  .error ⟨fault, c.ahead⟩

/-- The cursor after the next symbol. -/
def advance (c : Cursor) : Cursor :=
  match c.rest with
  | [] => c
  | s :: rest => ⟨rest, c.position.after s⟩

/-- The next symbol, if it is a character. -/
def peek? (c : Cursor) : Option Char :=
  c.rest.head?.bind Symbol.char?

end Cursor

/-- Whether a character is blank in JSON. -/
def isBlank (c : Char) : Bool := c = ' ' || c = '\n' || c = '\t' || c = '\r'

/-- The cursor at the first symbol of `rest` that is not blank, when `p` has been reached. -/
def skipBlanksFrom : List Symbol → Position → Cursor
  | [], p => ⟨[], p⟩
  | .char c :: rest, p =>
    if isBlank c then skipBlanksFrom rest (p.after (.char c)) else ⟨.char c :: rest, p⟩
  | .stray bytes :: rest, p => ⟨.stray bytes :: rest, p⟩

/-- The cursor at the next symbol that is not blank. -/
def Cursor.skipBlanks (c : Cursor) : Cursor := skipBlanksFrom c.rest c.position

/-- The cursor after the given letters, which are all that may stand here. -/
def Cursor.spell : List Char → Cursor → Except Error Cursor
  | [], c => .ok c
  | letter :: letters, c =>
    if c.rest.isEmpty then c.fail .endInValue
    else if c.peek? = some letter then c.advance.spell letters
    else c.failAhead .expectedWord

end ValidatorGen.Json
