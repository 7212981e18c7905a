/-!
# Reading positions in YAML text

A text is a sequence of characters in which a line ends with a line feed or with one of the two
separators U+2028 and U+2029; other ways of ending a line are turned into line feeds beforehand.

## Main definitions

* `Mark` — a place in a text
* `Cursor` — the text from a place on
* `isBlank`, `isBreak`, `blankNext` — what separates words and lines
* `atDocumentMarker` — whether a marker between documents comes next
-/

namespace ValidatorGen.Yaml

/-- A place in a text. -/
structure Mark where
  /-- The number of lines before it. -/
  line : Nat
  /-- The number of characters before it on its line. -/
  column : Nat
  /-- The number of octets before it. -/
  offset : Nat
deriving DecidableEq

/-- The beginning of a text. -/
def Mark.origin : Mark := ⟨0, 0, 0⟩

/-- Whether a character separates words on a line. -/
def isBlank (c : Char) : Bool := c = ' ' || c = '\t'

/-- Whether a character ends a line. -/
def isBreak (c : Char) : Bool := c = '\n' || c = '\u2028' || c = '\u2029'

/-- The place after a character. -/
def Mark.after (m : Mark) (c : Char) : Mark :=
  let offset := m.offset + c.utf8Size
  if isBreak c then ⟨m.line + 1, 0, offset⟩ else ⟨m.line, m.column + 1, offset⟩

/-- The place after some characters of one line, each of one octet. -/
def Mark.right (m : Mark) (count : Nat) : Mark := ⟨m.line, m.column + count, m.offset + count⟩

/-- Whether a blank, the end of a line or the end of the text comes next. -/
def blankNext : List Char → Bool
  | [] => true
  | c :: _ => isBlank c || isBreak c

/-- Whether the end of a line or the end of the text comes next. -/
def breakNext : List Char → Bool
  | [] => true
  | c :: _ => isBreak c

/-- Whether three hyphens come next as a word of their own. -/
def atDocumentStart : List Char → Bool
  | '-' :: '-' :: '-' :: rest => blankNext rest
  | _ => false

/-- Whether three dots come next as a word of their own. -/
def atDocumentEnd : List Char → Bool
  | '.' :: '.' :: '.' :: rest => blankNext rest
  | _ => false

/-- Whether a marker between documents comes next. It counts only at the beginning of a line. -/
def atDocumentMarker (m : Mark) (rest : List Char) : Bool :=
  m.column = 0 && (atDocumentStart rest || atDocumentEnd rest)

/-- The text from a place on. -/
structure Cursor where
  /-- What is still to be read. -/
  rest : List Char
  /-- The place reached. -/
  mark : Mark
deriving DecidableEq

namespace Cursor

/-- The cursor after the next character. -/
def advance (c : Cursor) : Cursor :=
  match c.rest with
  | [] => c
  | x :: rest => ⟨rest, c.mark.after x⟩

/-- Whether the given character comes next. -/
def startsWith (c : Cursor) (x : Char) : Bool := c.rest.head? = some x

/-- The characters that come next and satisfy `p`. -/
def word (c : Cursor) (p : Char → Bool) : List Char := c.rest.takeWhile p

/-- The cursor after the characters that come next and satisfy `p`. -/
def skip (c : Cursor) (p : Char → Bool) : Cursor :=
  ⟨c.rest.dropWhile p, (c.rest.takeWhile p).foldl Mark.after c.mark⟩

/-- The cursor after a comment, if there is one. -/
def skipComment (c : Cursor) : Cursor :=
  if c.startsWith '#' then c.skip (!isBreak ·) else c

/-- The cursor after the blanks and the comment that may end a line. -/
def skipMargin (c : Cursor) : Cursor := (c.skip isBlank).skipComment

/-- Whether at least `count` characters are still to be read. -/
def has (c : Cursor) (count : Nat) : Bool := (c.rest.take count).length = count

end Cursor

/-- The cursor at the first character before which there are at least `offset` octets, when the
text goes on with the given characters. -/
def goTo (offset : Nat) : List Char → Mark → Cursor
  | [], m => ⟨[], m⟩
  | c :: rest, m => if m.offset < offset then goTo offset rest (m.after c) else ⟨c :: rest, m⟩

/-- Whether a character may stand in the name of an anchor or a directive. -/
def isNameChar (c : Char) : Bool := c.isAlphanum || c = '_' || c = '-'

end ValidatorGen.Yaml
