import ValidatorGen.Text.Extending
import ValidatorGen.Text.Unprintable
import ValidatorGen.Text.Utf8

/-!
# Quoted text in messages

A message shows a text between double quotes, so written that every character can be told from its
surroundings: quotes and backslashes are escaped, and a character that cannot be made out when it is
printed by itself is given by its code point.

## Main definitions

* `isObscure` — whether a character is given by its code point
* `escaped` — one character as a message shows it
* `quoted` — a text as a message shows it
* `quotedBytes` — a byte sequence as a message shows it; here apostrophes are escaped, and bytes
  outside any character appear as `\xHH`
-/

namespace ValidatorGen.Text

/-- A character by its code point, as in `\u{301}`. -/
def byCodePoint (c : Char) : List Char :=
  ['\\', 'u', '\x7b'] ++ Nat.toDigits 16 c.toNat ++ ['\x7d']

/-- Whether a character fills the place of a Hangul letter and leaves it blank. -/
def isHangulFiller (c : Char) : Bool :=
  c = '\u115f' || c = '\u1160' || c = '\u3164' || c = '\uffa0'

/-- Whether a character is a halfwidth sound mark. It counts as extending the character before it,
but has a shape and a place of its own. -/
def isSoundMark (c : Char) : Bool := c = '\uff9e' || c = '\uff9f'

/-- Whether a character cannot be made out when it is printed by itself. -/
def isObscure (c : Char) : Bool :=
  isUnprintable c || isHangulFiller c || (isExtending c && !isSoundMark c)

/-- A character as a message shows it. -/
def escaped (c : Char) : List Char :=
  if c = '\x00' then ['\\', '0']
  else if c = '\t' then ['\\', 't']
  else if c = '\r' then ['\\', 'r']
  else if c = '\n' then ['\\', 'n']
  else if c = '"' then ['\\', '"']
  else if c = '\\' then ['\\', '\\']
  else if isObscure c then byCodePoint c
  else [c]

/-- A text as a message shows it. -/
def quoted (s : String) : String :=
  String.ofList (['"'] ++ s.toList.flatMap escaped ++ ['"'])

/-- A byte by its two hexadecimal digits, as in `\xFF`. -/
def byHexDigits (b : UInt8) : List Char :=
  let digits := (Nat.toDigits 16 b.toNat).map Char.toUpper
  ['\\', 'x'] ++ List.replicate (2 - digits.length) '0' ++ digits

/-- A byte sequence as a message shows it. -/
def quotedBytes (bytes : List UInt8) : String :=
  let shown : Symbol → List Char
    | .char c => if c = '\x27' then ['\\', c] else escaped c
    | .stray bytes => bytes.flatMap byHexDigits
  String.ofList (['"'] ++ (decode bytes).flatMap shown ++ ['"'])

end ValidatorGen.Text
