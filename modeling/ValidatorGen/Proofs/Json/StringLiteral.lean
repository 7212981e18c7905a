import Mathlib.Tactic.SplitIfs
import ValidatorGen.Json.Quoted
import ValidatorGen.Json.Text

/-!
# Reading string literals back

Every text is read back from its string literal, whatever follows the literal: the first quote that
is not escaped is the closing one.

## Main definitions

* `readString` — the text of the string literal that has been opened, and what follows it
* `readLiteral` — the text of a string literal, and what follows it

## Main results

* `readString_escape` — a character is read back from the way it is written
* `readLiteral_quoted` — a text is read back from its literal
* `quoted_injective` — different texts have different literals
-/

namespace ValidatorGen.Json

open Text

/-- The character with the code point that hexadecimal digits give. A code point that stands for
half a character gives none. -/
def unescape (digits : List Char) : Option Char :=
  (hexNumber? digits).bind fun code =>
    if code < 0xd800 ∨ 0xdfff < code then some (Char.ofNat code) else none

/-- The text of the string literal that has been opened, and what follows its closing quote. -/
def readString : List Char → Option (List Char × List Char)
  | [] => none
  | c :: cs =>
    if c = '"' then some ([], cs)
    else if c = '\\' then
      match cs with
      | 'u' :: a :: b :: c :: d :: cs => do
        let meaning ← unescape [a, b, c, d]
        let (text, rest) ← readString cs
        return (meaning :: text, rest)
      | letter :: cs => do
        let meaning ← escapeMeaning? letter
        let (text, rest) ← readString cs
        return (meaning :: text, rest)
      | [] => none
    else do
      let (text, rest) ← readString cs
      return (c :: text, rest)

/-- The text of a string literal, and what follows it. -/
def readLiteral : List Char → Option (String × List Char)
  | [] => none
  | c :: cs =>
    if c = '"' then (readString cs).map fun (text, rest) => (String.ofList text, rest) else none

theorem hexValue?_hexDigit {n : Nat} (h : n < 16) : hexValue? (hexDigit n) = some n := by
  revert n
  decide

/-- The escape of a control character by its code point is read as that character. -/
theorem unescape_control {c : Char} (h : c.toNat < 0x20) :
    unescape ['0', '0', hexDigit (c.toNat / 16), hexDigit (c.toNat % 16)] = some c := by
  have high := hexValue?_hexDigit (n := c.toNat / 16) (by omega)
  have low := hexValue?_hexDigit (n := c.toNat % 16) (by omega)
  have zero : hexValue? '0' = some 0 := by decide
  have code : ((0 * 16 + 0) * 16 + c.toNat / 16) * 16 + c.toNat % 16 = c.toNat := by omega
  have number : hexNumber? ['0', '0', hexDigit (c.toNat / 16), hexDigit (c.toNat % 16)] =
      some c.toNat := by
    simp [hexNumber?, zero, high, low]
    omega
  rw [unescape, number, Option.bind_some, if_pos (by omega), Char.ofNat_toNat]

theorem readString_quote (rest : List Char) : readString ('"' :: rest) = some ([], rest) := by
  rw [readString.eq_def]
  rfl

/-- A character that is neither a quote nor a backslash stands for itself. -/
theorem readString_plain {c : Char} (quote : c ≠ '"') (backslash : c ≠ '\\') (rest : List Char) :
    readString (c :: rest) = (readString rest).map fun (text, rest) => (c :: text, rest) := by
  rw [readString.eq_def]
  dsimp only
  rw [if_neg quote, if_neg backslash]
  cases readString rest <;> rfl

/-- A backslash and a letter are read as what they stand for together. -/
theorem readString_letter {letter meaning : Char} (h : escapeMeaning? letter = some meaning)
    (rest : List Char) :
    readString ('\\' :: letter :: rest) =
      (readString rest).map fun (text, rest) => (meaning :: text, rest) := by
  have unit : letter ≠ 'u' := by
    rintro rfl
    exact absurd (h.symm.trans (by decide : escapeMeaning? 'u' = none)) (by simp)
  rw [readString, if_neg (by decide), if_pos rfl, h]
  · cases readString rest <;> rfl
  · exact fun _ _ _ _ _ same => absurd same unit

theorem readString_control {c : Char} (h : c.toNat < 0x20) (rest : List Char) :
    readString
        ('\\' :: 'u' :: '0' :: '0' :: hexDigit (c.toNat / 16) :: hexDigit (c.toNat % 16) :: rest) =
      (readString rest).map fun (text, rest) => (c :: text, rest) := by
  rw [readString, if_neg (by decide), if_pos rfl]
  simp only [unescape_control h]
  cases readString rest <;> rfl

/-- A character is read back from the way it is written. -/
theorem readString_escape (c : Char) (rest : List Char) :
    readString (escape c ++ rest) =
      (readString rest).map fun (text, rest) => (c :: text, rest) := by
  rw [escape]
  split_ifs with quote backslash newline carriage tab backspace feed control
  · exact readString_letter (by rw [quote]; decide) rest
  · exact readString_letter (by rw [backslash]; decide) rest
  · exact readString_letter (by rw [newline]; decide) rest
  · exact readString_letter (by rw [carriage]; decide) rest
  · exact readString_letter (by rw [tab]; decide) rest
  · exact readString_letter (by rw [backspace]; decide) rest
  · exact readString_letter (by rw [feed]; decide) rest
  · exact readString_control control rest
  · exact readString_plain quote backslash rest

theorem readString_flatMap_escape (text rest : List Char) :
    readString (text.flatMap escape ++ '"' :: rest) = some (text, rest) := by
  induction text with
  | nil => exact readString_quote rest
  | cons c text ih =>
    rw [List.flatMap_cons, List.append_assoc, readString_escape, ih]
    rfl

/-- A text is read back from its literal, and what follows the literal is left. -/
theorem readLiteral_quoted (s : String) (rest : List Char) :
    readLiteral ((quoted s).toList ++ rest) = some (s, rest) := by
  have literal : (quoted s).toList ++ rest = '"' :: (s.toList.flatMap escape ++ '"' :: rest) := by
    simp [quoted]
  rw [literal, readLiteral, if_pos rfl, readString_flatMap_escape]
  simp

/-- Different texts have different literals. -/
theorem quoted_injective {s t : String} (h : quoted s = quoted t) : s = t := by
  have read := readLiteral_quoted s []
  rw [h, readLiteral_quoted t []] at read
  exact (Prod.mk.inj (Option.some.inj read)).1.symm

end ValidatorGen.Json
