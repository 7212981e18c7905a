import ValidatorGen.Yaml.Scalar.Block
import ValidatorGen.Yaml.Scalar.Meaning
import ValidatorGen.Yaml.Scalar.Quoted

/-!
# Writing texts as scalars

A text is written without quotes if it is read back as the same text. Otherwise it stands between
single quotes, or between double quotes if something in it has to be escaped. A text with line feeds
stands in lines of its own.

## Main definitions

* `styleOf` — how a text is written
* `writtenLine` — a text as it is written after the key or the hyphen, up to the next line
-/

namespace ValidatorGen.Yaml

/-- Whether a character can be written by itself. -/
def isPrintable (c : Char) : Bool :=
  c = '\n' || (' ' ≤ c && c ≤ '~') ||
    ('\u00a0' ≤ c && !(c ∈ ['\ufeff', Char.ofNat 0xfffe, Char.ofNat 0xffff]))

/-- Whether a character may not be the first of a text that is written without quotes. -/
def isIndicator (c : Char) : Bool :=
  c ∈ ['#', ',', '[', ']', '\x7b', '\x7d', '&', '*', '!', '|', '>', '\x27', '"', '%', '@', '\x60']

/-- Whether a text begins like something other than a plain scalar. -/
def beginsOddly : List Char → Bool
  | '-' :: '-' :: '-' :: _ => true
  | '.' :: '.' :: '.' :: _ => true
  | c :: rest => isIndicator c || ((c = '?' || c = '-') && blankNext rest)
  | [] => false

/-- Whether a text holds a colon before a blank, or a number sign after one. The text follows a
blank if `afterBlank` is true. -/
def holdsIndicator : Bool → List Char → Bool
  | _, [] => false
  | afterBlank, c :: rest =>
    (c = ':' && blankNext rest) || (c = '#' && afterBlank) ||
      holdsIndicator (isBlank c || isBreak c) rest

/-- Whether a space or a line break stands at either end. -/
def hasLooseEnd (s : List Char) : Bool :=
  s.head?.any (fun c => c = ' ' || isBreak c) || s.getLast?.any (fun c => c = ' ' || isBreak c)

/-- Whether a character that satisfies `p` is followed by one that satisfies `q`. -/
def holdsPair (p q : Char → Bool) : List Char → Bool
  | c :: d :: rest => (p c && q d) || holdsPair p q (d :: rest)
  | _ => false

/-- Whether a space stands before a line break. -/
def hasTrailingSpace (s : List Char) : Bool := holdsPair (· = ' ') isBreak s

/-- Whether a space stands after a line break. -/
def hasLeadingSpace (s : List Char) : Bool := holdsPair isBreak (· = ' ') s

/-- Whether a text can be written without quotes. -/
def allowsPlain (s : List Char) : Bool :=
  s.all isPrintable && !s.any isBreak && !hasLooseEnd s && !beginsOddly s && !holdsIndicator true s

/-- Whether a text can be written between single quotes. -/
def allowsSingle (s : List Char) : Bool :=
  s.all isPrintable && !hasTrailingSpace s && !hasLeadingSpace s

/-- Whether a text can be written in lines of its own. -/
def allowsLiteral (s : List Char) : Bool :=
  s.all isPrintable && !hasTrailingSpace s && s.getLast? ≠ some ' '

/-- Whether a text is looked upon as something else if it is written without quotes. -/
def isMistakable (s : List Char) : Bool := Meaning.ofText s ≠ .text || hasLeadingZero s

/-- How a text is written. -/
def styleOf (s : List Char) : Style :=
  if '\n' ∈ s then if allowsLiteral s then .literal else .double
  else if !isMistakable s && allowsPlain s then .plain
  else if allowsSingle s then .single
  else .double

/-- The spaces before a line that continues a scalar. -/
def indentation : List Char := [' ', ' ']

/-- What is left of a text between single quotes, after a line break or not. A line feed is written
twice because one alone stands for a space. -/
def singleBody : Bool → List Char → List Char
  | afterBreak, [] => if afterBreak then indentation else []
  | afterBreak, c :: rest =>
    if isBreak c then
      (if c = '\n' ∧ !afterBreak then [c, c] else [c]) ++ singleBody true rest
    else
      (if afterBreak then indentation else []) ++ (if c = '\x27' then [c, c] else [c]) ++
        singleBody false rest

/-- The last `count` hexadecimal digits of a number. -/
def hexDigits : Nat → Nat → List Char
  | 0, _ => []
  | count + 1, n => hexDigits count (n / 16) ++ [(Nat.digitChar (n % 16)).toUpper]

/-- A character as an escape. -/
def escapedChar (c : Char) : List Char :=
  match escapeLetters.find? fun e => e.2 = c with
  | some (letter, _) => ['\\', letter]
  | none =>
    if c.toNat ≤ 0xff then '\\' :: 'x' :: hexDigits 2 c.toNat
    else if c.toNat ≤ 0xffff then '\\' :: 'u' :: hexDigits 4 c.toNat
    else '\\' :: 'U' :: hexDigits 8 c.toNat

/-- A character between double quotes. -/
def doubleChar (c : Char) : List Char :=
  if !isPrintable c || isBreak c || c = '"' || c = '\\' then escapedChar c else [c]

/-- The lines of a text that stands in lines of its own. -/
def literalBody : Bool → List Char → List Char
  | _, [] => []
  | afterBreak, c :: rest =>
    if isBreak c then c :: literalBody true rest
    else (if afterBreak then indentation else []) ++ c :: literalBody false rest

/-- The line breaks at the end of a text that count in a block scalar. -/
def chompingOf (s : List Char) : Chomping :=
  match s.reverse with
  | c :: rest =>
    if !isBreak c then .strip
    else if rest.head?.all isBreak then .keep
    else .clip
  | [] => .strip

/-- The character that asks for a chomping. -/
def Chomping.indicator : Chomping → List Char
  | .strip => ['-']
  | .clip => []
  | .keep => ['+']

/-- The header of a text that stands in lines of its own. The indentation is said if it cannot be
seen on the first line. -/
def literalHeader (s : List Char) : List Char :=
  '|' :: (if s.head?.any fun c => c = ' ' || isBreak c then ['2'] else []) ++
    (chompingOf s).indicator

/-- A text as it is written after the key or the hyphen, up to the next line. -/
def writtenLine (s : List Char) : List Char :=
  match styleOf s with
  | .single => '\x27' :: singleBody false s ++ ['\x27', '\n']
  | .double => '"' :: s.flatMap doubleChar ++ ['"', '\n']
  | .literal =>
    literalHeader s ++ '\n' :: literalBody true s ++
      (if s.getLast?.any isBreak then [] else ['\n'])
  | .plain | .folded => s ++ ['\n']

end ValidatorGen.Yaml
