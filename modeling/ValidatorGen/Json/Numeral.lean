import ValidatorGen.Json.Cursor
import ValidatorGen.Json.Value

/-!
# JSON numerals

A numeral is digits, perhaps a fraction and perhaps an exponent. Its value is an integer where it
has neither of the two and fits 64 bits. Otherwise it is a floating-point number: as many digits as
fit an unsigned number of 64 bits are rounded to a magnitude, which is then multiplied or divided by
a power of ten, with one rounding each time.

## Main definitions

* `Numeral` — the parts of a numeral
* `Cursor.numeral` — the numeral at a cursor
* `Numeral.value?` — its value, unless it is out of range
* `Cursor.number` — the number at a cursor
-/

namespace ValidatorGen.Json

open Text Decimal

/-- The exponent of a numeral. -/
structure Exponent where
  /-- Whether it is negative. -/
  negative : Bool
  /-- Its digits. -/
  digits : List Nat
  /-- Where the digits begin. -/
  position : Position
deriving DecidableEq

/-- The parts of a numeral, without its sign. -/
structure Numeral where
  /-- The digits before the point. -/
  whole : List Nat
  /-- The digits after the point; none if there is no point. -/
  fraction : List Nat
  /-- The exponent, if there is one. -/
  exponent : Option Exponent
deriving DecidableEq

/-- The value of a decimal digit. -/
def digit? (c : Char) : Option Nat :=
  if c.isDigit then some (c.toNat - 0x30) else none

/-- The digits that `rest` begins with, and the cursor after them, when `p` has been reached. -/
def digitsFrom : List Symbol → Position → List Nat × Cursor
  | .char c :: rest, p =>
    match digit? c with
    | some d =>
      let (ds, after) := digitsFrom rest (p.after (.char c))
      (d :: ds, after)
    | none => ([], ⟨.char c :: rest, p⟩)
  | rest, p => ([], ⟨rest, p⟩)

/-- The digits at a cursor, and the cursor after them. -/
def Cursor.digits (c : Cursor) : List Nat × Cursor := digitsFrom c.rest c.position

/-- Reports a missing digit; `atEnd` is the fault if the text ends here. -/
def Cursor.missingDigit {α : Type} (c : Cursor) (atEnd : Fault) : Except Error α :=
  if c.rest.isEmpty then c.fail atEnd else c.failAhead .invalidNumber

/-- The digits before the point. A zero stands alone. -/
def Cursor.wholeDigits (c : Cursor) (atEnd : Fault) : Except Error (List Nat × Cursor) :=
  match c.digits with
  | ([], _) => c.missingDigit atEnd
  | (0 :: _ :: _, _) => c.advance.failAhead .invalidNumber
  | (ds, after) => .ok (ds, after)

/-- The fraction, if a point comes next. -/
def Cursor.fractionDigits (c : Cursor) (atEnd : Fault) : Except Error (List Nat × Cursor) :=
  if c.peek? = some '.' then
    match c.advance.digits with
    | ([], after) => after.missingDigit atEnd
    | (ds, after) => .ok (ds, after)
  else .ok ([], c)

/-- The exponent, if the letter that announces it comes next. -/
def Cursor.exponent (c : Cursor) (atEnd : Fault) : Except Error (Option Exponent × Cursor) :=
  if c.peek? = some 'e' ∨ c.peek? = some 'E' then
    let signed := c.advance
    let start :=
      if signed.peek? = some '+' ∨ signed.peek? = some '-' then signed.advance else signed
    match start.digits with
    | ([], _) => start.missingDigit atEnd
    | (ds, after) => .ok (some ⟨signed.peek? = some '-', ds, start.position⟩, after)
  else .ok (none, c)

/-- The numeral at a cursor, and the cursor after it; `atEnd` is the fault if the text ends where a
digit should be. -/
def Cursor.numeral (c : Cursor) (atEnd : Fault) : Except Error (Numeral × Cursor) := do
  let (whole, c) ← c.wholeDigits atEnd
  let (fraction, c) ← c.fractionDigits atEnd
  let (exponent, c) ← c.exponent atEnd
  return (⟨whole, fraction, exponent⟩, c)

/-- The greatest significand that is kept. -/
def greatestSignificand : Nat := Nat.pow 2 64 - 1

/-- The value of the leading digits before the point that fit the significand, and the number of
the digits after them. -/
def keepWhole : List Nat → Nat → Nat × Nat
  | [], value => (value, 0)
  | d :: ds, value =>
    if greatestSignificand < value * 10 + d then (value, ds.length + 1)
    else keepWhole ds (value * 10 + d)

/-- The significand with the digits after the point that fit it, and their number. -/
def keepFraction : List Nat → Nat → Nat × Nat
  | [], value => (value, 0)
  | d :: ds, value =>
    if greatestSignificand < value * 10 + d then (value, 0)
    else
      let (value, count) := keepFraction ds (value * 10 + d)
      (value, count + 1)

/-- The power of ten, as a magnitude. -/
def powerOfTen (k : Nat) : Magnitude := (nearest? (.pow 10 k) 1).getD .zero

/-- The magnitude times a power of ten, unless it is out of range. A power below those that have a
magnitude of their own is divided out in steps, which end at zero. -/
def scaled : Nat → Magnitude → Int → Option Magnitude
  | 0, _, _ => some .zero
  | fuel + 1, m, power =>
    if power.natAbs ≤ 308 then
      if 0 ≤ power then m.mul? (powerOfTen power.natAbs) else m.div? (powerOfTen power.natAbs)
    else if m.mantissa = 0 then some m
    else if 0 ≤ power then none
    else (m.div? (powerOfTen 308)).bind fun m => scaled fuel m (power + 308)

/-- The greatest exponent that is read as a number. -/
def greatestExponent : Nat := Nat.pow 2 31 - 1

/-- The value of decimal digits. -/
def digitsValue (ds : List Nat) : Nat := ds.foldl (fun value d => value * 10 + d) 0

/-- The value of the numeral with the sign given, unless it is out of range. -/
def Numeral.value? (t : Numeral) (negative : Bool) : Option Number :=
  let (whole, dropped) := keepWhole t.whole 0
  let (significand, places) := keepFraction t.fraction whole
  if t.fraction.isEmpty ∧ t.exponent.isNone ∧ dropped = 0 ∧
      (negative → 0 < significand ∧ significand ≤ Nat.pow 2 63) then
    some (.integer (if negative then -(significand : Int) else significand))
  else
    let shift : Int := (dropped : Int) - (places : Int)
    let magnitude :=
      match t.exponent with
      | none => scaled 8 ((nearest? significand 1).getD .zero) shift
      | some e =>
        if greatestExponent < digitsValue e.digits then
          if significand ≠ 0 ∧ !e.negative then none else some .zero
        else
          let power : Int := digitsValue e.digits
          scaled 8 ((nearest? significand 1).getD .zero)
            (shift + if e.negative then -power else power)
    magnitude.map (.float negative)

/-- Where a text comes from. A number of a file is known to be out of range only when the byte after
it has been fetched. -/
inductive Origin where
  /-- A text in memory. -/
  | text
  /-- A file that is read byte by byte. -/
  | file
deriving DecidableEq

/-- The number of digits after which an exponent is too large to be read as a number. -/
def digitsToOverflow : List Nat → Nat → Nat
  | [], _ => 0
  | d :: ds, value =>
    if greatestExponent < value * 10 + d then 1 else digitsToOverflow ds (value * 10 + d) + 1

/-- Reports that the numeral that ends at the cursor is out of range. -/
def Cursor.outOfRange {α : Type} (c : Cursor) (origin : Origin) (t : Numeral) : Except Error α :=
  match t.exponent with
  | some e =>
    if greatestExponent < digitsValue e.digits then
      .error ⟨.numberOutOfRange, ⟨e.position.line, e.position.column + digitsToOverflow e.digits 0⟩⟩
    else if origin = .file then c.failAhead .numberOutOfRange else c.fail .numberOutOfRange
  | none => if origin = .file then c.failAhead .numberOutOfRange else c.fail .numberOutOfRange

/-- The number at a cursor, whose sign has been read, and the cursor after it. -/
def Cursor.unsigned (c : Cursor) (origin : Origin) (negative : Bool) :
    Except Error (Number × Cursor) := do
  let (numeral, after) ← c.numeral .endInValue
  match numeral.value? negative with
  | some n => return (n, after)
  | none => after.outOfRange origin numeral

/-- The number at a cursor, and the cursor after it. -/
def Cursor.number (c : Cursor) (origin : Origin) : Except Error (Number × Cursor) :=
  if c.peek? = some '-' then c.advance.unsigned origin true else c.unsigned origin false

end ValidatorGen.Json
