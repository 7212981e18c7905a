import ValidatorGen.Json.Numeral
import ValidatorGen.Json.Text
import ValidatorGen.Ordered

/-!
# Reading JSON values

A value is read from left to right, and the first fault that is met is reported. A name that comes
again in an object keeps its first place and takes its last value. At most 127 containers may stand
inside one another.

Each step of the reader takes at least one symbol or descends from a container to its contents, so
twice the number of symbols bounds the steps.

## Main definitions

* `Cursor.value` — the value at a cursor
* `Value.ofText`, `Value.ofFile` — the value that a whole text, or the content of a file, stands for
-/

namespace ValidatorGen.Json

open Text

/-- The number of containers that may stand inside one another. -/
def greatestNesting : Nat := 127

/-- The letters of the words that stand for values, and the values. -/
def words : List (List Char × Value) :=
  [(['n', 'u', 'l', 'l'], .null), (['t', 'r', 'u', 'e'], .bool true),
    (['f', 'a', 'l', 's', 'e'], .bool false)]

/-- The word that begins with the letter `c`, if there is one. -/
def word? (c : Char) : Option (List Char × Value) :=
  words.find? fun word => word.1.head? = some c

/-- Whether a number may begin with the character `c`. -/
def beginsNumber (c : Char) : Bool := c = '-' || c.isDigit

/-- The value at a cursor if it is neither an array nor an object, and the cursor after it. -/
def Cursor.scalar (origin : Origin) (c : Cursor) : Except Error (Value × Cursor) :=
  match c.rest with
  | [] => c.fail .endInValue
  | .stray _ :: _ => c.failAhead .expectedValue
  | .char x :: _ =>
    match word? x with
    | some (letters, value) => do
      let c ← c.spell letters
      return (value, c)
    | none =>
      if beginsNumber x then do
        let (n, c) ← c.number origin
        return (.number n, c)
      else if x = '"' then do
        let (s, c) ← c.advance.string
        return (.string s, c)
      else c.failAhead .expectedValue

/-- The cursor at the next item of an array, or the cursor after the end of the array. -/
def Cursor.nextItem (c : Cursor) (first : Bool) : Except Error (Cursor ⊕ Cursor) :=
  let c := c.skipBlanks
  if c.rest.isEmpty then c.fail .endInArray
  else if c.peek? = some ']' then .ok (.inr c.advance)
  else if first then .ok (.inl c)
  else if c.peek? = some ',' then
    let c := c.advance.skipBlanks
    if c.rest.isEmpty then c.fail .endInValue
    else if c.peek? = some ']' then c.failAhead .trailingComma
    else .ok (.inl c)
  else c.failAhead .expectedArrayEnd

/-- The cursor after the quote that opens the next name of an object, or the cursor after the end of
the object. -/
def Cursor.nextName (c : Cursor) (first : Bool) : Except Error (Cursor ⊕ Cursor) :=
  let c := c.skipBlanks
  if c.rest.isEmpty then c.fail .endInObject
  else if c.peek? = some '\x7d' then .ok (.inr c.advance)
  else if first then
    if c.peek? = some '"' then .ok (.inl c.advance) else c.failAhead .expectedName
  else if c.peek? = some ',' then
    let c := c.advance.skipBlanks
    if c.rest.isEmpty then c.fail .endInValue
    else if c.peek? = some '"' then .ok (.inl c.advance)
    else if c.peek? = some '\x7d' then c.failAhead .trailingComma
    else c.failAhead .expectedName
  else c.failAhead .expectedObjectEnd

/-- The cursor after the colon between a name and its value. -/
def Cursor.colon (c : Cursor) : Except Error Cursor :=
  let c := c.skipBlanks
  if c.rest.isEmpty then c.fail .endInObject
  else if c.peek? = some ':' then .ok c.advance
  else c.failAhead .expectedColon

mutual

/-- The value at a cursor and the cursor after it, when `levels` more containers may be opened. -/
def Cursor.valueWithin (origin : Origin) : Nat → Nat → Cursor → Except Error (Value × Cursor)
  | 0, _, c => c.fail .endInValue
  | fuel + 1, levels, c =>
    let c := c.skipBlanks
    if c.peek? = some '[' then
      match levels with
      | 0 => c.failAhead .tooDeep
      | levels + 1 => do
        let (items, c) ← itemsWithin origin fuel levels true c.advance
        return (.array items, c)
    else if c.peek? = some '\x7b' then
      match levels with
      | 0 => c.failAhead .tooDeep
      | levels + 1 => do
        let (members, c) ← membersWithin origin fuel levels true [] c.advance
        return (.object members, c)
    else c.scalar origin

/-- The items of an array from a cursor on, and the cursor after the array. -/
def Cursor.itemsWithin (origin : Origin) :
    Nat → Nat → Bool → Cursor → Except Error (List Value × Cursor)
  | 0, _, _, c => c.fail .endInArray
  | fuel + 1, levels, first, c => do
    match ← c.nextItem first with
    | .inr c => return ([], c)
    | .inl c =>
      let (item, c) ← valueWithin origin fuel levels c
      let (items, c) ← itemsWithin origin fuel levels false c
      return (item :: items, c)

/-- The members of an object, of which `members` have been read, and the cursor after the object. -/
def Cursor.membersWithin (origin : Origin) :
    Nat → Nat → Bool → List (String × Value) → Cursor →
      Except Error (List (String × Value) × Cursor)
  | 0, _, _, _, c => c.fail .endInObject
  | fuel + 1, levels, first, members, c => do
    match ← c.nextName first with
    | .inr c => return (members, c)
    | .inl c =>
      let (name, c) ← c.string
      let c ← c.colon
      let (value, c) ← valueWithin origin fuel levels c
      membersWithin origin fuel levels false (Ordered.put Prod.fst (name, value) members) c

end

/-- The number of steps that is enough to read whatever follows. -/
def Cursor.steps (c : Cursor) : Nat := 2 * c.rest.length + 2

/-- The value at a cursor, and the cursor after it. -/
def Cursor.value (origin : Origin) (c : Cursor) : Except Error (Value × Cursor) :=
  c.valueWithin origin c.steps greatestNesting

/-- Nothing but blanks may follow. -/
def Cursor.finish (c : Cursor) : Except Error Unit :=
  let c := c.skipBlanks
  if c.rest.isEmpty then .ok () else c.failAhead .trailingCharacters

/-- The value that a sequence of symbols stands for. -/
def Value.ofSymbols (origin : Origin) (symbols : List Symbol) : Except Error Value := do
  let (value, c) ← (Cursor.start symbols).value origin
  c.finish
  return value

/-- The value that a text stands for. -/
def Value.ofText (s : String) : Except Error Value := Value.ofSymbols .text (symbols s)

/-- The value that the content of a file stands for. -/
def Value.ofFile (bytes : List UInt8) : Except Error Value := Value.ofSymbols .file (decode bytes)

end ValidatorGen.Json
