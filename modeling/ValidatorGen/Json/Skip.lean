import ValidatorGen.Json.Reader

/-!
# Passing over JSON values

A value that is not wanted is passed over without being built. Any number of containers may stand
inside one another, numbers may be out of range, and escapes need not stand for characters; the
layout is still checked. After a comma there must be another item or another name.

## Main definitions

* `Cursor.skipValue` — the cursor after a value that is not wanted
-/

namespace ValidatorGen.Json

open Text

/-- The cursor after a value that is neither an array nor an object. -/
def Cursor.skipScalar (c : Cursor) : Except Error Cursor :=
  match c.rest with
  | [] => c.fail .endInValue
  | .stray _ :: _ => c.failAhead .expectedValue
  | .char x :: _ =>
    match word? x with
    | some (letters, _) => c.spell letters
    | none =>
      if beginsNumber x then do
        let (_, c) ← (if x = '-' then c.advance else c).numeral .invalidNumber
        return c
      else if x = '"' then c.advance.skipString
      else c.failAhead .expectedValue

/-- The cursor after a name whose quote comes next and the colon after it. -/
def Cursor.skipName (c : Cursor) : Except Error Cursor := do
  let c := c.skipBlanks
  if c.rest.isEmpty then c.fail .endInObject
  else if c.peek? = some '"' then
    let c ← c.advance.skipString
    c.colon
  else c.failAhead .expectedName

mutual

/-- The cursor after a value that is not wanted. -/
def Cursor.skipValueWithin : Nat → Cursor → Except Error Cursor
  | 0, c => c.fail .endInValue
  | fuel + 1, c =>
    let c := c.skipBlanks
    if c.peek? = some '[' then
      let c := c.advance.skipBlanks
      if c.peek? = some ']' then .ok c.advance
      else if c.rest.isEmpty then c.fail .endInArray
      else skipItemsWithin fuel c
    else if c.peek? = some '\x7b' then
      let c := c.advance.skipBlanks
      if c.peek? = some '\x7d' then .ok c.advance
      else if c.rest.isEmpty then c.fail .endInObject
      else skipMembersWithin fuel c
    else c.skipScalar

/-- The cursor after an array, at an item of it. -/
def Cursor.skipItemsWithin : Nat → Cursor → Except Error Cursor
  | 0, c => c.fail .endInArray
  | fuel + 1, c => do
    let c ← skipValueWithin fuel c
    let c := c.skipBlanks
    if c.peek? = some ',' then skipItemsWithin fuel c.advance
    else if c.peek? = some ']' then return c.advance
    else if c.rest.isEmpty then c.fail .endInArray
    else c.failAhead .expectedArrayEnd

/-- The cursor after an object, at a name of it. -/
def Cursor.skipMembersWithin : Nat → Cursor → Except Error Cursor
  | 0, c => c.fail .endInObject
  | fuel + 1, c => do
    let c ← c.skipName
    let c ← skipValueWithin fuel c
    let c := c.skipBlanks
    if c.peek? = some ',' then skipMembersWithin fuel c.advance
    else if c.peek? = some '\x7d' then return c.advance
    else if c.rest.isEmpty then c.fail .endInObject
    else c.failAhead .expectedObjectEnd

end

/-- The cursor after a value that is not wanted. -/
def Cursor.skipValue (c : Cursor) : Except Error Cursor := c.skipValueWithin c.steps

end ValidatorGen.Json
