import ValidatorGen.Json.Skip
import ValidatorGen.Schema.Decode

/-!
# Descriptors straight from text

A descriptor can also be read from a JSON text without building the value of the whole text. Here a
member that comes twice is an error, members that are not known are passed over without being built,
and every error has a place.

## Main definitions

* `TextError` — why a text describes no descriptor, and where
* `Descriptor.ofText` — the descriptor that a text describes
-/

namespace ValidatorGen.Schema

open Json

/-- Why a text describes no descriptor. -/
inductive TextError where
  /-- The text is not JSON. -/
  | notJson (error : Json.Error)
  /-- The text does not have the form of a description. -/
  | rejected (rejection : Rejection) (position : Position)
deriving DecidableEq

/-- The error in words. -/
def TextError.message : TextError → String
  | .notJson error => error.message
  | .rejected rejection position => position.located rejection.message

/-- The same outcome, with the error of the text itself told apart from others. -/
def liftSyntax {α : Type} : Except Json.Error α → Except TextError α
  | .ok a => .ok a
  | .error e => .error (.notJson e)

/-- Rejects what comes next. Anything but a container is read first, since it may not even be
JSON. -/
def mismatchAt {α : Type} (c : Cursor) (expected : Expected) : Except TextError α :=
  let c := c.skipBlanks
  if c.peek? = some '[' then .error (.rejected (.mismatch .sequence expected) c.position)
  else if c.peek? = some '\x7b' then .error (.rejected (.mismatch .mapping expected) c.position)
  else do
    let (value, c) ← liftSyntax (c.scalar .text)
    .error (.rejected (.mismatch (.ofValue value) expected) c.position)

/-- Whether the word for nothing seems to come next. -/
def startsNull (c : Cursor) : Bool := c.skipBlanks.peek? = some 'n'

/-- The cursor after the word for nothing. -/
def skipNull (c : Cursor) : Except TextError Cursor :=
  liftSyntax (c.skipBlanks.spell ['n', 'u', 'l', 'l'])

/-- The text that comes next, if there is one at all. -/
def textAt (c : Cursor) : Except TextError (Option String × Cursor) :=
  let c := c.skipBlanks
  if c.peek? = some 'n' then do
    let c ← skipNull c
    return (none, c)
  else if c.peek? = some '"' then do
    let (s, c) ← liftSyntax c.advance.string
    return (some s, c)
  else mismatchAt c .text

/-- The truth value that comes next, if there is one at all. -/
def flagAt (c : Cursor) : Except TextError (Option Bool × Cursor) :=
  let c := c.skipBlanks
  if c.peek? = some 'n' then do
    let c ← skipNull c
    return (none, c)
  else if c.peek? = some 't' then do
    let c ← liftSyntax (c.spell ['t', 'r', 'u', 'e'])
    return (some true, c)
  else if c.peek? = some 'f' then do
    let c ← liftSyntax (c.spell ['f', 'a', 'l', 's', 'e'])
    return (some false, c)
  else mismatchAt c .flag

/-- The place at which a repeated member is reported: where the member's value is announced, or
after the end of the object if that comes instead. -/
def repetitionPlace (c : Cursor) : Position :=
  let c := c.skipBlanks
  if c.peek? = some '\x7d' then c.advance.position else c.position

/-- The cursor after the end of an array of which all members have been read. -/
def endOfArray (c : Cursor) : Except TextError Cursor :=
  let c := c.skipBlanks
  if c.rest.isEmpty then liftSyntax (c.fail .endInArray)
  else if c.peek? = some ']' then .ok c.advance
  else if c.peek? = some ',' then
    let c := c.advance.skipBlanks
    liftSyntax (c.failAhead (if c.peek? = some ']' then .trailingComma else .trailingCharacters))
  else liftSyntax (c.failAhead .trailingCharacters)

mutual

/-- The descriptor at a cursor and the cursor after it, when `levels` more containers may be
opened. -/
def descriptorAt : Nat → Nat → Cursor → Except TextError (Descriptor × Cursor)
  | 0, _, c => liftSyntax (c.fail .endInValue)
  | fuel + 1, levels, c =>
    let c := c.skipBlanks
    if c.peek? = some '[' then
      match levels with
      | 0 => liftSyntax (c.failAhead .tooDeep)
      | levels + 1 => do
        let (d, c) ← itemsAt fuel levels true Member.all {} c.advance
        return (d.descriptor, c)
    else if c.peek? = some '\x7b' then
      match levels with
      | 0 => liftSyntax (c.failAhead .tooDeep)
      | levels + 1 => do
        let (d, c) ← membersAt fuel levels true [] {} c.advance
        return (d.descriptor, c)
    else mismatchAt c .description

/-- What the rest of an array without names says, added to what is known. -/
def itemsAt : Nat → Nat → Bool → List Member → Description → Cursor →
    Except TextError (Description × Cursor)
  | 0, _, _, _, _, c => liftSyntax (c.fail .endInArray)
  | _ + 1, _, _, [], d, c => do
    let c ← endOfArray c
    return (d, c)
  | fuel + 1, levels, first, member :: members, d, c => do
    match ← liftSyntax (c.nextItem first) with
    | .inr c => return (d, c)
    | .inl c =>
      let (d, c) ← memberAt fuel levels member d c
      itemsAt fuel levels false members d c

/-- What the rest of an object says, added to what is known; `seen` are the members before. -/
def membersAt : Nat → Nat → Bool → List Member → Description → Cursor →
    Except TextError (Description × Cursor)
  | 0, _, _, _, _, c => liftSyntax (c.fail .endInObject)
  | fuel + 1, levels, first, seen, d, c => do
    match ← liftSyntax (c.nextName first) with
    | .inr c => return (d, c)
    | .inl c =>
      let (name, c) ← liftSyntax c.string
      match Member.ofName? name with
      | none =>
        let c ← liftSyntax c.colon
        let c ← liftSyntax c.skipValue
        membersAt fuel levels false seen d c
      | some member =>
        if member ∈ seen then .error (.rejected (.repeated member) (repetitionPlace c))
        else
          let c ← liftSyntax c.colon
          let (d, c) ← memberAt fuel levels member d c
          membersAt fuel levels false (member :: seen) d c

/-- What one member says, added to what is known. -/
def memberAt : Nat → Nat → Member → Description → Cursor →
    Except TextError (Description × Cursor)
  | 0, _, _, _, c => liftSyntax (c.fail .endInValue)
  | fuel + 1, levels, member, d, c =>
    match member with
    | .type => do
      let (value, c) ← liftSyntax (c.valueWithin .text c.steps levels)
      return ({ d with tag := text? value }, c)
    | .format => do
      let (format, c) ← textAt c
      return ({ d with format := format }, c)
    | .isImplied => do
      let (implied, c) ← flagAt c
      return ({ d with implied := implied }, c)
    | .items =>
      if startsNull c then do
        let c ← skipNull c
        return ({ d with items := none }, c)
      else do
        let (item, c) ← descriptorAt fuel levels c
        return ({ d with items := some item }, c)
    | .properties => do
      let (fields, c) ← optionalFieldsAt fuel levels c
      return ({ d with properties := fields }, c)
    | .fields => do
      let (fields, c) ← optionalFieldsAt fuel levels c
      return ({ d with fields := fields }, c)

/-- The fields at a cursor, if there are any at all. -/
def optionalFieldsAt : Nat → Nat → Cursor → Except TextError (Option Fields × Cursor)
  | 0, _, c => liftSyntax (c.fail .endInValue)
  | fuel + 1, levels, c =>
    let c := c.skipBlanks
    if c.peek? = some 'n' then do
      let c ← skipNull c
      return (none, c)
    else if c.peek? = some '\x7b' then
      match levels with
      | 0 => liftSyntax (c.failAhead .tooDeep)
      | levels + 1 => do
        let (fields, c) ← fieldsAt fuel levels true [] c.advance
        return (some fields, c)
    else mismatchAt c .fields

/-- The fields in the rest of an object, put after those known. -/
def fieldsAt : Nat → Nat → Bool → Fields → Cursor → Except TextError (Fields × Cursor)
  | 0, _, _, _, c => liftSyntax (c.fail .endInObject)
  | fuel + 1, levels, first, fields, c => do
    match ← liftSyntax (c.nextName first) with
    | .inr c => return (fields, c)
    | .inl c =>
      let (name, c) ← liftSyntax c.string
      let c ← liftSyntax c.colon
      let (field, c) ← descriptorAt fuel levels c
      fieldsAt fuel levels false (Ordered.put Prod.fst (name, field) fields) c

end

/-- The descriptor that a text describes. -/
def Descriptor.ofText (text : String) : Except TextError Descriptor := do
  let start := Cursor.start (Text.symbols text)
  let (d, c) ← descriptorAt (2 * start.steps) greatestNesting start
  liftSyntax c.finish
  return d

end ValidatorGen.Schema
