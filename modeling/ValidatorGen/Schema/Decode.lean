import ValidatorGen.Schema.Description

/-!
# Descriptors from JSON values

A description is an object whose members may come in any order, or an array with the members in
their own order and without names. Members that are not known are passed over, and a tag that is not
a text counts as no tag. Every known member must have its form whatever the kind; the first that has
not is reported. Missing members and members that are null say nothing.

## Main definitions

* `Descriptor.ofValue` — the descriptor that a value describes
* `fieldsOfMembers` — the fields that the members of an object describe
-/

namespace ValidatorGen.Schema

open Json

/-- Rejects a value that stands in the wrong place. -/
def mismatch {α : Type} (value : Value) (expected : Expected) : Except Rejection α :=
  .error (.mismatch (.ofValue value) expected)

/-- Whether a value is the one that stands for nothing. -/
def isNull : Value → Bool
  | .null => true
  | _ => false

/-- The text of a value, if it is one. -/
def text? : Value → Option String
  | .string s => some s
  | _ => none

/-- The text that a value gives, if it gives one at all. -/
def optionalText : Value → Except Rejection (Option String)
  | .null => .ok none
  | .string s => .ok (some s)
  | value => mismatch value .text

/-- The truth value that a value gives, if it gives one at all. -/
def optionalFlag : Value → Except Rejection (Option Bool)
  | .null => .ok none
  | .bool b => .ok (some b)
  | value => mismatch value .flag

/-- What one member says, added to what is known. The value is also given as a description and as
fields, of which at most one is looked at. -/
def describeMember (member : Member) (value : Value) (item : Unit → Except Rejection Descriptor)
    (fields : Unit → Except Rejection (Option Fields)) (d : Description) :
    Except Rejection Description :=
  match member with
  | .type => .ok { d with tag := text? value }
  | .format => do
    let format ← optionalText value
    return { d with format := format }
  | .isImplied => do
    let implied ← optionalFlag value
    return { d with implied := implied }
  | .items =>
    if isNull value then .ok { d with items := none }
    else do
      let item ← item ()
      return { d with items := some item }
  | .properties => do
    let fields ← fields ()
    return { d with properties := fields }
  | .fields => do
    let fields ← fields ()
    return { d with fields := fields }

mutual

/-- The descriptor that a value describes. -/
def Descriptor.ofValue : Value → Except Rejection Descriptor
  | .object members => do
    let d ← describe members {}
    return d.descriptor
  | .array items => do
    let d ← describeInOrder items.length Member.all items {}
    return d.descriptor
  | value => mismatch value .description

/-- What the members of an object say, added to what is known. -/
def describe : List (String × Value) → Description → Except Rejection Description
  | [], d => .ok d
  | (name, value) :: members, d =>
    match Member.ofName? name with
    | some member => do
      let d ← describeMember member value (fun _ => Descriptor.ofValue value)
        (fun _ => optionalFields value) d
      describe members d
    | none => describe members d

/-- What items without names say, added to what is known. There are `length` of them in all. -/
def describeInOrder (length : Nat) :
    List Member → List Value → Description → Except Rejection Description
  | _, [], d => .ok d
  | [], _ :: _, _ => .error (.tooLong length)
  | member :: members, value :: values, d => do
    let d ← describeMember member value (fun _ => Descriptor.ofValue value)
      (fun _ => optionalFields value) d
    describeInOrder length members values d

/-- The fields that a value describes, if it describes any at all. -/
def optionalFields : Value → Except Rejection (Option Fields)
  | .null => .ok none
  | .object members => do
    let fields ← decodeFields members []
    return some fields
  | value => mismatch value .fields

/-- The fields that the members of an object describe, put after those known. -/
def decodeFields : List (String × Value) → Fields → Except Rejection Fields
  | [], fields => .ok fields
  | (name, value) :: members, fields => do
    let field ← Descriptor.ofValue value
    decodeFields members (Ordered.put Prod.fst (name, field) fields)

end

/-- The fields that the members of an object describe. -/
def fieldsOfMembers (members : List (String × Value)) : Except Rejection Fields :=
  decodeFields members []

end ValidatorGen.Schema
