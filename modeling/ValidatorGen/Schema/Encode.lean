import ValidatorGen.Json.Printer
import ValidatorGen.Schema.Document

/-!
# Descriptors as JSON

A descriptor is described by an object with the members `type`, `format`, `isImplied`, `items` and
`properties`, in this order. A member that has nothing to say is left out: `isImplied` is there only
if it is true.

## Main definitions

* `Member` — the members that describe a field
* `Descriptor.toValue` — the description of a field
* `ObjectType.toValue`, `Document.toValue` — the descriptions of types and documents
-/

namespace ValidatorGen.Schema

open Json

/-- The members that describe a field. -/
inductive Member where
  /-- The tag of the kind. -/
  | type
  /-- The tag of the format of strings. -/
  | format
  /-- Whether the field is always there. -/
  | isImplied
  /-- The items of arrays. -/
  | items
  /-- The fields of objects. -/
  | properties
  /-- The fields of objects, under another name. -/
  | fields
deriving DecidableEq

/-- The name of the member. -/
def Member.name : Member → String
  | .type => "type"
  | .format => "format"
  | .isImplied => "isImplied"
  | .items => "items"
  | .properties => "properties"
  | .fields => "fields"

/-- All members, in the order in which they stand when their names are left out. -/
def Member.all : List Member := [.type, .format, .isImplied, .items, .properties, .fields]

/-- The member with the given name. -/
def Member.ofName? (name : String) : Option Member := Member.all.find? (·.name = name)

/-- A member with a text, if there is one. -/
def textMember (member : Member) : Option String → List (String × Value)
  | some text => [(member.name, .string text)]
  | none => []

/-- The member that marks a field as always there. -/
def impliedMember (required : Bool) : List (String × Value) :=
  if required then [(Member.isImplied.name, .bool true)] else []

mutual

/-- The description of a field. -/
def Descriptor.toValue : Descriptor → Value
  | .mk kind required =>
    .object <| textMember .type kind.tag ++ kind.formatMember ++ impliedMember required ++
      kind.contents

/-- The member with the format of strings. -/
def Kind.formatMember : Kind → List (String × Value)
  | .string format => textMember .format (format.map Format.tag)
  | .number | .boolean | .untypedArray | .array _ | .openObject | .object _ | .unknown _ => []

/-- The member with the descriptors that a kind contains. -/
def Kind.contents : Kind → List (String × Value)
  | .array item => [(Member.items.name, item.toValue)]
  | .object fields => [(Member.properties.name, .object (fieldsToMembers fields))]
  | .string _ | .number | .boolean | .untypedArray | .openObject | .unknown _ => []

/-- The descriptions of fields, under their names. -/
def fieldsToMembers : Fields → List (String × Value)
  | [] => []
  | (name, field) :: fields => (name, field.toValue) :: fieldsToMembers fields

end

/-- The description of an object type, without its name. -/
def ObjectType.toValue (t : ObjectType) : Value :=
  .object [(Member.type.name, .string "object"),
    (Member.properties.name, .object (fieldsToMembers t.fields))]

/-- The description of a document. -/
def Document.toValue (d : Document) : Value :=
  .object (d.types.map fun t => (t.name, t.toValue))

end ValidatorGen.Schema
