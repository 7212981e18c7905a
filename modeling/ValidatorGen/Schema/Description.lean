import ValidatorGen.Schema.Encode
import ValidatorGen.Text.Quoted

/-!
# Descriptions of fields

A description is what the members of a field say, whatever its kind. It is turned into a descriptor
by looking at the tag: only the members that belong to the kind count, and `properties` comes before
`fields`. A description that cannot be read is rejected for a stated reason.

## Main definitions

* `Description` — what the members of a field say
* `Description.descriptor` — the descriptor described
* `Rejection` — why a description cannot be read
-/

namespace ValidatorGen.Schema

open Json

/-- What the members of a field say. -/
structure Description where
  /-- The tag of the kind. -/
  tag : Option String := none
  /-- The tag of the format of strings. -/
  format : Option String := none
  /-- Whether the field is always there. -/
  implied : Option Bool := none
  /-- The items of arrays. -/
  items : Option Descriptor := none
  /-- The fields of objects. -/
  properties : Option Fields := none
  /-- The fields of objects, under another name. -/
  fields : Option Fields := none

/-- The kind described. A tag that is not one of the five names something that is not understood. -/
def Description.kind (d : Description) : Kind :=
  if d.tag = some "string" then .string (d.format.map Format.ofTag)
  else if d.tag = some "number" then .number
  else if d.tag = some "boolean" then .boolean
  else if d.tag = some "array" then
    match d.items with
    | some item => .array item
    | none => .untypedArray
  else if d.tag = some "object" then
    match d.properties.or d.fields with
    | some fields => .object fields
    | none => .openObject
  else .unknown d.tag

/-- The descriptor described. -/
def Description.descriptor (d : Description) : Descriptor :=
  .mk d.kind (d.implied = some true)

/-- What stands where something else should. -/
inductive Found where
  /-- The value that stands for nothing. -/
  | null
  /-- A truth value. -/
  | bool (b : Bool)
  /-- A number. -/
  | number (n : Number)
  /-- A text. -/
  | string (s : String)
  /-- A sequence. -/
  | sequence
  /-- Named values. -/
  | mapping
deriving DecidableEq

/-- What a value is when it stands in the wrong place. -/
def Found.ofValue : Value → Found
  | .null => .null
  | .bool b => .bool b
  | .number n => .number n
  | .string s => .string s
  | .array _ => .sequence
  | .object _ => .mapping

/-- What was found, in words. -/
def Found.message : Found → String
  | .null => "null"
  | .bool b => "boolean `" ++ toString b ++ "`"
  | .number (.integer n) => "integer `" ++ toString n ++ "`"
  | .number (.float negative m) => "floating point `" ++ floatText negative m ++ "`"
  | .string s => "string " ++ Text.quoted s
  | .sequence => "sequence"
  | .mapping => "map"

/-- What should have been there. -/
inductive Expected where
  /-- A description of a field. -/
  | description
  /-- A text. -/
  | text
  /-- A truth value. -/
  | flag
  /-- Fields by their names. -/
  | fields
deriving DecidableEq

/-- What should have been there, in words. -/
def Expected.message : Expected → String
  | .description => "struct WireProperty"
  | .text => "a string"
  | .flag => "a boolean"
  | .fields => "a map"

/-- Why a description cannot be read. -/
inductive Rejection where
  /-- Something stands where something else should. -/
  | mismatch (found : Found) (expected : Expected)
  /-- A description without names has more members than there are. -/
  | tooLong (length : Nat)
  /-- A member comes twice. -/
  | repeated (member : Member)
deriving DecidableEq

/-- The reason, in words. -/
def Rejection.message : Rejection → String
  | .mismatch found expected =>
    "invalid type: " ++ found.message ++ ", expected " ++ expected.message
  | .tooLong length =>
    "invalid length " ++ toString length ++ ", expected fewer elements in array"
  | .repeated member => "duplicate field `" ++ member.name ++ "`"

end ValidatorGen.Schema
