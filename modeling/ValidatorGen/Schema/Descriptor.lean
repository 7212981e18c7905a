import ValidatorGen.Ordered

/-!
# Descriptors of fields

A descriptor says what values a field of an object may hold, and whether the field is always there.
Arrays and objects contain further descriptors. Fields are kept in the order in which they were
described.

## Main definitions

* `Format`, `Kind`, `Descriptor` — descriptors and their parts
* `Fields` — the described fields of an object
* `ObjectType` — a named object type
* `Descriptor.nesting` — how many descriptors stand inside one another
* `Descriptor.DistinctFields` — no object has two fields of one name
-/

namespace ValidatorGen.Schema

/-- A refinement of strings. -/
inductive Format where
  /-- A date with a time of day. -/
  | dateTime
  /-- Any other refinement. It is carried along and has no effect. -/
  | other (tag : String)
deriving DecidableEq

/-- The format that a tag names. -/
def Format.ofTag (tag : String) : Format :=
  if tag = "date-time" then .dateTime else .other tag

/-- The tag that names a format. -/
def Format.tag : Format → String
  | .dateTime => "date-time"
  | .other tag => tag

mutual

/-- What values a field may hold, and whether it is always there. -/
inductive Descriptor where
  /-- A descriptor of the given kind. -/
  | mk (kind : Kind) (required : Bool)

/-- What values a field may hold. -/
inductive Kind where
  /-- Strings, perhaps of a certain format. -/
  | string (format : Option Format)
  /-- Numbers. -/
  | number
  /-- Truth values. -/
  | boolean
  /-- Arrays of anything. -/
  | untypedArray
  /-- Arrays of items that the descriptor allows. -/
  | array (item : Descriptor)
  /-- Objects of which no field is described. -/
  | openObject
  /-- Objects with the described fields. -/
  | object (fields : List (String × Descriptor))
  /-- Something that is not understood, with its tag if it has one. -/
  | unknown (tag : Option String)

end

/-- The described fields of an object, in order. -/
abbrev Fields := List (String × Descriptor)

/-- The tag that names a kind, if there is one. -/
def Kind.tag : Kind → Option String
  | .string _ => some "string"
  | .number => some "number"
  | .boolean => some "boolean"
  | .untypedArray | .array _ => some "array"
  | .openObject | .object _ => some "object"
  | .unknown tag => tag

/-- What values the field may hold. -/
def Descriptor.kind : Descriptor → Kind
  | .mk kind _ => kind

/-- Whether the field is always there. -/
def Descriptor.required : Descriptor → Bool
  | .mk _ required => required

/-- The same descriptor of a field that is always there. -/
def Descriptor.require : Descriptor → Descriptor
  | .mk kind _ => .mk kind true

mutual

/-- How many descriptors stand inside one another at most. -/
def Descriptor.nesting : Descriptor → Nat
  | .mk kind _ => kind.nesting

/-- How many descriptors stand inside one another at most, the one of this kind included. -/
def Kind.nesting : Kind → Nat
  | .array item => 1 + item.nesting
  | .object fields => 1 + fieldsNesting fields
  | .string _ | .number | .boolean | .untypedArray | .openObject | .unknown _ => 1

/-- How many descriptors stand inside one another at most among fields. -/
def fieldsNesting : Fields → Nat
  | [] => 0
  | (_, field) :: fields => max field.nesting (fieldsNesting fields)

end

/-- A kind stands inside itself. -/
theorem Kind.nesting_pos (kind : Kind) : 0 < kind.nesting := by
  cases kind <;> rw [Kind.nesting] <;> omega

mutual

/-- No object in the descriptor has two fields of one name. -/
def Descriptor.DistinctFields : Descriptor → Prop
  | .mk kind _ => kind.DistinctFields

/-- No object in the kind has two fields of one name. -/
def Kind.DistinctFields : Kind → Prop
  | .array item => item.DistinctFields
  | .object fields => (fields.map Prod.fst).Nodup ∧ FieldsDistinct fields
  | .string _ | .number | .boolean | .untypedArray | .openObject | .unknown _ => True

/-- No object inside the fields has two fields of one name. -/
def FieldsDistinct : Fields → Prop
  | [] => True
  | (_, field) :: fields => field.DistinctFields ∧ FieldsDistinct fields

end

mutual

/-- Whether two descriptors are the same. -/
def Descriptor.decEq : (a b : Descriptor) → Decidable (a = b)
  | .mk kind required, .mk kind' required' =>
    match Kind.decEq kind kind' with
    | isTrue h =>
      if h' : required = required' then isTrue (by rw [h, h']) else isFalse (by simp [h'])
    | isFalse h => isFalse (by simp [h])

/-- Whether two kinds are the same. -/
def Kind.decEq : (a b : Kind) → Decidable (a = b)
  | .string format, .string format' =>
    if h : format = format' then isTrue (by rw [h]) else isFalse (by simp [h])
  | .unknown tag, .unknown tag' =>
    if h : tag = tag' then isTrue (by rw [h]) else isFalse (by simp [h])
  | .array item, .array item' =>
    match Descriptor.decEq item item' with
    | isTrue h => isTrue (by rw [h])
    | isFalse h => isFalse (by simp [h])
  | .object fields, .object fields' =>
    match fieldsDecEq fields fields' with
    | isTrue h => isTrue (by rw [h])
    | isFalse h => isFalse (by simp [h])
  | .number, b => by cases b <;> first | exact isTrue rfl | exact isFalse (by simp)
  | .boolean, b => by cases b <;> first | exact isTrue rfl | exact isFalse (by simp)
  | .untypedArray, b => by cases b <;> first | exact isTrue rfl | exact isFalse (by simp)
  | .openObject, b => by cases b <;> first | exact isTrue rfl | exact isFalse (by simp)
  | .string _, .number | .string _, .boolean | .string _, .untypedArray | .string _, .array _
  | .string _, .openObject | .string _, .object _ | .string _, .unknown _
  | .unknown _, .string _ | .unknown _, .number | .unknown _, .boolean | .unknown _, .untypedArray
  | .unknown _, .array _ | .unknown _, .openObject | .unknown _, .object _
  | .array _, .string _ | .array _, .number | .array _, .boolean | .array _, .untypedArray
  | .array _, .openObject | .array _, .object _ | .array _, .unknown _
  | .object _, .string _ | .object _, .number | .object _, .boolean | .object _, .untypedArray
  | .object _, .array _ | .object _, .openObject | .object _, .unknown _ => isFalse (by simp)

/-- Whether two lists of fields are the same. -/
def fieldsDecEq : (a b : Fields) → Decidable (a = b)
  | [], [] => isTrue rfl
  | [], _ :: _ => isFalse (by simp)
  | _ :: _, [] => isFalse (by simp)
  | (name, field) :: fields, (name', field') :: fields' =>
    if h : name = name' then
      match Descriptor.decEq field field', fieldsDecEq fields fields' with
      | isTrue h₁, isTrue h₂ => isTrue (by rw [h, h₁, h₂])
      | isFalse h₁, _ => isFalse (by simp [h₁])
      | _, isFalse h₂ => isFalse (by simp [h₂])
    else isFalse (by simp [h])

end

instance : DecidableEq Descriptor := Descriptor.decEq

/-- A named object type. -/
structure ObjectType where
  /-- Its name. -/
  name : String
  /-- Its fields. -/
  fields : Fields
deriving DecidableEq

end ValidatorGen.Schema
