import ValidatorGen.Proofs.Validator.Visits

/-!
# What a validator shows of a descriptor

Some descriptors have the same validator: a format other than that of dates has no effect, an array
of anything is an array of required unknowns, an object of which no field is described is one
without fields, and the tag of a kind that is not understood is forgotten. Erasing takes away what
has no effect, at every level.

## Main definitions

* `Descriptor.erase` — a descriptor without what has no effect on its validator

## Main results

* `Descriptor.validator_erase` — erasing keeps the validator
-/

namespace ValidatorGen.Schema

mutual

/-- The descriptor without what has no effect on its validator. -/
def Descriptor.erase : Descriptor → Descriptor
  | .mk kind required => .mk kind.erase required

/-- The kind without what has no effect on its validator. -/
def Kind.erase : Kind → Kind
  | .string (some .dateTime) => .string (some .dateTime)
  | .string _ => .string none
  | .number => .number
  | .boolean => .boolean
  | .untypedArray => .array (.mk (.unknown none) true)
  | .array item => .array item.erase
  | .openObject => .object []
  | .object fields => .object (eraseFields fields)
  | .unknown _ => .unknown none

/-- The fields, in the same order and under the same names, each erased. -/
def eraseFields : Fields → Fields
  | [] => []
  | (name, field) :: fields => (name, field.erase) :: eraseFields fields

end

mutual

/-- Erasing keeps the validator of a descriptor. -/
theorem Descriptor.validator_erase : ∀ d : Descriptor, d.erase.validator = d.validator
  | .mk kind required => by
    rw [Descriptor.erase, Descriptor.validator, Descriptor.validator, kind.validator_erase]

/-- Erasing keeps the validator of a kind. -/
theorem Kind.validator_erase : ∀ kind : Kind, kind.erase.validator = kind.validator
  | .string (some .dateTime) | .string (some (.other _)) | .string none | .number | .boolean
  | .untypedArray | .openObject | .unknown _ => rfl
  | .array item => by
    rw [Kind.erase, Kind.validator, Kind.validator, item.validator_erase]
  | .object fields => by
    rw [Kind.erase, Kind.validator, Kind.validator, fieldValidators_erase fields]

/-- Erasing keeps the validators of fields. -/
theorem fieldValidators_erase :
    ∀ fields : Fields, fieldValidators (eraseFields fields) = fieldValidators fields
  | [] => rfl
  | (name, field) :: fields => by
    rw [eraseFields, fieldValidators, fieldValidators, field.validator_erase,
      fieldValidators_erase fields]

end

end ValidatorGen.Schema
