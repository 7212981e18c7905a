import ValidatorGen.CompileError
import ValidatorGen.Event
import ValidatorGen.Validator.Expr

/-!
# Validators for descriptors

A descriptor is resolved to a validator, the descriptors inside it first. Descriptors may stand
inside one another up to a limit; the first one beyond it, in the order in which descriptors are
visited, is reported with its place. A kind that is not understood is reported as an event and
accepts anything.

## Main definitions

* `resolveAt` — the validator of a descriptor at a place
* `resolve` — the validator of a descriptor taken by itself
* `compileFields` — the validator of an object with the given fields
-/

namespace ValidatorGen.Validator

open Schema

/-- How deep descriptors may stand inside one another unless something else is asked for. -/
def defaultDepth : Nat := 32

mutual

/-- The validator of a descriptor, which is reached by `label` from `place`. -/
def resolveAt (limit : Nat) (place : Place) (label : String) :
    Descriptor → Logged CompileError Expr
  | .mk kind required =>
    if limit < (place.enter label).labels.length then
      .fail (.depthExceeded (place.enter label) limit)
    else do
      let validator ← resolveKind limit (place.enter label) label kind
      return if required then validator else .optional validator

/-- The validator of a kind at `place`, the last label of which is `label`. -/
def resolveKind (limit : Nat) (place : Place) (label : String) :
    Kind → Logged CompileError Expr
  | .string (some .dateTime) => return .dateTime
  | .string _ => return .string
  | .number => return .number
  | .boolean => return .boolean
  | .untypedArray => return .array .unknown
  | .array item => do
    let validator ← resolveAt limit place (itemLabel label) item
    return .array validator
  | .openObject => return .object []
  | .object fields => do
    let entries ← resolveFields limit place fields
    return .object entries
  | .unknown tag => do
    Logged.report (.unknownKind place tag)
    return .unknown

/-- The validators of the fields of an object at `place`, with their names. -/
def resolveFields (limit : Nat) (place : Place) :
    Fields → Logged CompileError (List (String × Expr))
  | [] => return []
  | (name, field) :: fields => do
    let validator ← resolveAt limit place name field
    let validators ← resolveFields limit place fields
    return (name, validator) :: validators

end

/-- The validator of an object at `place` with the given fields. -/
def compileFields (limit : Nat) (place : Place) (fields : Fields) : Logged CompileError Expr := do
  let entries ← resolveFields limit place fields
  return .object entries

/-- The validator of a descriptor taken by itself. The hint is its label. -/
def resolve (limit : Nat) (descriptor : Descriptor) (hint : String) : Logged CompileError Expr :=
  resolveAt limit ⟨none, []⟩ hint descriptor

end ValidatorGen.Validator
