import ValidatorGen.CompileError
import ValidatorGen.Json.Reader
import ValidatorGen.Schema.Decode

/-!
# Documents from JSON

A document is an object whose members are object types. The fields of an object type are in its
member `properties`, or in its member `fields` if there is no `properties`.

## Main definitions

* `ObjectType.ofValue` — the object type of a given name that a value describes
* `Document.ofValue` — the document that a value describes
* `Document.ofText` — the document that a text describes
-/

namespace ValidatorGen.Schema

open Json

/-- The value of the first member with the given name. -/
def member? (name : String) (members : List (String × Value)) : Option Value :=
  (Ordered.get? Prod.fst name members).map Prod.snd

/-- The fields that members of an object describe, put after those known. -/
def readFields : List (String × Value) → Fields → Except Malformation Fields
  | [], fields => .ok fields
  | (name, value) :: members, fields =>
    match Descriptor.ofValue value with
    | .ok field => readFields members (Ordered.put Prod.fst (name, field) fields)
    | .error rejection => .error (.badField name rejection)

/-- The fields in the body of an object type. -/
def fieldsOfBody : Value → Except Malformation Fields
  | .object members =>
    match (member? "properties" members).or (member? "fields" members) with
    | some (.object fields) => readFields fields []
    | some other => .error (.notFields other.noun)
    | none => .error .noFields
  | other => .error (.notObjectType other.noun)

/-- The object type of the given name that a value describes. -/
def ObjectType.ofValue (name : String) (body : Value) : Except CompileError ObjectType :=
  match fieldsOfBody body with
  | .ok fields => .ok ⟨name, fields⟩
  | .error cause => .error (.malformed (some name) cause)

/-- The object types that members of an object describe, in order. -/
def readTypes : List (String × Value) → Except CompileError (List ObjectType)
  | [] => .ok []
  | (name, body) :: members => do
    let t ← ObjectType.ofValue name body
    let types ← readTypes members
    return t :: types

/-- The document that a value describes. -/
def Document.ofValue : Value → Except CompileError Document
  | .object members => do
    let types ← readTypes members
    return .ofTypes types
  | other => .error (.malformed none (.notDocument other.noun))

/-- The document that a text describes. -/
def Document.ofText (text : String) : Except CompileError Document :=
  match Value.ofText text with
  | .ok value => Document.ofValue value
  | .error error => .error (.malformed none (.notJson error))

end ValidatorGen.Schema
