import ValidatorGen.Schema.Document
import ValidatorGen.Text.Lowercase
import ValidatorGen.Validator.Resolve

/-!
# Validator modules

A module imports the `z` object, declares one constant for each object type, and ends with a union
of string literals: the names of the types in lower case, each literal once. Before anything is
compiled the names are checked; of several things that are wrong with them the first is reported.

## Main definitions

* `Module` — the declarations and the union
* `Module.text` — the module as it is written
* `namingProblem?` — the first thing that is wrong with the names of a document
* `emit` — the module of a document
-/

namespace ValidatorGen.Validator

open Schema Naming

/-- A constant that holds the validator of an object type. -/
structure Declaration where
  /-- The name of the object type as an identifier. -/
  identifier : String
  /-- The validator. -/
  validator : Expr

/-- What follows the name of an object type in the name of its constant. -/
def declarationSuffix : String := "Schema"

/-- A declaration as it is written. -/
def Declaration.text (d : Declaration) : String :=
  "export const " ++ d.identifier ++ declarationSuffix ++ " = " ++ d.validator.text ++ ";\n"

/-- The name of a union and its members. -/
structure Union where
  /-- The name of the union. -/
  name : String
  /-- The members, each once. -/
  members : List String

/-- The union of the names in lower case. -/
def Union.ofNames (name : String) (names : List String) : Union where
  name := name
  members := Ordered.collect id (names.map Text.lowercase)

/-- A union as it is written. -/
def Union.text (u : Union) : String :=
  let body := if u.members.isEmpty then "never" else " | ".intercalate (u.members.map Json.quoted)
  "export type " ++ u.name ++ " = " ++ body ++ ";\n"

/-- A compiled document. -/
structure Module where
  /-- The names of the object types. -/
  typeNames : List String
  /-- Their declarations. -/
  declarations : List Declaration
  /-- The union of their names. -/
  union : Union

/-- The statement that imports the constructors of validators. -/
def importText : String := "import \x7b z \x7d from 'zod';\n"

/-- The parts of a module, between which one line is left empty. -/
def Module.blocks (m : Module) : List String :=
  importText :: m.declarations.map Declaration.text ++ [m.union.text]

/-- A module as it is written. -/
def Module.text (m : Module) : String := "\n".intercalate m.blocks

/-- The first thing that is wrong with names, when the names before them have become the given
identifiers. -/
def namingProblemAfter? (earlier : List (String × String)) : List String → Option CompileError
  | [] => none
  | name :: names =>
    let identifier := safeIdentifier name
    if identifier.isEmpty then some (.emptyIdentifier name)
    else if !isIdentifier identifier then some (.invalidIdentifier name identifier)
    else
      match earlier.find? fun pair => pair.1 = identifier with
      | some (_, first) => some (.nameCollision identifier first name)
      | none => namingProblemAfter? (earlier ++ [(identifier, name)]) names

/-- The first thing that is wrong with names. -/
def namingProblem? (names : List String) : Option CompileError := namingProblemAfter? [] names

/-- What may be chosen about a module. -/
structure Options where
  /-- How deep descriptors may stand inside one another. -/
  maxDepth : Nat := defaultDepth
  /-- The name of the union. -/
  unionName : String := "RecordType"
deriving DecidableEq

/-- The declaration of an object type. -/
def declare (limit : Nat) (t : ObjectType) : Logged CompileError Declaration := do
  let validator ← compileFields limit ⟨if t.name.isEmpty then none else some t.name, []⟩ t.fields
  Logged.report (.compiledType t.name t.fields.length)
  return ⟨safeIdentifier t.name, validator⟩

/-- The declarations of object types, in order. -/
def declareAll (limit : Nat) : List ObjectType → Logged CompileError (List Declaration)
  | [] => return []
  | t :: types => do
    let declaration ← declare limit t
    let declarations ← declareAll limit types
    return declaration :: declarations

/-- The module of a document. -/
def emit (options : Options) (d : Document) : Logged CompileError Module :=
  if !isIdentifier options.unionName then
    .fail (.invalidIdentifier options.unionName options.unionName)
  else
    match namingProblem? d.names with
    | some problem => .fail problem
    | none => do
      let declarations ← declareAll options.maxDepth d.types
      return ⟨d.names, declarations, .ofNames options.unionName d.names⟩

end ValidatorGen.Validator
