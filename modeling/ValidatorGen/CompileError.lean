import ValidatorGen.Json.Cursor
import ValidatorGen.Files.Path
import ValidatorGen.Schema.Description
import ValidatorGen.Validator.Place

/-!
# Why a document is not compiled

A document is refused if it cannot be read, if its names do not become distinct identifiers, or if
its descriptors stand too deep inside one another.

## Main definitions

* `Malformation` — why a document cannot be read
* `CompileError` — why a document is not compiled
* `CompileError.message` — the reason, in words
-/

namespace ValidatorGen

open Schema Validator

/-- Why a document, or an object type in it, cannot be read. -/
inductive Malformation where
  /-- The text is not JSON. -/
  | notJson (error : Json.Error)
  /-- The document is not an object. The kind of value that it is has the given name. -/
  | notDocument (noun : String)
  /-- The object type is not an object. -/
  | notObjectType (noun : String)
  /-- The fields of the object type are not an object. -/
  | notFields (noun : String)
  /-- The object type has no fields member. -/
  | noFields
  /-- A field cannot be read. -/
  | badField (field : String) (rejection : Rejection)
  /-- The name of a file is no text. -/
  | badFileName (path : Files.Path)
deriving DecidableEq

/-- The reason, in words. -/
def Malformation.reason : Malformation → String
  | .notJson error => error.message
  | .notDocument noun => "expected a mapping of object types, found " ++ noun
  | .notObjectType noun => "expected an object type description, found " ++ noun
  | .notFields noun => "`properties` must be a mapping, found " ++ noun
  | .noFields => "missing `properties` mapping"
  | .badField field rejection => "property `" ++ field ++ "`: " ++ rejection.message
  | .badFileName path => "file name '" ++ path.display ++ "' is not valid UTF-8"

/-- Why a document is not compiled. -/
inductive CompileError where
  /-- Two names become one identifier. -/
  | nameCollision (identifier first second : String)
  /-- Nothing is left of a name. -/
  | emptyIdentifier (name : String)
  /-- A name does not become an identifier. -/
  | invalidIdentifier (name identifier : String)
  /-- A descriptor stands deeper than allowed. -/
  | depthExceeded (place : Place) (limit : Nat)
  /-- The document cannot be read; the object type is given if the reason lies in one. -/
  | malformed (objectType : Option String) (cause : Malformation)
deriving DecidableEq

/-- The reason, in words. -/
def CompileError.message : CompileError → String
  | .nameCollision identifier first second =>
    "object types `" ++ first ++ "` and `" ++ second ++ "` both map to identifier `" ++
      identifier ++ "`"
  | .emptyIdentifier name =>
    "object type name `" ++ name ++ "` leaves an empty identifier after sanitization"
  | .invalidIdentifier name identifier =>
    "object type name `" ++ name ++ "` sanitizes to invalid identifier `" ++ identifier ++ "`"
  | .depthExceeded place limit =>
    "nesting depth exceeds " ++ toString limit ++ " at `" ++ place.text ++ "`"
  | .malformed objectType cause =>
    "malformed schema document" ++
      (match objectType with
        | some name => " (object type `" ++ name ++ "`)"
        | none => "") ++ ": " ++ cause.reason

end ValidatorGen
