import ValidatorGen.Json.Quoted
import ValidatorGen.Text.Blank
import ValidatorGen.Text.IdentifierContinue
import ValidatorGen.Text.IdentifierStart

/-!
# Names in the generated module

The name of an object type becomes an identifier by leaving out white space and hyphens. A field is
written as a bare key if its name is an identifier, and as a string literal otherwise.

## Main definitions

* `safeIdentifier` — a name without white space and hyphens
* `isIdentifier` — whether a text may stand as an identifier
* `propertyKey` — a field name as a key of an object literal
-/

namespace ValidatorGen.Naming

open Text

/-- Whether a character is left out of identifiers. -/
def isSeparator (c : Char) : Bool := isBlank c || c = '-'

/-- A name without white space and hyphens. -/
def safeIdentifier (name : String) : String :=
  String.ofList (name.toList.filter fun c => !isSeparator c)

/-- Whether `c` may begin an identifier of the generated module. -/
def mayBegin (c : Char) : Bool := startsIdentifier c || c = '_' || c = '$'

/-- Whether `c` may stand in an identifier of the generated module after its first character. -/
def mayContinue (c : Char) : Bool := continuesIdentifier c || c = '$'

/-- Whether a text may stand as an identifier. -/
def isIdentifier (candidate : String) : Bool :=
  match candidate.toList with
  | [] => false
  | c :: cs => mayBegin c && cs.all mayContinue

/-- A field name as a key of an object literal. -/
def propertyKey (name : String) : String :=
  if isIdentifier name then name else Json.quoted name

end ValidatorGen.Naming
