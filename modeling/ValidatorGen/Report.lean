import ValidatorGen.Digest.Sha256
import ValidatorGen.Validator.Module

/-!
# Reports on written modules

## Main definitions

* `Report` — where a module goes, its size, its digest and its object types
* `Report.text?` — the report as indented JSON
-/

namespace ValidatorGen

open Validator

/-- A summary of a module that is written to a file. -/
structure Report where
  /-- Where the module goes. -/
  output : Files.Path
  /-- The number of its bytes. -/
  bytes : Nat
  /-- Its digest in hexadecimal digits. -/
  sha256 : String
  /-- The names of its object types. -/
  types : List String
deriving DecidableEq

namespace Report

/-- The report on a module that goes to `output`. -/
def ofModule (output : Files.Path) (m : Module) : Report :=
  let content := Text.encode m.text
  ⟨output, content.length, Digest.hexDigest content, m.typeNames⟩

/-- The report as a JSON value, if its path can be written as a text. -/
def value? (r : Report) : Option Json.Value :=
  (Text.decode? r.output.bytes).map fun output =>
    .object [("output", .string output), ("bytes", .number (.integer r.bytes)),
      ("sha256", .string r.sha256), ("object_types", .array (r.types.map .string))]

/-- The report as indented JSON. -/
def text? (r : Report) : Option String := r.value?.map (·.indented)

/-- What is wrong with a report that has no text. -/
def problem : String := "path contains invalid UTF-8 characters"

end Report

end ValidatorGen
