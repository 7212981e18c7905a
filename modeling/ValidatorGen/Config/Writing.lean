import ValidatorGen.Config.Reading
import ValidatorGen.Yaml.Scalar.Written

/-!
# Writing configurations

All five settings are written, one after the other, also those that are at their defaults.

## Main definitions

* `Config.text` — the configuration as a file holds it
-/

namespace ValidatorGen

open Yaml

namespace Config

/-- A line with a key and its value. -/
def keyLine (field : Field) (value : List Char) : List Char :=
  field.name.toList ++ ':' :: ' ' :: value

/-- The lines of a key with a sequence of texts. -/
def listLines (field : Field) (texts : List String) : List Char :=
  if texts.isEmpty then keyLine field ['[', ']', '\n']
  else
    field.name.toList ++ [':', '\n'] ++
      texts.flatMap fun s => '-' :: ' ' :: writtenLine s.toList

/-- The configuration as a file holds it. -/
def text (c : Config) : String :=
  String.ofList <|
    keyLine .output (writtenLine c.output.toList) ++
    keyLine .unionName (writtenLine c.unionName.toList) ++
    keyLine .maxDepth (Nat.toDigits 10 c.maxDepth ++ ['\n']) ++
    listLines .included c.included ++
    listLines .excluded c.excluded

end Config

end ValidatorGen
