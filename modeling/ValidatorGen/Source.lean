import ValidatorGen.Files.Path
import ValidatorGen.Text.Quoted

/-!
# Where documents come from

## Main definitions

* `Source` — a file with a whole document, or a directory with a file for each object type
-/

namespace ValidatorGen

/-- Where a document comes from. -/
inductive Source where
  /-- A file with the whole document. -/
  | bundle (path : Files.Path)
  /-- A directory with a file for each object type. -/
  | directory (path : Files.Path)
deriving DecidableEq

/-- The source as messages show it. -/
def Source.text : Source → String
  | .bundle path => "Bundle(" ++ Text.quotedBytes path.bytes ++ ")"
  | .directory path => "Directory(" ++ Text.quotedBytes path.bytes ++ ")"

end ValidatorGen
