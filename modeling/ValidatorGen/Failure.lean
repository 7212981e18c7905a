import ValidatorGen.CompileError
import ValidatorGen.Config.Reading

/-!
# Failures

Whatever goes wrong between the file system and a compiled module is one of a few kinds of failure.

## Main definitions

* `Failure` — what went wrong
* `Failure.message` — the failure in words
-/

namespace ValidatorGen

/-- What went wrong. -/
inductive Failure where
  /-- A file or directory cannot be opened. -/
  | file (error : Files.Error)
  /-- A file is not JSON. -/
  | json (error : Json.Error)
  /-- A file that should be JSON cannot be read. -/
  | unreadableJson (error : Files.Error)
  /-- A file is not a configuration. -/
  | yaml (error : Config.ReadError)
  /-- A file that should be a configuration cannot be read. -/
  | unreadableYaml (error : Files.Error)
  /-- A configuration cannot be written to its file. -/
  | unwrittenYaml (error : Files.Error)
  /-- A document cannot be compiled. -/
  | compile (error : CompileError)
  /-- A configuration cannot be worked with. -/
  | config (problem : ConfigProblem)
  /-- None of the sources is there. -/
  | noSources
  /-- A finished file cannot be moved to its place. -/
  | notMoved (path : Files.Path) (error : Files.Error)
deriving DecidableEq

/-- A problem with a configuration, in words. -/
def invalidConfig (problem : ConfigProblem) : String :=
  "invalid configuration: " ++ problem.message

/-- The failure in words. -/
def Failure.message : Failure → String
  | .file e => "I/O error: " ++ e.message
  | .json e => "JSON error: " ++ e.message
  | .unreadableJson e => "JSON error: " ++ e.message
  | .yaml e => "YAML error: " ++ e.message
  | .unreadableYaml e => "YAML error: " ++ e.message
  | .unwrittenYaml e => "YAML error: " ++ e.message
  | .compile e => e.message
  | .config problem => invalidConfig problem
  | .noSources => "no schema sources available"
  | .notMoved path e =>
    "failed to persist artifact: " ++ path.display ++ ": " ++ e.message

end ValidatorGen
