import ValidatorGen.Validator.Module

/-!
# Configurations

A configuration says where the module is written, how it is compiled, and which object types are in
it. An excluded type is left out even if it is included; with nothing included, every type that is
not excluded is in.

## Main definitions

* `Config` — the settings of a run
* `Config.problem?` — the first setting that cannot be worked with
* `Config.allows` — whether an object type is compiled
* `Config.select` — the part of a document that is compiled
-/

namespace ValidatorGen

open Schema Validator

/-- The settings of a run. -/
structure Config where
  /-- Where the module is written. -/
  output : String := "src/lib/schemas.ts"
  /-- The name of the union. -/
  unionName : String := "RecordType"
  /-- How deep descriptors may stand inside one another. -/
  maxDepth : Nat := defaultDepth
  /-- The object types that are compiled; all if there is none. -/
  included : List String := []
  /-- The object types that are left out. -/
  excluded : List String := []
deriving DecidableEq

/-- A setting that cannot be worked with. -/
inductive ConfigProblem where
  /-- No descriptor may stand anywhere. -/
  | noDepth
  /-- The name of the union is no identifier. -/
  | badUnionName (name : String)
deriving DecidableEq

/-- The problem, in words. -/
def ConfigProblem.message : ConfigProblem → String
  | .noDepth => "max_depth must be at least 1"
  | .badUnionName name => "union_name `" ++ name ++ "` is not a valid identifier"

namespace Config

/-- The first setting that cannot be worked with. -/
def problem? (c : Config) : Option ConfigProblem :=
  if c.maxDepth = 0 then some .noDepth
  else if !Naming.isIdentifier c.unionName then some (.badUnionName c.unionName)
  else none

/-- Whether an object type is left out by name. -/
def excludes (c : Config) (name : String) : Bool := c.excluded.any (· = name)

/-- Whether an object type is compiled. -/
def allows (c : Config) (name : String) : Bool :=
  !c.excludes name && (c.included.isEmpty || c.included.any (· = name))

/-- The part of a document that is compiled. Names that are to be included but are not in the
document are reported. -/
def select {ε : Type} (c : Config) (d : Document) : Logged ε Document :=
  ⟨(c.included.filter fun name => !d.contains name).map .absentType, .ok (d.filter c.allows)⟩

/-- What the configuration says about the module. -/
def options (c : Config) : Options := ⟨c.maxDepth, c.unionName⟩

end Config

end ValidatorGen
