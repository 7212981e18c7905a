import ValidatorGen.Yaml.Error

/-!
# Scalars

A scalar is a piece of text. How it is written says nothing about its characters, but a scalar
without quotes may stand for something other than its text.

## Main definitions

* `Style` — how a scalar is written
* `prepend` — a scalar with characters put before it
-/

namespace ValidatorGen.Yaml

/-- How a scalar is written. -/
inductive Style where
  /-- Without quotes. -/
  | plain
  /-- Between single quotes. -/
  | single
  /-- Between double quotes. -/
  | double
  /-- In lines of its own. -/
  | literal
  /-- In lines of its own that are joined. -/
  | folded
deriving DecidableEq

/-- A scalar with characters put before it. -/
def prepend (cs : List Char) (x : Except Error (List Char × Cursor)) :
    Except Error (List Char × Cursor) :=
  x.map fun (text, rest) => (cs ++ text, rest)

end ValidatorGen.Yaml
