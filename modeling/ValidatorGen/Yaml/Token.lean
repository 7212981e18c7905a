import ValidatorGen.Yaml.Scalar.Basic

/-!
# YAML tokens

A token is the smallest part of a text that means something by itself. The beginnings and ends of
collections that are laid out in lines are tokens too, although no character stands for them.

## Main definitions

* `Tag` — a tag as it is written
* `Token.Kind`, `Token` — a token and the places it stands between
-/

namespace ValidatorGen.Yaml

/-- A tag as it is written. -/
structure Tag where
  /-- The handle: empty, or a name for the beginning of the tag. -/
  handle : List Char
  /-- The octets after the handle. -/
  suffix : List UInt8
deriving DecidableEq

/-- What a token is. -/
inductive Token.Kind where
  /-- A directive with the version. -/
  | version (major minor : Nat)
  /-- A directive that gives a handle its meaning. -/
  | handle (name : List Char) (meaning : List UInt8)
  /-- The marker before a document. -/
  | documentStart
  /-- The marker after a document. -/
  | documentEnd
  /-- The beginning of a sequence laid out in lines. -/
  | blockSequence
  /-- The beginning of a mapping laid out in lines. -/
  | blockMapping
  /-- The end of a collection laid out in lines. -/
  | blockEnd
  /-- A hyphen before an item. -/
  | entry
  /-- An opening bracket. -/
  | openSequence
  /-- A closing bracket. -/
  | closeSequence
  /-- An opening brace. -/
  | openMapping
  /-- A closing brace. -/
  | closeMapping
  /-- A comma. -/
  | comma
  /-- What comes before a key. -/
  | key
  /-- What comes before a value. -/
  | value
  /-- A name for the node that follows. -/
  | anchor (name : List Char)
  /-- The name of a node that came before. -/
  | reference (name : List Char)
  /-- The type of the node that follows. -/
  | tag (tag : Tag)
  /-- A scalar. -/
  | scalar (style : Style) (text : List Char)
deriving DecidableEq

/-- A token. -/
structure Token where
  /-- What it is. -/
  kind : Token.Kind
  /-- Where it begins. -/
  start : Mark
  /-- Where the text goes on after it. -/
  stop : Mark
deriving DecidableEq

end ValidatorGen.Yaml
