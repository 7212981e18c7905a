/-!
# Places inside object types

A place is reached from an object type, or from a field taken by itself, by labels: the names of
fields, and for the items of an array the label of the array followed by `Item`.

## Main definitions

* `Place` — labels that lead to a descriptor
* `Place.enter` — one label further
* `Place.text` — the place as messages show it
-/

namespace ValidatorGen.Validator

/-- The labels that lead to a descriptor. -/
structure Place where
  /-- The object type in which the labels begin, unless they begin in a field taken by itself. -/
  root : Option String
  /-- The labels, from the outermost on. -/
  labels : List String
deriving DecidableEq

/-- The place one label further. -/
def Place.enter (p : Place) (label : String) : Place := { p with labels := p.labels ++ [label] }

/-- The place as messages show it. -/
def Place.text (p : Place) : String := ".".intercalate (p.root.toList ++ p.labels)

/-- The label of the items of an array with the given label. -/
def itemLabel (label : String) : String := label ++ "Item"

end ValidatorGen.Validator
