import ValidatorGen.Decimal.Shortest

/-!
# JSON values

A value keeps the order of the members of its objects. Numbers are integers of 64 bits where the
text allows it, and floating-point numbers otherwise.

## Main definitions

* `Number`, `Value` — JSON data
* `Value.noun` — what kind of value it is, with its article
-/

namespace ValidatorGen.Json

open Decimal

/-- A number. -/
inductive Number where
  /-- An integer between the least signed and the greatest unsigned number of 64 bits. -/
  | integer (n : Int)
  /-- Any other finite number. -/
  | float (negative : Bool) (magnitude : Magnitude)
deriving DecidableEq

/-- A JSON value. The members of an object stand in order, and no name occurs twice among the
members of an object that was read. -/
inductive Value where
  /-- The value that stands for nothing. -/
  | null
  /-- A truth value. -/
  | bool (b : Bool)
  /-- A number. -/
  | number (n : Number)
  /-- A text. -/
  | string (s : String)
  /-- A sequence of values. -/
  | array (items : List Value)
  /-- Named values. -/
  | object (members : List (String × Value))

/-- A floating-point number in the fewest digits, with an exponent if the first digit stands beyond
the sixteenth place before the point or the fifth place after it. Of two decimals that are equally
near, the even one is written. -/
def floatText (negative : Bool) (m : Magnitude) : String :=
  let s := shortest .even m
  let body := if -5 ≤ s.exponent ∧ s.exponent ≤ 15 then s.positional else s.exponential
  String.ofList (if negative then '-' :: body else body)

/-- The number as JSON writes it. -/
def Number.text : Number → String
  | .integer n => toString n
  | .float negative m => floatText negative m

/-- What kind of value it is, with its article. -/
def Value.noun : Value → String
  | .null => "null"
  | .bool _ => "a boolean"
  | .number _ => "a number"
  | .string _ => "a string"
  | .array _ => "an array"
  | .object _ => "an object"

end ValidatorGen.Json
