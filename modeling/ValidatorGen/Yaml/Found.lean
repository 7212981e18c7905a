import ValidatorGen.Text.Quoted
import ValidatorGen.Yaml.Document
import ValidatorGen.Yaml.Scalar.Meaning

/-!
# What stands in the wrong place

A node that stands where another kind of node should is described by what it stands for. A tag may
say what a scalar stands for, but the scalar must then have that form.

## Main definitions

* `Found` — what a node stands for
* `ScalarType` — what a tag can say of a scalar
* `foundScalar` — what a scalar stands for
-/

namespace ValidatorGen.Yaml

open Decimal

/-- What stands where something else should. -/
inductive Found where
  /-- A scalar that does not stand for its text. -/
  | meaning (m : Meaning)
  /-- A text. -/
  | text (s : String)
  /-- A sequence. -/
  | sequence
  /-- A mapping. -/
  | mapping
deriving DecidableEq

/-- A number in the fewest digits and without an exponent. Of two decimals that are equally near,
the greater one is written. -/
def floatText : Binary64 → String
  | .finite negative m =>
    let body := (shortest .up m).positional
    String.ofList (if negative then '-' :: body else body)
  | .infinite negative => if negative then "-inf" else "inf"
  | .nan => "NaN"

/-- What was found, in words. -/
def Found.message : Found → String
  | .meaning .null => "unit value"
  | .meaning (.bool b) => "boolean `" ++ toString b ++ "`"
  | .meaning (.integer n) => "integer `" ++ toString n ++ "`"
  | .meaning (.wideInteger n) =>
    "integer `" ++ toString n ++ "` as " ++ (if 0 ≤ n then "u128" else "i128")
  | .meaning (.float x) => "floating point `" ++ floatText x ++ "`"
  | .meaning .text => "string"
  | .text s => "string " ++ Text.quoted s
  | .sequence => "sequence"
  | .mapping => "map"

/-- What a tag can say of a scalar. -/
inductive ScalarType where
  /-- It is a truth value. -/
  | bool
  /-- It is an integer. -/
  | integer
  /-- It is a number. -/
  | float
  /-- It stands for nothing. -/
  | null
deriving DecidableEq

/-- The type, in words. -/
def ScalarType.message : ScalarType → String
  | .bool => "a boolean"
  | .integer => "an integer"
  | .float => "a float"
  | .null => "null"

/-- The tag of a type. -/
def ScalarType.tag : ScalarType → List UInt8
  | .bool => Text.encode "tag:yaml.org,2002:bool"
  | .integer => Text.encode "tag:yaml.org,2002:int"
  | .float => Text.encode "tag:yaml.org,2002:float"
  | .null => Text.encode "tag:yaml.org,2002:null"

/-- The type that a tag names. -/
def ScalarType.ofTag? (tag : List UInt8) : Option ScalarType :=
  [bool, integer, float, null].find? fun type => type.tag = tag

/-- What a scalar of a type stands for, if it has the form. -/
def ScalarType.meaning? (type : ScalarType) (s : List Char) : Option Meaning :=
  match type with
  | .bool => (bool? s).map .bool
  | .integer => integer? s
  | .float => (float? s).map .float
  | .null => if isNull s then some .null else none

/-- What a text stands for if it is written without quotes. -/
def foundPlain (s : String) : Found :=
  match Meaning.ofText s.toList with
  | .text => .text s
  | m => .meaning m

/-- Whether a tag has a meaning only where it is used. -/
def isLocalTag (tag : List UInt8) : Bool := bareTag.isPrefixOf tag

/-- What a scalar stands for, or the type that it should have but has not. -/
def foundScalar (tag : Option (List UInt8)) (style : Style) (s : String) :
    Except ScalarType Found :=
  let untagged : Found := if style = .plain then foundPlain s else .text s
  match tag with
  | none => .ok untagged
  | some tag =>
    match ScalarType.ofTag? tag with
    | some type =>
      match type.meaning? s.toList with
      | some m => .ok (.meaning m)
      | none => .error type
    | none => .ok (if isLocalTag tag then untagged else .text s)

end ValidatorGen.Yaml
