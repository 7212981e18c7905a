import ValidatorGen.Decimal.Shortest
import ValidatorGen.Text.Hexadecimal
import ValidatorGen.Yaml.Scalar.Basic

/-!
# What plain scalars stand for

A plain scalar may stand for nothing, a truth value or a number. Integers may be written with radix
16, 8 or 2; decimal digits with a zero in front are a text, whatever their sign.

## Main definitions

* `Meaning` — what a plain scalar stands for
* `integer?`, `float?` — the number that a text stands for
* `Meaning.ofText` — what a text stands for if it is written without quotes
-/

namespace ValidatorGen.Yaml

open Decimal

/-- What a plain scalar stands for. -/
inductive Meaning where
  /-- Nothing. -/
  | null
  /-- A truth value. -/
  | bool (b : Bool)
  /-- An integer between the least signed and the greatest unsigned number of 64 bits. -/
  | integer (n : Int)
  /-- Any other integer between the least signed and the greatest unsigned number of 128 bits. -/
  | wideInteger (n : Int)
  /-- Any other number. -/
  | float (x : Binary64)
  /-- Its text. -/
  | text
deriving DecidableEq

/-- Whether a text stands for nothing. -/
def isNull (s : List Char) : Bool :=
  s ∈ ["null".toList, "Null".toList, "NULL".toList, "~".toList]

/-- The truth value that a text stands for. -/
def bool? (s : List Char) : Option Bool :=
  if s ∈ ["true".toList, "True".toList, "TRUE".toList] then some true
  else if s ∈ ["false".toList, "False".toList, "FALSE".toList] then some false
  else none

/-- The number that digits stand for in the given radix, which is at most sixteen. -/
def natural? (radix : Nat) (digits : List Char) : Option Nat :=
  if digits.isEmpty then none
  else digits.foldlM (fun n c => ((Text.hexValue? c).filter (· < radix)).map (n * radix + ·)) 0

/-- The text without a plus sign in front. -/
def withoutPlus : List Char → List Char
  | '+' :: rest => rest
  | s => s

/-- The text without a sign in front. -/
def withoutSign : List Char → List Char
  | '+' :: rest | '-' :: rest => rest
  | s => s

/-- Whether a text consists of decimal digits, the first of several being zero, after a sign or
none. -/
def hasLeadingZero (s : List Char) : Bool :=
  match withoutSign s with
  | '0' :: c :: rest => (c :: rest).all Char.isDigit
  | _ => false

/-- The number that a text without a sign stands for, whatever its radix. -/
def magnitude? : List Char → Option Nat
  | '0' :: 'x' :: digits => natural? 16 digits
  | '0' :: 'o' :: digits => natural? 8 digits
  | '0' :: 'b' :: digits => natural? 2 digits
  | digits => if hasLeadingZero digits then none else natural? 10 digits

/-- The number less than `bound` that a text without a minus sign stands for. -/
def unsigned? (bound : Nat) (s : List Char) : Option Nat :=
  (magnitude? (withoutPlus s)).filter (· < bound)

/-- The number at most `bound` that a text stands for apart from its minus sign. -/
def negated? (bound : Nat) : List Char → Option Nat
  | '-' :: s => (magnitude? s).filter (· ≤ bound)
  | _ => none

/-- The integer that a text stands for. -/
def integer? (s : List Char) : Option Meaning :=
  ((unsigned? (.pow 2 64) s).map fun n => .integer n) <|>
  ((negated? (.pow 2 63) s).map fun n => .integer (-n)) <|>
  ((unsigned? (.pow 2 128) s).map fun n => .wideInteger n) <|>
  ((negated? (.pow 2 127) s).map fun n => .wideInteger (-n))

/-- The power of ten after a letter `e`, if there is one. -/
def power? : List Char → Option Int
  | [] => some 0
  | e :: rest =>
    if e ≠ 'e' ∧ e ≠ 'E' then none
    else
      match rest with
      | '-' :: digits => (natural? 10 digits).map fun n => -n
      | digits => (natural? 10 (withoutPlus digits)).map fun n => n

/-- The magnitude of a decimal number with or without a point and a power of ten. -/
def decimal? (s : List Char) : Option Magnitude :=
  let whole := s.takeWhile Char.isDigit
  let after := s.dropWhile Char.isDigit
  let fraction := match after with | '.' :: rest => rest.takeWhile Char.isDigit | _ => []
  let tail := match after with | '.' :: rest => rest.dropWhile Char.isDigit | _ => after
  match natural? 10 (whole ++ fraction), power? tail with
  | some digits, some power => nearestDecimal? digits (power - fraction.length)
  | _, _ => none

/-- The number, not necessarily an integer, that a text stands for. -/
def float? (s : List Char) : Option Binary64 :=
  if withoutPlus s ∈ [".inf".toList, ".Inf".toList, ".INF".toList] then some (.infinite false)
  else if s ∈ ["-.inf".toList, "-.Inf".toList, "-.INF".toList] then some (.infinite true)
  else if s ∈ [".nan".toList, ".NaN".toList, ".NAN".toList] then some .nan
  else
    match s with
    | '-' :: rest => (decimal? rest).map (.finite true)
    | _ => (decimal? (withoutPlus s)).map (.finite false)

/-- What a text stands for if it is written without quotes. -/
def Meaning.ofText (s : List Char) : Meaning :=
  if s.isEmpty || isNull s then .null
  else
    match bool? s, integer? s, (if hasLeadingZero s then none else float? s) with
    | some b, _, _ => .bool b
    | none, some m, _ => m
    | none, none, some x => .float x
    | none, none, none => .text

end ValidatorGen.Yaml
