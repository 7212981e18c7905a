import ValidatorGen.Json.Quoted
import ValidatorGen.Json.Value

/-!
# Writing JSON

There are two layouts. The compact one has no blanks at all. The indented one puts each item and
each member on a line of its own, two blanks further in than its container, and has one blank after
the colon of a member; an empty container takes no lines in either.

## Main definitions

* `Value.compact` — a value without blanks
* `Value.indented` — a value over several lines
-/

namespace ValidatorGen.Json

/-- The text of a line break followed by `level` steps of indentation. -/
def lineBreak (level : Nat) : String :=
  String.ofList ('\n' :: List.replicate (2 * level) ' ')

mutual

/-- A value without blanks. -/
def Value.compact : Value → String
  | .null => "null"
  | .bool b => if b then "true" else "false"
  | .number n => n.text
  | .string s => quoted s
  | .array [] => "[]"
  | .array (item :: items) => "[" ++ item.compact ++ compactItems items ++ "]"
  | .object [] => "\x7b\x7d"
  | .object ((name, value) :: members) =>
    "\x7b" ++ quoted name ++ ":" ++ value.compact ++ compactMembers members ++ "\x7d"

/-- The items after the first. -/
def compactItems : List Value → String
  | [] => ""
  | item :: items => "," ++ item.compact ++ compactItems items

/-- The members after the first. -/
def compactMembers : List (String × Value) → String
  | [] => ""
  | (name, value) :: members =>
    "," ++ quoted name ++ ":" ++ value.compact ++ compactMembers members

end

mutual

/-- A value over several lines, inside `level` containers. -/
def Value.indentedAt (level : Nat) : Value → String
  | .null => "null"
  | .bool b => if b then "true" else "false"
  | .number n => n.text
  | .string s => quoted s
  | .array [] => "[]"
  | .array (item :: items) =>
    "[" ++ lineBreak (level + 1) ++ item.indentedAt (level + 1) ++
      indentedItems (level + 1) items ++ lineBreak level ++ "]"
  | .object [] => "\x7b\x7d"
  | .object ((name, value) :: members) =>
    "\x7b" ++ lineBreak (level + 1) ++ quoted name ++ ": " ++ value.indentedAt (level + 1) ++
      indentedMembers (level + 1) members ++ lineBreak level ++ "\x7d"

/-- The items after the first, inside `level` containers. -/
def indentedItems (level : Nat) : List Value → String
  | [] => ""
  | item :: items =>
    "," ++ lineBreak level ++ item.indentedAt level ++ indentedItems level items

/-- The members after the first, inside `level` containers. -/
def indentedMembers (level : Nat) : List (String × Value) → String
  | [] => ""
  | (name, value) :: members =>
    "," ++ lineBreak level ++ quoted name ++ ": " ++ value.indentedAt level ++
      indentedMembers level members

end

/-- A value over several lines. -/
def Value.indented (value : Value) : String := value.indentedAt 0

end ValidatorGen.Json
