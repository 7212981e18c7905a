import ValidatorGen.Naming

/-!
# Validator expressions

A validator is built from the constructors of the `z` object of the zod library. An object validator
has one entry for each field, on a line of its own; nested object validators are not set further in.

## Main definitions

* `Expr` — validators
* `Expr.text` — a validator as it is written
-/

namespace ValidatorGen.Validator

open Naming

/-- A validator. -/
inductive Expr where
  /-- Accepts texts. -/
  | string
  /-- Accepts texts that give a date with a time of day. -/
  | dateTime
  /-- Accepts numbers. -/
  | number
  /-- Accepts truth values. -/
  | boolean
  /-- Accepts anything. -/
  | unknown
  /-- Accepts arrays of accepted items. -/
  | array (item : Expr)
  /-- Accepts objects whose fields are accepted. -/
  | object (entries : List (String × Expr))
  /-- Also accepts that there is nothing. -/
  | optional (inner : Expr)

mutual

/-- A validator as it is written. -/
def Expr.text : Expr → String
  | .string => "z.string()"
  | .dateTime => "z.string().datetime()"
  | .number => "z.number()"
  | .boolean => "z.boolean()"
  | .unknown => "z.unknown()"
  | .array item => "z.array(" ++ item.text ++ ")"
  | .object [] => "z.object(\x7b\x7d)"
  | .object ((name, entry) :: entries) =>
    "z.object(\x7b\n  " ++ propertyKey name ++ ": " ++ entry.text ++ entriesText entries ++
      "\n\x7d)"
  | .optional inner => inner.text ++ ".optional()"

/-- The entries after the first. -/
def entriesText : List (String × Expr) → String
  | [] => ""
  | (name, entry) :: entries =>
    ",\n  " ++ propertyKey name ++ ": " ++ entry.text ++ entriesText entries

end

theorem Expr.text_array (item : Expr) :
    (Expr.array item).text = "z.array(" ++ item.text ++ ")" := rfl

theorem Expr.text_object_cons (name : String) (entry : Expr) (entries : List (String × Expr)) :
    (Expr.object ((name, entry) :: entries)).text =
      "z.object(\x7b\n  " ++ propertyKey name ++ ": " ++ entry.text ++ entriesText entries ++
        "\n\x7d)" := rfl

theorem Expr.text_optional (inner : Expr) :
    (Expr.optional inner).text = inner.text ++ ".optional()" := rfl

theorem entriesText_nil : entriesText [] = "" := rfl

theorem entriesText_cons (name : String) (entry : Expr) (entries : List (String × Expr)) :
    entriesText ((name, entry) :: entries) =
      ",\n  " ++ propertyKey name ++ ": " ++ entry.text ++ entriesText entries := rfl

end ValidatorGen.Validator
