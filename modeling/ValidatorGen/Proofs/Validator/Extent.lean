import Mathlib.Data.List.DropRight
import ValidatorGen.Proofs.Validator.Reader

/-!
# Where an expression ends

An expression in an object literal extends to the first comma or closing bracket that stands neither
inside brackets nor inside a string. Reading a validator so, no bracket is left open and no string
unfinished, whatever the names of its fields are; the expression is the whole validator.

## Main definitions

* `Spot` — how far brackets and strings are open
* `Spot.step?` — a character further, unless the expression ends there
* `readExpression` — an expression, and what follows it

## Main results

* `Expr.run?_text` — a validator closes all brackets and strings that it opens
* `readExpression_append` — a text inside which the expression does not end is read as part of it
-/

namespace ValidatorGen.Validator

open Json Naming

/-- Whether a character opens brackets. -/
def opensBracket (c : Char) : Bool := c = '(' || c = '[' || c = '\x7b'

/-- Whether a character closes brackets. -/
def closesBracket (c : Char) : Bool := c = ')' || c = ']' || c = '\x7d'

/-- Whether a character stands between two expressions, or after the last. -/
def isDelimiter (c : Char) : Bool := c = ',' || closesBracket c

/-- A spot inside an expression: how many brackets are open, and whether it is inside a string. -/
inductive Spot where
  /-- Outside of strings. -/
  | code (depth : Nat)
  /-- Inside a string. -/
  | quoted (depth : Nat)
  /-- Inside a string, after a backslash. -/
  | escaped (depth : Nat)
deriving DecidableEq

/-- The spot after a character, unless the expression ends before it. -/
def Spot.step? : Spot → Char → Option Spot
  | .escaped depth, _ => some (.quoted depth)
  | .quoted depth, c =>
    some (if c = '"' then .code depth else if c = '\\' then .escaped depth else .quoted depth)
  | .code 0, c =>
    if isDelimiter c then none
    else if c = '"' then some (.quoted 0)
    else if opensBracket c then some (.code 1)
    else some (.code 0)
  | .code (depth + 1), c =>
    if closesBracket c then some (.code depth)
    else if c = '"' then some (.quoted (depth + 1))
    else if opensBracket c then some (.code (depth + 2))
    else some (.code (depth + 1))

/-- The spot after a text, unless the expression ends inside it. -/
def Spot.run? (s : Spot) (cs : List Char) : Option Spot := cs.foldlM Spot.step? s

/-- The characters of an expression, and what follows it. -/
def readExpression (s : Spot) : List Char → List Char × List Char
  | [] => ([], [])
  | c :: cs =>
    match s.step? c with
    | some s' => ((c :: (readExpression s' cs).1), (readExpression s' cs).2)
    | none => ([], c :: cs)

theorem Spot.run?_append (s : Spot) (cs cs' : List Char) :
    s.run? (cs ++ cs') = (s.run? cs).bind fun s' => s'.run? cs' :=
  List.foldlM_append

/-- A text inside which the expression does not end is read as part of it. -/
theorem readExpression_append {s s' : Spot} {cs : List Char} (h : s.run? cs = some s')
    (rest : List Char) :
    readExpression s (cs ++ rest) =
      (cs ++ (readExpression s' rest).1, (readExpression s' rest).2) := by
  induction cs generalizing s with
  | nil =>
    obtain rfl : s = s' := Option.some.inj h
    rfl
  | cons c cs ih =>
    rw [Spot.run?, List.foldlM_cons] at h
    obtain ⟨next, step, run⟩ := Option.bind_eq_some_iff.mp h
    rw [List.cons_append, readExpression, step]
    dsimp only
    rw [ih run]
    rfl

/-- An expression ends before a comma or a closing bracket. -/
theorem readExpression_delimiter {c : Char} (h : isDelimiter c) (rest : List Char) :
    readExpression (.code 0) (c :: rest) = ([], c :: rest) := by
  rw [readExpression, Spot.step?, if_pos h]

/-! ### Names -/

/-- The characters between the names of an object literal, or around them. -/
def punctuation : List Char := [' ', '\n', ',', '"', '(', ')', '[', ']', '\x7b', '\x7d']

theorem all_punctuation : punctuation.all fun mark => !mayBegin mark && !mayContinue mark := by
  decide +kernel

/-- No identifier has punctuation in it. -/
theorem not_mem_punctuation {c : Char} (h : mayBegin c ∨ mayContinue c) : c ∉ punctuation := by
  intro mem
  have apart := List.all_eq_true.mp all_punctuation c mem
  rw [Bool.and_eq_true, Bool.not_eq_true', Bool.not_eq_true'] at apart
  rw [apart.1, apart.2] at h
  exact absurd h (by decide)

/-- A character of an identifier neither opens nor ends anything. -/
theorem Spot.step?_of_identifier {c : Char} (h : mayBegin c ∨ mayContinue c) (depth : Nat) :
    (Spot.code depth).step? c = some (.code depth) := by
  have other := not_mem_punctuation h
  simp only [punctuation, List.mem_cons, not_or] at other
  obtain ⟨-, -, comma, quote, round, round', square, square', curly, curly', -⟩ := other
  have closing : closesBracket c = false := by simp [closesBracket, round', square', curly']
  have opening : opensBracket c = false := by simp [opensBracket, round, square, curly]
  have delimiter : isDelimiter c = false := by simp [isDelimiter, comma, closing]
  cases depth <;> simp [Spot.step?, delimiter, closing, opening, quote]

theorem Spot.run?_of_forall_step? {s : Spot} {cs : List Char} (h : ∀ c ∈ cs, s.step? c = some s) :
    s.run? cs = some s := by
  induction cs with
  | nil => rfl
  | cons c cs ih =>
    rw [List.forall_mem_cons] at h
    rw [Spot.run?, List.foldlM_cons, h.1]
    exact ih h.2

theorem Spot.run?_identifier {name : String} (h : isIdentifier name) (depth : Nat) :
    (Spot.code depth).run? name.toList = some (.code depth) := by
  apply Spot.run?_of_forall_step?
  intro c mem
  cases chars : name.toList with
  | nil => simp [isIdentifier, chars] at h
  | cons first others =>
    rw [isIdentifier, chars, Bool.and_eq_true, List.all_eq_true] at h
    rw [chars] at mem
    rcases List.mem_cons.mp mem with rfl | mem
    · exact Spot.step?_of_identifier (.inl h.1) depth
    · exact Spot.step?_of_identifier (.inr (h.2 c mem)) depth

/-- A character that is neither a quote nor a backslash stands for itself in a string. -/
theorem Spot.step?_quoted {c : Char} (quote : c ≠ '"') (backslash : c ≠ '\\') (depth : Nat) :
    (Spot.quoted depth).step? c = some (.quoted depth) := by
  rw [Spot.step?, if_neg quote, if_neg backslash]

theorem hexDigit_ne {n : Nat} (h : n < 16) : hexDigit n ≠ '"' ∧ hexDigit n ≠ '\\' := by
  revert n
  decide

/-- However a character is written in a string, the string goes on after it. -/
theorem Spot.run?_escape (c : Char) (depth : Nat) :
    (Spot.quoted depth).run? (escape c) = some (.quoted depth) := by
  rw [escape]
  split_ifs with quote backslash newline carriage tab backspace feed control
  -- The seven escapes by a letter.
  iterate 7 · rfl
  · have high := hexDigit_ne (n := c.toNat / 16) (by omega)
    have low := hexDigit_ne (n := c.toNat % 16) (by omega)
    have digits : (Spot.quoted depth).run?
        ['0', '0', hexDigit (c.toNat / 16), hexDigit (c.toNat % 16)] = some (.quoted depth) := by
      apply Spot.run?_of_forall_step?
      simp only [List.forall_mem_cons]
      exact ⟨rfl, rfl, step?_quoted high.1 high.2 depth, step?_quoted low.1 low.2 depth, by simp⟩
    exact digits
  · apply Spot.run?_of_forall_step?
    rw [List.forall_mem_singleton]
    exact step?_quoted quote backslash depth

/-- A string literal is closed where it ends. -/
theorem Spot.run?_quoted (text : String) (depth : Nat) :
    (Spot.code depth).run? (Json.quoted text).toList = some (.code depth) := by
  have inside (cs : List Char) :
      (Spot.quoted depth).run? (cs.flatMap escape) = some (.quoted depth) := by
    induction cs with
    | nil => rfl
    | cons c cs ih =>
      rw [List.flatMap_cons, Spot.run?_append, Spot.run?_escape, Option.bind_some, ih]
  have opened : (Spot.code depth).run? ['"'] = some (.quoted depth) := by
    cases depth <;> rfl
  rw [Json.quoted, String.toList_ofList, Spot.run?_append, Spot.run?_append, opened,
    Option.bind_some, inside, Option.bind_some]
  rfl

/-- A field name opens nothing that it does not close. -/
theorem Spot.run?_propertyKey (name : String) (depth : Nat) :
    (Spot.code depth).run? (propertyKey name).toList = some (.code depth) := by
  rw [propertyKey]
  split
  · rename_i h
    exact Spot.run?_identifier h depth
  · exact Spot.run?_quoted name depth

/-! ### Validators -/

-- One induction on the validator, at any depth. The commas between entries stand inside the
-- brackets of their object, so entries are met at a depth that is not zero.
mutual

/-- A validator closes what it opens. -/
theorem Expr.run?_text : ∀ (e : Expr) (depth : Nat),
    (Spot.code depth).run? e.text.toList = some (.code depth)
  | .string, depth | .dateTime, depth | .number, depth | .boolean, depth | .unknown, depth
  | .object [], depth => by cases depth <;> rfl
  | .array item, depth => by
    have opened : (Spot.code depth).run? "z.array(".toList = some (.code (depth + 1)) := by
      cases depth <;> rfl
    rw [Expr.text_array, String.toList_append, String.toList_append, Spot.run?_append,
      Spot.run?_append, opened, Option.bind_some, Expr.run?_text item (depth + 1)]
    rfl
  | .object ((name, entry) :: entries), depth => by
    have opened : (Spot.code depth).run? "z.object(\x7b\n  ".toList = some (.code (depth + 2)) := by
      cases depth <;> rfl
    have colon : (Spot.code (depth + 2)).run? ": ".toList = some (.code (depth + 2)) := rfl
    rw [Expr.text_object_cons]
    simp only [String.toList_append, Spot.run?_append, opened, colon, Option.bind_some,
      Spot.run?_propertyKey, Expr.run?_text entry, run?_entriesText entries]
    rfl
  | .optional inner, depth => by
    have call : (Spot.code depth).run? ".optional()".toList = some (.code depth) := by
      cases depth <;> rfl
    rw [Expr.text_optional, String.toList_append, Spot.run?_append, Expr.run?_text inner depth,
      Option.bind_some, call]

/-- Entries close what they open. -/
theorem run?_entriesText : ∀ (entries : List (String × Expr)) (depth : Nat),
    (Spot.code (depth + 1)).run? (entriesText entries).toList = some (.code (depth + 1))
  | [], _ => rfl
  | (name, entry) :: entries, depth => by
    have comma : (Spot.code (depth + 1)).run? ",\n  ".toList = some (.code (depth + 1)) := rfl
    have colon : (Spot.code (depth + 1)).run? ": ".toList = some (.code (depth + 1)) := rfl
    rw [entriesText_cons]
    simp only [String.toList_append, Spot.run?_append, comma, colon, Option.bind_some,
      Spot.run?_propertyKey, Expr.run?_text entry, run?_entriesText entries]

end

end ValidatorGen.Validator
