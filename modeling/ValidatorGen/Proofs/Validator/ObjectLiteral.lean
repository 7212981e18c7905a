import ValidatorGen.Proofs.Validator.Extent

/-!
# The entries of an object literal

An object literal is read entry by entry: a key, bare or quoted, and an expression, between white
space, up to the bracket that closes the literal. A bare key stands for itself, a quoted one for the
text of its literal. Whatever the names of its fields are, an object validator is read back as one
entry for each field.

## Main definitions

* `readEntry` — a name with its expression
* `readObjectLiteral` — the entries of the literal in an object validator

## Main results

* `readEntry_text` — an entry is read back
* `readObjectLiteral_text` — the entries of an object validator are read back
-/

namespace ValidatorGen.Validator

open Naming Schema

/-- White space as it is written between the parts of an object literal. -/
def isSpace (c : Char) : Bool := c = ' ' || c = '\n'

/-- What follows white space. -/
def skipSpace (cs : List Char) : List Char := cs.dropWhile isSpace

/-- The name and the expression of an entry, without the white space around them, and what follows
the entry. -/
def readEntry (cs : List Char) : Option ((String × String) × List Char) := do
  let (name, cs) ← readKey (skipSpace cs)
  let cs ← readWord ":" (skipSpace cs)
  let (expression, cs) := readExpression (.code 0) (skipSpace cs)
  return ((name, String.ofList (expression.rdropWhile isSpace)), cs)

/-- The entries of an object literal that has been opened, and what follows its closing bracket. -/
def readEntries : Nat → List Char → Option (List (String × String) × List Char)
  | 0, _ => none
  | fuel + 1, cs =>
    match readWord "\x7d" (skipSpace cs) with
    | some cs => return ([], cs)
    | none => do
      let (entry, cs) ← readEntry cs
      match readWord "," cs with
      | some cs => do
        let (entries, cs) ← readEntries fuel cs
        return (entry :: entries, cs)
      | none => do
        let cs ← readWord "\x7d" cs
        return ([entry], cs)

/-- The entries of the object literal in an object validator. Its length bounds the steps that
reading takes. -/
def readObjectLiteral (text : String) : Option (List (String × String)) := do
  let cs ← readWord "z.object(\x7b" text.toList
  let (entries, cs) ← readEntries text.toList.length cs
  if cs = [')'] then return entries else none

/-! ### Where keys and validators begin and end -/

theorem Expr.exists_toList_text_eq_cons : ∀ e : Expr, ∃ cs, e.text.toList = 'z' :: cs
  | .string | .dateTime | .number | .boolean | .unknown | .object [] => ⟨_, rfl⟩
  | .array item => ⟨_, by rw [Expr.text_array, String.toList_append, String.toList_append]; rfl⟩
  | .object ((name, entry) :: entries) =>
    ⟨_, by rw [Expr.text_object_cons]; simp only [String.toList_append]; rfl⟩
  | .optional inner => by
    obtain ⟨cs, text⟩ := inner.exists_toList_text_eq_cons
    rw [Expr.text_optional, String.toList_append, text]
    exact ⟨_, rfl⟩

theorem Expr.exists_toList_text_eq_concat (e : Expr) : ∃ cs, e.text.toList = cs ++ [')'] := by
  cases e with
  | string => exact ⟨"z.string(".toList, rfl⟩
  | dateTime => exact ⟨"z.string().datetime(".toList, rfl⟩
  | number => exact ⟨"z.number(".toList, rfl⟩
  | boolean => exact ⟨"z.boolean(".toList, rfl⟩
  | unknown => exact ⟨"z.unknown(".toList, rfl⟩
  | array item =>
    rw [Expr.text_array, String.toList_append]
    exact ⟨_, rfl⟩
  | object entries =>
    cases entries with
    | nil => exact ⟨"z.object(\x7b\x7d".toList, rfl⟩
    | cons entry entries =>
      have close : "\n\x7d)".toList = "\n\x7d".toList ++ [')'] := rfl
      rw [Expr.text_object_cons, String.toList_append, close, ← List.append_assoc]
      exact ⟨_, rfl⟩
  | optional inner =>
    have call : ".optional()".toList = ".optional(".toList ++ [')'] := rfl
    rw [Expr.text_optional, String.toList_append, call, ← List.append_assoc]
    exact ⟨_, rfl⟩

/-- A validator has no white space in front of it. -/
theorem Expr.skipSpace_text (e : Expr) (rest : List Char) :
    skipSpace (e.text.toList ++ rest) = e.text.toList ++ rest := by
  obtain ⟨cs, text⟩ := e.exists_toList_text_eq_cons
  rw [text]
  rfl

/-- A validator has no white space behind it. -/
theorem Expr.rdropWhile_text (e : Expr) :
    e.text.toList.rdropWhile isSpace = e.text.toList := by
  obtain ⟨cs, text⟩ := e.exists_toList_text_eq_concat
  rw [text, List.rdropWhile_concat_neg _ _ _ (by decide)]

/-- A key begins with a character of an identifier or with a quote. -/
theorem exists_toList_propertyKey_eq_cons (name : String) :
    ∃ c cs, (propertyKey name).toList = c :: cs ∧ isSpace c = false ∧ c ≠ '\x7d' := by
  rw [propertyKey]
  split
  · rename_i h
    cases chars : name.toList with
    | nil => simp [isIdentifier, chars] at h
    | cons c cs =>
      rw [isIdentifier, chars, Bool.and_eq_true] at h
      have other := not_mem_punctuation (.inl h.1)
      simp only [punctuation, List.mem_cons, not_or] at other
      obtain ⟨space, lineBreak, -, -, -, -, -, -, -, curly', -⟩ := other
      exact ⟨c, cs, rfl, by simp [isSpace, space, lineBreak], curly'⟩
  · rw [Json.quoted, String.toList_ofList]
    exact ⟨'"', _, rfl, by decide, by decide⟩

/-- Between a line break and a key there is nothing but white space. -/
theorem skipSpace_key (name : String) (rest : List Char) :
    skipSpace ("\n  ".toList ++ ((propertyKey name).toList ++ rest)) =
      (propertyKey name).toList ++ rest := by
  obtain ⟨c, cs, key, visible, -⟩ := exists_toList_propertyKey_eq_cons name
  have skipped : skipSpace ("\n  ".toList ++ ((propertyKey name).toList ++ rest)) =
      skipSpace ((propertyKey name).toList ++ rest) := rfl
  rw [skipped, key, List.cons_append, skipSpace, List.dropWhile_cons_of_neg (by simp [visible])]

/-- A key is not taken for the end of the literal. -/
theorem readWord_bracket_key (name : String) (rest : List Char) :
    readWord "\x7d" ((propertyKey name).toList ++ rest) = none := by
  obtain ⟨c, cs, key, -, other⟩ := exists_toList_propertyKey_eq_cons name
  rw [key]
  exact readWord_eq_none (c := '\x7d') rfl (by simpa using other)

/-! ### Reading entries back -/

theorem rdropWhile_append_of_isSpace {text space : List Char} (h : ∀ c ∈ space, isSpace c) :
    (text ++ space).rdropWhile isSpace = text.rdropWhile isSpace := by
  induction space using List.reverseRecOn with
  | nil => rw [List.append_nil]
  | append_singleton space c ih =>
    rw [List.forall_mem_append, List.forall_mem_singleton] at h
    rw [← List.append_assoc, List.rdropWhile_concat_pos _ _ _ h.2, ih h.1]

/-- An entry is read back, if only white space comes between it and the next delimiter. -/
theorem readEntry_text (name : String) (entry : Expr) {tail space rest : List Char}
    (ends : readExpression (.code 0) tail = (space, rest)) (white : ∀ c ∈ space, isSpace c) :
    readEntry ("\n  ".toList ++ ((propertyKey name).toList ++ (": ".toList ++
        (entry.text.toList ++ tail)))) = some ((name, entry.text), rest) := by
  have colon (cs : List Char) : readWord ":" (skipSpace (":".toList ++ cs)) = some cs :=
    readWord_append ":" cs
  have split (cs : List Char) : ": ".toList ++ cs = ":".toList ++ (' ' :: cs) := rfl
  have blank (cs : List Char) : skipSpace (' ' :: cs) = skipSpace cs := rfl
  have named (cs : List Char) :
      readKey ((propertyKey name).toList ++ (":".toList ++ cs)) = some (name, ":".toList ++ cs) :=
    readKey_propertyKey name cs
  rw [split, readEntry, skipSpace_key, named]
  simp only [Option.bind_eq_bind, Option.bind_some, colon, blank, Expr.skipSpace_text,
    readExpression_append (Expr.run?_text entry 0), ends, rdropWhile_append_of_isSpace white,
    Expr.rdropWhile_text, String.ofList_toList]
  rfl

/-- The entries of an object validator are read back, with what follows the closing bracket. -/
theorem readEntries_text {name : String} {entry : Expr} {entries : List (String × Expr)}
    {fuel : Nat} (enough : entries.length < fuel) (rest : List Char) :
    readEntries fuel ("\n  ".toList ++ ((propertyKey name).toList ++ (": ".toList ++
        (entry.text.toList ++ ((entriesText entries).toList ++ ("\n\x7d".toList ++ rest)))))) =
      some (((name, entry) :: entries).map fun entry => (entry.1, entry.2.text), rest) := by
  induction entries generalizing name entry fuel with
  | nil =>
    obtain ⟨fuel, rfl⟩ : ∃ n, fuel = n + 1 := ⟨fuel - 1, by omega⟩
    -- The line break before the closing bracket is read with the last expression.
    have ends : readExpression (.code 0) ((entriesText []).toList ++ ("\n\x7d".toList ++ rest)) =
        (['\n'], '\x7d' :: rest) := rfl
    have closed : readWord "\x7d" ('\x7d' :: rest) = some rest := readWord_append "\x7d" rest
    have comma : readWord "," ('\x7d' :: rest) = none := rfl
    rw [readEntries, skipSpace_key, readWord_bracket_key]
    dsimp only
    rw [readEntry_text name entry ends (by simp [isSpace])]
    simp only [Option.bind_eq_bind, Option.bind_some, comma, closed]
    rfl
  | cons next entries ih =>
    obtain ⟨fuel, rfl⟩ : ∃ n, fuel = n + 1 := ⟨fuel - 1, by omega⟩
    obtain ⟨nextName, nextEntry⟩ := next
    have later : entries.length < fuel := Nat.lt_of_succ_lt_succ enough
    have comma (cs : List Char) : readWord "," (',' :: cs) = some cs := readWord_append "," cs
    rw [toList_entriesText_cons, readEntries, skipSpace_key, readWord_bracket_key]
    dsimp only
    rw [List.cons_append,
      readEntry_text name entry (readExpression_delimiter (by decide) _) (by simp)]
    simp only [Option.bind_eq_bind, Option.bind_some, comma, List.append_assoc, ih later]
    rfl

theorem length_le_length_entriesText (entries : List (String × Expr)) :
    entries.length ≤ (entriesText entries).toList.length := by
  induction entries with
  | nil => exact Nat.zero_le _
  | cons entry entries ih =>
    rw [toList_entriesText_cons]
    simp only [List.length_cons, List.length_append]
    omega

/-- The entries of an object validator are read back from it. -/
theorem readObjectLiteral_text (entries : List (String × Expr)) :
    readObjectLiteral (Expr.object entries).text =
      some (entries.map fun entry => (entry.1, entry.2.text)) := by
  cases entries with
  | nil => rfl
  | cons entry entries =>
    obtain ⟨name, entry⟩ := entry
    have text : (Expr.object ((name, entry) :: entries)).text.toList =
        "z.object(\x7b".toList ++ ("\n  ".toList ++ ((propertyKey name).toList ++ (": ".toList ++
          (entry.text.toList ++ ((entriesText entries).toList ++
            ("\n\x7d".toList ++ [')'])))))) := by
      rw [Expr.text_object_cons]
      simp
    have enough : entries.length < (Expr.object ((name, entry) :: entries)).text.toList.length := by
      have := length_le_length_entriesText entries
      rw [text]
      simp only [List.length_append, List.length_singleton]
      omega
    rw [readObjectLiteral]
    generalize (Expr.object ((name, entry) :: entries)).text.toList.length = fuel at enough ⊢
    rw [text, readWord_append, Option.bind_eq_bind, Option.bind_some,
      readEntries_text enough [')']]
    rfl

end ValidatorGen.Validator
