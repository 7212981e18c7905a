import Mathlib.Data.List.Basic
import ValidatorGen.Proofs.Json.StringLiteral
import ValidatorGen.Proofs.Validator.Erasure

/-!
# Reading validators back

A validator that was written for a descriptor is read back as the erased descriptor, whatever the
names of its fields are. A validator ends where no further call follows, a bare key at the first
character that cannot stand in an identifier, and a quoted key at its closing quote; so no name can
be taken for anything else.

## Main definitions

* `readWord`, `readIdentifier`, `readKey` — the parts of which validators are made
* `readDescriptor` — the erased descriptor of a validator, and what follows the validator

## Main results

* `readKey_propertyKey` — a field name is read back from its key
* `readDescriptor_text` — an erased descriptor is read back from its validator
-/

namespace ValidatorGen.Validator

open Json Naming Schema

/-- What follows a word, if the text begins with it. -/
def readWord (word : String) (cs : List Char) : Option (List Char) := cs.dropPrefix? word.toList

theorem readWord_append (word : String) (rest : List Char) :
    readWord word (word.toList ++ rest) = some rest :=
  List.dropPrefix?_append_of_beq rest (beq_self_eq_true _)

/-- A text that does not begin with the first character of a word does not begin with the word. -/
theorem readWord_eq_none {word : String} {c : Char} {cs rest : List Char}
    (h : word.toList = c :: cs) (head : rest.head? ≠ some c) : readWord word rest = none := by
  cases rest with
  | nil => rw [readWord, h]; rfl
  | cons c' rest =>
    have : ¬ c' = c := by simpa using head
    rw [readWord, h, List.dropPrefix?, if_neg (by simpa using this)]

/-- The identifier with which a text begins, and what follows it. -/
def readIdentifier : List Char → Option (String × List Char)
  | [] => none
  | c :: cs =>
    if mayBegin c then
      some (String.ofList (c :: cs.takeWhile mayContinue), cs.dropWhile mayContinue)
    else none

/-- The name of a field for which a text begins with a key, and what follows the key. -/
def readKey (cs : List Char) : Option (String × List Char) :=
  readLiteral cs <|> readIdentifier cs

/-- An identifier is read up to the first character that cannot stand in it. -/
theorem readIdentifier_append {name : String} (h : isIdentifier name) {c : Char}
    (stop : mayContinue c = false) (rest : List Char) :
    readIdentifier (name.toList ++ c :: rest) = some (name, c :: rest) := by
  cases chars : name.toList with
  | nil => simp [isIdentifier, chars] at h
  | cons first others =>
    rw [isIdentifier, chars, Bool.and_eq_true, List.all_eq_true] at h
    rw [List.cons_append, readIdentifier, if_pos h.1, List.takeWhile_append_of_pos h.2,
      List.dropWhile_append_of_pos h.2, List.takeWhile_cons_of_neg (by simp [stop]),
      List.dropWhile_cons_of_neg (by simp [stop]), List.append_nil, ← chars, String.ofList_toList]

/-- A field name is read back from its key. -/
theorem readKey_propertyKey (name : String) (rest : List Char) :
    readKey ((propertyKey name).toList ++ ':' :: rest) = some (name, ':' :: rest) := by
  rw [propertyKey, readKey]
  split
  · rename_i h
    -- No identifier begins with a quote, so a bare key is not taken for a literal.
    have bare : readLiteral (name.toList ++ ':' :: rest) = none := by
      cases chars : name.toList with
      | nil => simp [isIdentifier, chars] at h
      | cons first others =>
        rw [isIdentifier, chars, Bool.and_eq_true] at h
        have quote : first ≠ '"' := by
          rintro rfl
          exact absurd h.1 (by decide)
        rw [List.cons_append, readLiteral, if_neg quote]
    rw [bare, readIdentifier_append h (by decide)]
    rfl
  · rw [readLiteral_quoted]
    rfl

/-- The validators that are written as one word, with the erased kinds that have them. -/
def leaves : List (String × Kind) :=
  [("z.string().datetime()", .string (some .dateTime)), ("z.string()", .string none),
    ("z.number()", .number), ("z.boolean()", .boolean), ("z.unknown()", .unknown none),
    ("z.object(\x7b\x7d)", .object [])]

/-- The erased kind of a validator that is one word, and what follows it. -/
def readLeaf (cs : List Char) : Option (Kind × List Char) :=
  leaves.findSome? fun leaf => (readWord leaf.1 cs).map fun rest => (leaf.2, rest)

/-- The erased kind of a validator, and what follows the validator, if it is known how to read a
descriptor and the fields of an object. -/
def readKind (descriptor : List Char → Option (Descriptor × List Char))
    (fields : List Char → Option (Fields × List Char)) (cs : List Char) :
    Option (Kind × List Char) :=
  readLeaf cs <|>
  (do
    let cs ← readWord "z.array(" cs
    let (item, cs) ← descriptor cs
    let cs ← readWord ")" cs
    return (.array item, cs)) <|>
  (do
    let cs ← readWord "z.object(\x7b" cs
    let (fields, cs) ← fields cs
    let cs ← readWord "\n\x7d)" cs
    return (.object fields, cs))

mutual

/-- The erased descriptor of a validator, and what follows the validator. -/
def readDescriptor : Nat → List Char → Option (Descriptor × List Char)
  | 0, _ => none
  | fuel + 1, cs => do
    let (kind, cs) ← readKind (readDescriptor fuel) (readFields fuel) cs
    match readWord ".optional()" cs with
    | some cs => return (.mk kind false, cs)
    | none => return (.mk kind true, cs)

/-- The erased fields of the entries of an object validator, of which there is at least one, and
what follows the entries. -/
def readFields : Nat → List Char → Option (Fields × List Char)
  | 0, _ => none
  | fuel + 1, cs => do
    let cs ← readWord "\n  " cs
    let (name, cs) ← readKey cs
    let cs ← readWord ": " cs
    let (field, cs) ← readDescriptor fuel cs
    match readWord "," cs with
    | some cs => do
      let (fields, cs) ← readFields fuel cs
      return ((name, field) :: fields, cs)
    | none => return ([(name, field)], cs)

end

/-! ### The texts of validators -/

/-- The entries of an object validator, without the comma before the first. -/
theorem toList_entriesText_cons (name : String) (entry : Expr) (entries : List (String × Expr)) :
    (entriesText ((name, entry) :: entries)).toList =
      ',' :: ("\n  ".toList ++ ((propertyKey name).toList ++ (": ".toList ++
        (entry.text.toList ++ (entriesText entries).toList)))) := by
  rw [entriesText_cons]
  simp

/-- An object validator with entries has them between brackets, without the comma before the
first. -/
theorem toList_text_object {entries : List (String × Expr)} {cs : List Char}
    (h : (entriesText entries).toList = ',' :: cs) :
    (Expr.object entries).text.toList =
      "z.object(\x7b".toList ++ (cs ++ "\n\x7d)".toList) := by
  cases entries with
  | nil => simp [entriesText_nil] at h
  | cons entry entries =>
    obtain ⟨name, entry⟩ := entry
    rw [toList_entriesText_cons, List.cons.injEq] at h
    rw [Expr.text_object_cons, ← h.2]
    simp

/-! ### Reading them back -/

section

variable {descriptor : List Char → Option (Descriptor × List Char)}
  {fields : List Char → Option (Fields × List Char)}

theorem readKind_of_readLeaf {cs : List Char} {read : Kind × List Char}
    (h : readLeaf cs = some read) : readKind descriptor fields cs = some read := by
  rw [readKind, h]
  rfl

theorem readKind_array {text rest : List Char} {item : Descriptor}
    (h : descriptor (text ++ (")".toList ++ rest)) = some (item, ")".toList ++ rest)) :
    readKind descriptor fields ("z.array(".toList ++ (text ++ (")".toList ++ rest))) =
      some (.array item, rest) := by
  have leaf : readLeaf ("z.array(".toList ++ (text ++ (")".toList ++ rest))) = none := rfl
  rw [readKind, leaf, readWord_append]
  simp only [Option.bind_eq_bind, Option.bind_some, h, readWord_append]
  rfl

theorem readKind_object {text rest : List Char} {read : Fields}
    (h : fields ('\n' :: text ++ ("\n\x7d)".toList ++ rest)) =
      some (read, "\n\x7d)".toList ++ rest)) :
    readKind descriptor fields
        ("z.object(\x7b".toList ++ ('\n' :: text ++ ("\n\x7d)".toList ++ rest))) =
      some (.object read, rest) := by
  -- The line break tells an object with fields from the one without.
  have leaf (cs : List Char) : readLeaf ("z.object(\x7b".toList ++ '\n' :: cs) = none := rfl
  have array (cs : List Char) :
      readWord "z.array(" ("z.object(\x7b".toList ++ '\n' :: cs) = none := rfl
  rw [List.cons_append] at h ⊢
  rw [readKind, leaf, array, readWord_append]
  simp only [Option.bind_eq_bind, Option.bind_some, Option.bind_none, h, readWord_append]
  rfl

end

/-- A validator that is one word is read as its kind, if it is not the beginning of another: only
the word for texts is, of the one for dates. -/
theorem readLeaf_of_mem {word : String} {kind : Kind} {rest : List Char}
    (mem : (word, kind) ∈ leaves) (date : readWord ".datetime()" rest = none) :
    readLeaf (word.toList ++ rest) = some (kind, rest) := by
  have date : rest.dropPrefix? ['.', 'd', 'a', 't', 'e', 't', 'i', 'm', 'e', '(', ')'] = none :=
    date
  simp only [leaves, List.mem_cons, List.not_mem_nil, or_false, Prod.mk.injEq] at mem
  rcases mem with ⟨rfl, rfl⟩ | ⟨rfl, rfl⟩ | ⟨rfl, rfl⟩ | ⟨rfl, rfl⟩ | ⟨rfl, rfl⟩ | ⟨rfl, rfl⟩ <;>
    simp [readLeaf, leaves, readWord, List.dropPrefix?, List.findSome?, date]

/-- A descriptor of which the kind has been read is required if no call follows. -/
theorem readDescriptor_of_readKind {fuel : Nat} {kind : Kind} {cs rest : List Char}
    (h : readKind (readDescriptor fuel) (readFields fuel) cs = some (kind, rest))
    (head : rest.head? ≠ some '.') :
    readDescriptor (fuel + 1) cs = some (.mk kind true, rest) := by
  rw [readDescriptor, h, Option.bind_eq_bind, Option.bind_some]
  dsimp only
  rw [readWord_eq_none rfl head]
  rfl

-- One induction on the descriptor, for any steps that suffice and anything that may follow. A call
-- that follows would be taken for a part of the validator; what follows an entry is a comma or the
-- line break before the closing bracket, and neither begins a call.
mutual

/-- An erased descriptor is read back from its validator, if no call follows. -/
theorem readDescriptor_text : ∀ (d : Descriptor) (fuel : Nat) (rest : List Char),
    d.validator.text.toList.length < fuel → rest.head? ≠ some '.' →
      readDescriptor fuel (d.validator.text.toList ++ rest) = some (d.erase, rest)
  | .mk kind required => by
    intro fuel rest enough head
    obtain ⟨fuel, rfl⟩ : ∃ n, fuel = n + 1 := ⟨fuel - 1, by omega⟩
    cases required with
    | true =>
      rw [Descriptor.validator, if_pos rfl] at enough ⊢
      have date := readWord_eq_none (rfl : ".datetime()".toList = _) head
      exact readDescriptor_of_readKind (readKind_text kind _ _ (by omega) date) head
    | false =>
      -- The call that makes the field optional follows the kind, and it is not the one of dates.
      rw [Descriptor.validator, if_neg (by simp), Expr.text_optional, String.toList_append]
        at enough ⊢
      rw [List.length_append] at enough
      have date : readWord ".datetime()" (".optional()".toList ++ rest) = none := rfl
      rw [List.append_assoc, readDescriptor, readKind_text kind _ _ (by omega) date,
        Option.bind_eq_bind, Option.bind_some]
      dsimp only
      rw [readWord_append]
      rfl

/-- An erased kind is read back from its validator. -/
theorem readKind_text : ∀ (kind : Kind) (fuel : Nat) (rest : List Char),
    kind.validator.text.toList.length ≤ fuel → readWord ".datetime()" rest = none →
      readKind (readDescriptor fuel) (readFields fuel) (kind.validator.text.toList ++ rest) =
        some (kind.erase, rest)
  | .string (some .dateTime) => fun _ _ _ date =>
    readKind_of_readLeaf (readLeaf_of_mem (List.mem_of_getElem? (i := 0) rfl) date)
  | .string none | .string (some (.other _)) => fun _ _ _ date =>
    readKind_of_readLeaf (readLeaf_of_mem (List.mem_of_getElem? (i := 1) rfl) date)
  | .number => fun _ _ _ date =>
    readKind_of_readLeaf (readLeaf_of_mem (List.mem_of_getElem? (i := 2) rfl) date)
  | .boolean => fun _ _ _ date =>
    readKind_of_readLeaf (readLeaf_of_mem (List.mem_of_getElem? (i := 3) rfl) date)
  | .unknown _ => fun _ _ _ date =>
    readKind_of_readLeaf (readLeaf_of_mem (List.mem_of_getElem? (i := 4) rfl) date)
  | .openObject | .object [] => fun _ _ _ date =>
    readKind_of_readLeaf (readLeaf_of_mem (List.mem_of_getElem? (i := 5) rfl) date)
  | .untypedArray => by
    intro fuel rest enough _
    rw [Kind.validator, Expr.text_array, String.toList_append, String.toList_append] at enough ⊢
    simp only [List.length_append] at enough
    have : "z.array(".toList.length = 8 := rfl
    obtain ⟨fuel, rfl⟩ : ∃ n, fuel = n + 1 := ⟨fuel - 1, by omega⟩
    rw [List.append_assoc, List.append_assoc]
    refine readKind_array (readDescriptor_of_readKind (readKind_of_readLeaf ?_) (by simp))
    exact readLeaf_of_mem (List.mem_of_getElem? (i := 4) rfl) rfl
  | .array item => by
    intro fuel rest enough _
    rw [Kind.validator, Expr.text_array, String.toList_append, String.toList_append] at enough ⊢
    simp only [List.length_append] at enough
    have : "z.array(".toList.length = 8 := rfl
    rw [List.append_assoc, List.append_assoc, Kind.erase]
    exact readKind_array (readDescriptor_text item _ _ (by omega) (by simp))
  | .object ((name, field) :: fields) => by
    intro fuel rest enough _
    have read := readFields_text ((name, field) :: fields)
    obtain ⟨cs, text⟩ : ∃ cs, (entriesText (fieldValidators ((name, field) :: fields))).toList =
        ',' :: '\n' :: cs := by
      rw [fieldValidators, toList_entriesText_cons]
      exact ⟨_, rfl⟩
    rw [Kind.validator, toList_text_object text] at enough ⊢
    simp only [List.length_append] at enough
    have : "z.object(\x7b".toList.length = 10 := rfl
    rw [List.append_assoc, List.append_assoc, Kind.erase]
    exact readKind_object (read _ _ _ text (by omega) (by simp) (by simp))

/-- Erased fields are read back from their validators, if neither a call nor a further field
follows. -/
theorem readFields_text : ∀ (fields : Fields) (cs : List Char) (fuel : Nat) (rest : List Char),
    (entriesText (fieldValidators fields)).toList = ',' :: cs → cs.length < fuel →
      rest.head? ≠ some '.' → rest.head? ≠ some ',' →
        readFields fuel (cs ++ rest) = some (eraseFields fields, rest)
  | [] => by
    intro _ _ _ text
    simp [fieldValidators, entriesText_nil] at text
  | (name, field) :: fields => by
    intro cs fuel rest text enough call comma
    have readNext := readDescriptor_text field
    have readRest := readFields_text fields
    obtain ⟨fuel, rfl⟩ : ∃ n, fuel = n + 1 := ⟨fuel - 1, by omega⟩
    rw [fieldValidators, toList_entriesText_cons, List.cons.injEq] at text
    obtain ⟨-, rfl⟩ := text
    simp only [List.length_append] at enough
    have : "\n  ".toList.length = 3 := rfl
    have key (cs : List Char) :
        readKey ((propertyKey name).toList ++ (": ".toList ++ cs)) =
          some (name, ": ".toList ++ cs) :=
      readKey_propertyKey name _
    simp only [List.append_assoc]
    rw [readFields, readWord_append]
    simp only [Option.bind_eq_bind, Option.bind_some, key, readWord_append]
    cases fields with
    | nil =>
      have last : (entriesText (fieldValidators [])).toList ++ rest = rest := by
        simp [fieldValidators, entriesText_nil]
      rw [last, readNext _ _ (by omega) call, Option.bind_some]
      dsimp only
      rw [readWord_eq_none rfl comma]
      rfl
    | cons next fields =>
      have text := toList_entriesText_cons next.1 next.2.validator (fieldValidators fields)
      rw [fieldValidators] at readRest enough ⊢
      rw [text] at enough ⊢
      rw [readNext _ _ (by omega) (by simp), Option.bind_some]
      rw [List.length_cons] at enough
      have more (cs : List Char) : readWord "," (',' :: cs) = some cs := readWord_append "," cs
      dsimp only
      rw [List.cons_append, more]
      dsimp only
      rw [readRest _ _ _ text (by omega) call comma]
      rfl

end

end ValidatorGen.Validator
