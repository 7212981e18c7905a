import ValidatorGen.Proofs.Validator.Emission
import ValidatorGen.Proofs.Validator.Reader

/-!
# Modules can be read one way only

The text of an emitted module determines its declarations up to erasure, the name of its union and
the members of the union. Nothing that stands in the name of a field can be taken for a further
field, declaration or member, and nothing can be hidden in it.

## Main definitions

* `Outline` — what can be read off a module
* `readModule` — the outline of a module

## Main results

* `readModule_text` — the outline of a document is read back from its module
* `text_eq_text_iff` — which documents have one text
-/

namespace ValidatorGen.Validator

open Json Naming Schema

/-- What can be read off a module. -/
structure Outline where
  /-- The identifiers of the object types, with their erased fields. -/
  types : List (String × Fields)
  /-- The name of the union. -/
  unionName : String
  /-- The members of the union. -/
  members : List String

/-- The outline of a document whose union has the given name. -/
def outline (unionName : String) (d : Document) : Outline where
  types := d.types.map fun t => (safeIdentifier t.name, eraseFields t.fields)
  unionName := unionName
  members := (Union.ofNames unionName d.names).members

/-! ### Readers -/

/-- The identifier and the erased fields of a declaration, and what follows it. -/
def readDeclaration (fuel : Nat) (cs : List Char) : Option ((String × Fields) × List Char) := do
  let cs ← readWord "export const " cs
  let (constant, cs) ← readIdentifier cs
  let identifier ← constant.toList.dropSuffix? declarationSuffix.toList
  let cs ← readWord " = " cs
  let (kind, cs) ← readKind (readDescriptor fuel) (readFields fuel) cs
  let cs ← readWord ";\n" cs
  match kind with
  | .object fields => return ((String.ofList identifier, fields), cs)
  | _ => none

/-- The texts of string literals separated by bars, of which there is at least one, and what follows
them. -/
def readLiterals : Nat → List Char → Option (List String × List Char)
  | 0, _ => none
  | fuel + 1, cs => do
    let (member, cs) ← readLiteral cs
    match readWord " | " cs with
    | some cs => do
      let (members, cs) ← readLiterals fuel cs
      return (member :: members, cs)
    | none => return ([member], cs)

/-- The members of a union, and what follows them. -/
def readMembers (fuel : Nat) (cs : List Char) : Option (List String × List Char) :=
  readLiterals fuel cs <|> (readWord "never" cs).map fun cs => ([], cs)

/-- The name and the members of a union, with which the text ends. -/
def readUnion (fuel : Nat) (cs : List Char) : Option (String × List String) := do
  let cs ← readWord "export type " cs
  let (name, cs) ← readIdentifier cs
  let cs ← readWord " = " cs
  let (members, cs) ← readMembers fuel cs
  let cs ← readWord ";\n" cs
  if cs.isEmpty then return (name, members) else none

/-- The outline of the parts of a module after the first, each after a line break. -/
def readBlocks : Nat → List Char → Option Outline
  | 0, _ => none
  | fuel + 1, cs => do
    let cs ← readWord "\n" cs
    match readDeclaration fuel cs with
    | some (t, cs) => do
      let outline ← readBlocks fuel cs
      return { outline with types := t :: outline.types }
    | none => do
      let (name, members) ← readUnion fuel cs
      return ⟨[], name, members⟩

/-- The outline of a module. Its length bounds the steps that reading takes. -/
def readModule (text : String) : Option Outline := do
  let cs ← readWord importText text.toList
  readBlocks text.toList.length cs

/-! ### Reading back -/

/-- An identifier with more characters that may stand in one is an identifier. -/
theorem isIdentifier_append {name suffix : String} (h : isIdentifier name)
    (more : suffix.toList.all mayContinue) : isIdentifier (name ++ suffix) := by
  cases chars : name.toList with
  | nil => simp [isIdentifier, chars] at h
  | cons c cs =>
    rw [isIdentifier, chars, Bool.and_eq_true] at h
    rw [isIdentifier, String.toList_append, chars]
    simp only [List.cons_append, List.all_append, h.1, h.2, more, Bool.and_self]

theorem Declaration.toList_text (d : Declaration) :
    d.text.toList =
      "export const ".toList ++ (d.identifier.toList ++ (declarationSuffix.toList ++
        (" = ".toList ++ (d.validator.text.toList ++ ";\n".toList)))) := by
  have text : d.text = "export const " ++ d.identifier ++ declarationSuffix ++ " = " ++
      d.validator.text ++ ";\n" := rfl
  rw [text]
  simp only [String.toList_append, List.append_assoc]

theorem Declaration.length_validator_le (d : Declaration) :
    d.validator.text.toList.length ≤ d.text.toList.length := by
  rw [Declaration.toList_text]
  simp only [List.length_append]
  omega

/-- A declaration of which the validator can be read can be read. -/
theorem readDeclaration_of_readKind {fuel : Nat} {identifier : String} {validator : Expr}
    {fields : Fields} (h : isIdentifier identifier) (rest : List Char)
    (read : ∀ rest, readWord ".datetime()" rest = none →
      readKind (readDescriptor fuel) (readFields fuel) (validator.text.toList ++ rest) =
        some (.object fields, rest)) :
    readDeclaration fuel ((Declaration.mk identifier validator).text.toList ++ rest) =
      some ((identifier, fields), rest) := by
  -- The constant is one identifier up to the blank; the suffix is taken off afterwards, so it does
  -- no harm if the identifier of the type ends in it as well.
  have constant (cs : List Char) :
      readIdentifier (identifier.toList ++ (declarationSuffix.toList ++ (" = ".toList ++ cs))) =
        some (identifier ++ declarationSuffix, " = ".toList ++ cs) := by
    rw [← List.append_assoc, ← String.toList_append]
    exact readIdentifier_append (isIdentifier_append h (by decide)) (by decide) _
  have suffix : (identifier ++ declarationSuffix).toList.dropSuffix? declarationSuffix.toList =
      some identifier.toList := by
    rw [String.toList_append]
    exact List.dropSuffix?_eq_some_iff.mpr ⟨_, rfl, beq_self_eq_true _⟩
  rw [Declaration.toList_text]
  simp only [List.append_assoc]
  rw [readDeclaration, readWord_append]
  simp only [Option.bind_eq_bind, Option.bind_some, constant, suffix, readWord_append]
  rw [read _ rfl]
  simp only [Option.bind_some, readWord_append, String.ofList_toList]
  rfl

/-- The identifier and the erased fields of a declaration are read back from it. -/
theorem readDeclaration_text {t : ObjectType} (h : isIdentifier (safeIdentifier t.name))
    {fuel : Nat} (enough : t.declaration.text.toList.length ≤ fuel) (rest : List Char) :
    readDeclaration fuel (t.declaration.text.toList ++ rest) =
      some ((safeIdentifier t.name, eraseFields t.fields), rest) := by
  have shorter := t.declaration.length_validator_le
  exact readDeclaration_of_readKind h rest
    (readKind_text (.object t.fields) _ · (Nat.le_trans shorter enough))

/-- The literals of a union are read back, if what follows them is not a blank. -/
theorem readLiterals_intercalate {members : List String} (nonempty : members ≠ []) {fuel : Nat}
    {rest : List Char} (head : rest.head? ≠ some ' ')
    (enough : (" | ".intercalate (members.map quoted)).toList.length < fuel) :
    readLiterals fuel ((" | ".intercalate (members.map quoted)).toList ++ rest) =
      some (members, rest) := by
  induction members generalizing fuel with
  | nil => exact absurd rfl nonempty
  | cons member members ih =>
    obtain ⟨fuel, rfl⟩ : ∃ n, fuel = n + 1 := ⟨fuel - 1, by omega⟩
    rw [readLiterals]
    cases members with
    | nil =>
      rw [List.map_singleton, String.intercalate_singleton, readLiteral_quoted]
      simp only [Option.bind_eq_bind, Option.bind_some]
      rw [readWord_eq_none rfl head]
      rfl
    | cons next members =>
      rw [List.map_cons, List.map_cons, String.intercalate_cons_cons, ← List.map_cons,
        String.toList_append, String.toList_append, List.append_assoc] at enough ⊢
      simp only [List.length_append] at enough
      have : " | ".toList.length = 3 := rfl
      rw [List.append_assoc, readLiteral_quoted]
      simp only [Option.bind_eq_bind, Option.bind_some, readWord_append]
      rw [ih (by simp) (by omega)]
      rfl

/-- The members of a union as they are written. -/
def Union.body (u : Union) : String :=
  if u.members.isEmpty then "never" else " | ".intercalate (u.members.map quoted)

theorem Union.toList_text (u : Union) :
    u.text.toList =
      "export type ".toList ++ (u.name.toList ++ (" = ".toList ++ (u.body.toList ++
        ";\n".toList))) := by
  have text : u.text = "export type " ++ u.name ++ " = " ++ u.body ++ ";\n" := rfl
  rw [text]
  simp only [String.toList_append, List.append_assoc]

/-- The members of a union are read back, if what follows them is not a blank. -/
theorem readMembers_body (u : Union) {fuel : Nat} {rest : List Char}
    (head : rest.head? ≠ some ' ') (enough : u.body.toList.length < fuel) :
    readMembers fuel (u.body.toList ++ rest) = some (u.members, rest) := by
  rw [Union.body] at enough ⊢
  by_cases empty : u.members = []
  · have literals : readLiterals fuel ("never".toList ++ rest) = none := by
      cases fuel <;> rfl
    rw [if_pos (by simp [empty]), readMembers, literals, readWord_append, empty]
    rfl
  · rw [if_neg (by simpa using empty)] at enough ⊢
    rw [readMembers, readLiterals_intercalate empty head enough]
    rfl

/-- A union is read back, if its name is an identifier. -/
theorem readUnion_text {u : Union} (h : isIdentifier u.name) {fuel : Nat}
    (enough : u.text.toList.length ≤ fuel) :
    readUnion fuel u.text.toList = some (u.name, u.members) := by
  have name (cs : List Char) :
      readIdentifier (u.name.toList ++ (" = ".toList ++ cs)) = some (u.name, " = ".toList ++ cs) :=
    readIdentifier_append h (by decide) _
  rw [Union.toList_text] at enough ⊢
  simp only [List.length_append] at enough
  have : " = ".toList.length = 3 := rfl
  rw [readUnion, readWord_append]
  simp only [Option.bind_eq_bind, Option.bind_some, name, readWord_append]
  rw [readMembers_body u (by simp) (by omega)]
  rfl

/-- A union is not taken for a declaration. -/
theorem readDeclaration_union (u : Union) (fuel : Nat) :
    readDeclaration fuel u.text.toList = none := by
  have other (cs : List Char) : readWord "export const " ("export type ".toList ++ cs) = none := rfl
  rw [Union.toList_text, readDeclaration, other]
  rfl

/-- The parts of a module after the first, as they are written. -/
def laterBlocks (blocks : List String) : List Char :=
  blocks.flatMap fun block => "\n".toList ++ block.toList

theorem laterBlocks_nil : laterBlocks [] = [] := rfl

theorem laterBlocks_cons (block : String) (blocks : List String) :
    laterBlocks (block :: blocks) = "\n".toList ++ (block.toList ++ laterBlocks blocks) := by
  rw [laterBlocks, List.flatMap_cons, List.append_assoc]
  rfl

theorem toList_intercalate_newline (first : String) (blocks : List String) :
    ("\n".intercalate (first :: blocks)).toList = first.toList ++ laterBlocks blocks := by
  induction blocks generalizing first with
  | nil => rw [String.intercalate_singleton, laterBlocks_nil, List.append_nil]
  | cons block blocks ih =>
    rw [String.intercalate_cons_cons, String.toList_append, String.toList_append, ih,
      laterBlocks_cons, List.append_assoc]

/-- Declarations and the union after them are read back in order. -/
theorem readBlocks_laterBlocks {types : List ObjectType} {u : Union}
    (identifiers : ∀ t ∈ types, isIdentifier (safeIdentifier t.name)) (h : isIdentifier u.name)
    {fuel : Nat}
    (enough : (laterBlocks (types.map (·.declaration.text) ++ [u.text])).length ≤ fuel) :
    readBlocks fuel (laterBlocks (types.map (·.declaration.text) ++ [u.text])) =
      some ⟨types.map fun t => (safeIdentifier t.name, eraseFields t.fields), u.name,
        u.members⟩ := by
  have newline : "\n".toList.length = 1 := rfl
  induction types generalizing fuel with
  | nil =>
    rw [List.map_nil, List.nil_append, laterBlocks_cons, laterBlocks_nil, List.append_nil]
      at enough ⊢
    rw [List.length_append] at enough
    obtain ⟨fuel, rfl⟩ : ∃ n, fuel = n + 1 := ⟨fuel - 1, by omega⟩
    rw [readBlocks, readWord_append]
    simp only [Option.bind_eq_bind, Option.bind_some, readDeclaration_union]
    rw [readUnion_text h (by omega)]
    rfl
  | cons t types ih =>
    -- Each part takes one step and at least one character, so its length bounds the steps left.
    rw [List.forall_mem_cons] at identifiers
    rw [List.map_cons, List.cons_append, laterBlocks_cons] at enough ⊢
    simp only [List.length_append] at enough
    obtain ⟨fuel, rfl⟩ : ∃ n, fuel = n + 1 := ⟨fuel - 1, by omega⟩
    rw [readBlocks, readWord_append]
    simp only [Option.bind_eq_bind, Option.bind_some]
    rw [readDeclaration_text identifiers.1 (by omega)]
    dsimp only
    rw [ih identifiers.2 (by omega)]
    rfl

/-- The outline of a document is read back from its module. -/
theorem readModule_text {unionName : String} {d : Document} (union : isIdentifier unionName)
    (h : WellNamed d.names) :
    readModule (d.module unionName).text = some (outline unionName d) := by
  have identifiers : ∀ t ∈ d.types, isIdentifier (safeIdentifier t.name) := by
    intro t mem
    exact h.identifiers t.name (List.mem_map_of_mem mem)
  have text : (d.module unionName).text.toList = importText.toList ++
      laterBlocks
        (d.types.map (·.declaration.text) ++ [(Union.ofNames unionName d.names).text]) := by
    rw [Module.text, Module.blocks, Document.module, List.map_map]
    exact toList_intercalate_newline _ _
  rw [readModule, text, readWord_append]
  refine readBlocks_laterBlocks identifiers union ?_
  rw [List.length_append]
  omega

/-! ### Equal texts -/

/-- A module with the given outline. -/
def Outline.module (outline : Outline) : Module where
  typeNames := outline.types.map Prod.fst
  declarations := outline.types.map fun t => ⟨t.1, .object (fieldValidators t.2)⟩
  union := ⟨outline.unionName, outline.members⟩

/-- The text of a module can be written from its outline. -/
theorem text_module_outline (unionName : String) (d : Document) :
    (outline unionName d).module.text = (d.module unionName).text := by
  have declaration (t : ObjectType) :
      (⟨safeIdentifier t.name, .object (fieldValidators (eraseFields t.fields))⟩ : Declaration) =
        t.declaration := by
    rw [fieldValidators_erase]
    rfl
  simp only [Module.text, Module.blocks, Outline.module, outline, Document.module, List.map_map,
    Function.comp_def, declaration]
  rfl

/-- Two documents that are emitted have one text iff they have one outline. -/
theorem text_eq_text_iff_outline_eq {o₁ o₂ : Options} {d₁ d₂ : Document} {m₁ m₂ : Module}
    (h₁ : (emit o₁ d₁).outcome = .ok m₁) (h₂ : (emit o₂ d₂).outcome = .ok m₂) :
    m₁.text = m₂.text ↔ outline o₁.unionName d₁ = outline o₂.unionName d₂ := by
  obtain ⟨union₁, named₁, -, rfl⟩ := emit_outcome_eq_ok_iff.mp h₁
  obtain ⟨union₂, named₂, -, rfl⟩ := emit_outcome_eq_ok_iff.mp h₂
  constructor
  · intro same
    rw [← Option.some.injEq, ← readModule_text union₁ named₁, same, readModule_text union₂ named₂]
  · intro same
    rw [← text_module_outline, same, text_module_outline]

/-- Two documents that are emitted have one text iff their unions have the same name and the same
literals, and their types the same identifiers and erased fields, in the same order. -/
theorem text_eq_text_iff {o₁ o₂ : Options} {d₁ d₂ : Document} {m₁ m₂ : Module}
    (h₁ : (emit o₁ d₁).outcome = .ok m₁) (h₂ : (emit o₂ d₂).outcome = .ok m₂) :
    m₁.text = m₂.text ↔
      o₁.unionName = o₂.unionName ∧
        d₁.types.map (fun t => (safeIdentifier t.name, eraseFields t.fields)) =
          d₂.types.map (fun t => (safeIdentifier t.name, eraseFields t.fields)) ∧
        (Union.ofNames o₁.unionName d₁.names).members.map quoted =
          (Union.ofNames o₂.unionName d₂.names).members.map quoted := by
  have literals : Function.Injective quoted := fun _ _ => quoted_injective
  rw [text_eq_text_iff_outline_eq h₁ h₂, (List.map_injective_iff.mpr literals).eq_iff, outline,
    outline, Outline.mk.injEq]
  exact and_left_comm

/-- A document with two fields in its only type. -/
def twoFields : Document :=
  .ofTypes [⟨"contacts", [("a", .mk (.string none) true), ("b", .mk (.string none) true)]⟩]

/-- A document with one field, the name of which looks like the first field of `twoFields` and the
beginning of the second. -/
def forgedFields : Document :=
  .ofTypes [⟨"contacts", [("a\": z.string(),\n  \"b", .mk (.string none) true)]⟩]

theorem text_forgedFields_ne :
    (emit ⟨1, "Record"⟩ twoFields).outcome = .ok (twoFields.module "Record") ∧
    (emit ⟨1, "Record"⟩ forgedFields).outcome = .ok (forgedFields.module "Record") ∧
    (twoFields.module "Record").text ≠ (forgedFields.module "Record").text := by
  have two : (emit ⟨1, "Record"⟩ twoFields).outcome = .ok (twoFields.module "Record") :=
    emit_outcome_eq_ok_iff.mpr ⟨by decide, namingProblem?_eq_none_iff.mp (by decide),
      by decide, rfl⟩
  have forged : (emit ⟨1, "Record"⟩ forgedFields).outcome = .ok (forgedFields.module "Record") :=
    emit_outcome_eq_ok_iff.mpr ⟨by decide, namingProblem?_eq_none_iff.mp (by decide),
      by decide, rfl⟩
  refine ⟨two, forged, fun same => ?_⟩
  have types := ((text_eq_text_iff two forged).mp same).2.1
  exact absurd (congrArg (List.map fun t => t.2.length) types) (by decide)

end ValidatorGen.Validator
