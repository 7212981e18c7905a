import Mathlib.Data.List.Nodup
import ValidatorGen.Config
import ValidatorGen.Proofs.Validator.Unambiguous

/-!
# The names that a module binds

A module binds one constant for each object type and the type that is its union, beside the
imported `z`. The constants are identifiers, each of its own, and their suffix keeps them apart from
reserved words and from `z`. The name of the union is taken as it is: it is an identifier, and
nothing more is asked of it.

## Main definitions

* `reservedWords` — the words that may not be declared
* `IsUsable` — a name that may be declared beside the imported one
* `Outline.constants` — the constants that a module is read to declare

## Main results

* `isUsable_constant` — a constant may be declared, whatever the object type is called
* `bindings_usable_iff` — when all names that a module binds may be declared
-/

namespace ValidatorGen.Validator

open Naming Schema

/-- The words that may not be declared: those that are reserved in modules, and the names of the
predefined types. -/
def reservedWords : List String :=
  ["break", "case", "catch", "class", "const", "continue", "debugger", "default", "delete", "do",
    "else", "enum", "export", "extends", "false", "finally", "for", "function", "if", "import",
    "in", "instanceof", "new", "null", "return", "super", "switch", "this", "throw", "true", "try",
    "typeof", "var", "void", "while", "with",
    "await", "implements", "interface", "let", "package", "private", "protected", "public",
    "static", "yield",
    "any", "bigint", "boolean", "never", "number", "object", "string", "symbol", "undefined",
    "unknown"]

/-- The name that a module imports. -/
def importedName : String := "z"

/-- A name that may be declared in a module: an identifier that is neither reserved nor imported. -/
structure IsUsable (name : String) : Prop where
  /-- It is an identifier. -/
  identifier : isIdentifier name
  /-- It is not reserved. -/
  notReserved : name ∉ reservedWords
  /-- It is not the imported name. -/
  notImported : name ≠ importedName

instance (name : String) : Decidable (IsUsable name) :=
  decidable_of_iff (isIdentifier name ∧ name ∉ reservedWords ∧ name ≠ importedName)
    ⟨fun h => ⟨h.1, h.2.1, h.2.2⟩, fun h => ⟨h.1, h.2, h.3⟩⟩

/-- The constants that a module is read to declare. -/
def Outline.constants (outline : Outline) : List String :=
  outline.types.map fun t => t.1 ++ declarationSuffix

/-! ### Constants -/

/-- No word that may not be declared ends like a constant. -/
theorem not_suffix_of_reserved :
    ∀ word ∈ importedName :: reservedWords, ¬ declarationSuffix.toList <:+ word.toList := by
  decide

/-- A constant may be declared if it begins with an identifier. -/
theorem isUsable_constant {identifier : String} (h : isIdentifier identifier) :
    IsUsable (identifier ++ declarationSuffix) := by
  have suffix : declarationSuffix.toList <:+ (identifier ++ declarationSuffix).toList := by
    rw [String.toList_append]
    exact List.suffix_append ..
  refine ⟨isIdentifier_append h (by decide), ?_, ?_⟩
  · intro reserved
    exact not_suffix_of_reserved _ (List.mem_cons_of_mem _ reserved) suffix
  · intro imported
    exact not_suffix_of_reserved _ (imported ▸ List.mem_cons_self) suffix

theorem append_declarationSuffix_injective :
    Function.Injective fun identifier : String => identifier ++ declarationSuffix := by
  intro identifier identifier' same
  have chars := congrArg String.toList same
  simp only [String.toList_append] at chars
  exact String.toList_inj.mp (List.append_cancel_right chars)

theorem constants_outline (unionName : String) (d : Document) :
    (outline unionName d).constants =
      d.names.map fun name => safeIdentifier name ++ declarationSuffix := by
  simp only [Outline.constants, outline, Document.names, List.map_map]
  rfl

theorem nodup_constants {d : Document} (h : WellNamed d.names) :
    (d.names.map fun name => safeIdentifier name ++ declarationSuffix).Nodup := by
  have distinct := List.Nodup.map append_declarationSuffix_injective h.distinct
  rwa [List.map_map] at distinct

/-! ### Modules -/

/-- A module begins with the import of its one imported name. -/
theorem Module.exists_text_eq_append (m : Module) :
    ∃ rest, m.text = "import \x7b " ++ importedName ++ " \x7d from 'zod';\n" ++ rest := by
  have others : m.declarations.map Declaration.text ++ [m.union.text] ≠ [] := by simp
  rw [Module.text, Module.blocks, List.cons_append, String.intercalate_cons_of_ne_nil others,
    String.append_assoc]
  exact ⟨_, rfl⟩

/-- The names that are read off an emitted module. Its constants are one for each object type, each
of its own, and all of them may be declared. The name of the union is an identifier, so it may be
declared iff it is neither reserved nor the imported name; a configuration is not refused for it in
any case. -/
theorem bindings_usable_iff {o : Options} {d : Document} {m : Module}
    (h : (emit o d).outcome = .ok m) :
    (∃ rest, m.text = "import \x7b " ++ importedName ++ " \x7d from 'zod';\n" ++ rest) ∧
    ∃ read, readModule m.text = some read ∧
      read.constants = d.names.map (fun name => safeIdentifier name ++ "Schema") ∧
      read.constants.Nodup ∧
      (∀ constant ∈ read.constants, IsUsable constant) ∧
      read.unionName = o.unionName ∧ isIdentifier read.unionName ∧
      (IsUsable read.unionName ↔
        o.unionName ∉ reservedWords ∧ o.unionName ≠ importedName) ∧
      ∀ c : Config, c.unionName = o.unionName → c.maxDepth ≠ 0 → c.problem? = none := by
  obtain ⟨union, named, -, rfl⟩ := emit_outcome_eq_ok_iff.mp h
  have constants := constants_outline o.unionName d
  refine ⟨Module.exists_text_eq_append _, outline o.unionName d, readModule_text union named,
    constants, constants ▸ nodup_constants named, ?_, rfl, union, ?_, ?_⟩
  · intro constant mem
    rw [constants] at mem
    obtain ⟨name, mem', rfl⟩ := List.mem_map.mp mem
    exact isUsable_constant (named.identifiers name mem')
  · constructor
    · intro usable
      exact ⟨usable.notReserved, usable.notImported⟩
    · rintro ⟨notReserved, notImported⟩
      exact ⟨union, notReserved, notImported⟩
  · intro c same depth
    rw [Config.problem?, if_neg depth, same, if_neg (by simp [union])]

/-- A document with the names of words that may not be declared. -/
def classAndEnum : Document := .ofTypes [⟨"class", []⟩, ⟨"enum", []⟩, ⟨"z", []⟩]

theorem bindings_usable_iff_classAndEnum :
    (emit ⟨1, "RecordType"⟩ classAndEnum).outcome = .ok (classAndEnum.module "RecordType") ∧
    ∃ read, readModule (classAndEnum.module "RecordType").text = some read ∧
      read.constants = ["classSchema", "enumSchema", "zSchema"] ∧
      IsUsable "zSchema" ∧ IsUsable read.unionName := by
  have emitted : (emit ⟨1, "RecordType"⟩ classAndEnum).outcome =
      .ok (classAndEnum.module "RecordType") :=
    emit_outcome_of_isWithin (by decide) (namingProblem?_eq_none_iff.mp (by decide)) (by decide)
  obtain ⟨-, read, outlined, constants, -, usable, -, -, union, -⟩ := bindings_usable_iff emitted
  have names : read.constants = ["classSchema", "enumSchema", "zSchema"] :=
    constants.trans (by decide)
  exact ⟨emitted, read, outlined, names, usable "zSchema" (by rw [names]; decide),
    union.mpr (by decide)⟩

/-- A configuration that is not refused may give the union a name that may not be declared. -/
theorem not_forall_bindings_usable :
    ¬ ∀ (c : Config) (d : Document) (m : Module), c.problem? = none →
      (emit c.options d).outcome = .ok m →
        ∃ read, readModule m.text = some read ∧
          (∀ constant ∈ read.constants, IsUsable constant) ∧ read.constants.Nodup ∧
            IsUsable read.unionName := by
  intro all
  have union : isIdentifier "class" := by decide
  have named : WellNamed Document.empty.names := wellNamed_nil
  obtain ⟨read, outlined, -, -, usable⟩ := all { unionName := "class" } .empty
    (Document.empty.module "class") (by decide) (emit_outcome_of_isWithin union named (by decide))
  rw [readModule_text union named] at outlined
  cases outlined
  exact usable.notReserved (by decide)

end ValidatorGen.Validator
