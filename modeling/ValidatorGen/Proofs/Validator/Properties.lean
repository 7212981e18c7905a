import ValidatorGen.Proofs.Schema.Canonical
import ValidatorGen.Proofs.Validator.Emission
import ValidatorGen.Proofs.Validator.ObjectLiteral

/-!
# What an object literal defines

Each entry of an object literal defines a property with the name of its key; of several entries with
one name the last one counts. One name is special: under `__proto__`, bare or quoted, stands the
object from which properties are inherited, and no property is defined. So the literal that is
written for described fields has a property for each of them, bound to the validator of the field,
except that a field of that one name is lost.

## Main definitions

* `Properties.ofEntries` — the properties that entries define
* `HasObject` — an object with the given fields is described inside a kind

## Main results

* `Properties.own_ofEntries`, `Properties.prototype_ofEntries_eq_some_iff` — what entries with
  distinct names define
* `literals_define_fields` — what the literals of a compiled object define, at every level
-/

namespace ValidatorGen.Validator

open Naming Schema

/-! ### Definitions of properties -/

/-- The key under which the object stands from which properties are inherited. -/
def prototypeKey : String := "__proto__"

/-- What an object literal defines. The values are given by their expressions. -/
structure Properties where
  /-- The properties of the object itself, with their values. -/
  own : List (String × String)
  /-- The object from which further properties are inherited, if it is given. -/
  prototype : Option String

/-- The properties after one more entry. -/
def Properties.define (p : Properties) (entry : String × String) : Properties :=
  if entry.1 = prototypeKey then { p with prototype := some entry.2 }
  else { p with own := Ordered.put Prod.fst entry p.own }

/-- The properties that the entries of an object literal define, one after the other. -/
def Properties.ofEntries (entries : List (String × String)) : Properties :=
  entries.foldl Properties.define ⟨[], none⟩

theorem Properties.ofEntries_concat (entries : List (String × String)) (entry : String × String) :
    ofEntries (entries ++ [entry]) = (ofEntries entries).define entry :=
  List.foldl_concat ..

/-- Entries with distinct names define a property each, except under the special key. -/
theorem Properties.own_ofEntries {entries : List (String × String)}
    (h : (entries.map Prod.fst).Nodup) :
    (ofEntries entries).own = entries.filter (·.1 ≠ prototypeKey) := by
  induction entries using List.reverseRecOn with
  | nil => rfl
  | append_singleton entries entry ih =>
    rw [List.map_append, List.nodup_append] at h
    have before := ih h.1
    rw [ofEntries_concat, define, List.filter_append]
    split
    · rename_i special
      rw [before, List.filter_cons_of_neg (by simp [special]), List.filter_nil, List.append_nil]
    · rename_i ordinary
      have fresh : entry.1 ∉ ((ofEntries entries).own).map Prod.fst := by
        intro mem
        rw [before] at mem
        have known := (List.filter_sublist.map Prod.fst).subset mem
        exact h.2.2 _ known entry.1 (by simp) rfl
      rw [Ordered.put_of_not_mem fresh, before, List.filter_cons_of_pos (by simp [ordinary]),
        List.filter_nil]

/-- Under the special key stands what is inherited from. -/
theorem Properties.prototype_ofEntries_eq_some_iff {entries : List (String × String)}
    (h : (entries.map Prod.fst).Nodup) {value : String} :
    (ofEntries entries).prototype = some value ↔ (prototypeKey, value) ∈ entries := by
  induction entries using List.reverseRecOn with
  | nil => simp [ofEntries]
  | append_singleton entries entry ih =>
    rw [List.map_append, List.nodup_append] at h
    rw [ofEntries_concat, define, List.mem_append, List.mem_singleton]
    split
    · rename_i special
      -- The key is not used before, as it is that of this entry.
      have absent : (prototypeKey, value) ∉ entries := by
        intro mem
        exact h.2.2 _ (List.mem_map_of_mem mem) entry.1 (by simp) special.symm
      rw [Option.some.injEq, or_iff_right absent, Prod.ext_iff]
      simp [special, eq_comm]
    · rename_i ordinary
      have other : (prototypeKey, value) ≠ entry := fun same => ordinary (same ▸ rfl)
      rw [or_iff_left other, ih h.1]

/-! ### Objects at every level -/

/-- An object with the given fields is described inside the kind, at any level. -/
inductive HasObject : Kind → Fields → Prop where
  /-- The kind itself. -/
  | here {fields : Fields} : HasObject (.object fields) fields
  /-- Inside the items of an array. -/
  | item {kind : Kind} {required : Bool} {inner : Fields} (h : HasObject kind inner) :
      HasObject (.array (.mk kind required)) inner
  /-- Inside a field. -/
  | field {fields : Fields} {name : String} {kind : Kind} {required : Bool} {inner : Fields}
      (mem : (name, .mk kind required) ∈ fields) (h : HasObject kind inner) :
      HasObject (.object fields) inner

section

variable {kind : Kind} {inner : Fields}

theorem HasObject.nodup (h : HasObject kind inner) (distinct : kind.DistinctFields) :
    (inner.map Prod.fst).Nodup := by
  induction h with
  | here => exact distinct.1
  | item _ ih => exact ih distinct
  | field mem _ ih => exact ih (fieldsDistinct_iff.mp distinct.2 _ mem)

/-- What is described inside a kind nests less deeply than the kind. -/
theorem HasObject.nesting_lt (h : HasObject kind inner) :
    ∀ field ∈ inner, field.2.nesting < kind.nesting := by
  induction h with
  | here =>
    intro field mem
    have within := fieldsNesting_le_iff.mp (Nat.le_refl _) field mem
    rw [Kind.nesting]
    omega
  | item _ ih =>
    intro field mem
    have inside := ih field mem
    rw [Kind.nesting, Descriptor.nesting]
    omega
  | field mem _ ih =>
    intro field mem'
    have inside := ih field mem'
    have within := fieldsNesting_le_iff.mp (Nat.le_refl _) _ mem
    rw [Descriptor.nesting] at within
    rw [Kind.nesting]
    omega

end

/-! ### Literals at every level -/

/-- A text stands inside another. -/
def PartOf (part text : String) : Prop := ∃ before after, text = before ++ part ++ after

theorem PartOf.refl (text : String) : PartOf text text := ⟨"", "", by simp⟩

theorem PartOf.enclose {part text : String} (h : PartOf part text) (before after : String) :
    PartOf part (before ++ text ++ after) := by
  obtain ⟨front, back, rfl⟩ := h
  exact ⟨before ++ front, back ++ after, by simp only [String.append_assoc]⟩

theorem PartOf.append {part text : String} (h : PartOf part text) (after : String) :
    PartOf part (text ++ after) := by
  have enclosed := h.enclose "" after
  rwa [String.empty_append] at enclosed

/-- What stands in the validator of a kind stands in that of each descriptor of the kind. -/
theorem PartOf.descriptor {part : String} {kind : Kind} (h : PartOf part kind.validator.text)
    (required : Bool) : PartOf part (Descriptor.mk kind required).validator.text := by
  cases required with
  | true => exact h
  | false => exact h.append ".optional()"

/-- What stands in the validator of a field stands in the entries. -/
theorem PartOf.entries {part name : String} {field : Descriptor} {fields : Fields}
    (mem : (name, field) ∈ fields) (h : PartOf part field.validator.text) :
    PartOf part (entriesText (fieldValidators fields)) := by
  induction fields with
  | nil => cases mem
  | cons first fields ih =>
    obtain ⟨firstName, first⟩ := first
    rw [fieldValidators, entriesText_cons]
    rcases List.mem_cons.mp mem with here | later
    · cases here
      exact h.enclose (",\n  " ++ propertyKey name ++ ": ") _
    · have enclosed := (ih later).enclose
        (",\n  " ++ propertyKey firstName ++ ": " ++ first.validator.text) ""
      rwa [String.append_empty] at enclosed

/-- What stands in the validator of a field stands in that of the object. -/
theorem PartOf.object {part name : String} {field : Descriptor} {fields : Fields}
    (mem : (name, field) ∈ fields) (h : PartOf part field.validator.text) :
    PartOf part (Expr.object (fieldValidators fields)).text := by
  cases fields with
  | nil => cases mem
  | cons first fields =>
    obtain ⟨firstName, first⟩ := first
    rw [fieldValidators, Expr.text_object_cons]
    rcases List.mem_cons.mp mem with here | later
    · cases here
      exact (h.enclose ("z.object(\x7b\n  " ++ propertyKey name ++ ": ") _).append _
    · exact (PartOf.entries later h).enclose _ _

/-- The literal of an object stands where the object is described. -/
theorem HasObject.partOf {kind : Kind} {inner : Fields} (h : HasObject kind inner) :
    PartOf (Expr.object (fieldValidators inner)).text kind.validator.text := by
  induction h with
  | here => exact PartOf.refl _
  | item _ ih => exact (ih.descriptor _).enclose "z.array(" ")"
  | field mem _ ih => exact PartOf.object mem (ih.descriptor _)

/-! ### Compiled objects -/

variable {limit : Nat} {place : Place} {fields : Fields} {e : Expr}

theorem fieldsNesting_le_of_visits (h : ∀ v ∈ fieldVisits place fields, v.isWithin limit) :
    fieldsNesting fields ≤ limit := by
  induction fields with
  | nil => exact Nat.zero_le _
  | cons field fields ih =>
    rw [fieldVisits, List.forall_mem_append, Descriptor.visits_isWithin_iff] at h
    have rest := ih h.2
    rw [fieldsNesting]
    omega

/-- If fields are compiled, they stay within the limit, and the validator is that of the fields. -/
theorem compileFields_outcome_eq_ok (h : (compileFields limit place fields).outcome = .ok e) :
    fieldsNesting fields ≤ limit ∧ e = .object (fieldValidators fields) := by
  rw [compileFields_eq_visitAll] at h
  by_cases within : ∀ v ∈ fieldVisits place fields, v.isWithin limit
  · rw [visitAll_outcome_of_isWithin within] at h
    cases h
    exact ⟨fieldsNesting_le_of_visits within, rfl⟩
  · obtain ⟨v, -, failed⟩ :=
      visitAll_outcome_of_not_isWithin within (Expr.object (fieldValidators fields))
    rw [failed] at h
    cases h

/-- A descriptor that stays within the limit is resolved to its validator. -/
theorem resolve_outcome_of_nesting_le {d : Descriptor} (h : d.nesting ≤ limit) (hint : String) :
    (resolve limit d hint).outcome = .ok d.validator := by
  rw [resolve, resolveAt_eq_visitAll]
  refine visitAll_outcome_of_isWithin (Descriptor.visits_isWithin_iff.mpr ?_) _
  simpa using h

/-- The fields of an object with the texts of their validators. -/
def fieldTexts (fields : Fields) : List (String × String) :=
  fields.map fun field => (field.1, field.2.validator.text)

theorem map_fieldValidators (fields : Fields) :
    ((fieldValidators fields).map fun entry => (entry.1, entry.2.text)) = fieldTexts fields := by
  induction fields with
  | nil => rfl
  | cons field fields ih =>
    rw [fieldValidators, List.map_cons, ih, fieldTexts, fieldTexts, List.map_cons]

theorem map_fst_fieldTexts (fields : Fields) :
    (fieldTexts fields).map Prod.fst = fields.map Prod.fst := by
  rw [fieldTexts, List.map_map]
  rfl

/-- All names are left without the special one iff it is not among them. -/
theorem forall_mem_filter_iff {texts : List (String × String)} :
    (∀ name, name ∈ (texts.filter (·.1 ≠ prototypeKey)).map Prod.fst ↔
        name ∈ texts.map Prod.fst) ↔ prototypeKey ∉ texts.map Prod.fst := by
  have left (name : String) : name ∈ (texts.filter (·.1 ≠ prototypeKey)).map Prod.fst ↔
      name ≠ prototypeKey ∧ name ∈ texts.map Prod.fst := by
    simp only [List.mem_map, List.mem_filter, decide_eq_true_eq]
    constructor
    · rintro ⟨entry, ⟨mem, ordinary⟩, rfl⟩
      exact ⟨ordinary, entry, mem, rfl⟩
    · rintro ⟨ordinary, entry, mem, rfl⟩
      exact ⟨entry, ⟨mem, ordinary⟩, rfl⟩
  constructor
  · intro all mem
    exact ((left prototypeKey).mp ((all prototypeKey).mpr mem)).1 rfl
  · intro absent name
    rw [left, and_iff_right_iff_imp]
    rintro mem rfl
    exact absent mem

/-- What the literals of a compiled object define, at every level. Wherever an object is described
inside the compiled fields, the literal that stands there has one property for each of its fields,
with the field's name, bound to what the field is resolved to by itself, and no other property, but
for a field named `__proto__`: its validator becomes what the object inherits from. So all fields
become properties iff none has that name. -/
theorem literals_define_fields (distinct : (Kind.object fields).DistinctFields)
    (h : (compileFields limit place fields).outcome = .ok e) {inner : Fields}
    (described : HasObject (.object fields) inner) :
    e = .object (fieldValidators fields) ∧
    PartOf (Expr.object (fieldValidators inner)).text e.text ∧
    (∀ field ∈ inner, (resolve limit field.2 field.1).outcome = .ok field.2.validator) ∧
    ∃ entries, readObjectLiteral (Expr.object (fieldValidators inner)).text = some entries ∧
      (Properties.ofEntries entries).own =
        (fieldTexts inner).filter (·.1 ≠ prototypeKey) ∧
      ((Properties.ofEntries entries).own.map Prod.fst).Nodup ∧
      (∀ value, (Properties.ofEntries entries).prototype = some value ↔
        (prototypeKey, value) ∈ fieldTexts inner) ∧
      ((∀ name, name ∈ (Properties.ofEntries entries).own.map Prod.fst ↔
        name ∈ inner.map Prod.fst) ↔ prototypeKey ∉ inner.map Prod.fst) := by
  obtain ⟨within, rfl⟩ := compileFields_outcome_eq_ok h
  have names : ((fieldTexts inner).map Prod.fst).Nodup := by
    rw [map_fst_fieldTexts]
    exact described.nodup distinct
  have own := Properties.own_ofEntries names
  refine ⟨rfl, described.partOf, ?_, fieldTexts inner, ?_, own, ?_,
    fun _ => Properties.prototype_ofEntries_eq_some_iff names, ?_⟩
  · intro field mem
    have nesting := described.nesting_lt field mem
    rw [Kind.nesting] at nesting
    exact resolve_outcome_of_nesting_le (by omega) field.1
  · rw [readObjectLiteral_text, map_fieldValidators]
  · rw [own]
    exact names.sublist (List.filter_sublist.map _)
  · rw [own, ← map_fst_fieldTexts inner]
    exact forall_mem_filter_iff

/-- Fields of which one holds objects with a field that has the special name. -/
def orderLines : Fields :=
  [("first name", .mk (.string none) true),
    ("lines", .mk (.array (.mk (.object
      [("__proto__", .mk .number true), ("id", .mk (.string none) false)]) true)) true)]

theorem literals_define_fields_orderLines :
    (Kind.object orderLines).DistinctFields ∧
    (compileFields 3 ⟨none, []⟩ orderLines).outcome =
      .ok (.object (fieldValidators orderLines)) ∧
    HasObject (.object orderLines)
      [("__proto__", .mk .number true), ("id", .mk (.string none) false)] ∧
    (∃ entries, readObjectLiteral
        (Expr.object (fieldValidators
          [("__proto__", .mk .number true), ("id", .mk (.string none) false)])).text =
          some entries ∧
      (Properties.ofEntries entries).own = [("id", "z.string().optional()")] ∧
      (Properties.ofEntries entries).prototype = some "z.number()") ∧
    ∃ entries, readObjectLiteral (Expr.object (fieldValidators orderLines)).text = some entries ∧
      ∀ name, name ∈ (Properties.ofEntries entries).own.map Prod.fst ↔
        name ∈ orderLines.map Prod.fst := by
  have distinct : (Kind.object orderLines).DistinctFields := by
    simp [orderLines, Kind.DistinctFields, FieldsDistinct, Descriptor.DistinctFields]
  have compiled : (compileFields 3 ⟨none, []⟩ orderLines).outcome =
      .ok (.object (fieldValidators orderLines)) := rfl
  have inside : HasObject (.object orderLines)
      [("__proto__", .mk .number true), ("id", .mk (.string none) false)] := by
    apply HasObject.field (List.mem_cons_of_mem _ (List.mem_singleton_self _))
    exact .item .here
  obtain ⟨-, -, -, lines, read, own, -, prototype, -⟩ :=
    literals_define_fields distinct compiled inside
  obtain ⟨-, -, -, order, read', -, -, -, all⟩ := literals_define_fields distinct compiled .here
  refine ⟨distinct, compiled, inside, ⟨lines, read, own.trans rfl, ?_⟩, order, read', ?_⟩
  · rw [prototype]
    decide
  · rw [all]
    decide

/-- A field with the special name is not a property of the literal that is written for it. -/
theorem not_forall_own_iff_field :
    ¬ ∀ (limit : Nat) (place : Place) (fields : Fields) (e : Expr),
      (Kind.object fields).DistinctFields →
        (compileFields limit place fields).outcome = .ok e →
          ∃ entries, readObjectLiteral e.text = some entries ∧
            ∀ name, name ∈ (Properties.ofEntries entries).own.map Prod.fst ↔
              name ∈ fields.map Prod.fst := by
  intro all
  have distinct : (Kind.object [("__proto__", .mk (.string none) true)]).DistinctFields := by
    simp [Kind.DistinctFields, FieldsDistinct, Descriptor.DistinctFields]
  obtain ⟨entries, read, same⟩ := all 1 ⟨none, []⟩ [("__proto__", .mk (.string none) true)]
    (.object [("__proto__", .string)]) distinct rfl
  rw [readObjectLiteral_text] at read
  cases read
  exact absurd ((same "__proto__").mpr (by decide)) (by decide)

end ValidatorGen.Validator
