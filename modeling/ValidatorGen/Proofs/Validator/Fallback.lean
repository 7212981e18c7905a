import ValidatorGen.Proofs.Schema.Fallback
import ValidatorGen.Proofs.Schema.Replacement
import ValidatorGen.Proofs.Validator.Emission

/-!
# Kinds that are not understood do not keep a document from being emitted

A document that is emitted is still emitted with any of its descriptors replaced by one of a kind
that is not understood, and its validator at that place accepts anything. In the value from which
the document was decoded, the descriptor can be replaced by any object of such a kind that is
decoded.

## Main definitions

* `Expr.at?` — the validator to which steps lead

## Main results

* `validator_at?` — steps lead to the validator of the descriptor to which they lead
* `emit_replaceAt` — a document that is emitted is emitted with a descriptor replaced
* `emit_fallback_iff` — when a document with an object of a kind that is not understood is emitted
-/

namespace ValidatorGen.Validator

open Json Naming Schema

/-- The validator without the call that makes it accept that there is nothing. -/
def Expr.base : Expr → Expr
  | .optional inner => inner
  | e => e

/-- The validator to which steps lead. -/
def Expr.at? : List Step → Expr → Option Expr
  | [], e => some e
  | .item :: steps, e =>
    match e.base with
    | .array item => item.at? steps
    | _ => none
  | .field name :: steps, e =>
    match e.base with
    | .object entries => (Ordered.value? name entries).bind (Expr.at? steps)
    | _ => none

/-- Whether a field may be missing does not hide the validator of its kind. -/
theorem base_validator (kind : Kind) (required : Bool) :
    (Descriptor.mk kind required).validator.base = kind.validator := by
  cases required with
  | false => rfl
  | true =>
    rw [Descriptor.validator, if_pos rfl]
    cases kind with
    | string format =>
      rcases format with _ | _ | _ <;> rfl
    | number | boolean | untypedArray | array | openObject | object | unknown => rfl

theorem value?_fieldValidators (name : String) (fields : Fields) :
    Ordered.value? name (fieldValidators fields) =
      (Ordered.value? name fields).map Descriptor.validator := by
  induction fields with
  | nil => rfl
  | cons field fields ih =>
    rw [fieldValidators, Ordered.value?_cons, Ordered.value?_cons, ih]
    split <;> rfl

/-- Steps lead to the validator of the descriptor to which they lead. -/
theorem validator_at? (steps : List Step) {d inner : Descriptor} (h : d.at? steps = some inner) :
    d.validator.at? steps = some inner.validator := by
  induction steps generalizing d with
  | nil =>
    obtain rfl := Option.some.inj h
    rfl
  | cons step steps ih =>
    cases step with
    | item =>
      obtain ⟨item, required, rfl, h⟩ := at?_item_eq_some h
      rw [Expr.at?, base_validator]
      exact ih h
    | field name =>
      obtain ⟨fields, required, field, rfl, found, h⟩ := at?_field_eq_some h
      rw [Expr.at?, base_validator, Kind.validator]
      dsimp only
      rw [value?_fieldValidators, found]
      exact ih h

/-! ### Emission with a descriptor replaced -/

variable {o : Options} {d : Document} {l : Location} {new : Descriptor}

theorem names_replaceAt (new : Descriptor) (l : Location) (d : Document) :
    (d.replaceAt new l).names = d.names :=
  map_name_map_replaceAt new l d.types

theorem isWithin_replaceAt (h : new.nesting = 1) {limit : Nat} {t : ObjectType}
    (within : t.isWithin limit) : (t.replaceAt new l).isWithin limit := by
  rw [ObjectType.isWithin_iff, ← fieldsNesting_le_iff] at within ⊢
  rw [ObjectType.replaceAt]
  split
  · exact Nat.le_trans (fieldsNesting_modify_le (nesting_replaceAt_le h l.steps) _) within
  · exact within

/-- A document that is emitted is emitted with a descriptor replaced by one with none inside it. -/
theorem emit_replaceAt (h : new.nesting = 1) {m : Module} (emitted : (emit o d).outcome = .ok m)
    (l : Location) :
    (emit o (d.replaceAt new l)).outcome = .ok ((d.replaceAt new l).module o.unionName) := by
  obtain ⟨union, named, within, -⟩ := emit_outcome_eq_ok_iff.mp emitted
  refine emit_outcome_eq_ok_iff.mpr ⟨union, ?_, ?_, rfl⟩
  · rw [names_replaceAt]
    exact named
  · intro t mem
    obtain ⟨t, mem', rfl⟩ := List.mem_map.mp mem
    exact isWithin_replaceAt h (within t mem')

/-- The validator of the descriptor that was put in place stands in the declaration of its type. -/
theorem declaration_replaceAt (new : Descriptor) (there : (d.at? l).isSome) (unionName : String) :
    ∃ declaration ∈ ((d.replaceAt new l).module unionName).declarations,
      declaration.identifier = safeIdentifier l.type ∧
        declaration.validator.at? (.field l.field :: l.steps) = some new.validator := by
  obtain ⟨inner, there⟩ := Option.isSome_iff_exists.mp there
  obtain ⟨t, isThere, there⟩ := Option.bind_eq_some_iff.mp there
  obtain ⟨field, found, there⟩ := Option.bind_eq_some_iff.mp there
  have name := Ordered.key_of_get? isThere
  have mem := List.mem_of_find?_eq_some isThere
  refine ⟨(t.replaceAt new l).declaration,
    List.mem_map_of_mem (List.mem_map_of_mem mem), ?_, ?_⟩
  · rw [ObjectType.declaration, ObjectType.name_replaceAt, name]
  · -- The declaration of a type is the validator of a required object with its fields.
    have object : (Descriptor.mk (.object t.fields) true).at? (.field l.field :: l.steps) =
        some inner := by
      rw [Descriptor.at?, found]
      exact there
    have replaced := validator_at? _ (at?_replaceAt new _ object)
    rw [ObjectType.declaration, ObjectType.replaceAt, if_pos name]
    rwa [Descriptor.replaceAt, Descriptor.validator, if_pos rfl, Kind.validator] at replaced

/-- The validator of a kind that is not understood accepts anything. -/
theorem text_validator_fallback (members : List (String × Value)) :
    (fallback members).validator.text =
      "z.unknown()" ++ if saysImplied members then "" else ".optional()" := by
  rw [fallback, Descriptor.validator]
  cases saysImplied members <;> rfl

/-- An object of a kind that is not understood is decoded iff its other known members have their
forms, and then as a descriptor of such a kind. The same decides whether a document can be decoded
once the object describes one of its fields; it is then emitted if it was before, and the validator
of that field accepts anything. -/
theorem emit_fallback_iff {members : List (String × Value)}
    (distinct : (members.map Prod.fst).Nodup) (h : Unrecognized members) :
    ((∃ d, Descriptor.ofValue (.object members) = .ok d) ↔ PayloadWellFormed members) ∧
    (∀ d, Descriptor.ofValue (.object members) = .ok d → d = fallback members) ∧
    ∀ (value : Value) (d : Document) (o : Options) (m : Module) (l : Location),
      DistinctNames value → Document.ofValue value = .ok d → (emit o d).outcome = .ok m →
        (d.at? l).isSome →
          ((∃ d', Document.ofValue (replaceInDocument (.object members) l value) = .ok d') ↔
            PayloadWellFormed members) ∧
          ∀ d', Document.ofValue (replaceInDocument (.object members) l value) = .ok d' →
            d' = d.replaceAt (fallback members) l ∧
              ∃ m', (emit o d').outcome = .ok m' ∧ ∃ declaration ∈ m'.declarations,
                declaration.identifier = safeIdentifier l.type ∧
                  ∃ e, declaration.validator.at? (.field l.field :: l.steps) = some e ∧
                    e.text =
                      "z.unknown()" ++ if saysImplied members then "" else ".optional()" := by
  have described := exists_ofValue_iff_payloadWellFormed h
  have unique (d : Descriptor) (ok : Descriptor.ofValue (.object members) = .ok d) :
      d = fallback members := ofValue_eq_fallback distinct h ok
  refine ⟨described, unique, ?_⟩
  intro value d o m l names decoded emitted there
  have replaced (d' : Document) :
      Document.ofValue (replaceInDocument (.object members) l value) = .ok d' ↔
        ∃ u, Descriptor.ofValue (.object members) = .ok u ∧ d.replaceAt u l = d' :=
    Document.ofValue_replaceInDocument rfl names decoded there
  constructor
  · rw [← described]
    constructor
    · rintro ⟨d', ok⟩
      obtain ⟨u, ok, -⟩ := (replaced d').mp ok
      exact ⟨u, ok⟩
    · rintro ⟨u, ok⟩
      exact ⟨_, (replaced _).mpr ⟨u, ok, rfl⟩⟩
  · intro d' ok
    obtain ⟨u, ok', rfl⟩ := (replaced d').mp ok
    obtain rfl := unique u ok'
    obtain ⟨declaration, mem, identifier, validator⟩ :=
      declaration_replaceAt (fallback members) there o.unionName
    exact ⟨rfl, _, emit_replaceAt rfl emitted l, declaration, mem, identifier, _, validator,
      text_validator_fallback members⟩

/-- A document with one field, an array of numbers. -/
def taggedContacts : Value :=
  .object [("contacts", .object [("properties", .object [("tags", .object
    [("type", .string "array"), ("items", .object [("type", .string "number")])])])])]

/-- Members that tell of a kind that is not understood, with a payload in its form. -/
def geoMembers : List (String × Value) :=
  [("type", .string "geo"), ("isImplied", .bool true), ("items", .null)]

theorem emit_fallback_iff_taggedContacts :
    ∃ d' m', Document.ofValue (replaceInDocument (.object geoMembers) ⟨"contacts", "tags", [.item]⟩
        taggedContacts) = .ok d' ∧
      (emit ⟨2, "Record"⟩ d').outcome = .ok m' ∧ ∃ declaration ∈ m'.declarations, ∃ e,
        declaration.validator.at? [.field "tags", .item] = some e ∧ e.text = "z.unknown()" := by
  have unrecognized : Unrecognized geoMembers := by
    constructor
    · intro tag mem
      obtain rfl : tag = "geo" := by simpa [geoMembers] using mem
      decide
    · intro value mem
      obtain rfl : value = .bool true := by simpa [geoMembers] using mem
      exact .inr ⟨true, rfl⟩
  have payload : PayloadWellFormed geoMembers := by
    constructor <;> simp [geoMembers]
  obtain ⟨-, -, document⟩ := emit_fallback_iff (by decide) unrecognized
  let d : Document := .ofTypes [⟨"contacts", [("tags", .mk (.array (.mk .number false)) false)]⟩]
  have names : DistinctNames taggedContacts := by
    simp [taggedContacts, DistinctNames, MembersDistinct]
  have emitted : (emit ⟨2, "Record"⟩ d).outcome = .ok (d.module "Record") :=
    emit_outcome_eq_ok_iff.mpr ⟨by decide, namingProblem?_eq_none_iff.mp (by decide),
      by decide, rfl⟩
  obtain ⟨iff, each⟩ := document taggedContacts d ⟨2, "Record"⟩ _ ⟨"contacts", "tags", [.item]⟩
    names rfl emitted rfl
  obtain ⟨d', ok⟩ := iff.mpr payload
  obtain ⟨-, m', emitted', declaration, mem, -, e, validator, text⟩ := each d' ok
  exact ⟨d', m', ok, emitted', declaration, mem, e, validator, text⟩

end ValidatorGen.Validator
