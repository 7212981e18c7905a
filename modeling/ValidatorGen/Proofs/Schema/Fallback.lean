import ValidatorGen.Proofs.Schema.Canonical
import ValidatorGen.Proofs.Schema.Grammar

/-!
# Descriptions of kinds that are not understood

An object whose tag is none of the five is decoded as a kind that is not understood, if it is
decoded at all. All known members must still have their forms, although none but the tag and
`isImplied` counts; so a payload of another form is enough to keep such an object from being
decoded.

## Main definitions

* `Unrecognized` — the members tell of a kind that is not understood
* `PayloadWellFormed` — the members that do not count have their forms nevertheless
* `fallback` — the descriptor of the kind that is not understood

## Main results

* `exists_ofValue_iff_payloadWellFormed` — when such an object is decoded
* `ofValue_eq_fallback` — as what it is decoded
-/

namespace ValidatorGen.Schema

open Json

/-- The members tell of a kind that is not understood: the tag is missing, not a text or none of the
five, and `isImplied` is missing, null or a truth value. -/
structure Unrecognized (members : List (String × Value)) : Prop where
  /-- The tag is none of the five. -/
  tag : ∀ tag, ("type", .string tag) ∈ members → tag ∉ recognizedTags
  /-- It may be said whether the field is always there. -/
  implied : ∀ value, ("isImplied", value) ∈ members → value = .null ∨ ∃ flag, value = .bool flag

/-- The members that do not count for a kind that is not understood have their forms. -/
structure PayloadWellFormed (members : List (String × Value)) : Prop where
  /-- The format is a text, if it is anything. -/
  format : ∀ value, ("format", value) ∈ members → value = .null ∨ ∃ text, value = .string text
  /-- The items describe a field, if they are anything. -/
  items : ∀ value, ("items", value) ∈ members → value = .null ∨ WellFormed value
  /-- The properties describe fields, if they are anything. -/
  properties : ∀ value, ("properties", value) ∈ members →
    value = .null ∨ ∃ fields, value = .object fields ∧ ∀ m ∈ fields, WellFormed m.2
  /-- The fields describe fields, if they are anything. -/
  fields : ∀ value, ("fields", value) ∈ members →
    value = .null ∨ ∃ fields, value = .object fields ∧ ∀ m ∈ fields, WellFormed m.2

/-- Whether members say that the field is always there. -/
def saysImplied (members : List (String × Value)) : Bool :=
  match Ordered.value? "isImplied" members with
  | some (.bool flag) => flag
  | _ => false

/-- The descriptor of a kind that is not understood. -/
def fallback (members : List (String × Value)) : Descriptor :=
  .mk (.unknown ((Ordered.value? "type" members).bind text?)) (saysImplied members)

variable {members : List (String × Value)}

/-- An object of a kind that is not understood is decoded iff the members that do not count have
their forms nevertheless. -/
theorem exists_ofValue_iff_payloadWellFormed (h : Unrecognized members) :
    (∃ d, Descriptor.ofValue (.object members) = .ok d) ↔ PayloadWellFormed members := by
  rw [exists_ofValue_eq_ok_iff, WellFormed, membersWellFormed_iff]
  constructor
  · intro each
    refine ⟨each .format, each .items, ?_, ?_⟩
    · intro value mem
      exact fieldsWellFormed_iff.mp (each .properties value mem)
    · intro value mem
      exact fieldsWellFormed_iff.mp (each .fields value mem)
  · intro payload m value mem
    cases m with
    | type =>
      -- A tag that is not a text is read like a missing one, so any value will do.
      trivial
    | format => exact payload.format value mem
    | isImplied => exact h.implied value mem
    | items => exact payload.items value mem
    | properties => exact fieldsWellFormed_iff.mpr (payload.properties value mem)
    | fields => exact fieldsWellFormed_iff.mpr (payload.fields value mem)

theorem ofValue_geo_ne_ok :
    Unrecognized [("type", .string "geo"), ("format", .number (.integer 5))] ∧
      ∀ d, Descriptor.ofValue
        (.object [("type", .string "geo"), ("format", .number (.integer 5))]) ≠ .ok d := by
  have unrecognized : Unrecognized [("type", .string "geo"), ("format", .number (.integer 5))] := by
    constructor
    · intro tag mem
      obtain rfl : tag = "geo" := by simpa using mem
      decide
    · simp
  refine ⟨unrecognized, fun d ok => ?_⟩
  have payload := (exists_ofValue_iff_payloadWellFormed unrecognized).mp ⟨d, ok⟩
  simpa using payload.format (.number (.integer 5)) (by simp)

/-- An object of a kind that is not understood is decoded as such, if it is decoded. -/
theorem ofValue_eq_fallback (distinct : (members.map Prod.fst).Nodup) (h : Unrecognized members)
    {d : Descriptor} (ok : Descriptor.ofValue (.object members) = .ok d) :
    d = fallback members := by
  obtain ⟨_, said, ⟨⟩, read, rfl⟩ := ofValue_eq_ok_iff.mp ok
  have told := (describe_eq_ok_iff distinct).mp read
  have tag : (Ordered.value? "type" members).bind text? = said.tag := by
    have same := told.tag
    rw [said?, Member.name] at same
    cases found : Ordered.value? "type" members <;> simpa [found] using same
  have implied : saysImplied members = decide (said.implied = some true) := by
    have same := told.implied
    rw [said?, Member.name] at same
    rw [saysImplied]
    cases found : Ordered.value? "isImplied" members with
    | none =>
      rw [found] at same
      simp [← Except.ok.inj same]
    | some value =>
      rw [found] at same
      cases value with
      | null | bool => simp [← Except.ok.inj same]
      | number | string | array | object => cases same
  -- The payload was read, but the tag leads to none of the five kinds that would look at it.
  have unknown : said.kind = .unknown said.tag := by
    refine kind_eq_unknown_iff.mpr ?_
    intro name same
    rw [← tag] at same
    obtain ⟨value, found, text⟩ := Option.bind_eq_some_iff.mp same
    have mem := (Ordered.value?_eq_some_iff distinct).mp found
    cases value with
    | string s =>
      obtain rfl := Option.some.inj text
      exact h.tag s mem
    | null | bool | number | array | object => cases text
  rw [Description.descriptor, fallback, unknown, tag, implied]

end ValidatorGen.Schema
