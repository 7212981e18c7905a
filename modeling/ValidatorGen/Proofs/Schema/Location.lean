import ValidatorGen.Ordered
import ValidatorGen.Schema.Document

/-!
# Descriptors inside others

A descriptor inside another is reached by going to the items of arrays and to the fields of objects.
Another descriptor can be put in its place, and the rest stays as it is.

## Main definitions

* `Step`, `Location` — the way to a descriptor inside a descriptor and inside a document
* `Descriptor.at?`, `Document.at?` — the descriptor to which it leads
* `Descriptor.replaceAt`, `Document.replaceAt` — another descriptor there

## Main results

* `at?_replaceAt` — the descriptor that was put in place is found there
* `nesting_replaceAt_le` — a descriptor with none inside it makes nothing deeper
-/

namespace ValidatorGen.Schema

/-- A step from a descriptor to one inside it. -/
inductive Step where
  /-- To the items of an array. -/
  | item
  /-- To a field of an object. -/
  | field (name : String)
deriving DecidableEq

/-- The descriptor to which steps lead. -/
def Descriptor.at? : List Step → Descriptor → Option Descriptor
  | [], d => some d
  | .item :: steps, .mk (.array item) _ => item.at? steps
  | .field name :: steps, .mk (.object fields) _ =>
    (Ordered.value? name fields).bind (Descriptor.at? steps)
  | _ :: _, _ => none

/-- The descriptor with another one in place of the one to which steps lead. -/
def Descriptor.replaceAt (new : Descriptor) : List Step → Descriptor → Descriptor
  | [], _ => new
  | .item :: steps, .mk (.array item) required =>
    .mk (.array (Descriptor.replaceAt new steps item)) required
  | .field name :: steps, .mk (.object fields) required =>
    .mk (.object (Ordered.modify name (Descriptor.replaceAt new steps) fields)) required
  | _ :: _, d => d

theorem at?_item_eq_some {d inner : Descriptor} {steps : List Step}
    (h : d.at? (.item :: steps) = some inner) :
    ∃ item required, d = .mk (.array item) required ∧ item.at? steps = some inner := by
  obtain ⟨kind, required⟩ := d
  cases kind with
  | array item => exact ⟨item, required, rfl, h⟩
  | string | number | boolean | untypedArray | openObject | object | unknown => cases h

theorem at?_field_eq_some {d inner : Descriptor} {name : String} {steps : List Step}
    (h : d.at? (.field name :: steps) = some inner) :
    ∃ fields required field, d = .mk (.object fields) required ∧
      Ordered.value? name fields = some field ∧ field.at? steps = some inner := by
  obtain ⟨kind, required⟩ := d
  cases kind with
  | object fields =>
    obtain ⟨field, there, h⟩ := Option.bind_eq_some_iff.mp h
    exact ⟨fields, required, field, rfl, there, h⟩
  | string | number | boolean | untypedArray | array | openObject | unknown => cases h

/-- The descriptor that was put in place is found there. -/
theorem at?_replaceAt (new : Descriptor) (steps : List Step) {d inner : Descriptor}
    (h : d.at? steps = some inner) : (Descriptor.replaceAt new steps d).at? steps = some new := by
  induction steps generalizing d with
  | nil => rfl
  | cons step steps ih =>
    cases step with
    | item =>
      obtain ⟨item, required, rfl, h⟩ := at?_item_eq_some h
      exact ih h
    | field name =>
      obtain ⟨fields, required, field, rfl, found, h⟩ := at?_field_eq_some h
      rw [Descriptor.replaceAt, Descriptor.at?, Ordered.value?_modify, if_pos rfl, found]
      exact ih h

/-- Fields that do not get deeper keep an object from getting deeper. -/
theorem fieldsNesting_modify_le {name : String} {f : Descriptor → Descriptor}
    (h : ∀ d, (f d).nesting ≤ d.nesting) (fields : Fields) :
    fieldsNesting (Ordered.modify name f fields) ≤ fieldsNesting fields := by
  induction fields with
  | nil => exact Nat.le_refl _
  | cons field fields ih =>
    have first : (if field.1 = name then (field.1, f field.2) else field).2.nesting ≤
        field.2.nesting := by
      split
      · exact h field.2
      · exact Nat.le_refl _
    rw [Ordered.modify_cons, fieldsNesting, fieldsNesting]
    omega

/-- A descriptor with none inside it does not make the one around it deeper. -/
theorem nesting_replaceAt_le {new : Descriptor} (h : new.nesting = 1) (steps : List Step)
    (d : Descriptor) : (Descriptor.replaceAt new steps d).nesting ≤ d.nesting := by
  induction steps generalizing d with
  | nil =>
    obtain ⟨kind, required⟩ := d
    have positive := kind.nesting_pos
    rw [Descriptor.replaceAt, h, Descriptor.nesting]
    exact positive
  | cons step steps ih =>
    obtain ⟨kind, required⟩ := d
    have unchanged : kind.nesting ≤ kind.nesting := Nat.le_refl _
    cases step with
    | item =>
      cases kind with
      | array item => exact Nat.add_le_add_left (ih item) 1
      | string | number | boolean | untypedArray | openObject | object | unknown => exact unchanged
    | field name =>
      cases kind with
      | object fields => exact Nat.add_le_add_left (fieldsNesting_modify_le ih fields) 1
      | string | number | boolean | untypedArray | array | openObject | unknown => exact unchanged

/-- Where a descriptor stands in a document. -/
structure Location where
  /-- The name of the object type. -/
  type : String
  /-- The name of the field. -/
  field : String
  /-- The steps from the descriptor of the field. -/
  steps : List Step

/-- The descriptor that stands at a location. -/
def Document.at? (l : Location) (d : Document) : Option Descriptor := do
  let t ← d.get? l.type
  let field ← Ordered.value? l.field t.fields
  field.at? l.steps

/-- The type with another descriptor at a location, if the location is in it. -/
def ObjectType.replaceAt (new : Descriptor) (l : Location) (t : ObjectType) : ObjectType :=
  if t.name = l.type then
    ⟨t.name, Ordered.modify l.field (Descriptor.replaceAt new l.steps) t.fields⟩
  else t

theorem ObjectType.name_replaceAt (new : Descriptor) (l : Location) (t : ObjectType) :
    (t.replaceAt new l).name = t.name := by
  rw [ObjectType.replaceAt]
  split <;> rfl

theorem map_name_map_replaceAt (new : Descriptor) (l : Location) (types : List ObjectType) :
    (types.map (ObjectType.replaceAt new l)).map ObjectType.name = types.map ObjectType.name := by
  rw [List.map_map]
  exact List.map_congr_left fun t _ => t.name_replaceAt new l

/-- The document with another descriptor at a location. -/
def Document.replaceAt (new : Descriptor) (l : Location) (d : Document) : Document where
  types := d.types.map (ObjectType.replaceAt new l)
  distinct := by
    rw [map_name_map_replaceAt]
    exact d.distinct

end ValidatorGen.Schema
