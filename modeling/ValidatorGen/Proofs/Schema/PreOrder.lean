import Mathlib.Data.List.Nodup
import ValidatorGen.Proofs.Schema.Location
import ValidatorGen.Proofs.Schema.RoundTrip

/-!
# All descriptors inside a document

The descriptors inside a descriptor are listed with the steps that lead to them, each before those
inside it, and those inside a field before those of the next field. If no object has two fields of
one name then the list has each of them just once.

## Main definitions

* `Descriptor.inside`, `ObjectType.inside`, `Document.inside` — the descriptors with the way to them

## Main results

* `Descriptor.mem_inside_iff`, `Document.mem_inside_iff` — a descriptor is listed where it stands
* `Document.nodup_inside` — no place is listed twice
-/

namespace ValidatorGen.Schema

mutual

/-- The descriptors inside a descriptor, itself first, with the steps that lead to them. -/
def Descriptor.inside : Descriptor → List (List Step × Descriptor)
  | .mk kind required => ([], .mk kind required) :: kind.inside

/-- The descriptors inside a kind, with the steps that lead to them. -/
def Kind.inside : Kind → List (List Step × Descriptor)
  | .array item => item.inside.map (Prod.map (Step.item :: ·) id)
  | .object fields => fieldsInside fields
  | .string _ | .number | .boolean | .untypedArray | .openObject | .unknown _ => []

/-- The descriptors inside fields, with the steps that lead to them. -/
def fieldsInside : Fields → List (List Step × Descriptor)
  | [] => []
  | (name, field) :: fields =>
    field.inside.map (Prod.map (Step.field name :: ·) id) ++ fieldsInside fields

end

/-- The descriptors inside an object type, with their locations. -/
def ObjectType.inside (t : ObjectType) : List (Location × Descriptor) :=
  t.fields.flatMap fun field => field.2.inside.map (Prod.map (Location.mk t.name field.1) id)

/-- The descriptors inside a document, with their locations. -/
def Document.inside (d : Document) : List (Location × Descriptor) :=
  d.types.flatMap ObjectType.inside

variable {steps : List Step} {found : Descriptor} {l : Location}

/-! ### What is listed -/

theorem mem_map_field_iff {name : String} {inside : List (List Step × Descriptor)} :
    (steps, found) ∈ inside.map (Prod.map (Step.field name :: ·) id) ↔
      ∃ rest, steps = .field name :: rest ∧ (rest, found) ∈ inside := by
  constructor
  · intro mem
    obtain ⟨⟨rest, found'⟩, there, same⟩ := List.mem_map.mp mem
    cases same
    exact ⟨rest, rfl, there⟩
  · rintro ⟨rest, rfl, mem⟩
    exact List.mem_map.mpr ⟨(rest, found), mem, rfl⟩

-- A kind has no steps of its own, so what is inside it is found by at least one step.
mutual

/-- A descriptor is listed with the steps that lead to it. -/
theorem Descriptor.mem_inside_iff : ∀ {d : Descriptor}, d.DistinctFields → ∀ {steps found},
    (steps, found) ∈ d.inside ↔ d.at? steps = some found
  | .mk kind required, distinct, steps, found => by
    rw [Descriptor.inside, List.mem_cons, Kind.mem_inside_iff distinct required]
    cases steps with
    | nil => simp [Descriptor.at?, eq_comm]
    | cons step steps => simp

theorem Kind.mem_inside_iff : ∀ {kind : Kind}, kind.DistinctFields → ∀ (required : Bool)
    {steps found}, (steps, found) ∈ kind.inside ↔
      steps ≠ [] ∧ (Descriptor.mk kind required).at? steps = some found
  | .array item, distinct, required, steps, found => by
    rw [Kind.inside, List.mem_map]
    constructor
    · rintro ⟨⟨rest, found'⟩, mem, same⟩
      cases same
      exact ⟨List.cons_ne_nil _ _, (Descriptor.mem_inside_iff distinct).mp mem⟩
    · rintro ⟨nonempty, there⟩
      cases steps with
      | nil => exact absurd rfl nonempty
      | cons step rest =>
        cases step with
        | item => exact ⟨(rest, found), (Descriptor.mem_inside_iff distinct).mpr there, rfl⟩
        | field name => cases there
  | .object fields, distinct, required, steps, found => by
    rw [Kind.inside, mem_fieldsInside_iff distinct.2]
    constructor
    · rintro ⟨name, field, rest, rfl, mem, there⟩
      refine ⟨List.cons_ne_nil _ _, ?_⟩
      rw [Descriptor.at?, (Ordered.value?_eq_some_iff distinct.1).mpr mem]
      exact there
    · rintro ⟨nonempty, there⟩
      cases steps with
      | nil => exact absurd rfl nonempty
      | cons step rest =>
        cases step with
        | item => cases there
        | field name =>
          obtain ⟨field, value, there⟩ := Option.bind_eq_some_iff.mp there
          exact ⟨name, field, rest, rfl, Ordered.mem_of_value? value, there⟩
  | .string _, _, _, steps, _ | .number, _, _, steps, _ | .boolean, _, _, steps, _
  | .untypedArray, _, _, steps, _ | .openObject, _, _, steps, _ | .unknown _, _, _, steps, _ => by
    rcases steps with _ | ⟨_ | _, _⟩ <;> simp [Kind.inside, Descriptor.at?]

theorem mem_fieldsInside_iff : ∀ {fields : Fields}, FieldsDistinct fields → ∀ {steps found},
    (steps, found) ∈ fieldsInside fields ↔ ∃ name field rest,
      steps = .field name :: rest ∧ (name, field) ∈ fields ∧ field.at? rest = some found
  | [], _, _, _ => by simp [fieldsInside]
  | (name, field) :: fields, distinct, steps, found => by
    rw [fieldsInside, List.mem_append, mem_map_field_iff, mem_fieldsInside_iff distinct.2]
    constructor
    · rintro (⟨rest, rfl, mem⟩ | ⟨name', field', rest, rfl, mem, there⟩)
      · exact ⟨name, field, rest, rfl, List.mem_cons_self,
          (Descriptor.mem_inside_iff distinct.1).mp mem⟩
      · exact ⟨name', field', rest, rfl, List.mem_cons_of_mem _ mem, there⟩
    · rintro ⟨name', field', rest, rfl, mem, there⟩
      rcases List.mem_cons.mp mem with same | mem
      · cases same
        exact .inl ⟨rest, rfl, (Descriptor.mem_inside_iff distinct.1).mpr there⟩
      · exact .inr ⟨name', field', rest, rfl, mem, there⟩

end

theorem ObjectType.mem_inside_iff {t : ObjectType} (distinct : t.DistinctFields) :
    (l, found) ∈ t.inside ↔ l.type = t.name ∧
      ∃ field, Ordered.value? l.field t.fields = some field ∧ field.at? l.steps = some found := by
  have each : ∀ field ∈ t.fields, field.2.DistinctFields := fieldsDistinct_iff.mp distinct.2
  simp only [Ordered.value?_eq_some_iff distinct.1]
  rw [ObjectType.inside, List.mem_flatMap]
  constructor
  · rintro ⟨⟨name, field⟩, mem, listed⟩
    obtain ⟨⟨steps, found'⟩, inside, same⟩ := List.mem_map.mp listed
    cases same
    exact ⟨rfl, field, mem, (Descriptor.mem_inside_iff (each _ mem)).mp inside⟩
  · obtain ⟨type, name, steps⟩ := l
    rintro ⟨rfl, field, mem, there⟩
    exact ⟨(name, field), mem, List.mem_map.mpr
      ⟨(steps, found), (Descriptor.mem_inside_iff (each _ mem)).mpr there, rfl⟩⟩

/-- A descriptor is listed where it stands. -/
theorem Document.mem_inside_iff {d : Document} (distinct : d.DistinctFields) :
    (l, found) ∈ d.inside ↔ d.at? l = some found := by
  rw [Document.inside, List.mem_flatMap, Document.at?]
  simp only [Option.bind_eq_bind, Option.bind_eq_some_iff]
  constructor
  · rintro ⟨t, mem, listed⟩
    obtain ⟨type, field, value, there⟩ := (ObjectType.mem_inside_iff (distinct t mem)).mp listed
    refine ⟨t, ?_, field, value, there⟩
    rw [type]
    exact Ordered.get?_of_mem d.distinct mem
  · rintro ⟨t, got, field, value, there⟩
    have mem : t ∈ d.types := List.mem_of_find?_eq_some got
    have type : t.name = l.type := Ordered.key_of_get? got
    exact ⟨t, mem, (ObjectType.mem_inside_iff (distinct t mem)).mpr
      ⟨type.symm, field, value, there⟩⟩

/-! ### Nothing is listed twice -/

theorem map_fst_map_prodMap {α β γ : Type} (f : α → β) (pairs : List (α × γ)) :
    (pairs.map (Prod.map f id)).map Prod.fst = (pairs.map Prod.fst).map f := by
  rw [List.map_map, List.map_map]
  rfl

mutual

/-- No steps are listed twice. -/
theorem Descriptor.nodup_inside : ∀ {d : Descriptor}, d.DistinctFields →
    (d.inside.map Prod.fst).Nodup
  | .mk kind required, distinct => by
    rw [Descriptor.inside, List.map_cons, List.nodup_cons]
    refine ⟨?_, Kind.nodup_inside distinct⟩
    intro mem
    obtain ⟨⟨steps, found⟩, mem, same⟩ := List.mem_map.mp mem
    exact ((Kind.mem_inside_iff distinct required).mp mem).1 same

theorem Kind.nodup_inside : ∀ {kind : Kind}, kind.DistinctFields →
    (kind.inside.map Prod.fst).Nodup
  | .array item, distinct => by
    rw [Kind.inside, map_fst_map_prodMap]
    exact (Descriptor.nodup_inside distinct).map List.cons_injective
  | .object fields, distinct => nodup_fieldsInside distinct.1 distinct.2
  | .string _, _ | .number, _ | .boolean, _ | .untypedArray, _ | .openObject, _ | .unknown _, _ =>
    List.nodup_nil

theorem nodup_fieldsInside : ∀ {fields : Fields}, (fields.map Prod.fst).Nodup →
    FieldsDistinct fields → ((fieldsInside fields).map Prod.fst).Nodup
  | [], _, _ => List.nodup_nil
  | (name, field) :: fields, names, distinct => by
    rw [List.map_cons, List.nodup_cons] at names
    rw [fieldsInside, List.map_append, List.nodup_append, map_fst_map_prodMap]
    refine ⟨(Descriptor.nodup_inside distinct.1).map List.cons_injective,
      nodup_fieldsInside names.2 distinct.2, ?_⟩
    -- What is inside another field begins with a step to a field of another name.
    rintro _ here steps there rfl
    obtain ⟨rest, -, rfl⟩ := List.mem_map.mp here
    obtain ⟨⟨_, found⟩, mem, rfl⟩ := List.mem_map.mp there
    obtain ⟨name', field', rest', same, mem', -⟩ := (mem_fieldsInside_iff distinct.2).mp mem
    have name_eq : name = name' := by
      injection same with step
      injection step
    exact names.1 (List.mem_map.mpr ⟨(name', field'), mem', name_eq.symm⟩)

end

theorem ObjectType.nodup_inside {t : ObjectType} (distinct : t.DistinctFields) :
    (t.inside.map Prod.fst).Nodup := by
  have each : ∀ field ∈ t.fields, field.2.DistinctFields := fieldsDistinct_iff.mp distinct.2
  have names : t.fields.Pairwise fun a b => a.1 ≠ b.1 := List.pairwise_map.mp distinct.1
  rw [ObjectType.inside, List.map_flatMap, List.nodup_flatMap]
  constructor
  · intro field mem
    rw [map_fst_map_prodMap]
    refine (Descriptor.nodup_inside (each field mem)).map fun steps steps' same => ?_
    cases same
    rfl
  · refine names.imp fun {a b} other => ?_
    rw [Function.onFun_apply, map_fst_map_prodMap, map_fst_map_prodMap]
    intro l here there
    obtain ⟨steps, -, rfl⟩ := List.mem_map.mp here
    obtain ⟨steps', -, same⟩ := List.mem_map.mp there
    exact other (congrArg Location.field same).symm

/-- No place is listed twice. -/
theorem Document.nodup_inside {d : Document} (distinct : d.DistinctFields) :
    (d.inside.map Prod.fst).Nodup := by
  have names : d.types.Pairwise fun a b => a.name ≠ b.name := List.pairwise_map.mp d.distinct
  rw [Document.inside, List.map_flatMap, List.nodup_flatMap]
  constructor
  · intro t mem
    exact ObjectType.nodup_inside (distinct t mem)
  · refine List.Pairwise.imp_of_mem (fun {t t'} mem mem' other => ?_) names
    intro l here there
    obtain ⟨⟨_, found⟩, listed, rfl⟩ := List.mem_map.mp here
    obtain ⟨⟨l', found'⟩, listed', same⟩ := List.mem_map.mp there
    have type := ((ObjectType.mem_inside_iff (distinct t mem)).mp listed).1
    have type' := ((ObjectType.mem_inside_iff (distinct t' mem')).mp listed').1
    rw [← type, ← type'] at other
    exact other (congrArg Location.type same).symm

end ValidatorGen.Schema
