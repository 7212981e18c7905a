import ValidatorGen.Validator.Module

/-!
# What resolving a descriptor comes to

The descriptors inside a descriptor are visited in a fixed order, each before those inside it. What
resolving reports and whether it fails depend on the visits alone, up to the first that stands too
deep; the validator that results, if none does, depends on the descriptor alone.

## Main definitions

* `Descriptor.validator` — the validator of a descriptor, however deep it goes
* `Visit`, `Descriptor.visits` — the descriptors inside a descriptor, with their places
* `visitAll` — the outcome of going through visits up to the first that stands too deep

## Main results

* `resolveAt_eq_visitAll` — resolving a descriptor goes through its visits to its validator
* `visits_isWithin_iff` — no visit stands too deep iff the nesting stays within the limit
-/

namespace ValidatorGen.Schema

open Validator

mutual

/-- The validator of a descriptor, however deep descriptors stand inside one another. -/
def Descriptor.validator : Descriptor → Expr
  | .mk kind required => if required then kind.validator else .optional kind.validator

/-- The validator of a kind, however deep descriptors stand inside one another. -/
def Kind.validator : Kind → Expr
  | .string (some .dateTime) => .dateTime
  | .string _ => .string
  | .number => .number
  | .boolean => .boolean
  | .untypedArray => .array .unknown
  | .array item => .array item.validator
  | .openObject => .object []
  | .object fields => .object (fieldValidators fields)
  | .unknown _ => .unknown

/-- The validators of fields, with their names. -/
def fieldValidators : Fields → List (String × Expr)
  | [] => []
  | (name, field) :: fields => (name, field.validator) :: fieldValidators fields

end

/-- A descriptor as it is met on the way through another: where it stands, and its kind. -/
structure Visit where
  /-- Where the descriptor stands. -/
  place : Place
  /-- Its kind. -/
  kind : Kind

/-- Whether the descriptor stands no deeper than allowed. -/
def Visit.isWithin (limit : Nat) (v : Visit) : Bool := v.place.labels.length ≤ limit

/-- What is reported about the descriptor: that its kind is not understood, if it is not. -/
def Visit.event? : Visit → Option Event
  | ⟨place, .unknown tag⟩ => some (.unknownKind place tag)
  | _ => none

mutual

/-- The descriptors inside a descriptor that is reached by `label` from `place`, itself first. -/
def Descriptor.visits (place : Place) (label : String) : Descriptor → List Visit
  | .mk kind _ => ⟨place.enter label, kind⟩ :: kind.visits (place.enter label) label

/-- The descriptors inside a kind at `place`, the last label of which is `label`. -/
def Kind.visits (place : Place) (label : String) : Kind → List Visit
  | .array item => item.visits place (itemLabel label)
  | .object fields => fieldVisits place fields
  | .string _ | .number | .boolean | .untypedArray | .openObject | .unknown _ => []

/-- The descriptors inside the fields of an object at `place`. -/
def fieldVisits (place : Place) : Fields → List Visit
  | [] => []
  | (name, field) :: fields => field.visits place name ++ fieldVisits place fields

end

end ValidatorGen.Schema

namespace ValidatorGen.Validator

open Schema

variable {α β : Type} {limit : Nat} {v : Visit}

/-- The outcome `a` of going through visits, unless one of them stands too deep: then the first that
does is reported. Kinds that are not understood are reported on the way. -/
def visitAll (limit : Nat) (visits : List Visit) (a : α) : Logged CompileError α where
  events := (visits.takeWhile (Visit.isWithin limit)).filterMap Visit.event?
  outcome :=
    match visits.find? (!·.isWithin limit) with
    | some v => .error (.depthExceeded v.place limit)
    | none => .ok a

theorem visitAll_nil (limit : Nat) (a : α) : visitAll limit [] a = pure a := rfl

theorem visitAll_cons_of_isWithin (h : v.isWithin limit) (visits : List Visit) (a : α) :
    visitAll limit (v :: visits) a =
      (⟨v.event?.toList, .ok ()⟩ : Logged CompileError Unit) >>= fun _ =>
        visitAll limit visits a := by
  rw [Logged.ok_bind]
  cases hv : v.event? <;> simp [visitAll, h, hv]

theorem visitAll_cons_of_not_isWithin (h : ¬ v.isWithin limit) (visits : List Visit) (a : α) :
    visitAll limit (v :: visits) a = .fail (.depthExceeded v.place limit) := by
  simp [visitAll, h, Logged.fail]

/-- Going through visits in two goes is going through all of them. -/
theorem visitAll_append (visits visits' : List Visit) (a : α) (b : β) :
    visitAll limit (visits ++ visits') b =
      visitAll limit visits a >>= fun _ => visitAll limit visits' b := by
  induction visits with
  | nil => rw [List.nil_append, visitAll_nil, pure_bind]
  | cons v visits ih =>
    by_cases h : v.isWithin limit
    · rw [List.cons_append, visitAll_cons_of_isWithin h, visitAll_cons_of_isWithin h, ih,
        bind_assoc]
    · rw [List.cons_append, visitAll_cons_of_not_isWithin h, visitAll_cons_of_not_isWithin h]
      rfl

/-- Going on after the visits with something that neither reports nor fails. -/
theorem visitAll_bind_pure (visits : List Visit) (a : α) (f : α → β) :
    (visitAll limit visits a >>= fun a => pure (f a)) = visitAll limit visits (f a) := by
  induction visits with
  | nil => rw [visitAll_nil, pure_bind, visitAll_nil]
  | cons v visits ih =>
    by_cases h : v.isWithin limit
    · rw [visitAll_cons_of_isWithin h, visitAll_cons_of_isWithin h, bind_assoc, ih]
    · rw [visitAll_cons_of_not_isWithin h, visitAll_cons_of_not_isWithin h]
      rfl

/-- Going on after the visits with something that depends on their outcome. -/
theorem visitAll_bind (visits : List Visit) (a : α) (f : α → Logged CompileError β) :
    visitAll limit visits a >>= f = visitAll limit visits a >>= fun _ => f a := by
  induction visits with
  | nil => simp only [visitAll_nil, pure_bind]
  | cons v visits ih =>
    by_cases h : v.isWithin limit
    · rw [visitAll_cons_of_isWithin h, bind_assoc, bind_assoc, ih]
    · rw [visitAll_cons_of_not_isWithin h]
      rfl

-- Every failure ends a walk, whatever would have come of it, so `visitAll_bind_pure` and
-- `visitAll_bind` move the building of validators behind the visits in each case below.
mutual

/-- Resolving a descriptor goes through its visits, and comes to its validator. -/
theorem resolveAt_eq_visitAll (limit : Nat) (place : Place) (label : String) :
    ∀ d : Descriptor,
      resolveAt limit place label d = visitAll limit (d.visits place label) d.validator
  | .mk kind required => by
    rw [resolveAt, Descriptor.visits, Descriptor.validator]
    split
    · rename_i h
      rw [visitAll_cons_of_not_isWithin (by simpa [Visit.isWithin] using h)]
    · rename_i h
      rw [visitAll_cons_of_isWithin (by simpa [Visit.isWithin] using h),
        resolveKind_eq_visitAll limit (place.enter label) label kind, bind_assoc]
      simp only [visitAll_bind_pure]

/-- Resolving a kind reports it if it is not understood, and goes through the visits inside it. -/
theorem resolveKind_eq_visitAll (limit : Nat) (place : Place) (label : String) :
    ∀ kind : Kind,
      resolveKind limit place label kind =
        (⟨(Visit.event? ⟨place, kind⟩).toList, .ok ()⟩ : Logged CompileError Unit) >>= fun _ =>
          visitAll limit (kind.visits place label) kind.validator
  | .string (some .dateTime) | .string (some (.other _)) | .string none | .number | .boolean
  | .untypedArray | .openObject | .unknown _ => rfl
  | .array item => by
    rw [resolveKind, resolveAt_eq_visitAll limit place (itemLabel label) item, visitAll_bind_pure]
    rfl
  | .object fields => by
    rw [resolveKind, resolveFields_eq_visitAll limit place fields, visitAll_bind_pure]
    rfl

/-- Resolving fields goes through the visits inside them, and comes to their validators. -/
theorem resolveFields_eq_visitAll (limit : Nat) (place : Place) :
    ∀ fields : Fields,
      resolveFields limit place fields =
        visitAll limit (fieldVisits place fields) (fieldValidators fields)
  | [] => rfl
  | (name, field) :: fields => by
    rw [resolveFields, resolveAt_eq_visitAll limit place name field,
      resolveFields_eq_visitAll limit place fields, fieldVisits, fieldValidators,
      visitAll_append _ _ field.validator, visitAll_bind]
    simp only [visitAll_bind_pure]

end

/-- Compiling fields goes through the visits inside them. -/
theorem compileFields_eq_visitAll (limit : Nat) (place : Place) (fields : Fields) :
    compileFields limit place fields =
      visitAll limit (fieldVisits place fields) (.object (fieldValidators fields)) := by
  rw [compileFields, resolveFields_eq_visitAll, visitAll_bind_pure]

/-! ### Depth -/

theorem visitAll_outcome_of_isWithin {visits : List Visit} (h : ∀ v ∈ visits, v.isWithin limit)
    (a : α) : (visitAll limit visits a).outcome = .ok a := by
  have none : visits.find? (!·.isWithin limit) = none := by
    simpa [List.find?_eq_none] using h
  rw [visitAll, none]

/-- If some visit stands too deep, the first that does is reported. -/
theorem visitAll_outcome_of_not_isWithin {visits : List Visit}
    (h : ¬ ∀ v ∈ visits, v.isWithin limit) (a : α) :
    ∃ v, visits.find? (!·.isWithin limit) = some v ∧
      (visitAll limit visits a).outcome = .error (.depthExceeded v.place limit) := by
  cases found : visits.find? (!·.isWithin limit) with
  | none =>
    have within : ∀ v ∈ visits, v.isWithin limit := by
      intro v mem
      simpa using List.find?_eq_none.mp found v mem
    exact absurd within h
  | some v => exact ⟨v, rfl, by rw [visitAll, found]⟩

end ValidatorGen.Validator

namespace ValidatorGen.Schema

open Validator

variable {limit : Nat} {v : Visit}

mutual

/-- No visit leaves the object type in which the descriptor stands. -/
theorem Descriptor.root_of_mem_visits {place : Place} {label : String} :
    ∀ {d : Descriptor}, v ∈ d.visits place label → v.place.root = place.root
  | .mk kind _, h => by
    rcases List.mem_cons.mp h with rfl | h
    · rfl
    · have root := Kind.root_of_mem_visits h
      exact root

/-- No visit leaves the object type in which the kind stands. -/
theorem Kind.root_of_mem_visits {place : Place} {label : String} :
    ∀ {kind : Kind}, v ∈ kind.visits place label → v.place.root = place.root
  | .array _, h => Descriptor.root_of_mem_visits h
  | .object _, h => root_of_mem_fieldVisits h

/-- No visit leaves the object type in which the fields stand. -/
theorem root_of_mem_fieldVisits {place : Place} :
    ∀ {fields : Fields}, v ∈ fieldVisits place fields → v.place.root = place.root
  | (_, _) :: _, h => by
    rcases List.mem_append.mp h with h | h
    · exact Descriptor.root_of_mem_visits h
    · exact root_of_mem_fieldVisits h

end

mutual

/-- No visit stands too deep iff the nesting of the descriptor stays within the limit. -/
theorem Descriptor.visits_isWithin_iff {place : Place} {label : String} :
    ∀ {d : Descriptor}, (∀ v ∈ d.visits place label, v.isWithin limit) ↔
      place.labels.length + d.nesting ≤ limit
  | .mk kind _ => by
    have enter : (place.enter label).labels.length = place.labels.length + 1 := by
      simp [Place.enter]
    rw [Descriptor.visits, List.forall_mem_cons, Descriptor.nesting]
    -- What is inside is judged only where the kind itself stands within the limit, which both sides
    -- give: a kind nests at least once.
    constructor
    · rintro ⟨here, inside⟩
      have here : (place.enter label).labels.length ≤ limit := by
        simpa [Visit.isWithin] using here
      have := (Kind.visits_isWithin_iff here).mp inside
      omega
    · intro h
      have := kind.nesting_pos
      have here : (place.enter label).labels.length ≤ limit := by omega
      exact ⟨by simpa [Visit.isWithin] using here, (Kind.visits_isWithin_iff here).mpr (by omega)⟩

/-- The same for a kind that stands at a place within the limit. -/
theorem Kind.visits_isWithin_iff {place : Place} {label : String}
    (here : place.labels.length ≤ limit) :
    ∀ {kind : Kind}, (∀ v ∈ kind.visits place label, v.isWithin limit) ↔
      place.labels.length + kind.nesting ≤ limit + 1
  | .array item => by
    rw [Kind.visits, Kind.nesting, Descriptor.visits_isWithin_iff]
    omega
  | .object fields => by
    rw [Kind.visits, Kind.nesting, fieldVisits_isWithin_iff here]
    omega
  | .string _ | .number | .boolean | .untypedArray | .openObject | .unknown _ => by
    simp [Kind.visits, Kind.nesting, here]

/-- The same for the fields of an object that stands at a place within the limit. -/
theorem fieldVisits_isWithin_iff {place : Place} (here : place.labels.length ≤ limit) :
    ∀ {fields : Fields}, (∀ v ∈ fieldVisits place fields, v.isWithin limit) ↔
      place.labels.length + fieldsNesting fields ≤ limit
  | [] => by simpa [fieldVisits, fieldsNesting] using here
  | (name, field) :: fields => by
    rw [fieldVisits, fieldsNesting, List.forall_mem_append, Descriptor.visits_isWithin_iff,
      fieldVisits_isWithin_iff here]
    omega

end

end ValidatorGen.Schema
