import ValidatorGen.Proofs.Except
import ValidatorGen.Proofs.Validator.Emission

/-!
# Where descriptors go too deep

The descriptors inside a descriptor form a tree. Its root has the label that it is given, the item
of an array has the label of the array followed by `Item`, and a field of an object has its name.
The level of a descriptor is the number of labels on the way to it, itself included. The first
descriptor in pre-order beyond a limit stands just one level beyond it, since the descriptors around
it come before it. It is the one that is blamed, with the labels on the way to it, whatever has been
visited and left before.

## Main definitions

* `Descriptor.paths` — the labels on the way to each descriptor inside a descriptor, in pre-order
* `BlamesFirst` — an outcome is a failure iff something goes too deep, and then blames the first

## Main results

* `place_visits` — the places that are visited are those to which the labels lead
* `find?_paths` — the first descriptor beyond a limit stands one level beyond it
* `declareAll_outcome_eq_visitAll` — several object types are visited one after the other
* `depth_blames_first` — what is blamed for its depth in a descriptor, an object or a document
-/

namespace ValidatorGen.Validator

/-- The place to which more labels lead. -/
def Place.along (place : Place) (labels : List String) : Place :=
  { place with labels := place.labels ++ labels }

theorem Place.along_enter (place : Place) (label : String) (labels : List String) :
    (place.enter label).along labels = place.along (label :: labels) := by
  simp [Place.along, Place.enter]

theorem Place.along_nil (root : Option String) : Place.along ⟨root, []⟩ = Place.mk root := rfl

end ValidatorGen.Validator

namespace ValidatorGen.Schema

open Validator

/-! ### Labels -/

mutual

/-- The labels on the way to each descriptor inside a descriptor with the given label, beginning
with itself. -/
def Descriptor.paths (label : String) : Descriptor → List (List String)
  | .mk kind _ => [label] :: (kind.paths label).map (label :: ·)

/-- The labels on the way to each descriptor inside a kind, from below the given label on. -/
def Kind.paths (label : String) : Kind → List (List String)
  | .array item => item.paths (itemLabel label)
  | .object fields => fieldPaths fields
  | .string _ | .number | .boolean | .untypedArray | .openObject | .unknown _ => []

/-- The labels on the way to each descriptor inside fields. -/
def fieldPaths : Fields → List (List String)
  | [] => []
  | (name, field) :: fields => field.paths name ++ fieldPaths fields

end

-- The place is carried down on the left and the labels are put in front on the way up on the right.
mutual

/-- The places visited inside a descriptor are those to which the labels lead. -/
theorem Descriptor.place_visits (place : Place) (label : String) : ∀ d : Descriptor,
    (d.visits place label).map Visit.place = (d.paths label).map place.along
  | .mk kind _ => by
    rw [Descriptor.visits, Descriptor.paths, List.map_cons, List.map_cons,
      kind.place_visits (place.enter label) label, List.map_map]
    congr 2
    funext labels
    exact place.along_enter label labels

theorem Kind.place_visits (place : Place) (label : String) : ∀ kind : Kind,
    (kind.visits place label).map Visit.place = (kind.paths label).map place.along
  | .array item => item.place_visits place (itemLabel label)
  | .object fields => place_fieldVisits place fields
  | .string _ | .number | .boolean | .untypedArray | .openObject | .unknown _ => rfl

theorem place_fieldVisits (place : Place) : ∀ fields : Fields,
    (fieldVisits place fields).map Visit.place = (fieldPaths fields).map place.along
  | [] => rfl
  | (name, field) :: fields => by
    rw [fieldVisits, fieldPaths, List.map_append, List.map_append, field.place_visits place name,
      place_fieldVisits place fields]

end

-- Going down by one label uses up one level, so the limit has to vary in the induction.
mutual

/-- The first descriptor beyond a limit stands one level beyond it. -/
theorem Descriptor.find?_paths (limit : Nat) (label : String) : ∀ d : Descriptor,
    (d.paths label).find? (limit < ·.length) = (d.paths label).find? (·.length = limit + 1)
  | .mk kind _ => by
    rw [Descriptor.paths]
    cases limit with
    | zero => rw [List.find?_cons_of_pos (by simp), List.find?_cons_of_pos (by simp)]
    | succ limit =>
      have inside := kind.find?_paths limit label
      rw [List.find?_cons_of_neg (by simp), List.find?_cons_of_neg (by simp), List.find?_map,
        List.find?_map]
      congr 1
      simpa [Function.comp_def] using inside

theorem Kind.find?_paths (limit : Nat) (label : String) : ∀ kind : Kind,
    (kind.paths label).find? (limit < ·.length) = (kind.paths label).find? (·.length = limit + 1)
  | .array item => item.find?_paths limit (itemLabel label)
  | .object fields => find?_fieldPaths limit fields
  | .string _ | .number | .boolean | .untypedArray | .openObject | .unknown _ => rfl

theorem find?_fieldPaths (limit : Nat) : ∀ fields : Fields,
    (fieldPaths fields).find? (limit < ·.length) = (fieldPaths fields).find? (·.length = limit + 1)
  | [] => rfl
  | (name, field) :: fields => by
    rw [fieldPaths, List.find?_append, List.find?_append, field.find?_paths limit name,
      find?_fieldPaths limit fields]

end

/-- The places of all descriptors in a document, in pre-order. -/
def Document.places (d : Document) : List Place :=
  d.types.flatMap fun t => (fieldPaths t.fields).map (Place.mk (some t.name))

end ValidatorGen.Schema

namespace ValidatorGen.Validator

open Naming Schema

variable {α : Type} {limit : Nat} {places : List Place}

/-! ### The first place beyond the limit -/

/-- Of the descriptors at the given places, one that goes deeper than allowed makes the outcome a
failure, and the first that stands one level too deep is blamed for it. -/
structure BlamesFirst (limit : Nat) (places : List Place) (outcome : Except CompileError α) :
    Prop where
  /-- Only depth makes the outcome a failure. -/
  fails_iff : (∃ e, outcome = .error e) ↔ ∃ place ∈ places, limit < place.labels.length
  /-- The first descriptor that stands one level too deep is blamed. -/
  blames : ∀ e, outcome = .error e →
    ∃ place, places.find? (·.labels.length = limit + 1) = some place ∧
      e = .depthExceeded place limit

/-- Going through visits fails at the first that stands too deep. -/
theorem visitAll_outcome_eq (limit : Nat) (visits : List Visit) (a : α) :
    (visitAll limit visits a).outcome =
      match (visits.map Visit.place).find? (limit < ·.labels.length) with
      | some place => .error (.depthExceeded place limit)
      | none => .ok a := by
  have same : (fun place : Place => decide (limit < place.labels.length)) ∘ Visit.place =
      fun v => !v.isWithin limit := by
    funext v
    simp [Visit.isWithin, ← decide_not]
  rw [List.find?_map, same, visitAll]
  cases visits.find? (!·.isWithin limit) <;> rfl

/-- Going through visits blames the first that is too deep, if it stands just one level beyond the
limit. -/
theorem blamesFirst_visitAll {visits : List Visit} (places_eq : visits.map Visit.place = places)
    (h : places.find? (limit < ·.labels.length) = places.find? (·.labels.length = limit + 1))
    (a : α) : BlamesFirst limit places (visitAll limit visits a).outcome := by
  rw [visitAll_outcome_eq, places_eq]
  constructor
  · cases found : places.find? (limit < ·.labels.length) with
    | none =>
      have within := List.find?_eq_none.mp found
      simpa using within
    | some place =>
      have beyond := List.find?_some found
      have mem := List.mem_of_find?_eq_some found
      exact iff_of_true ⟨_, rfl⟩ ⟨place, mem, of_decide_eq_true beyond⟩
  · intro e failed
    rw [← h]
    cases found : places.find? (limit < ·.labels.length) with
    | none =>
      rw [found] at failed
      cases failed
    | some place =>
      rw [found] at failed
      cases failed
      exact ⟨place, rfl, rfl⟩

/-- What is made of the result afterwards does not matter. -/
theorem BlamesFirst.bind_ok {β : Type} {outcome : Except CompileError α}
    (h : BlamesFirst limit places outcome) (f : α → β) :
    BlamesFirst limit places (outcome >>= fun a => .ok (f a)) := by
  have same (e : CompileError) :
      (outcome >>= fun a => Except.ok (f a)) = .error e ↔ outcome = .error e := by
    simp [bind_eq_error_iff]
  constructor
  · simpa only [same] using h.fails_iff
  · intro e failed
    exact h.blames e ((same e).mp failed)

/-- Of labels that lead on from one place, the same is said of the places. -/
theorem find?_map_place {root : Option String} {paths : List (List String)}
    (h : paths.find? (limit < ·.length) = paths.find? (·.length = limit + 1)) :
    (paths.map (Place.mk root)).find? (limit < ·.labels.length) =
      (paths.map (Place.mk root)).find? (·.labels.length = limit + 1) := by
  rw [List.find?_map, List.find?_map]
  exact congrArg (Option.map (Place.mk root)) h

/-! ### Object types one after the other -/

/-- Several object types are visited one after the other. -/
theorem declareAll_outcome_eq_visitAll (limit : Nat) (types : List ObjectType) :
    (declareAll limit types).outcome =
      (visitAll limit (types.flatMap ObjectType.visits)
        (types.map ObjectType.declaration)).outcome := by
  induction types with
  | nil => rfl
  | cons t types ih =>
    -- The declaration of the first type is put in front once the visits to the others are done.
    have later : visitAll limit (types.flatMap ObjectType.visits)
        (t.declaration :: types.map ObjectType.declaration) =
          visitAll limit (types.flatMap ObjectType.visits) (types.map ObjectType.declaration) >>=
            fun declarations => pure (t.declaration :: declarations) :=
      (visitAll_bind_pure _ _ _).symm
    rw [declareAll, declare_eq, List.flatMap_cons, visitAll_append _ _ (), bind_assoc,
      Logged.outcome_bind, Logged.outcome_bind (visitAll limit t.visits ()), List.map_cons, later,
      Logged.outcome_bind (visitAll limit (types.flatMap ObjectType.visits) _), ← ih]
    congr 1
    funext done
    rw [Logged.ok_bind]
    exact Logged.outcome_bind _ _

theorem place_flatMap_visits {types : List ObjectType} (named : ∀ t ∈ types, t.name ≠ "") :
    (types.flatMap ObjectType.visits).map Visit.place =
      types.flatMap fun t => (fieldPaths t.fields).map (Place.mk (some t.name)) := by
  induction types with
  | nil => rfl
  | cons t types ih =>
    rw [List.forall_mem_cons] at named
    have root : t.place = ⟨some t.name, []⟩ := by
      rw [ObjectType.place, if_neg (by simpa using named.1)]
    rw [List.flatMap_cons, List.flatMap_cons, List.map_append, ih named.2, ObjectType.visits,
      place_fieldVisits, root, Place.along_nil]

theorem find?_places (limit : Nat) (d : Document) :
    d.places.find? (limit < ·.labels.length) =
      d.places.find? (·.labels.length = limit + 1) := by
  rw [Document.places]
  induction d.types with
  | nil => rfl
  | cons t types ih =>
    rw [List.flatMap_cons, List.find?_append, List.find?_append, ih,
      find?_map_place (find?_fieldPaths limit t.fields)]

/-! ### What is blamed -/

/-- A descriptor taken by itself, the fields of an object, and a document whose names are in order
fail exactly if some descriptor in them stands deeper than allowed. The first in pre-order that
stands one level too deep is then blamed. It is shown by the labels on the way to it with dots
between them, in a document after the name of the object type. -/
theorem depth_blames_first :
    (∀ (limit : Nat) (d : Descriptor) (hint : String),
      BlamesFirst limit ((d.paths hint).map (Place.mk none)) (resolve limit d hint).outcome) ∧
    (∀ (limit : Nat) (fields : Fields),
      BlamesFirst limit ((fieldPaths fields).map (Place.mk none))
        (compileFields limit ⟨none, []⟩ fields).outcome) ∧
    (∀ (o : Options) (d : Document), namingProblem? d.names = none →
      if isIdentifier o.unionName then BlamesFirst o.maxDepth d.places (emit o d).outcome
      else (emit o d).outcome = .error (.invalidIdentifier o.unionName o.unionName)) ∧
    ∀ (root : Option String) (labels : List String),
      (Place.mk root labels).text = ".".intercalate (root.toList ++ labels) := by
  refine ⟨?_, ?_, ?_, fun root labels => rfl⟩
  · intro limit d hint
    rw [resolve, resolveAt_eq_visitAll]
    exact blamesFirst_visitAll (d.place_visits ⟨none, []⟩ hint)
      (find?_map_place (d.find?_paths limit hint)) _
  · intro limit fields
    rw [compileFields_eq_visitAll]
    exact blamesFirst_visitAll (place_fieldVisits ⟨none, []⟩ fields)
      (find?_map_place (find?_fieldPaths limit fields)) _
  · intro o d names
    have named := namingProblem?_eq_none_iff.mp names
    split
    · rename_i union
      have declared : BlamesFirst o.maxDepth d.places (declareAll o.maxDepth d.types).outcome := by
        rw [declareAll_outcome_eq_visitAll]
        exact blamesFirst_visitAll (place_flatMap_visits fun t mem => named.name_ne_empty mem)
          (find?_places o.maxDepth d) _
      rw [emit_outcome_of_wellNamed union named]
      exact declared.bind_ok _
    · rename_i union
      exact emit_outcome_of_not_isIdentifier union

/-- The items of the array in the second of two object types stand one level too deep. -/
theorem depth_blames_first_contactsAndOrders :
    namingProblem? contactsAndOrders.names = none ∧
      (emit ⟨1, "Record"⟩ contactsAndOrders).outcome =
        .error (.depthExceeded ⟨some "orders", ["tags", "tagsItem"]⟩ 1) ∧
      (Place.mk (some "orders") ["tags", "tagsItem"]).text = "orders.tags.tagsItem" := by
  have names : namingProblem? contactsAndOrders.names = none := by decide
  obtain ⟨-, -, document, text⟩ := depth_blames_first
  have blames := document ⟨1, "Record"⟩ contactsAndOrders names
  rw [if_pos (by decide)] at blames
  have deep : ∃ place ∈ contactsAndOrders.places, 1 < place.labels.length := by decide
  obtain ⟨e, failed⟩ := blames.fails_iff.mpr deep
  obtain ⟨place, first, rfl⟩ := blames.blames e failed
  have here : contactsAndOrders.places.find? (·.labels.length = 1 + 1) =
      some ⟨some "orders", ["tags", "tagsItem"]⟩ := by decide
  obtain rfl := Option.some.inj (first.symm.trans here)
  refine ⟨names, failed, ?_⟩
  rw [text]
  decide

end ValidatorGen.Validator
