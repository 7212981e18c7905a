import Mathlib.Data.List.TakeWhile
import ValidatorGen.Proofs.Event
import ValidatorGen.Proofs.Schema.PreOrder
import ValidatorGen.Proofs.Validator.Depth
import ValidatorGen.Proofs.Validator.Offender

/-!
# What is reported during an emission

An emission looks at the descriptors of each object type in pre-order, and then at the type as a
whole. It reports every descriptor of a kind that is not understood, with the labels on the way to
it, and every type that is finished. If a descriptor stands too deep, what has been reported is what
comes before it; if something is wrong with names, nothing has been.

## Main definitions

* `Location.labels` — the labels on the way to a location
* `Moment`, `Document.moments` — what an emission looks at, in order
* `Moment.line?` — what is to be reported at a moment

## Main results

* `Descriptor.visits_eq` — the visits inside a descriptor are those to what is inside it
* `declareAll_events` — what is reported belongs to the moments before the first that is too deep
* `emit_reports` — what is reported, whatever comes of the emission
-/

namespace ValidatorGen

/-- An event as it is shown: its level, what has happened, and the details. -/
def Event.shown (e : Event) : Level × String × List (String × Detail) :=
  (e.level, e.message, e.details)

namespace Schema

open Validator

/-- The labels on the way of steps that begin below the given label. -/
def labelsAlong : String → List Step → List String
  | _, [] => []
  | label, .item :: steps => itemLabel label :: labelsAlong (itemLabel label) steps
  | _, .field name :: steps => name :: labelsAlong name steps

/-- The labels on the way to a location, from the object type on. -/
def Location.labels (l : Location) : List String := l.field :: labelsAlong l.field l.steps

-- The place is carried down on the left; on the right the steps are put in front on the way up.
mutual

/-- The visits inside a descriptor are those to what is inside it. -/
theorem Descriptor.visits_eq (place : Place) (label : String) : ∀ d : Descriptor,
    d.visits place label = d.inside.map fun found =>
      ⟨place.along (label :: labelsAlong label found.1), found.2.kind⟩
  | .mk kind required => by
    rw [Descriptor.visits, Descriptor.inside, List.map_cons, kind.visits_eq]
    congr 1
    simp only [Place.along_enter]

theorem Kind.visits_eq (place : Place) (label : String) : ∀ kind : Kind,
    kind.visits place label = kind.inside.map fun found =>
      ⟨place.along (labelsAlong label found.1), found.2.kind⟩
  | .array item => by
    rw [Kind.visits, Kind.inside, List.map_map, item.visits_eq]
    rfl
  | .object fields => fieldVisits_eq place label fields
  | .string _ | .number | .boolean | .untypedArray | .openObject | .unknown _ => rfl

theorem fieldVisits_eq (place : Place) (label : String) : ∀ fields : Fields,
    fieldVisits place fields = (fieldsInside fields).map fun found =>
      ⟨place.along (labelsAlong label found.1), found.2.kind⟩
  | [] => rfl
  | (name, field) :: fields => by
    rw [fieldVisits, fieldsInside, List.map_append, List.map_map, field.visits_eq,
      fieldVisits_eq place label fields]
    rfl

end

/-- What an emission looks at. -/
inductive Moment where
  /-- A descriptor, where it stands. -/
  | descriptor (l : Location) (d : Descriptor)
  /-- An object type of which all descriptors have been looked at. -/
  | finished (t : ObjectType)

/-- What is to be reported: a kind that is not understood, with its place and its tag, and a type,
with the number of its fields. -/
def Moment.line? : Moment → Option (Level × String × List (String × Detail))
  | .descriptor l (.mk (.unknown tag) _) =>
    some (.info, "unrecognized property kind, using unconstrained validator",
      [("path", .text (".".intercalate (l.type :: l.labels))),
        ("kind", .text (tag.getD "<none>"))])
  | .descriptor _ _ => none
  | .finished t =>
    some (.debug, "compiled object type",
      [("object_type", .text t.name), ("fields", .count t.fields.length)])

/-- What an emission looks at in an object type, in order. -/
def ObjectType.moments (t : ObjectType) : List Moment :=
  t.inside.map (fun found => .descriptor found.1 found.2) ++ [.finished t]

/-- What an emission looks at in a document, in order. -/
def Document.moments (d : Document) : List Moment := d.types.flatMap ObjectType.moments

/-! ### Moments and visits -/

/-- The visit that takes place at a moment, if it is one. -/
def Moment.visit? : Moment → Option Visit
  | .descriptor l d => some ⟨⟨some l.type, l.labels⟩, d.kind⟩
  | .finished _ => none

/-- What is reported at a moment. -/
def Moment.event? : Moment → Option Event
  | .descriptor l d => Visit.event? ⟨⟨some l.type, l.labels⟩, d.kind⟩
  | .finished t => some (.compiledType t.name t.fields.length)

/-- The location that is looked at, if it is one. -/
def Moment.location? : Moment → Option Location
  | .descriptor l _ => some l
  | .finished _ => none

/-- Whether no descriptor stands too deep at a moment. -/
def Moment.isWithin (limit : Nat) (m : Moment) : Bool := m.visit?.all (Visit.isWithin limit)

/-- The locations are those of the descriptors inside the document, in the same order. -/
theorem Document.filterMap_location?_moments (d : Document) :
    d.moments.filterMap Moment.location? = d.inside.map Prod.fst := by
  rw [Document.moments, Document.inside, List.filterMap_flatMap, List.map_flatMap]
  congr 1
  funext t
  rw [ObjectType.moments, List.filterMap_append, List.filterMap_map, ← List.filterMap_eq_map]
  exact List.append_nil _

theorem Document.descriptor_mem_moments_iff {d : Document} {l : Location} {found : Descriptor} :
    .descriptor l found ∈ d.moments ↔ (l, found) ∈ d.inside := by
  simp [Document.moments, Document.inside, ObjectType.moments]

theorem Moment.line?_eq (m : Moment) : m.line? = m.event?.map Event.shown := by
  cases m with
  | descriptor l d =>
    obtain ⟨kind, required⟩ := d
    cases kind <;> rfl
  | finished t => rfl

theorem ObjectType.visits_eq_map_inside {t : ObjectType} (name : t.name ≠ "") :
    t.visits = t.inside.map fun found => ⟨⟨some found.1.type, found.1.labels⟩, found.2.kind⟩ := by
  have place : t.place = ⟨some t.name, []⟩ := by
    rw [ObjectType.place, if_neg (by simpa using name)]
  rw [ObjectType.visits, ObjectType.inside, place]
  induction t.fields with
  | nil => rfl
  | cons field fields ih =>
    rw [fieldVisits, List.flatMap_cons, List.map_append, ih, Descriptor.visits_eq, List.map_map]
    rfl

theorem ObjectType.filterMap_visit?_moments {t : ObjectType} (name : t.name ≠ "") :
    t.moments.filterMap Moment.visit? = t.visits := by
  rw [ObjectType.visits_eq_map_inside name, ObjectType.moments, List.filterMap_append,
    List.filterMap_map, ← List.filterMap_eq_map]
  exact List.append_nil _

theorem filterMap_visit?_moments {types : List ObjectType} (named : ∀ t ∈ types, t.name ≠ "") :
    (types.flatMap ObjectType.moments).filterMap Moment.visit? =
      types.flatMap ObjectType.visits := by
  induction types with
  | nil => rfl
  | cons t types ih =>
    rw [List.forall_mem_cons] at named
    rw [List.flatMap_cons, List.flatMap_cons, List.filterMap_append,
      ObjectType.filterMap_visit?_moments named.1, ih named.2]

/-- The descriptors come first, and then the type is finished. -/
theorem ObjectType.moments_isWithin_iff {t : ObjectType} {limit : Nat} (name : t.name ≠ "") :
    (∀ m ∈ t.moments, m.isWithin limit) ↔ ∀ v ∈ t.visits, v.isWithin limit := by
  rw [ObjectType.visits_eq_map_inside name, ObjectType.moments, List.forall_mem_append,
    List.forall_mem_map, List.forall_mem_map, List.forall_mem_singleton]
  exact and_iff_left rfl

/-- What is reported in an object type that does not go too deep. -/
theorem ObjectType.filterMap_event?_moments {t : ObjectType} (name : t.name ≠ "") :
    t.moments.filterMap Moment.event? =
      t.visits.filterMap Visit.event? ++ [.compiledType t.name t.fields.length] := by
  rw [ObjectType.visits_eq_map_inside name, ObjectType.moments, List.filterMap_append,
    List.filterMap_map, List.filterMap_map]
  rfl

theorem takeWhile_append_of_not_all {α : Type} {p : α → Bool} {as : List α}
    (h : ¬ ∀ a ∈ as, p a) (bs : List α) : (as ++ bs).takeWhile p = as.takeWhile p := by
  induction as with
  | nil => exact absurd (by simp) h
  | cons a as ih =>
    rw [List.forall_mem_cons] at h
    by_cases here : p a
    · rw [List.cons_append, List.takeWhile_cons_of_pos here, List.takeWhile_cons_of_pos here,
        ih fun all => h ⟨here, all⟩]
    · rw [List.cons_append, List.takeWhile_cons_of_neg here, List.takeWhile_cons_of_neg here]

/-- What is reported in an object type that goes too deep, whatever comes later. -/
theorem ObjectType.takeWhile_moments {t : ObjectType} {limit : Nat} (name : t.name ≠ "")
    (deep : ¬ ∀ v ∈ t.visits, v.isWithin limit) (later : List Moment) :
    ((t.moments ++ later).takeWhile (Moment.isWithin limit)).filterMap Moment.event? =
      (t.visits.takeWhile (Visit.isWithin limit)).filterMap Visit.event? := by
  rw [ObjectType.visits_eq_map_inside name] at deep ⊢
  have some : ¬ ∀ m ∈ t.inside.map fun found => Moment.descriptor found.1 found.2,
      m.isWithin limit := by
    rwa [List.forall_mem_map] at deep ⊢
  rw [ObjectType.moments, List.append_assoc, takeWhile_append_of_not_all some, List.takeWhile_map,
    List.takeWhile_map, List.filterMap_map, List.filterMap_map]
  rfl

end Schema

namespace Validator

open Naming Schema

variable {limit : Nat} {o : Options} {d : Document} {types : List ObjectType}

/-! ### Object types one after the other -/

/-- What is reported belongs to the moments before the first at which a descriptor stands too
deep. -/
theorem declareAll_events (limit : Nat) (named : ∀ t ∈ types, t.name ≠ "") :
    (declareAll limit types).events =
      ((types.flatMap ObjectType.moments).takeWhile (Moment.isWithin limit)).filterMap
        Moment.event? := by
  induction types with
  | nil => rfl
  | cons t types ih =>
    rw [List.forall_mem_cons] at named
    rw [declareAll, List.flatMap_cons, declare_eq, bind_assoc]
    by_cases within : ∀ v ∈ t.visits, v.isWithin limit
    · -- The type is finished, and what is reported of the others comes after it.
      have moments := (ObjectType.moments_isWithin_iff named.1).mpr within
      rw [Logged.events_bind_of_ok (visitAll_outcome_of_isWithin within ()), visitAll,
        List.takeWhile_eq_self_iff.mpr within, List.takeWhile_append_of_pos moments,
        List.filterMap_append, ObjectType.filterMap_event?_moments named.1, ← ih named.2,
        Logged.ok_bind, Logged.events_bind_pure, List.append_assoc]
    · obtain ⟨v, -, failed⟩ := visitAll_outcome_of_not_isWithin within ()
      rw [Logged.events_bind_of_error failed, ObjectType.takeWhile_moments named.1 within]
      rfl

/-- Where object types cannot be declared, there is a first descriptor that stands too deep. -/
theorem exists_split_of_declareAll_error {e : CompileError} (named : ∀ t ∈ types, t.name ≠ "")
    (failed : (declareAll limit types).outcome = .error e) :
    ∃ before l found after,
      types.flatMap ObjectType.moments = before ++ .descriptor l found :: after ∧
        (∀ m ∈ before, m.isWithin limit) ∧ limit < l.labels.length ∧
          e = .depthExceeded ⟨some l.type, l.labels⟩ limit := by
  rw [declareAll_outcome_eq_visitAll, visitAll, ← filterMap_visit?_moments named,
    List.find?_filterMap] at failed
  cases first : (types.flatMap ObjectType.moments).find? fun m =>
      m.visit?.any fun v => !v.isWithin limit with
  | none =>
    rw [first] at failed
    cases failed
  | some m =>
    rw [first] at failed
    obtain ⟨deep, before, after, split, shallow⟩ := List.find?_eq_some_iff_append.mp first
    have within : ∀ m ∈ before, m.isWithin limit := by
      intro m mem
      have := shallow m mem
      rw [Moment.isWithin]
      cases h : m.visit? <;> simp_all
    cases m with
    | finished t => cases deep
    | descriptor l found =>
      cases failed
      refine ⟨before, l, found, after, split, within, ?_, rfl⟩
      simpa [Moment.visit?, Visit.isWithin] using deep

/-! ### Emission -/

theorem emit_events_of_not_isIdentifier (h : ¬ isIdentifier o.unionName) :
    (emit o d).events = [] := by
  rw [emit, if_pos (by simpa using h)]
  rfl

theorem emit_events_of_namingProblem? {problem : CompileError}
    (h : namingProblem? d.names = some problem) : (emit o d).events = [] := by
  rw [emit, h]
  split <;> rfl

/-- Once the names are in order, what is reported is what is reported of the declarations. -/
theorem emit_events_of_wellNamed (union : isIdentifier o.unionName) (h : WellNamed d.names) :
    (emit o d).events = (declareAll o.maxDepth d.types).events := by
  rw [emit, if_neg (by simp [union]), namingProblem?_eq_none_iff.mpr h]
  exact Logged.events_bind_pure _ _

/-- Nothing that is wrong with names is a matter of depth. -/
theorem namingProblem?_ne_depthExceeded (names : List String) (place : Place) (limit : Nat) :
    namingProblem? names ≠ some (.depthExceeded place limit) := by
  intro h
  obtain ⟨_, _, _, -, -, refused⟩ := namingProblem?_eq_some_iff.mp h
  cases refused

/-- The lines of the given moments are what is shown of their events. -/
theorem map_shown_filterMap_event? (moments : List Moment) :
    (moments.filterMap Moment.event?).map Event.shown = moments.filterMap Moment.line? := by
  rw [List.map_filterMap]
  congr 1
  funext m
  exact m.line?_eq.symm

/-- If a document is emitted, what is reported is all there is to be reported. -/
theorem emit_events_of_ok {m : Module} (emitted : (emit o d).outcome = .ok m) :
    (emit o d).events.map Event.shown = d.moments.filterMap Moment.line? := by
  obtain ⟨union, named, within, -⟩ := emit_outcome_eq_ok_iff.mp emitted
  have moments : ∀ m ∈ d.types.flatMap ObjectType.moments, m.isWithin o.maxDepth := by
    rw [List.forall_mem_flatMap]
    intro t mem
    rw [ObjectType.moments_isWithin_iff (named.name_ne_empty mem),
      ObjectType.visits_isWithin_iff]
    exact within t mem
  rw [emit_events_of_wellNamed union named,
    declareAll_events _ fun t mem => named.name_ne_empty mem,
    List.takeWhile_eq_self_iff.mpr moments, map_shown_filterMap_event?, Document.moments]

/-- With names in order, only depth is left to fail. What is reported is then what there is to be
reported before the first descriptor that stands too deep. -/
theorem exists_split_of_emit_error {e : CompileError} (union : isIdentifier o.unionName)
    (named : WellNamed d.names) (failed : (emit o d).outcome = .error e) :
    ∃ before l found after, d.moments = before ++ .descriptor l found :: after ∧
      e = .depthExceeded ⟨some l.type, l.labels⟩ o.maxDepth ∧ o.maxDepth < l.labels.length ∧
      (∀ l' found', .descriptor l' found' ∈ before → l'.labels.length ≤ o.maxDepth) ∧
      (emit o d).events.map Event.shown = before.filterMap Moment.line? := by
  have nonempty : ∀ t ∈ d.types, t.name ≠ "" := fun t mem => named.name_ne_empty mem
  have declared : (declareAll o.maxDepth d.types).outcome = .error e := by
    rw [emit_outcome_of_wellNamed union named, bind_eq_error_iff] at failed
    rcases failed with declared | ⟨_, -, impossible⟩
    · exact declared
    · cases impossible
  obtain ⟨before, l, found, after, split, within, deep, same⟩ :=
    exists_split_of_declareAll_error nonempty declared
  have here : ¬ Moment.isWithin o.maxDepth (.descriptor l found) := by
    simpa [Moment.isWithin, Moment.visit?, Visit.isWithin] using deep
  refine ⟨before, l, found, after, split, same, deep, ?_, ?_⟩
  · intro l' found' mem
    exact of_decide_eq_true (within _ mem)
  · rw [emit_events_of_wellNamed union named, declareAll_events _ nonempty, split,
      List.takeWhile_append_of_pos within, List.takeWhile_cons_of_neg here, List.append_nil,
      map_shown_filterMap_event?]

/-- If a document is emitted, then for each of its types, in order, one line is reported for every
descriptor of a kind that is not understood, in pre-order and with the labels on the way to it, and
one for the type. If it goes too deep, what is reported is what comes before the first descriptor
that does. If something is wrong with names, nothing is reported. The descriptors that are looked at
are those of the document, each once. -/
theorem emit_reports (o : Options) (d : Document) :
    (∀ m, (emit o d).outcome = .ok m →
      (emit o d).events.map Event.shown = d.moments.filterMap Moment.line?) ∧
    (∀ place limit, (emit o d).outcome = .error (.depthExceeded place limit) →
      ∃ before l found after, d.moments = before ++ .descriptor l found :: after ∧
        place = ⟨some l.type, l.labels⟩ ∧ limit = o.maxDepth ∧ o.maxDepth < l.labels.length ∧
        (∀ l' found', .descriptor l' found' ∈ before → l'.labels.length ≤ o.maxDepth) ∧
        (emit o d).events.map Event.shown = before.filterMap Moment.line?) ∧
    (∀ e, (emit o d).outcome = .error e → (∀ place limit, e ≠ .depthExceeded place limit) →
      (emit o d).events = []) ∧
    (d.DistinctFields →
      (d.moments.filterMap Moment.location?).Nodup ∧
        ∀ l found, .descriptor l found ∈ d.moments ↔ d.at? l = some found) := by
  refine ⟨fun m => emit_events_of_ok, ?_, ?_, ?_⟩
  · intro place limit failed
    by_cases union : isIdentifier o.unionName
    · cases problem : namingProblem? d.names with
      | none =>
        have named := namingProblem?_eq_none_iff.mp problem
        obtain ⟨before, l, found, after, split, same, rest⟩ :=
          exists_split_of_emit_error union named failed
        cases same
        exact ⟨before, l, found, after, split, rfl, rfl, rest⟩
      | some problem' =>
        rw [emit_outcome_of_namingProblem? union problem] at failed
        cases failed
        exact absurd problem (namingProblem?_ne_depthExceeded _ _ _)
    · rw [emit_outcome_of_not_isIdentifier union] at failed
      cases failed
  · intro e failed other
    by_cases union : isIdentifier o.unionName
    · cases problem : namingProblem? d.names with
      | some problem' => exact emit_events_of_namingProblem? problem
      | none =>
        have named := namingProblem?_eq_none_iff.mp problem
        obtain ⟨-, l, -, -, -, same, -⟩ := exists_split_of_emit_error union named failed
        exact absurd same (other _ _)
    · exact emit_events_of_not_isIdentifier union
  · intro distinct
    refine ⟨?_, fun l found => ?_⟩
    · rw [Document.filterMap_location?_moments]
      exact Document.nodup_inside distinct
    · rw [Document.descriptor_mem_moments_iff]
      exact Document.mem_inside_iff distinct

/-- An object type with descriptors that are not understood in an object and in an array of
objects. -/
def notes : ObjectType where
  name := "notes"
  fields :=
    [("by", .mk (.object [("name", .mk (.unknown (some "text")) true)]) true),
      ("parts", .mk (.array (.mk (.object [("body", .mk (.unknown (some "html")) true)]) true))
        false)]

/-- An object type with a descriptor that has no kind. -/
def tags : ObjectType := ⟨"tags", [("value", .mk (.unknown none) true)]⟩

/-- A document with both types. -/
def notesAndTags : Document := .ofTypes [notes, tags]

theorem emit_reports_notesAndTags :
    (emit ⟨3, "Record"⟩ notesAndTags).events.map Event.shown =
      [(.info, "unrecognized property kind, using unconstrained validator",
          [("path", .text "notes.by.name"), ("kind", .text "text")]),
        (.info, "unrecognized property kind, using unconstrained validator",
          [("path", .text "notes.parts.partsItem.body"), ("kind", .text "html")]),
        (.debug, "compiled object type", [("object_type", .text "notes"), ("fields", .count 2)]),
        (.info, "unrecognized property kind, using unconstrained validator",
          [("path", .text "tags.value"), ("kind", .text "<none>")]),
        (.debug, "compiled object type", [("object_type", .text "tags"), ("fields", .count 1)])] ∧
    (∃ before l found after,
      notesAndTags.moments = before ++ .descriptor l found :: after ∧ l.labels.length = 3 ∧
        (emit ⟨2, "Record"⟩ notesAndTags).events.map Event.shown =
          before.filterMap Moment.line?) ∧
    (emit ⟨3, "a b"⟩ notesAndTags).events = [] ∧
    .descriptor ⟨"tags", "value", []⟩ (.mk (.unknown none) true) ∈ notesAndTags.moments := by
  have named : WellNamed notesAndTags.names := namingProblem?_eq_none_iff.mp (by decide)
  obtain ⟨complete, -, -, placed⟩ := emit_reports ⟨3, "Record"⟩ notesAndTags
  obtain ⟨-, incomplete, -, -⟩ := emit_reports ⟨2, "Record"⟩ notesAndTags
  obtain ⟨-, -, nothing, -⟩ := emit_reports ⟨3, "a b"⟩ notesAndTags
  refine ⟨?_, ?_, ?_, ?_⟩
  · rw [complete _ (emit_outcome_eq_ok_iff.mpr ⟨by decide, named, by decide, rfl⟩)]
    decide
  · have failed : (emit ⟨2, "Record"⟩ notesAndTags).outcome =
        .error (.depthExceeded ⟨some "notes", ["parts", "partsItem", "body"]⟩ 2) := by
      rw [emit_outcome_of_wellNamed (by decide) named]
      rfl
    obtain ⟨before, l, found, after, split, place, -, -, -, events⟩ := incomplete _ _ failed
    injection place with type labels
    exact ⟨before, l, found, after, split, labels ▸ rfl, events⟩
  · exact nothing _ (emit_outcome_of_not_isIdentifier (by decide)) (by simp)
  · have distinct : ∀ t ∈ [notes, tags], t.DistinctFields := by
      simp [notes, tags, ObjectType.DistinctFields, FieldsDistinct, Descriptor.DistinctFields,
        Kind.DistinctFields]
    exact ((placed distinct).2 _ _).mpr rfl

end Validator

end ValidatorGen
