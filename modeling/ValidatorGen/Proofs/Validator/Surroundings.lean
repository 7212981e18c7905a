import ValidatorGen.Proofs.Validator.Depth
import ValidatorGen.Proofs.Validator.Properties

/-!
# What stands around a descriptor

A descriptor inside another one has arrays and objects around it. What is written around its
validator depends on those alone, and its validator on nothing but itself: neither on where it
stands nor on how deep descriptors may go. So the fields of an object are compiled to one text,
whether they are compiled by themselves, resolved as a descriptor, declared as an object type or
found inside something larger.

## Main definitions

* `Frame`, `Surroundings` — the arrays and objects around a descriptor
* `Surroundings.fill` — the descriptor that they make with one inside them
* `Surroundings.opening`, `Surroundings.closing` — what is written before and after its validator

## Main results

* `Surroundings.text_fill` — the validator of the descriptor inside stands between them as it is
* `compileFields_outcome_eq`, `resolve_object_outcome_eq` — one level more moves the limit by one
  and puts one label in front
* `fields_compiled_alike` — the text of an object is the same wherever its fields are compiled
-/

namespace ValidatorGen.Schema

open Naming Validator

/-- What stands around a descriptor inside a kind. -/
inductive Frame where
  /-- An array, of whose items it is the descriptor. -/
  | items
  /-- An object, with the fields before it, its name and the fields after it. -/
  | field (before : Fields) (name : String) (after : Fields)

/-- The kind that has a descriptor in its frame. -/
def Frame.fill (d : Descriptor) : Frame → Kind
  | .items => .array d
  | .field before name after => .object (before ++ (name, d) :: after)

/-- What stands around a descriptor: frames from the outermost on, each with whether what it makes
is always there. -/
abbrev Surroundings := List (Frame × Bool)

/-- The descriptor that has another one in its surroundings. -/
def Surroundings.fill (d : Descriptor) : Surroundings → Descriptor
  | [] => d
  | (frame, required) :: frames => .mk (frame.fill (Surroundings.fill d frames)) required

/-- Entries of an object validator after which further ones come. -/
def leadingText : Fields → String
  | [] => ""
  | (name, field) :: fields =>
    propertyKey name ++ ": " ++ field.validator.text ++ ",\n  " ++ leadingText fields

/-- What is written before the validator in a frame. -/
def Frame.opening : Frame → String
  | .items => "z.array("
  | .field before name _ => "z.object(\x7b\n  " ++ leadingText before ++ propertyKey name ++ ": "

/-- What is written after the validator in a frame. -/
def Frame.closing : Frame → String
  | .items => ")"
  | .field _ _ after => entriesText (fieldValidators after) ++ "\n\x7d)"

theorem Frame.opening_field (before : Fields) (name : String) (after : Fields) :
    (Frame.field before name after).opening =
      "z.object(\x7b\n  " ++ leadingText before ++ propertyKey name ++ ": " := rfl

theorem Frame.closing_field (before : Fields) (name : String) (after : Fields) :
    (Frame.field before name after).closing =
      entriesText (fieldValidators after) ++ "\n\x7d)" := rfl

/-- What is written after a validator that may accept that there is nothing. -/
def optionalMark (required : Bool) : String := if required then "" else ".optional()"

/-- What is written before the validator in its surroundings. -/
def Surroundings.opening : Surroundings → String
  | [] => ""
  | (frame, _) :: frames => frame.opening ++ Surroundings.opening frames

/-- What is written after the validator in its surroundings. -/
def Surroundings.closing : Surroundings → String
  | [] => ""
  | (frame, required) :: frames =>
    Surroundings.closing frames ++ frame.closing ++ optionalMark required

theorem Descriptor.text_validator (kind : Kind) (required : Bool) :
    (Descriptor.mk kind required).validator.text =
      kind.validator.text ++ optionalMark required := by
  cases required with
  | true => exact String.append_empty.symm
  | false => rfl

/-! ### Texts in their surroundings -/

theorem fieldValidators_append (fields fields' : Fields) :
    fieldValidators (fields ++ fields') = fieldValidators fields ++ fieldValidators fields' := by
  induction fields with
  | nil => rfl
  | cons field fields ih => rw [List.cons_append, fieldValidators, ih]; rfl

/-- Entries with one in the middle, the separators counted to those on its left. -/
theorem entriesText_middle (before : Fields) (name : String) (e : Expr)
    (after : List (String × Expr)) :
    entriesText (fieldValidators before ++ (name, e) :: after) =
      ",\n  " ++ leadingText before ++ propertyKey name ++ ": " ++ e.text ++ entriesText after := by
  induction before with
  | nil =>
    rw [fieldValidators, List.nil_append, entriesText_cons, leadingText, String.append_empty]
  | cons field before ih =>
    rw [fieldValidators, List.cons_append, entriesText_cons, ih, leadingText]
    simp only [String.append_assoc]

theorem Frame.text_fill (frame : Frame) (d : Descriptor) :
    (frame.fill d).validator.text = frame.opening ++ d.validator.text ++ frame.closing := by
  cases frame with
  | items => rfl
  | field before name after =>
    rw [fill, Kind.validator, fieldValidators_append, fieldValidators, opening_field,
      closing_field]
    cases before with
    | nil =>
      rw [fieldValidators, List.nil_append, Expr.text_object_cons, leadingText]
      simp only [String.append_assoc, String.empty_append]
    | cons field before =>
      rw [fieldValidators, List.cons_append, Expr.text_object_cons, entriesText_middle, leadingText]
      simp only [String.append_assoc]

/-- The validator of a descriptor stands in its surroundings as it is. -/
theorem Surroundings.text_fill (d : Descriptor) (s : Surroundings) :
    (s.fill d).validator.text = s.opening ++ d.validator.text ++ s.closing := by
  induction s with
  | nil => rw [fill, opening, closing, String.empty_append, String.append_empty]
  | cons frame frames ih =>
    obtain ⟨frame, required⟩ := frame
    rw [fill, Descriptor.text_validator, Frame.text_fill, ih, opening, closing]
    simp only [String.append_assoc]

theorem fieldsNesting_append (fields fields' : Fields) :
    fieldsNesting (fields ++ fields') = max (fieldsNesting fields) (fieldsNesting fields') := by
  induction fields with
  | nil => rw [List.nil_append, fieldsNesting, Nat.zero_max]
  | cons field fields ih => rw [List.cons_append, fieldsNesting, fieldsNesting, ih, Nat.max_assoc]

theorem Frame.nesting_lt_fill (frame : Frame) (d : Descriptor) :
    d.nesting < (frame.fill d).nesting := by
  cases frame with
  | items =>
    rw [fill, Kind.nesting]
    omega
  | field before name after =>
    rw [fill, Kind.nesting, fieldsNesting_append, fieldsNesting]
    omega

theorem Surroundings.nesting_le_fill (d : Descriptor) (s : Surroundings) :
    d.nesting ≤ (s.fill d).nesting := by
  induction s with
  | nil => exact Nat.le_refl _
  | cons frame frames ih =>
    have deeper := frame.1.nesting_lt_fill (Surroundings.fill d frames)
    rw [fill, Descriptor.nesting]
    omega

/-- How deep a descriptor goes depends only on how deep the one inside it goes. -/
theorem Surroundings.nesting_fill_congr {d d' : Descriptor} (h : d.nesting = d'.nesting)
    (s : Surroundings) : (s.fill d).nesting = (s.fill d').nesting := by
  induction s with
  | nil => exact h
  | cons frame frames ih =>
    obtain ⟨frame, required⟩ := frame
    rw [fill, fill, Descriptor.nesting, Descriptor.nesting]
    cases frame with
    | items => rw [Frame.fill, Frame.fill, Kind.nesting, Kind.nesting, ih]
    | field before name after =>
      rw [Frame.fill, Frame.fill, Kind.nesting, Kind.nesting, fieldsNesting_append,
        fieldsNesting_append, fieldsNesting, fieldsNesting, ih]

end ValidatorGen.Schema

namespace ValidatorGen.Validator

open Naming Schema

variable {limit : Nat} {hint : String} {e : Expr}

/-! ### Resolving and compiling -/

/-- A descriptor that is resolved stays within the limit, and comes to its validator. -/
theorem resolve_outcome_eq_ok_iff {d : Descriptor} :
    (resolve limit d hint).outcome = .ok e ↔ d.nesting ≤ limit ∧ e = d.validator := by
  constructor
  · intro h
    rw [resolve, resolveAt_eq_visitAll] at h
    by_cases within : ∀ v ∈ d.visits ⟨none, []⟩ hint, v.isWithin limit
    · rw [visitAll_outcome_of_isWithin within] at h
      cases h
      exact ⟨by simpa using Descriptor.visits_isWithin_iff.mp within, rfl⟩
    · obtain ⟨v, -, failed⟩ := visitAll_outcome_of_not_isWithin within d.validator
      rw [failed] at h
      cases h
  · rintro ⟨within, rfl⟩
    exact resolve_outcome_of_nesting_le within hint

/-- What becomes of fields that are compiled by themselves or in an object type. -/
theorem compileFields_outcome_eq (limit : Nat) (root : Option String) (fields : Fields) :
    (compileFields limit ⟨root, []⟩ fields).outcome =
      match (fieldPaths fields).find? (limit < ·.length) with
      | some labels => .error (.depthExceeded ⟨root, labels⟩ limit)
      | none => .ok (.object (fieldValidators fields)) := by
  rw [compileFields_eq_visitAll, visitAll_outcome_eq, place_fieldVisits, List.find?_map,
    Place.along_nil]
  have same : (fieldPaths fields).find? ((limit < ·.labels.length) ∘ Place.mk root) =
      (fieldPaths fields).find? (limit < ·.length) := rfl
  rw [same]
  cases (fieldPaths fields).find? (limit < ·.length) <;> rfl

/-- The same fields in an object, which takes one level and puts its label in front. -/
theorem resolve_object_outcome_eq (limit : Nat) (fields : Fields) (required : Bool)
    (hint : String) :
    (resolve (limit + 1) (.mk (.object fields) required) hint).outcome =
      match (fieldPaths fields).find? (limit < ·.length) with
      | some labels => .error (.depthExceeded ⟨none, hint :: labels⟩ (limit + 1))
      | none => .ok (Descriptor.mk (.object fields) required).validator := by
  have shifted : ((Descriptor.mk (.object fields) required).paths hint).find?
      ((limit + 1 < ·.labels.length) ∘ Place.mk none) =
        ((fieldPaths fields).find? (limit < ·.length)).map (hint :: ·) := by
    rw [Descriptor.paths, Kind.paths, List.find?_cons_of_neg (by simp), List.find?_map]
    simp only [Function.comp_def, List.length_cons, Nat.add_lt_add_iff_right]
  rw [resolve, resolveAt_eq_visitAll, visitAll_outcome_eq, Descriptor.place_visits, List.find?_map,
    Place.along_nil]
  rw [shifted]
  cases (fieldPaths fields).find? (limit < ·.length) <;> rfl

/-- One label in front of others is shown with a dot after it. -/
theorem Place.text_cons {hint : String} {labels : List String} (h : labels ≠ []) :
    (Place.mk none (hint :: labels)).text = hint ++ "." ++ (Place.mk none labels).text := by
  exact String.intercalate_cons_of_ne_nil h

/-! ### One text -/

/-- Only depth can keep the document from being emitted. -/
structure Proper (o : Options) (d : Document) : Prop where
  /-- The name of the union is an identifier. -/
  union : isIdentifier o.unionName
  /-- The names of the types are in order. -/
  names : namingProblem? d.names = none

theorem emit_outcome_of_proper {o : Options} {d : Document} (proper : Proper o d) (m : Module) :
    (emit o d).outcome = .ok m ↔
      (∀ t ∈ d.types, fieldsNesting t.fields ≤ o.maxDepth) ∧ m = d.module o.unionName := by
  simp only [emit_outcome_eq_ok_iff, proper.union, namingProblem?_eq_none_iff.mp proper.names,
    true_and, ObjectType.isWithin_iff, ← fieldsNesting_le_iff]

theorem compileFields_outcome_eq_ok_iff {root : Option String} {fields : Fields} :
    (compileFields limit ⟨root, []⟩ fields).outcome = .ok e ↔
      fieldsNesting fields ≤ limit ∧ e = .object (fieldValidators fields) := by
  constructor
  · exact compileFields_outcome_eq_ok
  · rintro ⟨within, rfl⟩
    rw [compileFields_eq_visitAll]
    refine visitAll_outcome_of_isWithin ((fieldVisits_isWithin_iff (Nat.zero_le _)).mpr ?_) _
    simpa using within

/-- The text of an object is the same wherever its fields are compiled. Compiled by themselves and
resolved in a descriptor with one level more, they come to one text or fail at one place, with the
label of the descriptor in front. A proper document is emitted iff the fields of each type are
compiled by themselves, and it declares each type as what they come to. In any descriptor that is
resolved, whatever stands around the object, whatever its labels and however deep descriptors may
go, that text stands where the object is described. -/
theorem fields_compiled_alike (fields : Fields) :
    (∀ (limit : Nat) (hint text : String),
      (∃ e, (compileFields limit ⟨none, []⟩ fields).outcome = .ok e ∧ e.text = text) ↔
        ∃ e, (resolve (limit + 1) (.mk (.object fields) true) hint).outcome = .ok e ∧
          e.text = text) ∧
    (∀ (limit : Nat) (hint path : String),
      (∃ labels, (compileFields limit ⟨none, []⟩ fields).outcome =
          .error (.depthExceeded ⟨none, labels⟩ limit) ∧ (Place.mk none labels).text = path) ↔
        ∃ labels, (resolve (limit + 1) (.mk (.object fields) true) hint).outcome =
          .error (.depthExceeded ⟨none, labels⟩ (limit + 1)) ∧
            (Place.mk none labels).text = hint ++ "." ++ path) ∧
    (∀ (o : Options) (d : Document), Proper o d →
      ((∃ m, (emit o d).outcome = .ok m) ↔
        ∀ t ∈ d.types, ∃ e, (compileFields o.maxDepth ⟨none, []⟩ t.fields).outcome = .ok e) ∧
      ∀ (m : Module) (i : Nat) (t : ObjectType), (emit o d).outcome = .ok m →
        d.types[i]? = some t → t.fields = fields →
          ∃ e, (compileFields o.maxDepth ⟨none, []⟩ fields).outcome = .ok e ∧
            (m.declarations[i]?).map Declaration.text =
              some ("export const " ++ safeIdentifier t.name ++ "Schema" ++ " = " ++ e.text ++
                ";\n") ∧
            m.text = "\n".intercalate
              (importText :: m.declarations.map Declaration.text ++ [m.union.text])) ∧
    ∀ (s : Surroundings) (required : Bool) (limit : Nat) (hint : String) (outer : Expr),
      (resolve limit (s.fill (.mk (.object fields) required)) hint).outcome = .ok outer →
        ∃ e, (∀ root, (compileFields limit ⟨root, []⟩ fields).outcome = .ok e) ∧
          (∀ place limit' e', (compileFields limit' place fields).outcome = .ok e' → e' = e) ∧
          outer.text = s.opening ++ (e.text ++ optionalMark required) ++ s.closing := by
  refine ⟨?_, ?_, ?_, ?_⟩
  · intro limit hint text
    rw [compileFields_outcome_eq, resolve_object_outcome_eq]
    cases (fieldPaths fields).find? (limit < ·.length) with
    | some labels => simp
    | none => rfl
  · intro limit hint path
    rw [compileFields_outcome_eq, resolve_object_outcome_eq]
    cases found : (fieldPaths fields).find? (limit < ·.length) with
    | some labels =>
      -- A place that is too deep has at least one label.
      have some_label : labels ≠ [] := by
        rintro rfl
        simpa using List.find?_some found
      simp only [Except.error.injEq, CompileError.depthExceeded.injEq, Place.mk.injEq, true_and,
        and_true, exists_eq_left', Place.text_cons some_label, String.append_right_inj]
    | none => simp
  · intro o d proper
    refine ⟨?_, ?_⟩
    · simp only [emit_outcome_of_proper proper, compileFields_outcome_eq_ok_iff, exists_and_left,
        exists_eq, and_true]
    · rintro m i t emitted found rfl
      obtain ⟨within, rfl⟩ := (emit_outcome_of_proper proper m).mp emitted
      refine ⟨_, compileFields_outcome_eq_ok_iff.mpr ⟨within t (List.mem_of_getElem? found), rfl⟩,
        ?_, rfl⟩
      rw [Document.module, List.getElem?_map, found]
      rfl
  · intro s required limit hint outer resolved
    obtain ⟨within, rfl⟩ := resolve_outcome_eq_ok_iff.mp resolved
    have inside : fieldsNesting fields < (Descriptor.mk (.object fields) required).nesting := by
      rw [Descriptor.nesting, Kind.nesting]
      omega
    have around := s.nesting_le_fill (.mk (.object fields) required)
    refine ⟨.object (fieldValidators fields), ?_, ?_, ?_⟩
    · intro root
      exact compileFields_outcome_eq_ok_iff.mpr ⟨by omega, rfl⟩
    · intro place limit' e' compiled
      exact (compileFields_outcome_eq_ok compiled).2
    · rw [Surroundings.text_fill, Descriptor.text_validator, Kind.validator]

/-- The fields of an address. -/
def addressFields : Fields := [("street name", .mk (.string none) true), ("zip", .mk .number false)]

/-- Two object types, the second of which has these fields. -/
def peopleAndSites : Document := .ofTypes [⟨"people", []⟩, ⟨"sites", addressFields⟩]

/-- A list of orders, each with an address between two other fields. -/
def aroundAddress : Surroundings :=
  [(.items, false),
    (.field [("id", .mk .number true)] "to" [("note", .mk (.unknown none) true)], true)]

theorem fields_compiled_alike_address :
    (∃ labels, (resolve 1 (.mk (.object addressFields) true) "to").outcome =
        .error (.depthExceeded ⟨none, labels⟩ 1) ∧
      (Place.mk none labels).text = "to.street name") ∧
    (Proper ⟨1, "Record"⟩ peopleAndSites ∧
      ∃ m, (emit ⟨1, "Record"⟩ peopleAndSites).outcome = .ok m ∧
        (m.declarations[1]?).map Declaration.text =
          some ("export const sitesSchema = z.object(\x7b\n  \"street name\": z.string(),\n  " ++
            "zip: z.number().optional()\n\x7d);\n")) ∧
    ∃ outer, (resolve 4 (Surroundings.fill (.mk (.object addressFields) false) aroundAddress)
        "orders").outcome = .ok outer ∧
      outer.text = "z.array(z.object(\x7b\n  id: z.number(),\n  to: " ++
        "z.object(\x7b\n  \"street name\": z.string(),\n  zip: z.number().optional()\n\x7d)" ++
        ".optional(),\n  note: z.unknown()\n\x7d)).optional()" := by
  obtain ⟨-, blamed, declared, around⟩ := fields_compiled_alike addressFields
  have proper : Proper ⟨1, "Record"⟩ peopleAndSites := ⟨by decide, by decide⟩
  refine ⟨(blamed 0 "to" "street name").mp ⟨["street name"], rfl, by decide⟩, ⟨proper, ?_⟩, ?_⟩
  · obtain ⟨emitted, each⟩ := declared _ _ proper
    have compiled : ∀ t ∈ peopleAndSites.types, ∃ e,
        (compileFields 1 ⟨none, []⟩ t.fields).outcome = .ok e := by
      intro t mem
      rcases List.mem_pair.mp mem with rfl | rfl <;> exact ⟨_, rfl⟩
    obtain ⟨m, outcome⟩ := emitted.mpr compiled
    obtain ⟨e, here, text, -⟩ := each m 1 ⟨"sites", addressFields⟩ outcome rfl rfl
    cases here
    exact ⟨m, outcome, text.trans (by decide +kernel)⟩
  · have resolved : (resolve 4 (Surroundings.fill (.mk (.object addressFields) false) aroundAddress)
        "orders").outcome = .ok _ := rfl
    obtain ⟨e, here, -, text⟩ := around aroundAddress false 4 "orders" _ resolved
    cases here none
    exact ⟨_, resolved, text.trans (by decide +kernel)⟩

end ValidatorGen.Validator
