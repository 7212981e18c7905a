import ValidatorGen.Proofs.Validator.Naming
import ValidatorGen.Proofs.Validator.Visits

/-!
# The outcome of emission

A document is emitted iff the union has a name that is an identifier, the names of the types are in
order, and no field goes deeper than allowed; the module is then the same whatever is allowed. Of
several things that are wrong, the name of the union comes first and the names of the types second.
Depth comes last, and the first type with a field that goes too deep is the one reported.

## Main definitions

* `Document.module` — the module of a document, however deep its fields go
* `ObjectType.isWithin` — no field of the type goes deeper than allowed

## Main results

* `emit_outcome_eq_ok_iff` — the documents that are emitted, and as which modules
* `emit_outcome_of_find?_eq_some` — the type that is reported for its depth
* `emit_outcome_complete` — the outcome for every document, name of the union and limit
-/

namespace ValidatorGen.Schema

open Naming Validator

/-- No field of the object type goes deeper than allowed. -/
def ObjectType.isWithin (limit : Nat) (t : ObjectType) : Bool :=
  t.fields.all fun field => field.2.nesting ≤ limit

/-- The declaration of an object type, however deep its fields go. -/
def ObjectType.declaration (t : ObjectType) : Declaration :=
  ⟨safeIdentifier t.name, .object (fieldValidators t.fields)⟩

/-- The place from which the fields of an object type are reached. -/
def ObjectType.place (t : ObjectType) : Place := ⟨if t.name.isEmpty then none else some t.name, []⟩

/-- The descriptors inside an object type. -/
def ObjectType.visits (t : ObjectType) : List Visit := fieldVisits t.place t.fields

/-- The module of a document, however deep its fields go. -/
def Document.module (unionName : String) (d : Document) : Module :=
  ⟨d.names, d.types.map ObjectType.declaration, .ofNames unionName d.names⟩

theorem fieldsNesting_le_iff {limit : Nat} {fields : Fields} :
    fieldsNesting fields ≤ limit ↔ ∀ field ∈ fields, field.2.nesting ≤ limit := by
  induction fields with
  | nil => simp [fieldsNesting]
  | cons field fields ih => rw [fieldsNesting, Nat.max_le, ih, List.forall_mem_cons]

theorem ObjectType.isWithin_iff {limit : Nat} {t : ObjectType} :
    t.isWithin limit ↔ ∀ field ∈ t.fields, field.2.nesting ≤ limit := by
  simp [ObjectType.isWithin]

theorem ObjectType.not_isWithin_eq_any {limit : Nat} (t : ObjectType) :
    (!t.isWithin limit) = t.fields.any fun field => limit < field.2.nesting := by
  simp only [ObjectType.isWithin, List.not_all_eq_any_not, ← decide_not, Nat.not_le]

theorem ObjectType.visits_isWithin_iff {limit : Nat} {t : ObjectType} :
    (∀ v ∈ t.visits, v.isWithin limit) ↔ t.isWithin limit := by
  rw [ObjectType.visits, fieldVisits_isWithin_iff (Nat.zero_le _), ObjectType.isWithin_iff,
    ← fieldsNesting_le_iff]
  simp [ObjectType.place]

theorem ObjectType.root_of_mem_visits {t : ObjectType} {v : Visit} (name : t.name ≠ "")
    (mem : v ∈ t.visits) : v.place.root = some t.name := by
  rw [root_of_mem_fieldVisits mem]
  simp [ObjectType.place, name]

end ValidatorGen.Schema

namespace ValidatorGen.Validator

open Naming Schema

variable {limit : Nat} {o : Options} {d : Document} {t : ObjectType} {types : List ObjectType}

/-- Declaring an object type goes through the descriptors inside it, and reports the type. -/
theorem declare_eq (limit : Nat) (t : ObjectType) :
    declare limit t = visitAll limit t.visits () >>= fun _ =>
      ⟨[.compiledType t.name t.fields.length], .ok t.declaration⟩ := by
  rw [declare, compileFields_eq_visitAll, visitAll_bind,
    ← visitAll_bind_pure _ () fun _ => Expr.object _, bind_assoc]
  rfl

theorem declare_outcome_of_isWithin (h : t.isWithin limit) :
    (declare limit t).outcome = .ok t.declaration := by
  rw [declare_eq, Logged.outcome_bind,
    visitAll_outcome_of_isWithin (ObjectType.visits_isWithin_iff.mpr h)]
  rfl

/-- Of an object type that goes too deep, the first descriptor that does is reported. -/
theorem declare_outcome_of_not_isWithin (h : ¬ t.isWithin limit) :
    ∃ v, t.visits.find? (!·.isWithin limit) = some v ∧
      (declare limit t).outcome = .error (.depthExceeded v.place limit) := by
  obtain ⟨v, found, outcome⟩ :=
    visitAll_outcome_of_not_isWithin (mt ObjectType.visits_isWithin_iff.mp h) ()
  refine ⟨v, found, ?_⟩
  rw [declare_eq, Logged.outcome_bind, outcome]
  rfl

theorem declareAll_outcome_of_isWithin (h : ∀ t ∈ types, t.isWithin limit) :
    (declareAll limit types).outcome = .ok (types.map ObjectType.declaration) := by
  induction types with
  | nil => rfl
  | cons t types ih =>
    rw [List.forall_mem_cons] at h
    rw [declareAll, Logged.outcome_bind, declare_outcome_of_isWithin h.1]
    change (declareAll limit types >>= _).outcome = _
    rw [Logged.outcome_bind, ih h.2]
    rfl

/-- Of several object types that go too deep, the first is reported. -/
theorem declareAll_outcome_of_find?_eq_some (h : types.find? (!·.isWithin limit) = some t) :
    ∃ v, t.visits.find? (!·.isWithin limit) = some v ∧
      (declareAll limit types).outcome = .error (.depthExceeded v.place limit) := by
  induction types with
  | nil => simp at h
  | cons first types ih =>
    rw [declareAll, Logged.outcome_bind]
    by_cases within : first.isWithin limit
    · -- Declaring the first type comes to its declaration, and the failure is among the rest.
      rw [List.find?_cons_of_neg (by simpa using within)] at h
      obtain ⟨v, found, outcome⟩ := ih h
      refine ⟨v, found, ?_⟩
      rw [declare_outcome_of_isWithin within]
      change (declareAll limit types >>= _).outcome = _
      rw [Logged.outcome_bind, outcome]
      rfl
    · rw [List.find?_cons_of_pos (by simpa using within)] at h
      cases h
      obtain ⟨v, found, outcome⟩ := declare_outcome_of_not_isWithin within
      refine ⟨v, found, ?_⟩
      rw [outcome]
      rfl

/-! ### Emission -/

theorem emit_outcome_of_not_isIdentifier (h : ¬ isIdentifier o.unionName) :
    (emit o d).outcome = .error (.invalidIdentifier o.unionName o.unionName) := by
  rw [emit, if_pos (by simpa using h)]
  rfl

theorem emit_outcome_of_namingProblem? {problem : CompileError} (union : isIdentifier o.unionName)
    (h : namingProblem? d.names = some problem) : (emit o d).outcome = .error problem := by
  rw [emit, if_neg (by simp [union]), h]
  rfl

/-- Once the names are in order, the outcome is that of the declarations. -/
theorem emit_outcome_of_wellNamed (union : isIdentifier o.unionName) (h : WellNamed d.names) :
    (emit o d).outcome = ((declareAll o.maxDepth d.types).outcome >>= fun declarations =>
      .ok ⟨d.names, declarations, .ofNames o.unionName d.names⟩) := by
  rw [emit, if_neg (by simp [union]), namingProblem?_eq_none_iff.mpr h]
  exact Logged.outcome_bind _ _

theorem emit_outcome_of_isWithin (union : isIdentifier o.unionName) (h : WellNamed d.names)
    (within : ∀ t ∈ d.types, t.isWithin o.maxDepth) :
    (emit o d).outcome = .ok (d.module o.unionName) := by
  rw [emit_outcome_of_wellNamed union h, declareAll_outcome_of_isWithin within]
  rfl

/-- A name of which something is left is not empty. -/
theorem WellNamed.name_ne_empty (h : WellNamed d.names) (mem : t ∈ d.types) : t.name ≠ "" := by
  intro empty
  refine h.nonempty t.name (List.mem_map_of_mem mem) ?_
  rw [empty]
  rfl

/-- The type that is reported for its depth. -/
theorem emit_outcome_of_find?_eq_some (union : isIdentifier o.unionName) (h : WellNamed d.names)
    (deep : d.types.find? (!·.isWithin o.maxDepth) = some t) :
    ∃ v, t.visits.find? (!·.isWithin o.maxDepth) = some v ∧ v.place.root = some t.name ∧
      (emit o d).outcome = .error (.depthExceeded v.place o.maxDepth) := by
  obtain ⟨v, found, outcome⟩ := declareAll_outcome_of_find?_eq_some deep
  have name := h.name_ne_empty (List.mem_of_find?_eq_some deep)
  refine ⟨v, found, ObjectType.root_of_mem_visits name (List.mem_of_find?_eq_some found), ?_⟩
  rw [emit_outcome_of_wellNamed union h, outcome]
  rfl

/-- The documents that are emitted, and as which modules. -/
theorem emit_outcome_eq_ok_iff {m : Module} :
    (emit o d).outcome = .ok m ↔
      isIdentifier o.unionName ∧ WellNamed d.names ∧ (∀ t ∈ d.types, t.isWithin o.maxDepth) ∧
        m = d.module o.unionName := by
  -- The checks in the order in which they are made; each case has its own outcome.
  by_cases union : isIdentifier o.unionName
  · cases problem : namingProblem? d.names with
    | some problem' =>
      have not : ¬ WellNamed d.names := by simp [← namingProblem?_eq_none_iff, problem]
      simp [emit_outcome_of_namingProblem? union problem, not]
    | none =>
      have named := namingProblem?_eq_none_iff.mp problem
      cases deep : d.types.find? (!·.isWithin o.maxDepth) with
      | none =>
        have within : ∀ t ∈ d.types, t.isWithin o.maxDepth := by
          simpa [List.find?_eq_none] using deep
        rw [emit_outcome_of_isWithin union named within, Except.ok.injEq, eq_comm]
        simp only [union, named, true_and]
        constructor
        · intro same
          exact ⟨within, same⟩
        · rintro ⟨-, same⟩
          exact same
      | some t =>
        obtain ⟨v, -, -, outcome⟩ := emit_outcome_of_find?_eq_some union named deep
        have not : ¬ ∀ t ∈ d.types, t.isWithin o.maxDepth := by
          intro within
          simpa [within t (List.mem_of_find?_eq_some deep)] using List.find?_some deep
        rw [outcome]
        simp [not]
  · simp [emit_outcome_of_not_isIdentifier union, union]

/-- The outcome of emission, whatever the document, the name of the union and the limit. -/
theorem emit_outcome_complete (o : Options) (d : Document) :
    ((∃ m, (emit o d).outcome = .ok m) ↔
      isIdentifier o.unionName ∧ WellNamed d.names ∧
        ∀ t ∈ d.types, ∀ field ∈ t.fields, field.2.nesting ≤ o.maxDepth) ∧
    (¬ isIdentifier o.unionName →
      (emit o d).outcome = .error (.invalidIdentifier o.unionName o.unionName)) ∧
    (isIdentifier o.unionName → ∀ problem, namingProblem? d.names = some problem →
      (emit o d).outcome = .error problem) ∧
    (isIdentifier o.unionName → namingProblem? d.names = none → ∀ t,
      d.types.find? (fun t => t.fields.any fun field => o.maxDepth < field.2.nesting) = some t →
        ∃ v, t.visits.find? (!·.isWithin o.maxDepth) = some v ∧ v.place.root = some t.name ∧
          (emit o d).outcome = .error (.depthExceeded v.place o.maxDepth)) ∧
    (∀ m, (emit o d).outcome = .ok m →
      m.typeNames = d.names ∧
        m.text = "\n".intercalate
          (importText ::
            d.types.map (fun t =>
              "export const " ++ safeIdentifier t.name ++ "Schema" ++ " = " ++
                (Expr.object (fieldValidators t.fields)).text ++ ";\n") ++
            [(Union.ofNames o.unionName d.names).text]) ∧
        ∀ limit m', (emit { o with maxDepth := limit } d).outcome = .ok m' →
          m'.text = m.text) := by
  refine ⟨?_, emit_outcome_of_not_isIdentifier, ?_, ?_, ?_⟩
  · simp only [emit_outcome_eq_ok_iff, exists_and_left, exists_eq, and_true,
      ObjectType.isWithin_iff]
  · intro union problem
    exact emit_outcome_of_namingProblem? union
  · intro union names t deep
    refine emit_outcome_of_find?_eq_some union (namingProblem?_eq_none_iff.mp names) ?_
    rw [← deep]
    congr 1
    funext t
    exact t.not_isWithin_eq_any
  · intro m h
    obtain ⟨-, -, -, rfl⟩ := emit_outcome_eq_ok_iff.mp h
    refine ⟨rfl, ?_, ?_⟩
    · simp only [Module.text, Module.blocks, Document.module, List.map_map]
      rfl
    · -- The module does not mention the limit.
      intro limit m' h'
      obtain ⟨-, -, -, rfl⟩ := emit_outcome_eq_ok_iff.mp h'
      rfl

/-- Two object types, the second of which goes two descriptors deep. -/
def contactsAndOrders : Document :=
  .ofTypes
    [⟨"contacts", [("id", .mk (.string none) true)]⟩,
      ⟨"orders", [("tags", .mk (.array (.mk .number true)) false)]⟩]

theorem emit_outcome_complete_contactsAndOrders :
    (isIdentifier "Record" ∧ namingProblem? contactsAndOrders.names = none ∧
      ∃ v : Visit, v.place.root = some "orders" ∧
        (emit ⟨1, "Record"⟩ contactsAndOrders).outcome = .error (.depthExceeded v.place 1)) ∧
    (¬ isIdentifier "a b" ∧
      (emit ⟨2, "a b"⟩ contactsAndOrders).outcome = .error (.invalidIdentifier "a b" "a b")) ∧
    ∃ m, (emit ⟨2, "Record"⟩ contactsAndOrders).outcome = .ok m ∧
      m.typeNames = ["contacts", "orders"] := by
  refine ⟨⟨by decide, by decide, ?_⟩, ⟨by decide, ?_⟩, ?_⟩
  · obtain ⟨v, -, root, outcome⟩ :=
      (emit_outcome_complete ⟨1, "Record"⟩ contactsAndOrders).2.2.2.1 (by decide) (by decide)
        ⟨"orders", [("tags", .mk (.array (.mk .number true)) false)]⟩ (by decide)
    exact ⟨v, root, outcome⟩
  · exact (emit_outcome_complete ⟨2, "a b"⟩ contactsAndOrders).2.1 (by decide)
  · obtain ⟨emitted, -, -, -, text⟩ := emit_outcome_complete ⟨2, "Record"⟩ contactsAndOrders
    obtain ⟨m, outcome⟩ := emitted.mpr
      ⟨by decide, namingProblem?_eq_none_iff.mp (by decide), by decide⟩
    exact ⟨m, outcome, (text m outcome).1⟩

end ValidatorGen.Validator
