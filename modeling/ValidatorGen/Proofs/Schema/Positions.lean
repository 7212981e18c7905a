import ValidatorGen.Proofs.Schema.Blame
import ValidatorGen.Validator.Module

/-!
# What stands where a field is described

A value describes a field by its members: those of an object, or the items of an array that has no
more of them than there are members. Any other value is refused wherever a field is described, no
matter how deep it stands, and with it the object type and the document around it. An array that is
short enough is read as the object that has its items under the names of the members.

## Main definitions

* `Stands` — a part of a value stands where a field is described
* `StandsInBody` — likewise a part of the body of an object type

## Main results

* `namedMembers?_eq_none_iff` — which values have no members to describe a field
* `WellFormed.of_stands` — what is accepted has only what is accepted inside
* `refuses_without_members` — an object type or a document with such a value inside is refused
* `ofValue_array_eq_ofValue_object` — an array is read as an object
-/

namespace ValidatorGen.Schema

open Json Validator

/-- The part is the whole, or stands inside the items, the properties or the fields that the whole
has. Items that are null are none. -/
inductive Stands (part : Value) : Value → Prop where
  /-- The part is the whole. -/
  | here : Stands part part
  /-- The part stands inside the items. -/
  | item {whole item : Value} {members : List (String × Value)}
    (named : namedMembers? whole = some members) (mem : (Member.items.name, item) ∈ members)
    (present : item ≠ .null) (inside : Stands part item) : Stands part whole
  /-- The part stands inside one of the properties or fields. -/
  | field {whole : Value} {members described : List (String × Value)} {m : Member}
    {field : String × Value} (named : namedMembers? whole = some members)
    (holder : m = .properties ∨ m = .fields) (mem : (m.name, .object described) ∈ members)
    (mem' : field ∈ described) (inside : Stands part field.2) : Stands part whole

/-- The part stands inside one of the fields that a body describes. -/
def StandsInBody (part body : Value) : Prop :=
  ∃ members described field, body = .object members ∧
    bodyFields? members = some (.object described) ∧ field ∈ described ∧ Stands part field.2

/-! ### Values with members -/

/-- A value has no members to describe a field if it is neither an object nor a short array. -/
theorem namedMembers?_eq_none_iff {value : Value} :
    namedMembers? value = none ↔ (∀ members, value ≠ .object members) ∧
      ∀ items, value = .array items → Member.all.length < items.length := by
  cases value with
  | object members => simp [namedMembers?]
  | array items => simp [namedMembers?]
  | null | bool | number | string => simp [namedMembers?]

/-- A value describes a field exactly if each of its members may have the value that it has. -/
theorem wellFormed_iff {value : Value} :
    WellFormed value ↔ ∃ members, namedMembers? value = some members ∧
      ∀ (m : Member) (held : Value), (m.name, held) ∈ members →
        m.Admits held (WellFormed held) (FieldsWellFormed held) := by
  have described (members : List (String × Value)) :=
    (exists_describe_eq_ok_iff members {}).trans membersWellFormed_iff
  rw [← exists_ofValue_eq_ok_iff]
  simp only [ofValue_eq_ok_iff, ← described]
  constructor
  · rintro ⟨_, members, d, named, read, -⟩
    exact ⟨members, named, d, read⟩
  · rintro ⟨members, named, d, read⟩
    exact ⟨_, members, d, named, read, rfl⟩

/-- An array that is short enough is read as the object with its items under the names of the
members. -/
theorem ofValue_array_eq_ofValue_object {items : List Value}
    (h : items.length ≤ Member.all.length) :
    Descriptor.ofValue (.array items) =
      Descriptor.ofValue (.object ((Member.all.map Member.name).zip items)) := by
  rw [Descriptor.ofValue, Descriptor.ofValue, describeInOrder_eq_describe _ h]

/-! ### Accepted at every level -/

/-- What is accepted has only what is accepted inside. -/
theorem WellFormed.of_stands {part whole : Value} (h : Stands part whole)
    (formed : WellFormed whole) : WellFormed part := by
  induction h with
  | here => exact formed
  | item named mem present _ ih =>
    obtain ⟨members, named', each⟩ := wellFormed_iff.mp formed
    obtain rfl := Option.some.inj (named.symm.trans named')
    -- Items may be null without being well formed, but these are not null.
    exact ih ((each .items _ mem).resolve_left present)
  | @field _ _ described _ _ named holder mem mem' _ ih =>
    obtain ⟨members, named', each⟩ := wellFormed_iff.mp formed
    obtain rfl := Option.some.inj (named.symm.trans named')
    have fields : AllWellFormed described := by
      rcases holder with rfl | rfl
      · exact each .properties _ mem
      · exact each .fields _ mem
    exact ih (allWellFormed_iff.mp fields _ mem')

/-- A body with something inside that describes no field has a bad field. -/
theorem faulty_of_standsInBody {part body : Value} (h : StandsInBody part body)
    (bad : ¬ WellFormed part) : ∃ field rejection, Faulty body (.badField field rejection) := by
  obtain ⟨members, described, field, rfl, held, mem, inside⟩ := h
  have read : ¬ ∃ fields, readFields described [] = .ok fields := by
    intro ok
    exact bad ((exists_readFields_eq_ok_iff.mp ok field mem).of_stands inside)
  -- The field that is blamed is the first that is refused, which may come before the one found.
  cases outcome : readFields described [] with
  | ok fields => exact absurd ⟨fields, outcome⟩ read
  | error cause =>
    obtain ⟨before, name, value, after, rejection, rfl, earlier, rejected, rfl⟩ :=
      readFields_eq_error_iff.mp outcome
    exact ⟨name, rejection, .badField held earlier rejected⟩

/-- If something is wrong with the body of one object type, then it is blamed, or one before it that
is not well formed either. -/
theorem readTypes_of_faulty (name : String) {body : Value} {cause : Malformation}
    (faulty : Faulty body cause) (before after : List (String × Value)) :
    ∃ blamed cause, readTypes (before ++ (name, body) :: after) =
        .error (.malformed (some blamed) cause) ∧
      blamed ∈ before.map Prod.fst ++ [name] ∧
      ((∀ m ∈ before, BodyWellFormed m.2) → blamed = name) := by
  induction before with
  | nil =>
    have first : ObjectType.ofValue name body = .error (.malformed (some name) cause) :=
      objectType_ofValue_eq_error_iff.mpr ⟨cause, faulty, rfl⟩
    refine ⟨name, cause, ?_, by simp, fun _ => rfl⟩
    rw [List.nil_append, readTypes, first]
    rfl
  | cons m before ih =>
    obtain ⟨other, body'⟩ := m
    rw [List.cons_append, readTypes]
    cases first : ObjectType.ofValue other body' with
    | error e =>
      obtain ⟨cause', faulty', rfl⟩ := objectType_ofValue_eq_error_iff.mp first
      refine ⟨other, cause', rfl, by simp, fun formed => ?_⟩
      exact absurd (formed _ List.mem_cons_self) faulty'.not_bodyWellFormed
    | ok t =>
      obtain ⟨blamed, cause', failed, among, same⟩ := ih
      refine ⟨blamed, cause', ?_, List.mem_cons_of_mem _ among, fun formed => same ?_⟩
      · rw [failed]
        rfl
      · exact (List.forall_mem_cons.mp formed).2

/-! ### Refused at every level -/

/-- An object type and a document are refused if a value that is neither an object nor a short array
stands anywhere in them where a field is described, so no module is made of it. The object type is
blamed for one of its fields, unless one that comes before it in the document is blamed. A short
array is the object with its items under the names of the members. -/
theorem refuses_without_members (part body : Value) (inside : StandsInBody part body)
    (other : ∀ members, part ≠ .object members)
    (long : ∀ items, part = .array items → Member.all.length < items.length) (name : String) :
    (∃ field rejection, ObjectType.ofValue name body =
      .error (.malformed (some name) (.badField field rejection))) ∧
    (∀ before after, ∃ blamed cause,
      (Document.ofValue (.object (before ++ (name, body) :: after)) =
        .error (.malformed (some blamed) cause)) ∧
      blamed ∈ before.map Prod.fst ++ [name] ∧
      ((∀ m ∈ before, BodyWellFormed m.2) → blamed = name) ∧
      ∀ (text : String) (o : Options),
        Value.ofText text = .ok (.object (before ++ (name, body) :: after)) →
          (do let d ← Document.ofText text; (emit o d).outcome) =
            .error (.malformed (some blamed) cause)) ∧
    ∀ items : List Value, items.length ≤ Member.all.length →
      Descriptor.ofValue (.array items) =
        Descriptor.ofValue (.object ((Member.all.map Member.name).zip items)) := by
  have bad : ¬ WellFormed part := by
    intro formed
    obtain ⟨members, named, -⟩ := wellFormed_iff.mp formed
    rw [namedMembers?_eq_none_iff.mpr ⟨other, long⟩] at named
    cases named
  obtain ⟨field, rejection, faulty⟩ := faulty_of_standsInBody inside bad
  refine ⟨⟨field, rejection, objectType_ofValue_eq_error_iff.mpr ⟨_, faulty, rfl⟩⟩, ?_,
    fun items => ofValue_array_eq_ofValue_object⟩
  intro before after
  obtain ⟨blamed, cause, failed, among, same⟩ := readTypes_of_faulty name faulty before after
  have document : Document.ofValue (.object (before ++ (name, body) :: after)) =
      .error (.malformed (some blamed) cause) := by
    rw [Document.ofValue, failed]
    rfl
  refine ⟨blamed, cause, document, among, same, ?_⟩
  intro text o read
  rw [Document.ofText, read]
  dsimp only
  rw [document]
  rfl

/-- A number among the fields of the items of an array. -/
theorem refuses_without_members_numberInItems :
    ∃ field rejection, ObjectType.ofValue "orders" (.object [("properties", .object
        [("rows", .object [("type", .string "array"), ("items", .object
          [("type", .string "object"), ("fields", .object [("id", .number (.integer 5))])])])])]) =
      .error (.malformed (some "orders") (.badField field rejection)) := by
  have inside : StandsInBody (.number (.integer 5)) (.object [("properties", .object
      [("rows", .object [("type", .string "array"), ("items", .object [("type", .string "object"),
        ("fields", .object [("id", .number (.integer 5))])])])])]) := by
    refine ⟨_, _, _, rfl, rfl, List.mem_cons_self, ?_⟩
    refine .item rfl (List.mem_cons_of_mem _ List.mem_cons_self) ?_ ?_
    · nofun
    · refine .field rfl (.inr rfl) (List.mem_cons_of_mem _ List.mem_cons_self) List.mem_cons_self ?_
      exact .here
  exact (refuses_without_members _ _ inside nofun nofun "orders").1

/-- An array with a tag in it is taken for the description of a field, though it is no object. -/
theorem not_forall_refuses_other_than_object :
    ¬ ∀ (name : String) (part body : Value), StandsInBody part body →
      (∀ members, part ≠ .object members) →
        ∃ cause, ObjectType.ofValue name body = .error (.malformed (some name) cause) := by
  intro refuses
  have accepted : ObjectType.ofValue "orders" (.object [("properties", .object
      [("id", .array [.string "string"])])]) =
        .ok ⟨"orders", [("id", .mk (.string none) false)]⟩ := rfl
  have inside : StandsInBody (.array [.string "string"]) (.object [("properties", .object
      [("id", .array [.string "string"])])]) :=
    ⟨_, _, _, rfl, rfl, List.mem_cons_self, .here⟩
  obtain ⟨cause, refused⟩ := refuses "orders" _ _ inside nofun
  cases accepted.symm.trans refused

end ValidatorGen.Schema
