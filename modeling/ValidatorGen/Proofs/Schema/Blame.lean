import ValidatorGen.Proofs.Schema.Grammar
import ValidatorGen.Proofs.Schema.Replacement

/-!
# Which documents are decoded, and what is blamed

A document is decoded iff it is an object of objects whose fields are all well formed; the types and
their fields then come in the order of the members. Otherwise the first object type that is not well
formed is blamed, and in it the first thing that is wrong.

## Main definitions

* `BodyWellFormed`, `DocumentWellFormed` — the value has the form of an object type, or of a
  document
* `Faulty` — what is wrong with the body of an object type

## Main results

* `exists_fieldsOfBody_eq_ok_iff` — exactly the well-formed object types are decoded
* `fieldsOfBody_eq_error_iff` — what is blamed on a body is what is wrong with it
* `readTypes_eq_error_iff` — the first object type that is not well formed is blamed
* `Document.ofValue_accepts_and_blames` — the outcome of decoding, whatever the value
-/

namespace ValidatorGen.Schema

open Json

/-- The value has the form of an object type: its fields are those of the member `properties`, or of
the member `fields` if there is no `properties`. -/
def BodyWellFormed (body : Value) : Prop :=
  ∃ members fields, body = .object members ∧ bodyFields? members = some (.object fields) ∧
    ∀ field ∈ fields, WellFormed field.2

/-- The value has the form of a document. -/
def DocumentWellFormed (value : Value) : Prop :=
  ∃ members, value = .object members ∧ ∀ m ∈ members, BodyWellFormed m.2

/-- What is wrong with the body of an object type. -/
inductive Faulty : Value → Malformation → Prop where
  /-- It is not an object. -/
  | notObjectType {body : Value} (other : ∀ members, body ≠ .object members) :
    Faulty body (.notObjectType body.noun)
  /-- It has neither `properties` nor `fields`. -/
  | noFields {members : List (String × Value)} (absent : bodyFields? members = none) :
    Faulty (.object members) .noFields
  /-- Its fields are not an object. -/
  | notFields {members : List (String × Value)} {held : Value}
    (found : bodyFields? members = some held) (other : ∀ fields, held ≠ .object fields) :
    Faulty (.object members) (.notFields held.noun)
  /-- A field is rejected, and all fields before it are well formed. -/
  | badField {members before after : List (String × Value)} {name : String} {value : Value}
    {rejection : Rejection}
    (found : bodyFields? members = some (.object (before ++ (name, value) :: after)))
    (earlier : ∀ m ∈ before, WellFormed m.2)
    (rejected : Descriptor.ofValue value = .error rejection) :
    Faulty (.object members) (.badField name rejection)

/-! ### Fields and bodies -/

theorem wellFormed_of_ofValue_eq_ok {value : Value} {d : Descriptor}
    (h : Descriptor.ofValue value = .ok d) : WellFormed value :=
  (exists_ofValue_eq_ok_iff value).mp ⟨d, h⟩

theorem not_wellFormed_of_ofValue_eq_error {value : Value} {rejection : Rejection}
    (h : Descriptor.ofValue value = .error rejection) : ¬ WellFormed value := by
  intro formed
  obtain ⟨d, ok⟩ := (exists_ofValue_eq_ok_iff value).mpr formed
  rw [h] at ok
  cases ok

theorem exists_readFields_eq_ok_iff {members : List (String × Value)} {known : Fields} :
    (∃ fields, readFields members known = .ok fields) ↔ ∀ m ∈ members, WellFormed m.2 := by
  simp only [readFields_eq_ok_iff]
  rw [exists_decodeFields_eq_ok_iff, allWellFormed_iff]

/-- The first field that is rejected is blamed. The fields before it do not matter, so those already
known stay arbitrary in the induction. -/
theorem readFields_eq_error_iff {members : List (String × Value)} {known : Fields}
    {cause : Malformation} :
    readFields members known = .error cause ↔
      ∃ before name value after rejection, members = before ++ (name, value) :: after ∧
        (∀ m ∈ before, WellFormed m.2) ∧ Descriptor.ofValue value = .error rejection ∧
          cause = .badField name rejection := by
  induction members generalizing known with
  | nil => simp [readFields]
  | cons first members ih =>
    obtain ⟨name, value⟩ := first
    rw [readFields]
    cases read : Descriptor.ofValue value with
    | error rejection =>
      constructor
      · rintro ⟨⟩
        exact ⟨[], name, value, members, rejection, rfl, by simp, read, rfl⟩
      · rintro ⟨before, name', value', after, rejection', split, earlier, rejected, rfl⟩
        cases before with
        | nil =>
          cases split
          rw [read] at rejected
          cases rejected
          rfl
        | cons m before =>
          -- The first field would have to be well formed, but it is rejected.
          cases split
          exact absurd (earlier _ List.mem_cons_self) (not_wellFormed_of_ofValue_eq_error read)
    | ok field =>
      have formed := wellFormed_of_ofValue_eq_ok read
      dsimp only
      rw [ih]
      constructor
      · rintro ⟨before, name', value', after, rejection, rfl, earlier, rejected, same⟩
        exact ⟨(name, value) :: before, name', value', after, rejection, rfl,
          List.forall_mem_cons.mpr ⟨formed, earlier⟩, rejected, same⟩
      · rintro ⟨before, name', value', after, rejection, split, earlier, rejected, same⟩
        cases before with
        | nil =>
          cases split
          exact absurd formed (not_wellFormed_of_ofValue_eq_error rejected)
        | cons m before =>
          cases split
          exact ⟨before, name', value', after, rejection, rfl,
            (List.forall_mem_cons.mp earlier).2, rejected, same⟩

/-- What is found in a body decides how it is read. -/
theorem fieldsOfBody_object (members : List (String × Value)) :
    fieldsOfBody (.object members) =
      match bodyFields? members with
      | some (.object fields) => readFields fields []
      | some other => .error (.notFields other.noun)
      | none => .error .noFields := rfl

/-- Exactly the well-formed object types are decoded. -/
theorem exists_fieldsOfBody_eq_ok_iff {body : Value} :
    (∃ fields, fieldsOfBody body = .ok fields) ↔ BodyWellFormed body := by
  constructor
  · rintro ⟨fields, ok⟩
    obtain ⟨members, described, rfl, held, read⟩ := fieldsOfBody_eq_ok_iff.mp ok
    have each := (exists_decodeFields_eq_ok_iff described []).mp ⟨fields, read⟩
    exact ⟨members, described, rfl, held, allWellFormed_iff.mp each⟩
  · rintro ⟨members, described, rfl, held, each⟩
    rw [fieldsOfBody_object, held]
    exact exists_readFields_eq_ok_iff.mpr each

/-- What is blamed on a body is what is wrong with it. -/
theorem fieldsOfBody_eq_error_iff {body : Value} {cause : Malformation} :
    fieldsOfBody body = .error cause ↔ Faulty body cause := by
  constructor
  · intro error
    cases body with
    | object members =>
      rw [fieldsOfBody_object] at error
      cases held : bodyFields? members with
      | none =>
        rw [held] at error
        cases error
        exact .noFields held
      | some value =>
        rw [held] at error
        cases value with
        | object fields =>
          obtain ⟨before, name, value, after, rejection, rfl, earlier, rejected, rfl⟩ :=
            readFields_eq_error_iff.mp error
          exact .badField held earlier rejected
        | null | bool | number | string | array =>
          cases error
          exact .notFields held (by simp)
    | null | bool | number | string | array =>
      cases error
      exact .notObjectType (by simp)
  · intro faulty
    cases faulty with
    | notObjectType other =>
      cases body with
      | object members => exact absurd rfl (other members)
      | null | bool | number | string | array => rfl
    | noFields absent => rw [fieldsOfBody_object, absent]
    | @notFields members held found other =>
      rw [fieldsOfBody_object, found]
      cases held with
      | object fields => exact absurd rfl (other fields)
      | null | bool | number | string | array => rfl
    | badField found earlier rejected =>
      rw [fieldsOfBody_object, found]
      exact readFields_eq_error_iff.mpr ⟨_, _, _, _, _, rfl, earlier, rejected, rfl⟩

/-- A body with which something is wrong is not well formed. -/
theorem Faulty.not_bodyWellFormed {body : Value} {cause : Malformation} (h : Faulty body cause) :
    ¬ BodyWellFormed body := by
  intro formed
  obtain ⟨fields, ok⟩ := exists_fieldsOfBody_eq_ok_iff.mpr formed
  rw [fieldsOfBody_eq_error_iff.mpr h] at ok
  cases ok

/-! ### Documents -/

theorem exists_objectType_ofValue_eq_ok_iff (name : String) {body : Value} :
    (∃ t, ObjectType.ofValue name body = .ok t) ↔ BodyWellFormed body := by
  rw [← exists_fieldsOfBody_eq_ok_iff, ObjectType.ofValue]
  cases fieldsOfBody body <;> simp

theorem objectType_ofValue_eq_error_iff {name : String} {body : Value} {e : CompileError} :
    ObjectType.ofValue name body = .error e ↔
      ∃ cause, Faulty body cause ∧ e = .malformed (some name) cause := by
  simp only [← fieldsOfBody_eq_error_iff]
  rw [ObjectType.ofValue]
  cases fieldsOfBody body <;> simp [eq_comm]

theorem exists_readTypes_eq_ok_iff {members : List (String × Value)} :
    (∃ types, readTypes members = .ok types) ↔ ∀ m ∈ members, BodyWellFormed m.2 := by
  induction members with
  | nil => simp [readTypes]
  | cons first members ih =>
    obtain ⟨name, body⟩ := first
    rw [readTypes, exists_bind_eq_ok_iff, List.forall_mem_cons, ← ih,
      ← exists_objectType_ofValue_eq_ok_iff name]
    simp [exists_bind_eq_ok_iff, pure, Except.pure]

/-- The first object type that is not well formed is blamed. -/
theorem readTypes_eq_error_iff {members : List (String × Value)} {e : CompileError} :
    readTypes members = .error e ↔
      ∃ before name body after cause, members = before ++ (name, body) :: after ∧
        (∀ m ∈ before, BodyWellFormed m.2) ∧ Faulty body cause ∧
          e = .malformed (some name) cause := by
  induction members with
  | nil => simp [readTypes]
  | cons first members ih =>
    obtain ⟨name, body⟩ := first
    have rest : (∃ t, ObjectType.ofValue name body = .ok t ∧
        (do let types ← readTypes members; return t :: types) = .error e) ↔
        BodyWellFormed body ∧ readTypes members = .error e := by
      rw [← exists_objectType_ofValue_eq_ok_iff name, ← exists_and_right]
      simp [bind_eq_error_iff, pure, Except.pure]
    rw [readTypes, bind_eq_error_iff, rest, objectType_ofValue_eq_error_iff, ih]
    constructor
    · rintro (⟨cause, faulty, same⟩ |
        ⟨formed, before, name', body', after, cause, rfl, earlier, faulty, same⟩)
      · exact ⟨[], name, body, members, cause, rfl, by simp, faulty, same⟩
      · exact ⟨(name, body) :: before, name', body', after, cause, rfl,
          List.forall_mem_cons.mpr ⟨formed, earlier⟩, faulty, same⟩
    · rintro ⟨before, name', body', after, cause, split, earlier, faulty, same⟩
      cases before with
      | nil =>
        cases split
        exact .inl ⟨cause, faulty, same⟩
      | cons m before =>
        cases split
        have formed := List.forall_mem_cons.mp earlier
        exact .inr ⟨formed.1, before, name', body', after, cause, rfl, formed.2, faulty, same⟩

/-- The fields of a body with distinct names keep the names and the order of its members. -/
theorem map_fst_of_fieldsOfBody {body : Value} (distinct : DistinctNames body) {fields : Fields}
    (h : fieldsOfBody body = .ok fields) :
    ∃ members described, body = .object members ∧ bodyFields? members = some (.object described) ∧
      fields.map Prod.fst = described.map Prod.fst := by
  obtain ⟨members, described, rfl, held, read⟩ := fieldsOfBody_eq_ok_iff.mp h
  refine ⟨members, described, rfl, held, ?_⟩
  have inside : ∃ m ∈ members, m.2 = .object described := by
    rw [bodyFields?] at held
    rcases Option.or_eq_some_iff.mp held with found | ⟨-, found⟩
    · exact ⟨_, (Ordered.value?_eq_some_iff distinct.1).mp found, rfl⟩
    · exact ⟨_, (Ordered.value?_eq_some_iff distinct.1).mp found, rfl⟩
  obtain ⟨m, mem, same⟩ := inside
  have names : (described.map Prod.fst).Nodup := by
    have held := membersDistinct_iff.mp distinct.2 m mem
    rw [same] at held
    exact held.1
  have each := (fieldsOfMembers_eq_ok_iff names).mp read
  clear h read held same names
  induction each with
  | nil => rfl
  | cons first _ ih => rw [List.map_cons, List.map_cons, first.1, ih]

/-- The types of a document keep the names and the order of the members. -/
theorem map_name_of_readTypes {members : List (String × Value)} {types : List ObjectType}
    (h : readTypes members = .ok types) :
    types.map ObjectType.name = members.map Prod.fst := by
  have each := readTypes_eq_ok_iff.mp h
  clear h
  induction each with
  | nil => rfl
  | cons first _ ih =>
    rw [List.map_cons, List.map_cons, (ObjectType.ofValue_eq_ok_iff.mp first).1, ih]

/-- Exactly the well-formed documents are decoded, with their types and fields in the order of the
members. Of a value that is not an object no object type is blamed; otherwise the first object type
that is not well formed is, for the first thing that is wrong with it. -/
theorem Document.ofValue_accepts_and_blames (value : Value) :
    ((∃ d, Document.ofValue value = .ok d) ↔ DocumentWellFormed value) ∧
    (∀ d, Document.ofValue value = .ok d → DistinctNames value →
      ∃ members, value = .object members ∧ d.names = members.map Prod.fst ∧
        List.Forall₂ (fun m t => ∃ inner described, m.2 = .object inner ∧
          bodyFields? inner = some (.object described) ∧
            t.fields.map Prod.fst = described.map Prod.fst) members d.types) ∧
    ∀ e, Document.ofValue value = .error e ↔
      ((∀ members, value ≠ .object members) ∧ e = .malformed none (.notDocument value.noun)) ∨
      ∃ before name body after cause, value = .object (before ++ (name, body) :: after) ∧
        (∀ m ∈ before, BodyWellFormed m.2) ∧ ¬ BodyWellFormed body ∧ Faulty body cause ∧
          e = .malformed (some name) cause := by
  refine ⟨?_, ?_, ?_⟩
  · cases value with
    | object members =>
      rw [Document.ofValue, exists_bind_eq_ok_iff]
      simp [exists_readTypes_eq_ok_iff, DocumentWellFormed, pure, Except.pure]
    | null | bool | number | string | array => simp [Document.ofValue, DocumentWellFormed]
  · intro d ok distinct
    obtain ⟨members, types, rfl, read, rfl⟩ := Document.ofValue_eq_ok_iff.mp ok
    have names := map_name_of_readTypes read
    -- The names are distinct, so no type takes the place of an earlier one.
    have same : (Document.ofTypes types).types = types := by
      apply Document.types_ofTypes
      rw [names]
      exact distinct.1
    refine ⟨members, rfl, by rw [Document.names, same, names], ?_⟩
    rw [same]
    have inside := membersDistinct_iff.mp distinct.2
    have each := readTypes_eq_ok_iff.mp read
    clear ok distinct read names same
    induction each with
    | nil => exact .nil
    | cons first _ ih =>
      rw [List.forall_mem_cons] at inside
      have fields := (ObjectType.ofValue_eq_ok_iff.mp first).2
      exact .cons (map_fst_of_fieldsOfBody inside.1 fields) (ih inside.2)
  · intro e
    cases value with
    | object members =>
      have types : Document.ofValue (.object members) = .error e ↔
          readTypes members = .error e := by
        rw [Document.ofValue, bind_eq_error_iff]
        simp [pure, Except.pure]
      rw [types, readTypes_eq_error_iff]
      constructor
      · rintro ⟨before, name, body, after, cause, rfl, earlier, faulty, rfl⟩
        exact .inr ⟨before, name, body, after, cause, rfl, earlier, faulty.not_bodyWellFormed,
          faulty, rfl⟩
      · rintro (⟨other, -⟩ | ⟨before, name, body, after, cause, same, earlier, -, faulty, rfl⟩)
        · exact absurd rfl (other members)
        · cases same
          exact ⟨before, name, body, after, cause, rfl, earlier, faulty, rfl⟩
    | null | bool | number | string | array => simp [Document.ofValue, eq_comm]

/-- A document with a good object type, one that has fields of both names, and a bad one after
it. -/
def ordersAndDeals : List (String × Value) :=
  [("orders", .object [("fields", .object [("id", .array [.string "string"])])]),
    ("deals", .object [("fields", .object []), ("properties", .null)]),
    ("notes", .null)]

theorem Document.ofValue_accepts_and_blames_ordersAndDeals :
    (DistinctNames (.object (ordersAndDeals.take 1)) ∧
      ∃ d, Document.ofValue (.object (ordersAndDeals.take 1)) = .ok d ∧ d.names = ["orders"]) ∧
    Document.ofValue (.object ordersAndDeals) =
      .error (.malformed (some "deals") (.notFields "null")) := by
  have orders : BodyWellFormed
      (.object [("fields", .object [("id", .array [.string "string"])])]) :=
    ⟨_, _, rfl, rfl, by simp [WellFormed, ItemsWellFormed, Member.all, Member.Admits]⟩
  have deals : Faulty (.object [("fields", .object []), ("properties", .null)])
      (.notFields Value.null.noun) :=
    .notFields rfl (by simp)
  have names : DistinctNames (.object (ordersAndDeals.take 1)) := by
    simp [ordersAndDeals, DistinctNames, MembersDistinct, ItemsDistinct]
  refine ⟨⟨names, ?_⟩, ?_⟩
  · obtain ⟨accepts, order, -⟩ :=
      Document.ofValue_accepts_and_blames (.object (ordersAndDeals.take 1))
    obtain ⟨d, ok⟩ := accepts.mpr ⟨_, rfl, by simpa [ordersAndDeals] using orders⟩
    obtain ⟨members, same, names, -⟩ := order d ok names
    cases same
    exact ⟨d, ok, names⟩
  · obtain ⟨-, -, blames⟩ := Document.ofValue_accepts_and_blames (.object ordersAndDeals)
    exact (blames _).mpr (.inr ⟨ordersAndDeals.take 1, "deals", _, [("notes", .null)], _, rfl,
      by simpa [ordersAndDeals] using orders, deals.not_bodyWellFormed, deals, rfl⟩)

end ValidatorGen.Schema
