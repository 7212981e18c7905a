import ValidatorGen.Proofs.Schema.Grammar

/-!
# Two names for fields

The fields of an object type, and those of an object inside it, are found under `properties` or
under `fields`. An object type looks at `fields` only if there is no `properties`. An object inside
it reads both and takes a null for nothing. So the two come to the same fields unless `fields` is
refused beside properties that are accepted, or stands in for properties that are null.

## Main definitions

* `fieldMembers` — the two members, each of which may be missing
* `BodyHas`, `ObjectHas` — the object type, or the object inside it, has the given fields
* `Shadowed`, `Replaced` — the two ways in which they come to different fields

## Main results

* `bodyHas_iff`, `objectHas_iff` — the fields of either, by what the two members hold
* `objectHas_iff_bodyHas` — the fields of an object inside, by those of an object type
* `hasAlike_iff` — exactly when the two have the same fields
-/

namespace ValidatorGen.Schema

open Json

/-- The members with fields of an object, each of which may be missing. -/
def fieldMembers (properties fields : Option Value) : List (String × Value) :=
  (properties.map fun held => (Member.properties.name, held)).toList ++
    (fields.map fun held => (Member.fields.name, held)).toList

/-- The object type with the given members has the given fields. -/
def BodyHas (name : String) (members : List (String × Value)) (F : Fields) : Prop :=
  ObjectType.ofValue name (.object members) = .ok ⟨name, F⟩

/-- The descriptor with the given members is that of an object with the given fields. -/
def ObjectHas (members : List (String × Value)) (F : Fields) : Prop :=
  Descriptor.ofValue (.object members) = .ok (.mk (.object F) false)

/-- The properties are accepted, but not what stands beside them under `fields`. -/
def Shadowed (properties fields : Option Value) : Prop :=
  (∃ members, properties = some (.object members) ∧ ∀ m ∈ members, WellFormed m.2) ∧
    ∃ held, fields = some held ∧ ¬ FieldsWellFormed held

/-- The properties are null, and there are fields that are accepted. -/
def Replaced (properties fields : Option Value) : Prop :=
  properties = some .null ∧
    ∃ members, fields = some (.object members) ∧ ∀ m ∈ members, WellFormed m.2

variable {properties fields : Option Value} {members : List (String × Value)} {F : Fields}

/-! ### What the two members hold -/

theorem nodup_fieldMembers (properties fields : Option Value) :
    ((fieldMembers properties fields).map Prod.fst).Nodup := by
  cases properties <;> cases fields <;> simp [fieldMembers, Member.name]

/-- Members that are only put in another order hold the same values. -/
theorem value?_perm {members' : List (String × Value)} (h : members.Perm members')
    (distinct : (members'.map Prod.fst).Nodup) (name : String) :
    Ordered.value? name members = Ordered.value? name members' := by
  have distinct' : (members.map Prod.fst).Nodup := (h.map Prod.fst).nodup_iff.mpr distinct
  ext held
  rw [Ordered.value?_eq_some_iff distinct', Ordered.value?_eq_some_iff distinct, h.mem_iff]

theorem bodyFields?_fieldMembers (h : members.Perm (fieldMembers properties fields)) :
    bodyFields? members = properties.or fields := by
  rw [bodyFields?, value?_perm h (nodup_fieldMembers properties fields),
    value?_perm h (nodup_fieldMembers properties fields)]
  cases properties <;> cases fields <;> rfl

/-- An object type has the fields that are described under the name that counts. -/
theorem bodyHas_iff {name : String} (h : members.Perm (fieldMembers properties fields)) :
    BodyHas name members F ↔
      ∃ described, properties.or fields = some (.object described) ∧
        fieldsOfMembers described = .ok F := by
  rw [BodyHas, ObjectType.ofValue_eq_ok_iff, fieldsOfBody_eq_ok_iff, ← bodyFields?_fieldMembers h]
  constructor
  · rintro ⟨-, _, described, ⟨⟩, held, read⟩
    exact ⟨described, held, read⟩
  · rintro ⟨described, held, read⟩
    exact ⟨rfl, members, described, rfl, held, read⟩

/-- The fields that a member says, if it is there. -/
def saidFields (member : Option Value) : Except Rejection (Option Fields) :=
  member.elim (.ok none) optionalFields

theorem exists_saidFields_eq_ok_iff {member : Option Value} :
    (∃ said, saidFields member = .ok said) ↔
      ∀ held, member = some held → FieldsWellFormed held := by
  cases member with
  | none => simp [saidFields]
  | some held => simpa [saidFields] using exists_optionalFields_eq_ok_iff held

theorem saidFields_eq_ok_some_iff {member : Option Value} :
    saidFields member = .ok (some F) ↔
      ∃ described, member = some (.object described) ∧ fieldsOfMembers described = .ok F := by
  cases member with
  | none => simp [saidFields]
  | some held =>
    rw [saidFields, Option.elim_some, optionalFields_eq_ok_some_iff]
    simp

/-- A member says nothing exactly if it is missing or null. -/
theorem saidFields_eq_ok_none_iff {member : Option Value} :
    saidFields member = .ok none ↔ member = none ∨ member = some .null := by
  cases member with
  | none => simp [saidFields]
  | some held =>
    rw [saidFields, Option.elim_some]
    constructor
    · intro nothing
      exact .inr (congrArg some (optionalFields_eq_ok_none nothing))
    · rintro (⟨⟨⟩⟩ | ⟨⟨⟩⟩)
      rfl

/-- An object inside an object type has the fields that are said first, and what is said under the
other name is read nevertheless. -/
theorem objectHas_iff
    (h : members.Perm ((Member.type.name, .string "object") :: fieldMembers properties fields)) :
    ObjectHas members F ↔
      ∃ P Q, saidFields properties = .ok P ∧ saidFields fields = .ok Q ∧ P.or Q = some F := by
  have distinct : ((((Member.type.name, Value.string "object") ::
      fieldMembers properties fields)).map Prod.fst).Nodup := by
    cases properties <;> cases fields <;> simp [fieldMembers, Member.name]
  have found (m : Member) : said? members m =
      Ordered.value? m.name ((Member.type.name, .string "object") ::
        fieldMembers properties fields) := value?_perm h distinct m.name
  have distinct' : (members.map Prod.fst).Nodup := (h.map Prod.fst).nodup_iff.mpr distinct
  -- The tag and the two members are all there is to say.
  have told (d : Description) : describe members {} = .ok d ↔
      d.tag = some "object" ∧ d.format = none ∧ d.implied = none ∧ d.items = none ∧
        saidFields properties = .ok d.properties ∧ saidFields fields = .ok d.fields := by
    rw [describe_eq_ok_iff distinct', says_iff]
    simp only [found]
    cases properties <;> cases fields <;>
      simp [fieldMembers, Member.name, saidFields, text?, eq_comm,
        Ordered.value?, Ordered.get?]
  rw [ObjectHas, ofValue_eq_ok_iff]
  constructor
  · rintro ⟨_, d, ⟨⟩, read, same⟩
    obtain ⟨-, -, -, -, P, Q⟩ := (told d).mp read
    have kind : d.kind = .object F := congrArg Descriptor.kind same
    exact ⟨d.properties, d.fields, P, Q, (kind_eq_object_iff.mp kind).2⟩
  · rintro ⟨P, Q, readP, readQ, first⟩
    let d : Description := { tag := some "object", properties := P, fields := Q }
    exact ⟨members, d, rfl, (told d).mpr ⟨rfl, rfl, rfl, rfl, readP, readQ⟩,
      descriptor_of_object rfl first⟩

/-! ### Where the two agree -/

/-- An object inside an object type has the fields of the object type, if what stands under `fields`
is accepted and `properties` is not null; null properties count as missing. -/
theorem objectHas_iff_bodyHas (name : String) {body : List (String × Value)}
    (h : members.Perm ((Member.type.name, .string "object") :: fieldMembers properties fields))
    (h' : body.Perm (fieldMembers properties fields)) :
    ObjectHas members F ↔ (∀ held, fields = some held → FieldsWellFormed held) ∧
      (properties ≠ some .null ∧ BodyHas name body F ∨
        properties = some .null ∧ BodyHas name (fieldMembers none fields) F) := by
  rw [objectHas_iff h, bodyHas_iff h', bodyHas_iff (List.Perm.refl _),
    ← exists_saidFields_eq_ok_iff]
  constructor
  · rintro ⟨P, Q, readP, readQ, first⟩
    refine ⟨⟨Q, readQ⟩, ?_⟩
    -- What `properties` says counts, and only if it says nothing what `fields` says.
    cases P with
    | some P =>
      cases first
      obtain ⟨described, rfl, read⟩ := saidFields_eq_ok_some_iff.mp readP
      exact .inl ⟨by simp, described, rfl, read⟩
    | none =>
      cases first
      obtain ⟨described, rfl, read⟩ := saidFields_eq_ok_some_iff.mp readQ
      rcases saidFields_eq_ok_none_iff.mp readP with rfl | rfl
      · exact .inl ⟨by simp, described, rfl, read⟩
      · exact .inr ⟨rfl, described, rfl, read⟩
  · rintro ⟨⟨Q, readQ⟩, ⟨other, described, held, read⟩ | ⟨rfl, described, held, read⟩⟩
    · cases properties with
      | none =>
        exact ⟨none, some F, rfl, saidFields_eq_ok_some_iff.mpr ⟨described, held, read⟩, rfl⟩
      | some value =>
        cases held
        exact ⟨some F, Q, saidFields_eq_ok_some_iff.mpr ⟨described, rfl, read⟩, readQ, rfl⟩
    · exact ⟨none, some F, rfl, saidFields_eq_ok_some_iff.mpr ⟨described, held, read⟩, rfl⟩

/-- An object type has some fields exactly if each of those that count is well formed. -/
theorem exists_bodyHas_iff (name : String)
    (h : members.Perm (fieldMembers properties fields)) :
    (∃ F, BodyHas name members F) ↔
      ∃ described, properties.or fields = some (.object described) ∧
        ∀ m ∈ described, WellFormed m.2 := by
  simp only [bodyHas_iff h, fieldsOfMembers, ← allWellFormed_iff,
    ← exists_decodeFields_eq_ok_iff _ []]
  constructor
  · rintro ⟨F, described, held, read⟩
    exact ⟨described, held, F, read⟩
  · rintro ⟨described, held, F, read⟩
    exact ⟨F, described, held, read⟩

section Alike

variable (name : String) {body : List (String × Value)}

/-- Null properties are refused in an object type, so an object inside is as good only if it is
refused as well. -/
theorem hasAlike_iff_of_null
    (h : members.Perm ((Member.type.name, .string "object") :: fieldMembers (some .null) fields))
    (h' : body.Perm (fieldMembers (some .null) fields)) :
    (∀ F, BodyHas name body F ↔ ObjectHas members F) ↔ ¬ Replaced (some .null) fields := by
  -- Null is no object, so the object type has no fields at all.
  have none_body (F : Fields) : ¬ BodyHas name body F := by
    intro has
    obtain ⟨_, held, -⟩ := (exists_bodyHas_iff name h').mp ⟨F, has⟩
    cases held
  have replaced : Replaced (some .null) fields ↔ ∃ F, ObjectHas members F := by
    simp only [objectHas_iff_bodyHas name h h', ne_eq, not_true_eq_false, false_and, true_and,
      false_or, exists_and_left, exists_bodyHas_iff name (List.Perm.refl _), Option.none_or]
    constructor
    · rintro ⟨-, described, rfl, all⟩
      refine ⟨?_, described, rfl, all⟩
      rintro _ ⟨⟩
      exact fieldsWellFormed_iff.mpr (.inr ⟨described, rfl, all⟩)
    · rintro ⟨-, described, present, all⟩
      exact ⟨rfl, described, present, all⟩
  constructor
  · intro alike gone
    obtain ⟨F, has⟩ := replaced.mp gone
    exact none_body F ((alike F).mpr has)
  · intro kept F
    exact ⟨fun has => absurd has (none_body F), fun has => absurd (replaced.mpr ⟨F, has⟩) kept⟩

/-- If the properties are not null, an object inside only needs what stands beside them to be
accepted, too. -/
theorem hasAlike_iff_of_ne_null
    (h : members.Perm ((Member.type.name, .string "object") :: fieldMembers properties fields))
    (h' : body.Perm (fieldMembers properties fields)) (other : properties ≠ some .null) :
    (∀ F, BodyHas name body F ↔ ObjectHas members F) ↔ ¬ Shadowed properties fields := by
  have law (F : Fields) : ObjectHas members F ↔
      (∀ held, fields = some held → FieldsWellFormed held) ∧ BodyHas name body F := by
    rw [objectHas_iff_bodyHas name h h']
    simp [other]
  constructor
  · rintro alike ⟨⟨described, present, all⟩, held, beside, refused⟩
    obtain ⟨F, has⟩ := (exists_bodyHas_iff name h').mpr ⟨described, by rw [present]; rfl, all⟩
    exact refused (((law F).mp ((alike F).mp has)).1 held beside)
  · intro unshadowed F
    rw [law F]
    refine ⟨fun has => ⟨fun held beside => ?_, has⟩, And.right⟩
    obtain ⟨described, counts, all⟩ := (exists_bodyHas_iff name h').mp ⟨F, has⟩
    cases properties with
    | none =>
      cases beside.symm.trans counts
      exact fieldsWellFormed_iff.mpr (.inr ⟨described, rfl, all⟩)
    | some value =>
      cases counts
      by_contra refused
      exact unshadowed ⟨⟨described, rfl, all⟩, held, beside, refused⟩

/-- The object type and the object inside it have the same fields, whichever they are, exactly if
neither `fields` is refused beside properties that are accepted nor fields stand in for properties
that are null. -/
theorem hasAlike_iff
    (h : members.Perm ((Member.type.name, .string "object") :: fieldMembers properties fields))
    (h' : body.Perm (fieldMembers properties fields)) :
    (∀ F, BodyHas name body F ↔ ObjectHas members F) ↔
      ¬ Shadowed properties fields ∧ ¬ Replaced properties fields := by
  by_cases null : properties = some .null
  · subst null
    rw [hasAlike_iff_of_null name h h']
    exact ⟨fun kept => ⟨fun ⟨⟨_, object, _⟩, _⟩ => (nomatch object), kept⟩, And.right⟩
  · rw [hasAlike_iff_of_ne_null name h h' null]
    exact ⟨fun unshadowed => ⟨unshadowed, fun gone => null gone.1⟩, And.left⟩

end Alike

/-- An object type has the fields described under `properties`, or under `fields` if there are no
properties. An object inside has the same, but `fields` must be accepted beside properties too, and
null properties count as missing. So both have the same fields exactly if neither happens. -/
theorem fields_of_body_and_object (name : String) (properties fields : Option Value)
    (members body : List (String × Value))
    (h : members.Perm ((Member.type.name, .string "object") :: fieldMembers properties fields))
    (h' : body.Perm (fieldMembers properties fields)) :
    (∀ F, BodyHas name body F ↔ ∃ described, properties.or fields = some (.object described) ∧
      decodeFields described [] = .ok F) ∧
    (∀ F, ObjectHas members F ↔ (∀ held, fields = some held → FieldsWellFormed held) ∧
      (properties ≠ some .null ∧ BodyHas name body F ∨
        properties = some .null ∧ BodyHas name (fieldMembers none fields) F)) ∧
    ((∀ F, BodyHas name body F ↔ ObjectHas members F) ↔
      ¬ Shadowed properties fields ∧ ¬ Replaced properties fields) :=
  ⟨fun _ => bodyHas_iff h', fun _ => objectHas_iff_bodyHas name h h', hasAlike_iff name h h'⟩

/-- Described fields to stand under `properties`. -/
def orderFields : Value :=
  .object
    [("id", .object [("type", .string "string"), ("isImplied", .bool true)]),
      ("lines", .object [("type", .string "array"), ("items", .object [])])]

/-- Described fields to stand beside them under `fields`. -/
def orderFieldsBeside : Value := .object [("old", .object [("type", .string "boolean")])]

/-- If both members describe fields, then the object type and the object inside it have those that
stand under `properties`. -/
theorem fields_of_body_and_object_bothDescribed :
    (∀ F, BodyHas "orders" [("fields", orderFieldsBeside), ("properties", orderFields)] F ↔
      ObjectHas [("fields", orderFieldsBeside), ("properties", orderFields),
        ("type", .string "object")] F) ∧
    BodyHas "orders" [("fields", orderFieldsBeside), ("properties", orderFields)]
      [("id", .mk (.string none) true),
        ("lines", .mk (.array (.mk (.unknown none) false)) false)] := by
  have h : [("fields", orderFieldsBeside), ("properties", orderFields),
      ("type", .string "object")].Perm
      ((Member.type.name, .string "object") ::
        fieldMembers (some orderFields) (some orderFieldsBeside)) :=
    List.reverse_perm ((Member.type.name, Value.string "object") ::
      fieldMembers (some orderFields) (some orderFieldsBeside))
  have h' : [("fields", orderFieldsBeside), ("properties", orderFields)].Perm
      (fieldMembers (some orderFields) (some orderFieldsBeside)) := List.Perm.swap _ _ _
  obtain ⟨body, -, alike⟩ := fields_of_body_and_object "orders" _ _ _ _ h h'
  have accepted : FieldsWellFormed orderFieldsBeside :=
    (exists_optionalFields_eq_ok_iff orderFieldsBeside).mp ⟨_, rfl⟩
  refine ⟨alike.mpr ⟨?_, fun gone => nomatch gone.1⟩, (body _).mpr ⟨_, rfl, rfl⟩⟩
  rintro ⟨-, _, ⟨⟩, refused⟩
  exact refused accepted

/-- A number under `fields`, beside properties: the object type does not look at it, and an object
inside is refused for it. -/
theorem not_forall_bodyHas_iff_objectHas :
    ¬ ∀ F, BodyHas "orders"
        [("properties", .object [("kept", .object [("type", .string "string")])]),
          ("fields", .number (.integer 5))] F ↔
      ObjectHas [("type", .string "object"),
        ("properties", .object [("kept", .object [("type", .string "string")])]),
        ("fields", .number (.integer 5))] F := by
  intro alike
  have kept : BodyHas "orders"
      [("properties", .object [("kept", .object [("type", .string "string")])]),
        ("fields", .number (.integer 5))] [("kept", .mk (.string none) false)] := rfl
  exact nomatch (alike _).mp kept

end ValidatorGen.Schema
