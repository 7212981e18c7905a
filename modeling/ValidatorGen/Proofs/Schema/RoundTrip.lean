import ValidatorGen.Proofs.Schema.Canonical

/-!
# Encoding and decoding

A descriptor that is encoded and decoded comes back with all its tags understood, and its fields in
the same order at every level; so exactly the canonical descriptors come back as they were. The same
holds for documents.

## Main results

* `ofValue_toValue` — what comes back of a descriptor
* `Document.ofValue_toValue` — what comes back of a document
* `roundTrip_iff_canonical` — exactly what is canonical comes back as it was, as does all that is
  decoded
-/

namespace ValidatorGen.Schema

open Json

/-! ### Descriptors -/

/-- A member under its own name is described by what it says. -/
theorem describe_member (m : Member) (value : Value) (members : List (String × Value))
    (d : Description) :
    describe ((m.name, value) :: members) d =
      describeMember m value (fun _ => Descriptor.ofValue value)
        (fun _ => optionalFields value) d >>= describe members := by
  rw [describe, m.ofName?_name]

theorem describe_type (tag : Option String) (members : List (String × Value)) {d : Description}
    (h : d.tag = none) :
    describe (textMember .type tag ++ members) d = describe members { d with tag := tag } := by
  cases tag with
  | none =>
    have same : { d with tag := none } = d := by rw [← h]
    rw [same]
    rfl
  | some tag => exact describe_member .type _ members d

theorem describe_format (format : Option String) (members : List (String × Value)) {d : Description}
    (h : d.format = none) :
    describe (textMember .format format ++ members) d =
      describe members { d with format := format } := by
  cases format with
  | none =>
    have same : { d with format := none } = d := by rw [← h]
    rw [same]
    rfl
  | some format => exact describe_member .format _ members d

theorem describe_implied (required : Bool) (members : List (String × Value)) {d : Description}
    (h : d.implied = none) :
    describe (impliedMember required ++ members) d =
      describe members { d with implied := if required then some true else none } := by
  cases required with
  | false =>
    have same : { d with implied := none } = d := by rw [← h]
    rw [if_neg (by simp), same]
    rfl
  | true => exact describe_member .isImplied _ members d

/-- The format that the description of a kind mentions. -/
def Kind.formatTag : Kind → Option String
  | .string format => format.map Format.tag
  | .number | .boolean | .untypedArray | .array _ | .openObject | .object _ | .unknown _ => none

/-- What the description of a descriptor says before the descriptors that it contains. -/
def Descriptor.heading : Descriptor → Description
  | .mk kind required =>
    { tag := kind.tag, format := kind.formatTag, implied := if required then some true else none }

/-- The members that come first say the heading, and the contents are added to it. -/
theorem describe_toValue (kind : Kind) (required : Bool) :
    describe (textMember .type kind.tag ++ kind.formatMember ++ impliedMember required ++
        kind.contents) {} =
      describe kind.contents (Descriptor.mk kind required).heading := by
  have format : kind.formatMember = textMember .format kind.formatTag := by cases kind <;> rfl
  rw [format, List.append_assoc, List.append_assoc, describe_type _ _ rfl, describe_format _ _ rfl,
    describe_implied _ _ rfl]
  rfl

theorem isNull_toValue (d : Descriptor) : isNull d.toValue = false := by
  cases d
  rfl

theorem map_fst_fieldsToMembers (fields : Fields) :
    (fieldsToMembers fields).map Prod.fst = fields.map Prod.fst := by
  induction fields with
  | nil => rfl
  | cons field fields ih => rw [fieldsToMembers, List.map_cons, List.map_cons, ih]

-- One induction on the descriptor. For a kind it is about the description and not yet about a kind,
-- since only the whole description tells what kind it is.
mutual

/-- What comes back of a descriptor: the same with all tags understood. -/
theorem ofValue_toValue : ∀ d : Descriptor, d.DistinctFields →
    Descriptor.ofValue d.toValue = .ok d.normalize
  | .mk kind required => by
    intro h
    obtain ⟨d, said, same⟩ := describe_contents kind h required
    rw [Descriptor.toValue, Descriptor.ofValue, describe_toValue, said, ← same]
    rfl

/-- What is said of a kind and the descriptors inside it describes the kind that comes back. -/
theorem describe_contents : ∀ kind : Kind, kind.DistinctFields → ∀ required : Bool,
    ∃ d, describe kind.contents (Descriptor.mk kind required).heading = .ok d ∧
      d.descriptor = (Descriptor.mk kind required).normalize
  | .string format => by
    intro _ required
    refine ⟨_, by rw [Kind.contents, describe], ?_⟩
    cases format <;> cases required <;> rfl
  | .number | .boolean | .untypedArray | .openObject | .unknown _ => by
    intro _ required
    refine ⟨_, by rw [Kind.contents, describe], ?_⟩
    cases required <;> rfl
  | .array item => by
    intro h required
    have read := ofValue_toValue item h
    refine ⟨{ (Descriptor.mk (.array item) required).heading with
      items := some item.normalize }, ?_, ?_⟩
    · rw [Kind.contents, describe_member, describeMember, if_neg (by simp [isNull_toValue]), read]
      rfl
    · cases required <;> rfl
  | .object fields => by
    intro h required
    have names : ((fieldsToMembers fields).map Prod.fst).Nodup := by
      rw [map_fst_fieldsToMembers]
      exact h.1
    -- Distinct names are needed here: a second field of one name would take the first one's place.
    have read : decodeFields (fieldsToMembers fields) [] = .ok (normalizeFields fields) :=
      (fieldsOfMembers_eq_ok_iff names).mpr (forall₂_fieldsToMembers fields h.2)
    refine ⟨{ (Descriptor.mk (.object fields) required).heading with
      properties := some (normalizeFields fields) }, ?_, ?_⟩
    · rw [Kind.contents, describe_member, describeMember, optionalFields, read]
      rfl
    · cases required <;> rfl

/-- What comes back of fields: the same with all tags understood. -/
theorem forall₂_fieldsToMembers : ∀ fields : Fields, FieldsDistinct fields →
    List.Forall₂ Describes (fieldsToMembers fields) (normalizeFields fields)
  | [] => fun _ => .nil
  | (_, field) :: fields => fun h =>
    .cons ⟨rfl, ofValue_toValue field h.1⟩ (forall₂_fieldsToMembers fields h.2)

end

/-- The canonical descriptors come back as they were. -/
theorem ofValue_toValue_eq_self_iff {d : Descriptor} (h : d.DistinctFields) :
    Descriptor.ofValue d.toValue = .ok d ↔ d.Canonical := by
  rw [ofValue_toValue d h, Except.ok.injEq, d.normalize_eq_self_iff]

/-! ### Documents -/

/-- No object in the type has two fields of one name. -/
def ObjectType.DistinctFields (t : ObjectType) : Prop :=
  (t.fields.map Prod.fst).Nodup ∧ FieldsDistinct t.fields

/-- The type with all tags understood. -/
def ObjectType.normalize (t : ObjectType) : ObjectType := ⟨t.name, normalizeFields t.fields⟩

/-- No object in the document has two fields of one name. -/
def Document.DistinctFields (d : Document) : Prop := ∀ t ∈ d.types, t.DistinctFields

/-- Nothing in the document is given by a tag that is understood. -/
def Document.Canonical (d : Document) : Prop := ∀ t ∈ d.types, FieldsCanonical t.fields

theorem map_name_map_normalize (types : List ObjectType) :
    (types.map ObjectType.normalize).map ObjectType.name = types.map ObjectType.name := by
  rw [List.map_map]
  rfl

/-- The document with all tags understood. -/
def Document.normalize (d : Document) : Document where
  types := d.types.map ObjectType.normalize
  distinct := by
    rw [map_name_map_normalize]
    exact d.distinct

theorem ObjectType.ofValue_toValue {t : ObjectType} (h : t.DistinctFields) :
    ObjectType.ofValue t.name t.toValue = .ok t.normalize := by
  have names : ((fieldsToMembers t.fields).map Prod.fst).Nodup := by
    rw [map_fst_fieldsToMembers]
    exact h.1
  have read : readFields (fieldsToMembers t.fields) [] = .ok (normalizeFields t.fields) :=
    readFields_eq_ok_iff.mpr ((fieldsOfMembers_eq_ok_iff names).mpr (forall₂_fieldsToMembers _ h.2))
  have body : fieldsOfBody t.toValue = readFields (fieldsToMembers t.fields) [] := rfl
  rw [ObjectType.ofValue, body, read]
  rfl

theorem readTypes_toValue {types : List ObjectType} (h : ∀ t ∈ types, t.DistinctFields) :
    readTypes (types.map fun t => (t.name, t.toValue)) = .ok (types.map ObjectType.normalize) := by
  induction types with
  | nil => rfl
  | cons t types ih =>
    rw [List.forall_mem_cons] at h
    rw [List.map_cons, readTypes, ObjectType.ofValue_toValue h.1, ih h.2]
    rfl

/-- What comes back of a document: the same with all tags understood. -/
theorem Document.ofValue_toValue {d : Document} (h : d.DistinctFields) :
    Document.ofValue d.toValue = .ok d.normalize := by
  rw [Document.toValue, Document.ofValue, readTypes_toValue h]
  exact congrArg Except.ok (Document.ext (Document.types_ofTypes d.normalize.distinct))

theorem ObjectType.normalize_eq_self_iff {t : ObjectType} :
    t.normalize = t ↔ FieldsCanonical t.fields := by
  rw [← normalizeFields_eq_self_iff]
  cases t
  simp [ObjectType.normalize]

theorem Document.normalize_eq_self_iff {d : Document} : d.normalize = d ↔ d.Canonical := by
  have types : d.normalize = d ↔ d.types.map ObjectType.normalize = d.types.map id := by
    rw [List.map_id]
    exact ⟨congrArg Document.types, fun same => Document.ext same⟩
  rw [types, List.map_inj_left]
  exact forall₂_congr fun _ _ => ObjectType.normalize_eq_self_iff

/-! ### Decoded documents -/

theorem ObjectType.ofValue_sound {name : String} {body : Value} {t : ObjectType}
    (h : ObjectType.ofValue name body = .ok t) : FieldsSound t.fields := by
  obtain ⟨-, read⟩ := ObjectType.ofValue_eq_ok_iff.mp h
  obtain ⟨_, described, -, -, decoded⟩ := fieldsOfBody_eq_ok_iff.mp read
  exact decodeFields_sound described _ _ fieldsSound_nil decoded

theorem readTypes_sound {members : List (String × Value)} {types : List ObjectType}
    (h : readTypes members = .ok types) : ∀ t ∈ types, FieldsSound t.fields := by
  intro t mem
  obtain ⟨m, -, decoded⟩ := exists_of_mem_readTypes h mem
  exact ObjectType.ofValue_sound decoded

/-- The fields of the types of a document that was decoded are sound. -/
theorem Document.ofValue_sound {value : Value} {d : Document} (h : Document.ofValue value = .ok d) :
    ∀ t ∈ d.types, FieldsSound t.fields := by
  obtain ⟨members, types, -, read, rfl⟩ := Document.ofValue_eq_ok_iff.mp h
  intro t mem
  exact readTypes_sound read t (Ordered.mem_of_mem_collect mem)

/-- A document that was decoded is canonical, and its fields are distinct. -/
theorem Document.canonical_of_ofValue {value : Value} {d : Document}
    (h : Document.ofValue value = .ok d) : d.Canonical ∧ d.DistinctFields := by
  have sound := Document.ofValue_sound h
  exact ⟨fun t mem => ((sound t mem).object true).canonical,
    fun t mem => ((sound t mem).object true).distinct⟩

/-- The canonical documents come back as they were. -/
theorem Document.ofValue_toValue_eq_self_iff {d : Document} (h : d.DistinctFields) :
    Document.ofValue d.toValue = .ok d ↔ d.Canonical := by
  rw [Document.ofValue_toValue h, Except.ok.injEq, d.normalize_eq_self_iff]

/-- Whatever is encoded can be decoded; exactly what is canonical comes back as it was, and all that
is decoded is canonical. -/
theorem roundTrip_iff_canonical :
    (∀ d : Descriptor, d.DistinctFields →
      (∃ d', Descriptor.ofValue d.toValue = .ok d') ∧
        (Descriptor.ofValue d.toValue = .ok d ↔ d.Canonical)) ∧
    (∀ (value : Value) (d : Descriptor), Descriptor.ofValue value = .ok d →
      d.Canonical ∧ Descriptor.ofValue d.toValue = .ok d) ∧
    (∀ d : Document, d.DistinctFields →
      (∃ d', Document.ofValue d.toValue = .ok d') ∧
        (Document.ofValue d.toValue = .ok d ↔ d.Canonical)) ∧
    (∀ (value : Value) (d : Document), Document.ofValue value = .ok d →
      d.Canonical ∧ Document.ofValue d.toValue = .ok d) := by
  refine ⟨fun d distinct => ?_, fun value d decoded => ?_, fun d distinct => ?_,
    fun value d decoded => ?_⟩
  · exact ⟨⟨d.normalize, ofValue_toValue d distinct⟩, ofValue_toValue_eq_self_iff distinct⟩
  · have sound := ofValue_sound value d decoded
    exact ⟨sound.canonical, (ofValue_toValue_eq_self_iff sound.distinct).mpr sound.canonical⟩
  · exact ⟨⟨d.normalize, Document.ofValue_toValue distinct⟩,
      Document.ofValue_toValue_eq_self_iff distinct⟩
  · obtain ⟨canonical, distinct⟩ := Document.canonical_of_ofValue decoded
    exact ⟨canonical, (Document.ofValue_toValue_eq_self_iff distinct).mpr canonical⟩

/-- A document with one type, which has a nested field and one of a kind that is not understood. -/
def places : Document :=
  .ofTypes
    [⟨"place", [("at", .mk (.object [("lat", .mk .number true), ("lon", .mk .number true)]) true),
      ("shape", .mk (.unknown (some "geo")) false)]⟩]

theorem roundTrip_iff_canonical_places :
    Descriptor.ofValue (Descriptor.mk (.string (some (.other "date-time"))) true).toValue ≠
      .ok (.mk (.string (some (.other "date-time"))) true) ∧
    Descriptor.ofValue (Descriptor.mk (.array (.mk (.unknown (some "geo")) true)) false).toValue =
      .ok (.mk (.array (.mk (.unknown (some "geo")) true)) false) ∧
    Document.ofValue places.toValue = .ok places := by
  obtain ⟨descriptor, decoded, document, -⟩ := roundTrip_iff_canonical
  refine ⟨fun same => ?_, ?_, ?_⟩
  · have date : (Descriptor.mk (.string (some (.other "date-time"))) true).DistinctFields := trivial
    exact (descriptor _ date).2.mp same rfl
  · exact (decoded (.object [("type", .string "array"),
      ("items", .object [("isImplied", .bool true), ("type", .string "geo")])]) _ rfl).2
  · refine (document places ?_).2.mpr ?_
    · intro t mem
      obtain rfl := List.mem_singleton.mp mem
      exact ⟨by decide, ⟨by decide, trivial, trivial, trivial⟩, trivial, trivial⟩
    · intro t mem
      obtain rfl := List.mem_singleton.mp mem
      refine ⟨⟨trivial, trivial, trivial⟩, ?_, trivial⟩
      intro name tag
      obtain rfl := Option.some.inj tag
      decide

end ValidatorGen.Schema
