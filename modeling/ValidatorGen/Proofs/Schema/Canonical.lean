import ValidatorGen.Proofs.Schema.Members

/-!
# Canonical descriptors

Some descriptors can be built but are never decoded: a format that is given by its tag although it
is the one of dates, and a kind that is not understood although its tag is one of the five. A
descriptor is canonical if it has neither, at any level. Every descriptor that is decoded is
canonical, and no object in it has two fields of one name.

## Main definitions

* `Descriptor.Canonical` — nothing is given by a tag that is understood
* `Descriptor.normalize` — the descriptor with all tags understood
* `Descriptor.Sound` — what is true of decoded descriptors

## Main results

* `Descriptor.normalize_eq_self_iff` — the descriptors that stay the same are the canonical ones
* `ofValue_sound` — decoded descriptors are canonical, and their fields distinct
-/

namespace ValidatorGen.Schema

open Json

/-- The tags of the kinds that are understood. -/
def recognizedTags : List String := ["string", "number", "boolean", "array", "object"]

mutual

/-- Nothing in the descriptor is given by a tag that is understood. -/
def Descriptor.Canonical : Descriptor → Prop
  | .mk kind _ => kind.Canonical

/-- Nothing in the kind is given by a tag that is understood. -/
def Kind.Canonical : Kind → Prop
  | .string format => format ≠ some (.other "date-time")
  | .unknown tag => ∀ name, tag = some name → name ∉ recognizedTags
  | .array item => item.Canonical
  | .object fields => FieldsCanonical fields
  | .number | .boolean | .untypedArray | .openObject => True

/-- Nothing in the fields is given by a tag that is understood. -/
def FieldsCanonical : Fields → Prop
  | [] => True
  | (_, field) :: fields => field.Canonical ∧ FieldsCanonical fields

end

mutual

/-- The descriptor with all tags understood. -/
def Descriptor.normalize : Descriptor → Descriptor
  | .mk kind required => .mk kind.normalize required

/-- The kind with all tags understood. -/
def Kind.normalize : Kind → Kind
  | .string format => .string (format.map fun f => .ofTag f.tag)
  | .unknown tag => Description.kind { tag := tag }
  | .array item => .array item.normalize
  | .object fields => .object (normalizeFields fields)
  | .number => .number
  | .boolean => .boolean
  | .untypedArray => .untypedArray
  | .openObject => .openObject

/-- The fields, in the same order and under the same names, with all tags understood. -/
def normalizeFields : Fields → Fields
  | [] => []
  | (name, field) :: fields => (name, field.normalize) :: normalizeFields fields

end

theorem Format.ofTag_tag_eq_self_iff {f : Format} :
    Format.ofTag f.tag = f ↔ f ≠ .other "date-time" := by
  cases f with
  | dateTime => simp [Format.tag, Format.ofTag]
  | other tag =>
    by_cases date : tag = "date-time" <;> simp [Format.tag, Format.ofTag, date]

theorem Format.ofTag_ne_other_dateTime (tag : String) : Format.ofTag tag ≠ .other "date-time" := by
  by_cases date : tag = "date-time" <;> simp [Format.ofTag, date]

/-- A tag names something that is not understood unless it is one of the five. -/
theorem kind_eq_unknown_iff {d : Description} :
    d.kind = .unknown d.tag ↔ ∀ name, d.tag = some name → name ∉ recognizedTags := by
  constructor
  · intro unknown name tag mem
    rw [Description.kind, tag] at unknown
    simp only [recognizedTags, List.mem_cons, List.not_mem_nil, or_false] at mem
    -- Arrays and objects have two kinds each, and neither of the two is `unknown`.
    rcases mem with rfl | rfl | rfl | rfl | rfl
    · simp at unknown
    · simp at unknown
    · simp at unknown
    · cases items : d.items <;> simp [items] at unknown
    · cases fields : d.properties.or d.fields <;> simp [fields] at unknown
  · intro other
    have tag (name : String) (mem : name ∈ recognizedTags) : d.tag ≠ some name := by
      intro same
      exact other name same mem
    rw [Description.kind, if_neg (tag "string" (by decide)), if_neg (tag "number" (by decide)),
      if_neg (tag "boolean" (by decide)), if_neg (tag "array" (by decide)),
      if_neg (tag "object" (by decide))]

mutual

/-- The descriptors that stay the same once all tags are understood are the canonical ones. -/
theorem Descriptor.normalize_eq_self_iff : ∀ d : Descriptor, d.normalize = d ↔ d.Canonical
  | .mk kind required => by
    rw [Descriptor.normalize, Descriptor.Canonical, ← kind.normalize_eq_self_iff]
    simp

/-- The kinds that stay the same once all tags are understood are the canonical ones. -/
theorem Kind.normalize_eq_self_iff : ∀ kind : Kind, kind.normalize = kind ↔ kind.Canonical
  | .string format => by
    rw [Kind.normalize, Kind.Canonical]
    cases format with
    | none => simp
    | some f => simp [Format.ofTag_tag_eq_self_iff]
  | .unknown tag => kind_eq_unknown_iff (d := { tag := tag })
  | .array item => by
    rw [Kind.normalize, Kind.Canonical, ← item.normalize_eq_self_iff]
    simp
  | .object fields => by
    rw [Kind.normalize, Kind.Canonical, ← normalizeFields_eq_self_iff fields]
    simp
  | .number | .boolean | .untypedArray | .openObject => by simp [Kind.normalize, Kind.Canonical]

/-- The fields that stay the same once all tags are understood are the canonical ones. -/
theorem normalizeFields_eq_self_iff :
    ∀ fields : Fields, normalizeFields fields = fields ↔ FieldsCanonical fields
  | [] => by simp [normalizeFields, FieldsCanonical]
  | (name, field) :: fields => by
    rw [normalizeFields, FieldsCanonical, ← field.normalize_eq_self_iff,
      ← normalizeFields_eq_self_iff fields]
    simp

end

/-! ### Decoded descriptors -/

/-- What is true of every descriptor that is decoded. -/
structure Descriptor.Sound (d : Descriptor) : Prop where
  /-- Nothing is given by a tag that is understood. -/
  canonical : d.Canonical
  /-- No object has two fields of one name. -/
  distinct : d.DistinctFields

/-- What is true of the fields of every object that is decoded. -/
structure FieldsSound (fields : Fields) : Prop where
  /-- No two fields have one name. -/
  nodup : (fields.map Prod.fst).Nodup
  /-- Each field is sound. -/
  each : ∀ field ∈ fields, field.2.Sound

/-- What is true of every description that is read. -/
structure Description.Sound (d : Description) : Prop where
  /-- The items are sound. -/
  items : ∀ item, d.items = some item → item.Sound
  /-- The properties are sound. -/
  properties : ∀ fields, d.properties = some fields → FieldsSound fields
  /-- The fields are sound. -/
  fields : ∀ fields, d.fields = some fields → FieldsSound fields

theorem fieldsCanonical_iff {fields : Fields} :
    FieldsCanonical fields ↔ ∀ field ∈ fields, field.2.Canonical := by
  induction fields with
  | nil => simp [FieldsCanonical]
  | cons field fields ih => rw [FieldsCanonical, List.forall_mem_cons, ih]

theorem fieldsDistinct_iff {fields : Fields} :
    FieldsDistinct fields ↔ ∀ field ∈ fields, field.2.DistinctFields := by
  induction fields with
  | nil => simp [FieldsDistinct]
  | cons field fields ih => rw [FieldsDistinct, List.forall_mem_cons, ih]

theorem FieldsSound.object {fields : Fields} (h : FieldsSound fields) (required : Bool) :
    (Descriptor.mk (.object fields) required).Sound where
  canonical := fieldsCanonical_iff.mpr fun field mem => (h.each field mem).canonical
  distinct := ⟨h.nodup, fieldsDistinct_iff.mpr fun field mem => (h.each field mem).distinct⟩

theorem fieldsSound_nil : FieldsSound [] := ⟨by simp, by simp⟩

/-- Putting a sound field in keeps fields sound. -/
theorem FieldsSound.put {fields : Fields} (h : FieldsSound fields) {field : Descriptor}
    (sound : field.Sound) (name : String) :
    FieldsSound (Ordered.put Prod.fst (name, field) fields) where
  nodup := Ordered.nodup_put _ h.nodup
  each := by
    intro other mem
    rcases Ordered.mem_put mem with rfl | mem
    · exact sound
    · exact h.each other mem

theorem description_sound_empty : Description.Sound {} := ⟨by simp, by simp, by simp⟩

/-- A sound description describes a sound descriptor. -/
theorem Description.Sound.descriptor {d : Description} (h : d.Sound) : d.descriptor.Sound := by
  rw [Description.descriptor]
  by_cases recognized : ∀ name, d.tag = some name → name ∉ recognizedTags
  · rw [kind_eq_unknown_iff.mpr recognized]
    exact ⟨recognized, trivial⟩
  -- Of the five tags, the last two take over a descriptor or fields that were read before.
  · push Not at recognized
    obtain ⟨name, tag, mem⟩ := recognized
    rw [Description.kind, tag]
    simp only [recognizedTags, List.mem_cons, List.not_mem_nil, or_false] at mem
    rcases mem with rfl | rfl | rfl | rfl | rfl
    · -- A format comes from `Format.ofTag`, which never gives the one of dates by its tag.
      refine ⟨?_, trivial⟩
      change d.format.map Format.ofTag ≠ some (.other "date-time")
      cases d.format with
      | none => simp
      | some tag => simpa using Format.ofTag_ne_other_dateTime tag
    · exact ⟨trivial, trivial⟩
    · exact ⟨trivial, trivial⟩
    · cases items : d.items with
      | none => exact ⟨trivial, trivial⟩
      | some item => exact ⟨(h.items item items).canonical, (h.items item items).distinct⟩
    · cases fields : d.properties.or d.fields with
      | none => exact ⟨trivial, trivial⟩
      | some fields' =>
        refine FieldsSound.object ?_ _
        rcases Option.or_eq_some_iff.mp fields with properties | ⟨-, fields⟩
        · exact h.properties fields' properties
        · exact h.fields fields' fields

/-- The items in a description have one property, and its fields another one. -/
structure Description.Holds (P : Descriptor → Prop) (Q : Fields → Prop) (d : Description) :
    Prop where
  /-- The items have the first one. -/
  items : ∀ item, d.items = some item → P item
  /-- The properties have the second one. -/
  properties : ∀ fields, d.properties = some fields → Q fields
  /-- The fields have the second one. -/
  fields : ∀ fields, d.fields = some fields → Q fields

/-- What one member adds to a description has the properties that the descriptor or the fields in
it have. -/
theorem describeMember_holds {P : Descriptor → Prop} {Q : Fields → Prop} {m : Member}
    {value : Value} {item : Unit → Except Rejection Descriptor}
    {fields : Unit → Except Rejection (Option Fields)} (holdsItem : ∀ i, item () = .ok i → P i)
    (holdsFields : ∀ fs, fields () = .ok (some fs) → Q fs) {d d' : Description} (h : d.Holds P Q)
    (ok : describeMember m value item fields d = .ok d') : d'.Holds P Q := by
  cases m with
  | type =>
    cases ok
    exact ⟨h.items, h.properties, h.fields⟩
  | format | isImplied =>
    obtain ⟨_, -, ok⟩ := bind_eq_ok_iff.mp ok
    cases ok
    exact ⟨h.items, h.properties, h.fields⟩
  | items =>
    rw [describeMember] at ok
    split at ok
    · cases ok
      exact ⟨by simp, h.properties, h.fields⟩
    · obtain ⟨i, read, ok⟩ := bind_eq_ok_iff.mp ok
      cases ok
      have holds (i' : Descriptor) (same : some i = some i') : P i' :=
        Option.some.inj same ▸ holdsItem i read
      exact ⟨holds, h.properties, h.fields⟩
  | properties =>
    obtain ⟨fs, read, ok⟩ := bind_eq_ok_iff.mp ok
    cases ok
    have holds (fs' : Fields) (same : fs = some fs') : Q fs' :=
      holdsFields fs' (read.trans (congrArg Except.ok same))
    exact ⟨h.items, holds, h.fields⟩
  | fields =>
    obtain ⟨fs, read, ok⟩ := bind_eq_ok_iff.mp ok
    cases ok
    have holds (fs' : Fields) (same : fs = some fs') : Q fs' :=
      holdsFields fs' (read.trans (congrArg Except.ok same))
    exact ⟨h.items, h.properties, holds⟩

/-- What one member says is sound if the descriptors inside it are. -/
theorem describeMember_sound {m : Member} {value : Value}
    {item : Unit → Except Rejection Descriptor} {fields : Unit → Except Rejection (Option Fields)}
    (soundItem : ∀ i, item () = .ok i → i.Sound)
    (soundFields : ∀ fs, fields () = .ok (some fs) → FieldsSound fs) {d d' : Description}
    (h : d.Sound) (ok : describeMember m value item fields d = .ok d') : d'.Sound := by
  have holds : d.Holds Descriptor.Sound FieldsSound := ⟨h.items, h.properties, h.fields⟩
  have holds' := describeMember_holds soundItem soundFields holds ok
  exact ⟨holds'.items, holds'.properties, holds'.fields⟩

-- The five readers call one another, so their soundness is one induction on the value. What is read
-- before the rest is carried along: `describe` and `describeInOrder` keep a description sound, and
-- `decodeFields` keeps the known fields sound.
mutual

/-- Descriptors that are decoded are sound. -/
theorem ofValue_sound : ∀ (value : Value) (d : Descriptor),
    Descriptor.ofValue value = .ok d → d.Sound
  | .object members => by
    have each := describe_sound members
    intro d ok
    rw [Descriptor.ofValue] at ok
    obtain ⟨d, read, ok⟩ := bind_eq_ok_iff.mp ok
    cases ok
    exact (each {} d description_sound_empty read).descriptor
  | .array items => by
    have each := describeInOrder_sound items
    intro d ok
    rw [Descriptor.ofValue] at ok
    obtain ⟨d, read, ok⟩ := bind_eq_ok_iff.mp ok
    cases ok
    exact (each _ _ {} d description_sound_empty read).descriptor
  | .null | .bool _ | .number _ | .string _ => by simp [Descriptor.ofValue, mismatch]

/-- What the members of an object say is sound. -/
theorem describe_sound : ∀ (members : List (String × Value)) (d d' : Description),
    d.Sound → describe members d = .ok d' → d'.Sound
  | [] => by
    intro d d' h ok
    rw [describe] at ok
    cases ok
    exact h
  | (name, value) :: members => by
    have item := ofValue_sound value
    have fields := optionalFields_sound value
    have rest := describe_sound members
    intro d d' h ok
    rw [describe] at ok
    split at ok
    · obtain ⟨d₁, read, ok⟩ := bind_eq_ok_iff.mp ok
      exact rest _ _ (describeMember_sound item fields h read) ok
    · exact rest _ _ h ok

/-- What items without names say is sound. -/
theorem describeInOrder_sound : ∀ (values : List Value) (length : Nat) (members : List Member)
    (d d' : Description), d.Sound → describeInOrder length members values d = .ok d' → d'.Sound
  | [] => by
    intro length members d d' h ok
    rw [describeInOrder] at ok
    cases ok
    exact h
  | value :: values => by
    have item := ofValue_sound value
    have fields := optionalFields_sound value
    have rest := describeInOrder_sound values
    intro length members d d' h ok
    cases members with
    | nil => cases ok
    | cons m members =>
      rw [describeInOrder] at ok
      obtain ⟨d₁, read, ok⟩ := bind_eq_ok_iff.mp ok
      exact rest _ _ _ _ (describeMember_sound item fields h read) ok

/-- Fields that a value describes are sound. -/
theorem optionalFields_sound : ∀ (value : Value) (fields : Fields),
    optionalFields value = .ok (some fields) → FieldsSound fields
  | .object members => by
    have each := decodeFields_sound members
    intro fields ok
    rw [optionalFields] at ok
    obtain ⟨fields', read, ok⟩ := bind_eq_ok_iff.mp ok
    cases ok
    exact each _ _ fieldsSound_nil read
  | .null | .bool _ | .number _ | .string _ | .array _ => by simp [optionalFields, mismatch]

/-- Fields that the members of an object describe are sound. -/
theorem decodeFields_sound : ∀ (members : List (String × Value)) (known fields : Fields),
    FieldsSound known → decodeFields members known = .ok fields → FieldsSound fields
  | [] => by
    intro known fields h ok
    rw [decodeFields] at ok
    cases ok
    exact h
  | (name, value) :: members => by
    have first := ofValue_sound value
    have rest := decodeFields_sound members
    intro known fields h ok
    rw [decodeFields] at ok
    obtain ⟨field, read, ok⟩ := bind_eq_ok_iff.mp ok
    exact rest _ _ (h.put (first field read) name) ok

end

end ValidatorGen.Schema
