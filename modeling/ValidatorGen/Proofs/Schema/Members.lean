import Mathlib.Data.List.Forall2
import Mathlib.Tactic.SplitIfs
import ValidatorGen.Proofs.Except
import ValidatorGen.Schema.Reading

/-!
# What the members of a description say

A description says the same whatever the order of its members. An array with the members in their
own order says what the object with these members says, and the fields of an object are described
one by one, as are the types of a document.

## Main definitions

* `namedMembers?` — the members of a description by their names
* `Says` — what members say, added to what is known

## Main results

* `ofValue_eq_ok_iff` — a descriptor is described by what the members say
* `describe_eq_ok_iff` — what distinct members say is found under their names
* `fieldsOfMembers_eq_ok_iff` — fields with distinct names are described one by one
* `readFields_eq_ok_iff` — so are the fields of an object type
* `readTypes_eq_ok_iff` — the types of a document are described one by one
-/

namespace ValidatorGen.Schema

open Json

/-! ### Members and their names -/

theorem Member.name_injective {m m' : Member} (h : m.name = m'.name) : m = m' := by
  revert h
  cases m <;> cases m' <;> decide

theorem Member.ofName?_name (m : Member) : Member.ofName? m.name = some m := by
  cases m <;> decide

theorem Member.name_of_ofName? {name : String} {m : Member} (h : Member.ofName? name = some m) :
    m.name = name := by
  simpa using List.find?_some h

theorem Member.ofName?_eq_some_iff {name : String} {m : Member} :
    Member.ofName? name = some m ↔ m.name = name := by
  constructor
  · exact Member.name_of_ofName?
  · rintro rfl
    exact m.ofName?_name

/-- The members of a description by their names. An array has the members in their own order. -/
def namedMembers? : Value → Option (List (String × Value))
  | .object members => some members
  | .array items =>
    if items.length ≤ Member.all.length then some ((Member.all.map Member.name).zip items) else none
  | _ => none

/-- Members in order say what they say under their names. -/
theorem describeInOrder_eq_describe {members : List Member} {values : List Value} (length : Nat)
    (h : values.length ≤ members.length) (d : Description) :
    describeInOrder length members values d =
      describe ((members.map Member.name).zip values) d := by
  induction members generalizing values d with
  | nil =>
    obtain rfl : values = [] := List.length_eq_zero_iff.mp (Nat.le_zero.mp h)
    rw [describeInOrder, List.map_nil, List.zip_nil_left, describe]
  | cons member members ih =>
    cases values with
    | nil => rw [describeInOrder, List.zip_nil_right, describe]
    | cons value values =>
      have shorter : values.length ≤ members.length := Nat.le_of_succ_le_succ h
      rw [describeInOrder, List.map_cons, List.zip_cons_cons, describe, member.ofName?_name]
      dsimp only
      congr 1
      funext d
      exact ih shorter d

/-- More members than there are say nothing. -/
theorem describeInOrder_ne_ok {members : List Member} {values : List Value} (length : Nat)
    (h : members.length < values.length) (d d' : Description) :
    describeInOrder length members values d ≠ .ok d' := by
  induction members generalizing values d with
  | nil =>
    -- No member is left, but a value is: this is where the length is refused.
    obtain ⟨value, values, rfl⟩ := List.exists_cons_of_length_pos h
    rw [describeInOrder]
    simp
  | cons member members ih =>
    obtain ⟨value, values, rfl⟩ :=
      List.exists_cons_of_length_pos (Nat.lt_of_le_of_lt (Nat.zero_le _) h)
    rw [describeInOrder]
    intro ok
    obtain ⟨d, -, ok⟩ := bind_eq_ok_iff.mp ok
    exact ih (Nat.lt_of_succ_lt_succ h) d ok

/-- A descriptor is described by what the members say. -/
theorem ofValue_eq_ok_iff {value : Value} {descriptor : Descriptor} :
    Descriptor.ofValue value = .ok descriptor ↔
      ∃ members d, namedMembers? value = some members ∧ describe members {} = .ok d ∧
        d.descriptor = descriptor := by
  cases value with
  | object members =>
    rw [Descriptor.ofValue, bind_eq_ok_iff]
    simp [namedMembers?, pure, Except.pure]
  | array items =>
    rw [Descriptor.ofValue, bind_eq_ok_iff]
    by_cases fits : items.length ≤ Member.all.length
    · rw [describeInOrder_eq_describe _ fits]
      simp [namedMembers?, fits, pure, Except.pure]
    · have long (d : Description) :=
        describeInOrder_ne_ok items.length (Nat.lt_of_not_le fits) {} d
      simp [namedMembers?, fits, long]
  | null | bool | number | string => simp [Descriptor.ofValue, mismatch, namedMembers?]

/-! ### What members say -/

/-- The descriptor of items that a value gives, if it gives one at all. -/
def optionalItem (value : Value) : Except Rejection (Option Descriptor) :=
  if isNull value then .ok none else some <$> Descriptor.ofValue value

/-- The value of the first member of the given kind. -/
def said? (members : List (String × Value)) (m : Member) : Option Value :=
  Ordered.value? m.name members

/-- What members say, of which one value at most is found for each, added to what is known. -/
@[mk_iff]
structure Says (found : Member → Option Value) (known d : Description) : Prop where
  /-- What the tag says. A value that is not a text says that there is none. -/
  tag : (found .type).elim known.tag text? = d.tag
  /-- What the format says. -/
  format : (found .format).elim (.ok known.format) optionalText = .ok d.format
  /-- What is said about whether the field is always there. -/
  implied : (found .isImplied).elim (.ok known.implied) optionalFlag = .ok d.implied
  /-- What the items say. -/
  items : (found .items).elim (.ok known.items) optionalItem = .ok d.items
  /-- What the properties say. -/
  properties : (found .properties).elim (.ok known.properties) optionalFields = .ok d.properties
  /-- What the fields say. -/
  fields : (found .fields).elim (.ok known.fields) optionalFields = .ok d.fields

theorem says_nothing_iff {found : Member → Option Value} (h : ∀ m, found m = none)
    {known d : Description} : Says found known d ↔ known = d := by
  cases known
  cases d
  simp [says_iff, h]

/-- A member for which nothing was found comes first. -/
theorem says_update_iff {found : Member → Option Value} {m : Member} (h : found m = none)
    {value : Value} {known d : Description} :
    Says (Function.update found m (some value)) known d ↔
      ∃ d', describeMember m value (fun _ => Descriptor.ofValue value)
        (fun _ => optionalFields value) known = .ok d' ∧ Says found d' d := by
  cases m with
  | type => simp [says_iff, describeMember, h, Function.update]
  | format =>
    cases read : optionalText value <;>
      simp [says_iff, describeMember, h, Function.update, read]
  | isImplied =>
    cases read : optionalFlag value <;>
      simp [says_iff, describeMember, h, Function.update, read]
  | items =>
    cases null : isNull value <;> cases read : Descriptor.ofValue value <;>
      simp [says_iff, describeMember, h, Function.update, optionalItem, null, read]
  | properties =>
    cases read : optionalFields value <;>
      simp [says_iff, describeMember, h, Function.update, read]
  | fields =>
    cases read : optionalFields value <;>
      simp [says_iff, describeMember, h, Function.update, read]

theorem said?_cons_of_ofName?_eq_some {name : String} {m : Member}
    (known : Member.ofName? name = some m) (value : Value) (members : List (String × Value)) :
    said? ((name, value) :: members) = Function.update (said? members) m (some value) := by
  obtain rfl := Member.name_of_ofName? known
  funext m'
  rw [said?, Ordered.value?_cons, Function.update_apply]
  by_cases same : m' = m
  · rw [if_pos (congrArg Member.name same).symm, if_pos same]
  · rw [if_neg fun names => same (Member.name_injective names).symm, if_neg same, said?]

theorem said?_cons_of_ofName?_eq_none {name : String} (unknown : Member.ofName? name = none)
    (value : Value) (members : List (String × Value)) :
    said? ((name, value) :: members) = said? members := by
  funext m
  rw [said?, Ordered.value?_cons, if_neg, said?]
  rintro rfl
  rw [m.ofName?_name] at unknown
  cases unknown

/-- What distinct members say is found under their names. -/
theorem describe_eq_ok_iff {members : List (String × Value)} (h : (members.map Prod.fst).Nodup)
    {known d : Description} :
    describe members known = .ok d ↔ Says (said? members) known d := by
  induction members generalizing known with
  | nil =>
    have nothing (m : Member) : said? [] m = none := rfl
    rw [describe, says_nothing_iff nothing, Except.ok.injEq]
  | cons member members ih =>
    obtain ⟨name, value⟩ := member
    rw [List.map_cons, List.nodup_cons] at h
    rw [describe]
    cases named : Member.ofName? name with
    | none =>
      -- A name that is no member's is passed over, and nothing is looked for under it.
      rw [said?_cons_of_ofName?_eq_none named]
      exact ih h.2
    | some m =>
      -- The names are distinct, so what the first member says is not said again later.
      have absent : said? members m = none :=
        Ordered.value?_eq_none_of_not_mem (Member.name_of_ofName? named ▸ h.1)
      rw [said?_cons_of_ofName?_eq_some named, says_update_iff absent, bind_eq_ok_iff]
      simp only [ih h.2]

/-! ### What is described by what is said -/

theorem kind_eq_array_iff {d : Description} {item : Descriptor} :
    d.kind = .array item ↔ d.tag = some "array" ∧ d.items = some item := by
  rw [Description.kind]
  split_ifs with string number boolean array object
  · simp [string]
  · simp [number]
  · simp [boolean]
  · cases d.items <;> simp [array]
  · cases d.properties.or d.fields <;> simp [object]
  · simp [array]

theorem kind_eq_object_iff {d : Description} {fields : Fields} :
    d.kind = .object fields ↔ d.tag = some "object" ∧ d.properties.or d.fields = some fields := by
  rw [Description.kind]
  split_ifs with string number boolean array object
  · simp [string]
  · simp [number]
  · simp [boolean]
  · cases d.items <;> simp [array]
  · cases d.properties.or d.fields <;> simp [object]
  · simp [object]

theorem descriptor_of_array {d : Description} {item : Descriptor} (tag : d.tag = some "array")
    (items : d.items = some item) : d.descriptor = .mk (.array item) (d.implied = some true) := by
  rw [Description.descriptor, kind_eq_array_iff.mpr ⟨tag, items⟩]

theorem descriptor_of_object {d : Description} {fields : Fields} (tag : d.tag = some "object")
    (fields' : d.properties.or d.fields = some fields) :
    d.descriptor = .mk (.object fields) (d.implied = some true) := by
  rw [Description.descriptor, kind_eq_object_iff.mpr ⟨tag, fields'⟩]

/-- What is said at all is said by a value that is there. -/
theorem exists_of_elim_eq_ok_some {α : Type} {found : Option Value}
    {read : Value → Except Rejection (Option α)} {a : α}
    (h : found.elim (.ok none) read = .ok (some a)) :
    ∃ held, found = some held ∧ read held = .ok (some a) := by
  cases found with
  | none => cases h
  | some held => exact ⟨held, rfl, h⟩

theorem optionalItem_eq_ok_iff {value : Value} (h : isNull value = false)
    {items : Option Descriptor} :
    optionalItem value = .ok items ↔
      ∃ item, Descriptor.ofValue value = .ok item ∧ some item = items := by
  rw [optionalItem, if_neg (by simp [h])]
  cases Descriptor.ofValue value <;> simp

theorem optionalItem_eq_ok_some_iff {value : Value} {item : Descriptor} :
    optionalItem value = .ok (some item) ↔
      isNull value = false ∧ Descriptor.ofValue value = .ok item := by
  rw [optionalItem]
  cases isNull value <;> cases Descriptor.ofValue value <;> simp

theorem optionalFields_object (members : List (String × Value)) :
    optionalFields (.object members) =
      fieldsOfMembers members >>= fun fields => .ok (some fields) := by
  rw [optionalFields]
  rfl

theorem optionalFields_eq_ok_some_iff {value : Value} {fields : Fields} :
    optionalFields value = .ok (some fields) ↔
      ∃ members, value = .object members ∧ fieldsOfMembers members = .ok fields := by
  cases value with
  | object members =>
    rw [optionalFields_object, bind_eq_ok_iff]
    simp
  | null | bool | number | string | array => simp [optionalFields, mismatch]

theorem optionalFields_eq_ok_none {value : Value} (h : optionalFields value = .ok none) :
    value = .null := by
  cases value with
  | null => rfl
  | object members =>
    rw [optionalFields_object] at h
    obtain ⟨_, -, ⟨⟩⟩ := bind_eq_ok_iff.mp h
  | bool | number | string | array => simp [optionalFields, mismatch] at h

/-! ### Fields -/

/-- The member of an object describes the field. -/
def Describes (m : String × Value) (field : String × Descriptor) : Prop :=
  field.1 = m.1 ∧ Descriptor.ofValue m.2 = .ok field.2

theorem Describes.unique {member : String × Value} {a b : String × Descriptor}
    (h : Describes member a) (h' : Describes member b) : a = b :=
  Prod.ext (h.1.trans h'.1.symm) (Except.ok.inj (h.2.symm.trans h'.2))

/-- Fields whose names are all new are added to the known ones one after another. -/
theorem decodeFields_append_eq_ok_iff {members : List (String × Value)} (known : Fields)
    {fields : Fields} (h : (known.map Prod.fst ++ members.map Prod.fst).Nodup) :
    decodeFields members known = .ok fields ↔
      ∃ more, fields = known ++ more ∧ List.Forall₂ Describes members more := by
  induction members generalizing known with
  | nil => simp [decodeFields, eq_comm]
  | cons m members ih =>
    obtain ⟨name, value⟩ := m
    have fresh : name ∉ known.map Prod.fst := by
      intro mem
      exact (List.nodup_append.mp h).2.2 name mem name (by simp) rfl
    -- The invariant for the rest: the field read here is now one of the known ones.
    have distinct (field : Descriptor) :
        ((known ++ [(name, field)]).map Prod.fst ++ members.map Prod.fst).Nodup := by
      simpa using h
    rw [decodeFields, bind_eq_ok_iff]
    constructor
    · rintro ⟨field, decoded, rest⟩
      rw [Ordered.put_of_not_mem fresh] at rest
      obtain ⟨more, rfl, described⟩ := (ih _ (distinct field)).mp rest
      exact ⟨(name, field) :: more, by simp, .cons ⟨rfl, decoded⟩ described⟩
    · rintro ⟨more, rfl, described⟩
      obtain ⟨⟨_, field⟩, more, ⟨rfl, decoded⟩, rest, rfl⟩ :=
        List.forall₂_cons_left_iff.mp described
      refine ⟨field, decoded, ?_⟩
      rw [Ordered.put_of_not_mem fresh]
      exact (ih _ (distinct field)).mpr ⟨more, by simp, rest⟩

/-- Fields with distinct names are described one by one. -/
theorem fieldsOfMembers_eq_ok_iff {members : List (String × Value)} {fields : Fields}
    (h : (members.map Prod.fst).Nodup) :
    fieldsOfMembers members = .ok fields ↔ List.Forall₂ Describes members fields := by
  rw [fieldsOfMembers, decodeFields_append_eq_ok_iff [] h]
  simp

/-- The fields of an object type are described like those of an object. -/
theorem readFields_eq_ok_iff {members : List (String × Value)} {known fields : Fields} :
    readFields members known = .ok fields ↔ decodeFields members known = .ok fields := by
  induction members generalizing known with
  | nil => simp [readFields, decodeFields]
  | cons m members ih =>
    obtain ⟨name, value⟩ := m
    rw [readFields, decodeFields, bind_eq_ok_iff]
    cases Descriptor.ofValue value with
    | error rejection => simp
    | ok field => simp [ih]

/-! ### Object types and documents -/

/-- The value that holds the fields of an object type with the given members, if there is one. -/
def bodyFields? (members : List (String × Value)) : Option Value :=
  (Ordered.value? "properties" members).or (Ordered.value? "fields" members)

theorem fieldsOfBody_eq_ok_iff {body : Value} {fields : Fields} :
    fieldsOfBody body = .ok fields ↔
      ∃ members described, body = .object members ∧ bodyFields? members = some (.object described) ∧
        fieldsOfMembers described = .ok fields := by
  simp only [fieldsOfMembers]
  cases body with
  | object members =>
    have same : (member? "properties" members).or (member? "fields" members) =
        bodyFields? members := rfl
    rw [fieldsOfBody, same]
    cases held : bodyFields? members with
    | none => simp [held]
    | some value =>
      cases value with
      | object described => simp [held, readFields_eq_ok_iff]
      | null | bool | number | string | array => simp [held]
  | null | bool | number | string | array => simp [fieldsOfBody]

theorem ObjectType.ofValue_eq_ok_iff {name : String} {body : Value} {t : ObjectType} :
    ObjectType.ofValue name body = .ok t ↔ t.name = name ∧ fieldsOfBody body = .ok t.fields := by
  rw [ObjectType.ofValue]
  cases fieldsOfBody body with
  | error cause => simp
  | ok fields =>
    cases t
    simp [eq_comm]

/-- The types of a document are described one by one. -/
theorem readTypes_eq_ok_iff {members : List (String × Value)} {types : List ObjectType} :
    readTypes members = .ok types ↔
      List.Forall₂ (fun m t => ObjectType.ofValue m.1 m.2 = .ok t) members types := by
  induction members generalizing types with
  | nil => simp [readTypes, eq_comm]
  | cons m members ih =>
    obtain ⟨name, body⟩ := m
    rw [readTypes, bind_eq_ok_iff, List.forall₂_cons_left_iff]
    constructor
    · rintro ⟨t, first, ok⟩
      obtain ⟨rest, read, same⟩ := bind_eq_ok_iff.mp ok
      cases same
      exact ⟨t, rest, first, ih.mp read, rfl⟩
    · rintro ⟨t, rest, first, read, rfl⟩
      exact ⟨t, first, bind_eq_ok_iff.mpr ⟨rest, ih.mpr read, rfl⟩⟩

/-- Each type that is read is described by a member. -/
theorem exists_of_mem_readTypes {members : List (String × Value)} {types : List ObjectType}
    (h : readTypes members = .ok types) {t : ObjectType} (mem : t ∈ types) :
    ∃ m ∈ members, ObjectType.ofValue m.1 m.2 = .ok t := by
  have each := readTypes_eq_ok_iff.mp h
  clear h
  induction each with
  | nil => cases mem
  | cons first _ ih =>
    rcases List.mem_cons.mp mem with rfl | mem
    · exact ⟨_, List.mem_cons_self, first⟩
    · obtain ⟨m, mem, decoded⟩ := ih mem
      exact ⟨m, List.mem_cons_of_mem _ mem, decoded⟩

theorem Document.ext {d d' : Document} (h : d.types = d'.types) : d = d' := by
  cases d
  cases d'
  cases h
  rfl

theorem Document.types_ofTypes {types : List ObjectType} (h : (types.map ObjectType.name).Nodup) :
    (Document.ofTypes types).types = types :=
  Ordered.collect_of_nodup h

theorem Document.ofValue_eq_ok_iff {value : Value} {d : Document} :
    Document.ofValue value = .ok d ↔
      ∃ members types, value = .object members ∧ readTypes members = .ok types ∧
        .ofTypes types = d := by
  cases value with
  | object members =>
    rw [Document.ofValue, bind_eq_ok_iff]
    simp [pure, Except.pure]
  | null | bool | number | string | array => simp [Document.ofValue]

end ValidatorGen.Schema
