import ValidatorGen.Proofs.Schema.Written

/-!
# Containers in descriptions

A descriptor takes a container for its description, and another one for its fields if it has
described fields. What is decoded takes no more containers than stood inside one another in the
value it was decoded from: members that are passed over, members without names and fields under
either of two names only ever take more.

## Main definitions

* `Descriptor.containers` — how many containers stand inside one another in a description

## Main results

* `Descriptor.nesting_toValue` — so many containers stand inside one another
* `containers_le_of_ofValue` — a decoded descriptor takes no more of them than the value had
* `Document.nesting_toValue_le_of_ofValue` — neither does a decoded document
-/

namespace ValidatorGen.Schema

open Json

mutual

/-- How many containers stand inside one another in the description of a field. -/
def Descriptor.containers : Descriptor → Nat
  | .mk kind _ => kind.containers

/-- How many containers stand inside one another in the description of a field of this kind. -/
def Kind.containers : Kind → Nat
  | .array item => 1 + item.containers
  | .object fields => 2 + fieldsContainers fields
  | .string _ | .number | .boolean | .untypedArray | .openObject | .unknown _ => 1

/-- How many containers stand inside one another at most in the descriptions of fields. -/
def fieldsContainers : Fields → Nat
  | [] => 0
  | (_, field) :: fields => max field.containers (fieldsContainers fields)

end

variable {fields : Fields} {n : Nat}

theorem fieldsContainers_le_iff :
    fieldsContainers fields ≤ n ↔ ∀ field ∈ fields, field.2.containers ≤ n := by
  induction fields with
  | nil => simp [fieldsContainers]
  | cons field fields ih => rw [fieldsContainers, Nat.max_le, List.forall_mem_cons, ih]

/-! ### What is encoded -/

theorem membersNesting_append (members members' : List (String × Value)) :
    membersNesting (members ++ members') =
      max (membersNesting members) (membersNesting members') := by
  induction members with
  | nil => simp [membersNesting]
  | cons m members ih => rw [List.cons_append, membersNesting, membersNesting, ih, Nat.max_assoc]

/-- Only the contents of a description hold further containers. -/
theorem nesting_toValue_eq (kind : Kind) (required : Bool) :
    (Descriptor.mk kind required).toValue.nesting = 1 + membersNesting kind.contents := by
  have heading : membersNesting (textMember .type kind.tag ++ kind.formatMember ++
      impliedMember required) ≤ 0 :=
    membersNesting_le_iff.mpr fun m mem => Nat.le_of_eq (heading_scalar kind required m mem).2
  rw [Descriptor.toValue, Value.nesting, membersNesting_append, Nat.le_zero.mp heading,
    Nat.zero_max]

mutual

/-- As many containers stand inside one another in the description of a field as were counted. -/
theorem Descriptor.nesting_toValue : ∀ d : Descriptor, d.toValue.nesting = d.containers
  | .mk kind required => by
    rw [nesting_toValue_eq, Descriptor.containers]
    exact one_add_nesting_contents kind

theorem one_add_nesting_contents : ∀ kind : Kind, 1 + membersNesting kind.contents = kind.containers
  | .array item => by
    have inside := item.nesting_toValue
    simp only [Kind.contents, membersNesting, Kind.containers]
    omega
  | .object fields => by
    have inside := nesting_fieldsToMembers fields
    simp only [Kind.contents, membersNesting, Value.nesting, Kind.containers]
    omega
  | .string _ | .number | .boolean | .untypedArray | .openObject | .unknown _ => rfl

theorem nesting_fieldsToMembers :
    ∀ fields : Fields, membersNesting (fieldsToMembers fields) = fieldsContainers fields
  | [] => rfl
  | (_, field) :: fields => by
    rw [fieldsToMembers, membersNesting, fieldsContainers, field.nesting_toValue,
      nesting_fieldsToMembers fields]

end

theorem ObjectType.nesting_toValue (t : ObjectType) :
    t.toValue.nesting = 2 + fieldsContainers t.fields := by
  have inside := nesting_fieldsToMembers t.fields
  simp only [ObjectType.toValue, Value.nesting, membersNesting]
  omega

/-! ### What is decoded -/

/-- The items and the fields in a description take no more containers than `n`, with the container
around fields counted. -/
abbrev Description.Within (d : Description) (n : Nat) : Prop :=
  d.Holds (fun item => item.containers ≤ n) fun fields => 1 + fieldsContainers fields ≤ n

theorem description_within_empty (n : Nat) : Description.Within {} n := ⟨by simp, by simp, by simp⟩

/-- The description itself is the one container more. -/
theorem Description.Within.descriptor {d : Description} (h : d.Within n) :
    d.descriptor.containers ≤ 1 + n := by
  rw [Description.descriptor, Descriptor.containers, Description.kind]
  -- Of the six kinds of tags, one brings in the items and one the fields.
  split_ifs
  · exact Nat.le_add_right 1 n
  · exact Nat.le_add_right 1 n
  · exact Nat.le_add_right 1 n
  · cases items : d.items with
    | none => exact Nat.le_add_right 1 n
    | some item => exact Nat.add_le_add_left (h.items item items) 1
  · cases held : d.properties.or d.fields with
    | none => exact Nat.le_add_right 1 n
    | some fields =>
      have inside : 1 + fieldsContainers fields ≤ n := by
        rcases Option.or_eq_some_iff.mp held with properties | ⟨-, other⟩
        · exact h.properties fields properties
        · exact h.fields fields other
      change 2 + fieldsContainers fields ≤ 1 + n
      omega
  · exact Nat.le_add_right 1 n

-- The five readers call one another, so their bounds are one induction on the value. What has been
-- read before the rest is carried along with the bound that it keeps.
mutual

/-- A decoded descriptor takes no more containers than stood inside one another in the value. -/
theorem containers_le_of_ofValue : ∀ (value : Value) (d : Descriptor),
    Descriptor.ofValue value = .ok d → d.containers ≤ value.nesting
  | .object members => by
    have each := describe_within members
    intro d ok
    rw [Descriptor.ofValue] at ok
    obtain ⟨d, read, ok⟩ := bind_eq_ok_iff.mp ok
    cases ok
    exact (each _ {} d (Nat.le_refl _) (description_within_empty _) read).descriptor
  | .array items => by
    have each := describeInOrder_within items
    intro d ok
    rw [Descriptor.ofValue] at ok
    obtain ⟨d, read, ok⟩ := bind_eq_ok_iff.mp ok
    cases ok
    exact (each _ _ _ {} d (Nat.le_refl _) (description_within_empty _) read).descriptor
  | .null | .bool _ | .number _ | .string _ => by simp [Descriptor.ofValue, mismatch]

theorem describe_within : ∀ (members : List (String × Value)) (n : Nat) (d d' : Description),
    membersNesting members ≤ n → d.Within n → describe members d = .ok d' → d'.Within n
  | [] => by
    intro n d d' _ h ok
    rw [describe] at ok
    cases ok
    exact h
  | (name, value) :: members => by
    have item := containers_le_of_ofValue value
    have fields := one_add_fieldsContainers_le value
    have rest := describe_within members
    intro n d d' within h ok
    rw [membersNesting, Nat.max_le] at within
    rw [describe] at ok
    split at ok
    · obtain ⟨d₁, read, ok⟩ := bind_eq_ok_iff.mp ok
      have boundItem (i : Descriptor) (decoded : Descriptor.ofValue value = .ok i) :
          i.containers ≤ n := Nat.le_trans (item i decoded) within.1
      have boundFields (fs : Fields) (decoded : optionalFields value = .ok (some fs)) :
          1 + fieldsContainers fs ≤ n := Nat.le_trans (fields fs decoded) within.1
      exact rest n d₁ d' within.2 (describeMember_holds boundItem boundFields h read) ok
    · exact rest n d d' within.2 h ok

theorem describeInOrder_within : ∀ (values : List Value) (n length : Nat) (members : List Member)
    (d d' : Description), itemsNesting values ≤ n → d.Within n →
      describeInOrder length members values d = .ok d' → d'.Within n
  | [] => by
    intro n length members d d' _ h ok
    rw [describeInOrder] at ok
    cases ok
    exact h
  | value :: values => by
    have item := containers_le_of_ofValue value
    have fields := one_add_fieldsContainers_le value
    have rest := describeInOrder_within values
    intro n length members d d' within h ok
    rw [itemsNesting, Nat.max_le] at within
    cases members with
    | nil => cases ok
    | cons m members =>
      rw [describeInOrder] at ok
      obtain ⟨d₁, read, ok⟩ := bind_eq_ok_iff.mp ok
      have boundItem (i : Descriptor) (decoded : Descriptor.ofValue value = .ok i) :
          i.containers ≤ n := Nat.le_trans (item i decoded) within.1
      have boundFields (fs : Fields) (decoded : optionalFields value = .ok (some fs)) :
          1 + fieldsContainers fs ≤ n := Nat.le_trans (fields fs decoded) within.1
      exact rest n length members d₁ d' within.2
        (describeMember_holds boundItem boundFields h read) ok

theorem one_add_fieldsContainers_le : ∀ (value : Value) (fields : Fields),
    optionalFields value = .ok (some fields) → 1 + fieldsContainers fields ≤ value.nesting
  | .object members => by
    have each := fieldsContainers_le_of_decodeFields members
    intro fields ok
    rw [optionalFields] at ok
    obtain ⟨fs, read, ok⟩ := bind_eq_ok_iff.mp ok
    cases ok
    exact Nat.add_le_add_left (each _ [] fields (Nat.le_refl _) (Nat.zero_le _) read) 1
  | .null | .bool _ | .number _ | .string _ | .array _ => by simp [optionalFields, mismatch]

theorem fieldsContainers_le_of_decodeFields : ∀ (members : List (String × Value)) (n : Nat)
    (known fields : Fields), membersNesting members ≤ n → fieldsContainers known ≤ n →
      decodeFields members known = .ok fields → fieldsContainers fields ≤ n
  | [] => by
    intro n known fields _ bound ok
    rw [decodeFields] at ok
    cases ok
    exact bound
  | (name, value) :: members => by
    have first := containers_le_of_ofValue value
    have rest := fieldsContainers_le_of_decodeFields members
    intro n known fields within bound ok
    rw [membersNesting, Nat.max_le] at within
    rw [decodeFields] at ok
    obtain ⟨field, decoded, ok⟩ := bind_eq_ok_iff.mp ok
    -- A field that takes the place of another one is itself within the bound.
    have put : fieldsContainers (Ordered.put Prod.fst (name, field) known) ≤ n := by
      rw [fieldsContainers_le_iff] at bound ⊢
      intro other mem
      rcases Ordered.mem_put mem with rfl | mem
      · exact Nat.le_trans (first field decoded) within.1
      · exact bound other mem
    exact rest n _ fields within.2 put ok

end

/-- An object type takes no more containers than stood inside one another in its body. -/
theorem ObjectType.nesting_toValue_le_of_ofValue {name : String} {body : Value} {t : ObjectType}
    (h : ObjectType.ofValue name body = .ok t) : t.toValue.nesting ≤ body.nesting := by
  obtain ⟨-, read⟩ := ObjectType.ofValue_eq_ok_iff.mp h
  obtain ⟨members, described, rfl, held, decoded⟩ := fieldsOfBody_eq_ok_iff.mp read
  have fields := fieldsContainers_le_of_decodeFields described _ [] t.fields (Nat.le_refl _)
    (Nat.zero_le _) decoded
  -- The fields stand in the body under one of two names.
  have inside : (Value.object described).nesting ≤ membersNesting members := by
    have each := membersNesting_le_iff.mp (Nat.le_refl (membersNesting members))
    rcases Option.or_eq_some_iff.mp held with properties | ⟨-, other⟩
    · exact each _ (Ordered.mem_of_value? properties)
    · exact each _ (Ordered.mem_of_value? other)
  rw [ObjectType.nesting_toValue]
  simp only [Value.nesting] at inside ⊢
  omega

/-- A document that is written again goes no deeper than the value it was decoded from. -/
theorem Document.nesting_toValue_le_of_ofValue {value : Value} {d : Document}
    (h : Document.ofValue value = .ok d) : d.toValue.nesting ≤ value.nesting := by
  obtain ⟨members, types, rfl, read, rfl⟩ := Document.ofValue_eq_ok_iff.mp h
  apply Nat.add_le_add_left
  apply membersNesting_le_iff.mpr
  intro m mem
  obtain ⟨t, listed, rfl⟩ := List.mem_map.mp mem
  obtain ⟨m, mem, decoded⟩ := exists_of_mem_readTypes read (Ordered.mem_of_mem_collect listed)
  have inside := membersNesting_le_iff.mp (Nat.le_refl (membersNesting members)) m mem
  exact Nat.le_trans (ObjectType.nesting_toValue_le_of_ofValue decoded) inside

end ValidatorGen.Schema
