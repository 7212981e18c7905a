import ValidatorGen.Proofs.Schema.Members

/-!
# Values that describe fields

A value describes a field iff each of its known members has its form, whatever the tag says: a
format that is a text, a truth value under `isImplied`, items that describe a field, and properties
and fields that are objects of values that describe fields. A member that is null is like none.

## Main definitions

* `WellFormed` — the value has the form of a description at every level

## Main results

* `exists_ofValue_eq_ok_iff` — exactly the well-formed values are decoded
* `membersWellFormed_iff` — when an object is well formed
-/

namespace ValidatorGen.Schema

open Json

/-- The member may have the value, if it is known whether the value describes a field and whether it
describes fields. -/
def Member.Admits (m : Member) (value : Value) (item fields : Prop) : Prop :=
  match m with
  | .type => True
  | .format => value = .null ∨ ∃ text, value = .string text
  | .isImplied => value = .null ∨ ∃ flag, value = .bool flag
  | .items => value = .null ∨ item
  | .properties | .fields => fields

mutual

/-- The value has the form of a description of a field. -/
def WellFormed : Value → Prop
  | .object members => MembersWellFormed members
  | .array items => ItemsWellFormed Member.all items
  | .null | .bool _ | .number _ | .string _ => False

/-- Each known member of an object has its form. -/
def MembersWellFormed : List (String × Value) → Prop
  | [] => True
  | (name, value) :: members =>
    (∀ m, Member.ofName? name = some m →
      m.Admits value (WellFormed value) (FieldsWellFormed value)) ∧ MembersWellFormed members

/-- There is a member for each item, and it may have the item as its value. -/
def ItemsWellFormed : List Member → List Value → Prop
  | _, [] => True
  | [], _ :: _ => False
  | m :: members, value :: values =>
    m.Admits value (WellFormed value) (FieldsWellFormed value) ∧ ItemsWellFormed members values

/-- The value has the form of fields, or stands for nothing. -/
def FieldsWellFormed : Value → Prop
  | .null => True
  | .object members => AllWellFormed members
  | .bool _ | .number _ | .string _ | .array _ => False

/-- Each member of an object has the form of a description. -/
def AllWellFormed : List (String × Value) → Prop
  | [] => True
  | (_, value) :: members => WellFormed value ∧ AllWellFormed members

end

theorem exists_bind_eq_ok_iff {ε α β : Type} {x : Except ε α} {f : α → Except ε β} :
    (∃ b, x >>= f = .ok b) ↔ ∃ a, x = .ok a ∧ ∃ b, f a = .ok b := by
  simp only [bind_eq_ok_iff]
  constructor
  · rintro ⟨b, a, h, h'⟩
    exact ⟨a, h, b, h'⟩
  · rintro ⟨a, h, b, h'⟩
    exact ⟨b, a, h, h'⟩

theorem exists_optionalText_eq_ok_iff (value : Value) :
    (∃ text, optionalText value = .ok text) ↔ value = .null ∨ ∃ text, value = .string text := by
  cases value <;> simp [optionalText, mismatch]

theorem exists_optionalFlag_eq_ok_iff (value : Value) :
    (∃ flag, optionalFlag value = .ok flag) ↔ value = .null ∨ ∃ flag, value = .bool flag := by
  cases value <;> simp [optionalFlag, mismatch]

theorem isNull_iff {value : Value} : isNull value ↔ value = .null := by
  cases value <;> simp [isNull]

/-- One member is described iff it has its form. -/
theorem exists_describeMember_eq_ok_iff (m : Member) {value : Value} {item fields : Prop}
    (items : (∃ i, Descriptor.ofValue value = .ok i) ↔ item)
    (fields' : (∃ fs, optionalFields value = .ok fs) ↔ fields) (d : Description) :
    (∃ d', describeMember m value (fun _ => Descriptor.ofValue value)
      (fun _ => optionalFields value) d = .ok d') ↔ m.Admits value item fields := by
  cases m with
  | type => simp [describeMember, Member.Admits]
  | format =>
    rw [describeMember, exists_bind_eq_ok_iff, Member.Admits, ← exists_optionalText_eq_ok_iff]
    simp [pure, Except.pure]
  | isImplied =>
    rw [describeMember, exists_bind_eq_ok_iff, Member.Admits, ← exists_optionalFlag_eq_ok_iff]
    simp [pure, Except.pure]
  | items =>
    rw [describeMember, Member.Admits, ← items]
    by_cases null : isNull value
    · rw [if_pos null]
      simp [isNull_iff.mp null]
    · have other : value ≠ .null := mt isNull_iff.mpr null
      rw [if_neg null, exists_bind_eq_ok_iff]
      simp [other, pure, Except.pure]
  | properties | fields =>
    rw [describeMember, exists_bind_eq_ok_iff, Member.Admits, ← fields']
    simp [pure, Except.pure]

-- Whether the rest is read does not depend on what was read before it, so the description and the
-- fields that are already known stay arbitrary in the induction.
mutual

/-- Exactly the well-formed values are decoded. -/
theorem exists_ofValue_eq_ok_iff : ∀ value : Value,
    (∃ d, Descriptor.ofValue value = .ok d) ↔ WellFormed value
  | .object members => by
    have each := exists_describe_eq_ok_iff members {}
    rw [Descriptor.ofValue, exists_bind_eq_ok_iff, WellFormed, ← each]
    simp [pure, Except.pure]
  | .array items => by
    have each := exists_describeInOrder_eq_ok_iff items items.length Member.all {}
    rw [Descriptor.ofValue, exists_bind_eq_ok_iff, WellFormed, ← each]
    simp [pure, Except.pure]
  | .null | .bool _ | .number _ | .string _ => by simp [Descriptor.ofValue, mismatch, WellFormed]

/-- Members are described iff each known one has its form. -/
theorem exists_describe_eq_ok_iff : ∀ (members : List (String × Value)) (d : Description),
    (∃ d', describe members d = .ok d') ↔ MembersWellFormed members
  | [] => by simp [describe, MembersWellFormed]
  | (name, value) :: members => by
    have items := exists_ofValue_eq_ok_iff value
    have fields := exists_optionalFields_eq_ok_iff value
    have rest := exists_describe_eq_ok_iff members
    intro d
    rw [describe, MembersWellFormed]
    cases Member.ofName? name with
    | none => simp [rest]
    | some m =>
      have first := exists_describeMember_eq_ok_iff m items fields d
      simp only [exists_bind_eq_ok_iff, rest, exists_and_right, first]
      simp

/-- Items are described iff there is a member for each, which may have it as its value. -/
theorem exists_describeInOrder_eq_ok_iff :
    ∀ (values : List Value) (length : Nat) (members : List Member) (d : Description),
      (∃ d', describeInOrder length members values d = .ok d') ↔ ItemsWellFormed members values
  | [] => by simp [describeInOrder, ItemsWellFormed]
  | value :: values => by
    have items := exists_ofValue_eq_ok_iff value
    have fields := exists_optionalFields_eq_ok_iff value
    have rest := exists_describeInOrder_eq_ok_iff values
    intro length members d
    cases members with
    | nil => simp [describeInOrder, ItemsWellFormed]
    | cons m members =>
      have first := exists_describeMember_eq_ok_iff m items fields d
      rw [describeInOrder, ItemsWellFormed]
      simp only [exists_bind_eq_ok_iff, rest, exists_and_right, first]

/-- A value is read as fields iff it has their form. -/
theorem exists_optionalFields_eq_ok_iff : ∀ value : Value,
    (∃ fields, optionalFields value = .ok fields) ↔ FieldsWellFormed value
  | .null => by simp [optionalFields, FieldsWellFormed]
  | .object members => by
    have each := exists_decodeFields_eq_ok_iff members []
    rw [optionalFields, exists_bind_eq_ok_iff, FieldsWellFormed, ← each]
    simp [pure, Except.pure]
  | .bool _ | .number _ | .string _ | .array _ => by
    simp [optionalFields, mismatch, FieldsWellFormed]

/-- Members are read as fields iff each describes a field. -/
theorem exists_decodeFields_eq_ok_iff : ∀ (members : List (String × Value)) (known : Fields),
    (∃ fields, decodeFields members known = .ok fields) ↔ AllWellFormed members
  | [] => by simp [decodeFields, AllWellFormed]
  | (name, value) :: members => by
    have first := exists_ofValue_eq_ok_iff value
    have rest := exists_decodeFields_eq_ok_iff members
    intro known
    rw [decodeFields, AllWellFormed, ← first]
    simp only [exists_bind_eq_ok_iff, rest, exists_and_right]

end

/-! ### Well-formed objects -/

theorem allWellFormed_iff {members : List (String × Value)} :
    AllWellFormed members ↔ ∀ m ∈ members, WellFormed m.2 := by
  induction members with
  | nil => simp [AllWellFormed]
  | cons m members ih => rw [AllWellFormed, List.forall_mem_cons, ih]

theorem fieldsWellFormed_iff {value : Value} :
    FieldsWellFormed value ↔
      value = .null ∨ ∃ members, value = .object members ∧ ∀ m ∈ members, WellFormed m.2 := by
  cases value <;> simp [FieldsWellFormed, allWellFormed_iff]

/-- Members are well formed iff each value under a known name may be the value of that member. -/
theorem membersWellFormed_iff {members : List (String × Value)} :
    MembersWellFormed members ↔ ∀ (m : Member) (value : Value), (m.name, value) ∈ members →
      m.Admits value (WellFormed value) (FieldsWellFormed value) := by
  induction members with
  | nil => simp [MembersWellFormed]
  | cons first members ih =>
    obtain ⟨name, value⟩ := first
    rw [MembersWellFormed, ih]
    simp only [Member.ofName?_eq_some_iff, List.mem_cons, Prod.mk.injEq]
    constructor
    · rintro ⟨known, rest⟩ m other (⟨rfl, rfl⟩ | mem)
      · exact known m rfl
      · exact rest m other mem
    · intro all
      refine ⟨?_, ?_⟩
      · intro m same
        exact all m value (.inl ⟨same, rfl⟩)
      · intro m other mem
        exact all m other (.inr mem)

end ValidatorGen.Schema
