import Mathlib.Data.List.Induction
import Mathlib.Data.List.Nodup
import ValidatorGen.Proofs.Json.AsWritten
import ValidatorGen.Proofs.Schema.Replacement

/-!
# What is said once

A description may be taken from a value as it is written, or from the value with one member for each
name. Both say the same where no member of a description comes twice: members that are not known are
looked at by neither, and a field that comes twice is described by the last of its values, in the
place of the first.

## Main definitions

* `SaidOnce` — wherever a description is looked for, no member of it comes twice

## Main results

* `ofValue_collected` — what is said once is also said with one member for each name
* `saidOnce_of_distinctNames`, `collected_of_distinctNames` — what holds without repeated names
-/

namespace ValidatorGen.Schema

open Json

/-- The members of a description that have something to say. -/
def saidMembers (members : List (String × Value)) : List Member :=
  (members.map Prod.fst).filterMap Member.ofName?

/-- What must hold inside the value of a member. The value is looked at as a description or as
fields, or not at all. -/
def memberSaidOnce (member : Member) (item fields : Prop) : Prop :=
  match member with
  | .items => item
  | .properties | .fields => fields
  | .type | .format | .isImplied => True

mutual

/-- Wherever a description is looked for in the value, no member of it comes twice. -/
def SaidOnce : Value → Prop
  | .object members => (saidMembers members).Nodup ∧ MembersSaidOnce members
  | .array items => ItemsSaidOnce Member.all items
  | .null | .bool _ | .number _ | .string _ => True

/-- Nothing is said twice inside the members of a description. -/
def MembersSaidOnce : List (String × Value) → Prop
  | [] => True
  | (name, value) :: members =>
    match Member.ofName? name with
    | some member =>
      memberSaidOnce member (SaidOnce value) (FieldsSaidOnce value) ∧ MembersSaidOnce members
    | none => MembersSaidOnce members

/-- Nothing is said twice inside the items of a description without names. -/
def ItemsSaidOnce : List Member → List Value → Prop
  | _, [] => True
  | [], _ :: _ => True
  | member :: members, value :: values =>
    memberSaidOnce member (SaidOnce value) (FieldsSaidOnce value) ∧ ItemsSaidOnce members values

/-- Nothing is said twice inside the fields. -/
def FieldsSaidOnce : Value → Prop
  | .object members => EachSaidOnce members
  | .null | .bool _ | .number _ | .string _ | .array _ => True

/-- Nothing is said twice inside the field of any name. -/
def EachSaidOnce : List (String × Value) → Prop
  | [] => True
  | (_, value) :: members => SaidOnce value ∧ EachSaidOnce members

end

/-! ### Deciding it -/

mutual

/-- Whether no object has two members of one name can be decided. -/
def decidableDistinctNames : ∀ value : Value, Decidable (DistinctNames value)
  | .object members =>
    have := decidableMembersDistinct members
    inferInstanceAs (Decidable ((members.map Prod.fst).Nodup ∧ MembersDistinct members))
  | .array items => decidableItemsDistinct items
  | .null | .bool _ | .number _ | .string _ => .isTrue trivial

/-- Whether no object inside the members has two members of one name can be decided. -/
def decidableMembersDistinct :
    ∀ members : List (String × Value), Decidable (MembersDistinct members)
  | [] => .isTrue trivial
  | (_, value) :: members =>
    have := decidableDistinctNames value
    have := decidableMembersDistinct members
    inferInstanceAs (Decidable (DistinctNames value ∧ MembersDistinct members))

/-- Whether no object inside the items has two members of one name can be decided. -/
def decidableItemsDistinct : ∀ items : List Value, Decidable (ItemsDistinct items)
  | [] => .isTrue trivial
  | value :: items =>
    have := decidableDistinctNames value
    have := decidableItemsDistinct items
    inferInstanceAs (Decidable (DistinctNames value ∧ ItemsDistinct items))

end

instance : DecidablePred DistinctNames := decidableDistinctNames

instance {m : Member} {item fields : Prop} [Decidable item] [Decidable fields] :
    Decidable (memberSaidOnce m item fields) :=
  match m with
  | .items => inferInstanceAs (Decidable item)
  | .properties | .fields => inferInstanceAs (Decidable fields)
  | .type | .format | .isImplied => .isTrue trivial

mutual

/-- Whether no member of a description comes twice can be decided. -/
def decidableSaidOnce : ∀ value : Value, Decidable (SaidOnce value)
  | .object members =>
    have := decidableMembersSaidOnce members
    inferInstanceAs (Decidable ((saidMembers members).Nodup ∧ MembersSaidOnce members))
  | .array items => decidableItemsSaidOnce Member.all items
  | .null | .bool _ | .number _ | .string _ => .isTrue trivial

/-- Whether nothing is said twice inside the members of a description can be decided. -/
def decidableMembersSaidOnce :
    ∀ members : List (String × Value), Decidable (MembersSaidOnce members)
  | [] => .isTrue trivial
  | (name, value) :: members =>
    have := decidableSaidOnce value
    have := decidableFieldsSaidOnce value
    have := decidableMembersSaidOnce members
    match known : Member.ofName? name with
    | some m =>
      decidable_of_iff
        (memberSaidOnce m (SaidOnce value) (FieldsSaidOnce value) ∧ MembersSaidOnce members)
        (by rw [MembersSaidOnce, known])
    | none => decidable_of_iff (MembersSaidOnce members) (by rw [MembersSaidOnce, known])

/-- Whether nothing is said twice inside the items of a description can be decided. -/
def decidableItemsSaidOnce :
    ∀ (members : List Member) (items : List Value), Decidable (ItemsSaidOnce members items)
  | [], [] | [], _ :: _ | _ :: _, [] => .isTrue trivial
  | m :: members, value :: items =>
    have := decidableSaidOnce value
    have := decidableFieldsSaidOnce value
    have := decidableItemsSaidOnce members items
    inferInstanceAs (Decidable
      (memberSaidOnce m (SaidOnce value) (FieldsSaidOnce value) ∧ ItemsSaidOnce members items))

/-- Whether nothing is said twice inside the fields can be decided. -/
def decidableFieldsSaidOnce : ∀ value : Value, Decidable (FieldsSaidOnce value)
  | .object members => decidableEachSaidOnce members
  | .null | .bool _ | .number _ | .string _ | .array _ => .isTrue trivial

/-- Whether nothing is said twice inside the field of any name can be decided. -/
def decidableEachSaidOnce : ∀ members : List (String × Value), Decidable (EachSaidOnce members)
  | [] => .isTrue trivial
  | (_, value) :: members =>
    have := decidableSaidOnce value
    have := decidableEachSaidOnce members
    inferInstanceAs (Decidable (SaidOnce value ∧ EachSaidOnce members))

end

instance : DecidablePred SaidOnce := decidableSaidOnce

/-! ### One member for each name -/

section

variable {members into : List (String × Value)} {name : String} {value : Value}

theorem saidMembers_cons_some {m : Member} (known : Member.ofName? name = some m) :
    saidMembers ((name, value) :: members) = m :: saidMembers members :=
  List.filterMap_cons_some known

theorem saidMembers_cons_none (unknown : Member.ofName? name = none) :
    saidMembers ((name, value) :: members) = saidMembers members :=
  List.filterMap_cons_none unknown

theorem saidMembers_append (members members' : List (String × Value)) :
    saidMembers (members ++ members') = saidMembers members ++ saidMembers members' := by
  rw [saidMembers, List.map_append, List.filterMap_append]
  rfl

theorem describe_append (members members' : List (String × Value)) (d : Description) :
    describe (members ++ members') d = describe members d >>= describe members' := by
  induction members generalizing d with
  | nil => rfl
  | cons m members ih =>
    obtain ⟨name, value⟩ := m
    rw [List.cons_append, describe, describe]
    cases Member.ofName? name with
    | none => exact ih d
    | some member =>
      dsimp only
      rw [bind_assoc]
      exact bind_congr fun d => ih d

theorem describe_singleton_of_unknown (unknown : Member.ofName? name = none) (d : Description) :
    describe [(name, value)] d = .ok d := by
  rw [describe]
  simp only [unknown]
  rfl

/-- A member that is not known may be put anywhere. -/
theorem describe_put_of_unknown (unknown : Member.ofName? name = none) (d : Description) :
    describe (Ordered.put Prod.fst (name, value) members) d = describe members d := by
  induction members generalizing d with
  | nil => exact describe_singleton_of_unknown unknown d
  | cons m members ih =>
    obtain ⟨name', value'⟩ := m
    rw [Ordered.put]
    split
    · rename_i same
      obtain rfl : name' = name := same
      rw [describe, describe, unknown]
    · rw [describe, describe]
      simp only [ih]

/-- With one member for each name the same is said, if no member comes twice. -/
theorem describe_collect (h : (saidMembers members).Nodup) (d : Description) :
    describe (Ordered.collect Prod.fst members) d = describe members d := by
  induction members using List.reverseRecOn generalizing d with
  | nil => rfl
  | append_singleton members m ih =>
    obtain ⟨name, value⟩ := m
    rw [saidMembers_append, List.nodup_append] at h
    obtain ⟨before, -, apart⟩ := h
    have last : Ordered.collect Prod.fst (members ++ [(name, value)]) =
        Ordered.put Prod.fst (name, value) (Ordered.collect Prod.fst members) :=
      List.foldl_concat ..
    rw [last, describe_append]
    cases named : Member.ofName? name with
    | none =>
      rw [describe_put_of_unknown named, ih before]
      have silent : describe [(name, value)] = .ok := funext (describe_singleton_of_unknown named)
      rw [silent]
      exact (bind_pure _).symm
    | some m =>
      -- A member that is known is new, so it comes last in both.
      have fresh : name ∉ (Ordered.collect Prod.fst members).map Prod.fst := by
        intro mem
        obtain ⟨other, held, rfl⟩ := List.mem_map.mp mem
        have there : m ∈ saidMembers members :=
          List.mem_filterMap.mpr
            ⟨_, List.mem_map_of_mem (Ordered.mem_of_mem_collect held), named⟩
        have here : m ∈ saidMembers [(other.1, value)] :=
          List.mem_filterMap.mpr ⟨_, List.mem_singleton_self _, named⟩
        exact apart m there m here rfl
      rw [Ordered.put_of_not_mem fresh, describe_append]
      congr 1
      exact ih before d

/-! ### Fields with one member for each name -/

theorem forall₂_put {as : List (String × Value)} {bs : Fields} {a : String × Value}
    {b : String × Descriptor} (described : Describes a b) (h : List.Forall₂ Describes as bs) :
    List.Forall₂ Describes (Ordered.put Prod.fst a as) (Ordered.put Prod.fst b bs) := by
  induction h with
  | nil => exact .cons described .nil
  | cons first others ih =>
    rw [Ordered.put, Ordered.put, first.1, described.1]
    split
    · exact .cons described others
    · exact .cons first ih

/-- Fields are described one by one and put under their names. -/
theorem exists_described_of_decodeFields {known fields : Fields}
    (h : decodeFields members known = .ok fields) :
    ∃ described, List.Forall₂ Describes members described ∧
      fields =
        described.foldl (fun collected field => Ordered.put Prod.fst field collected) known := by
  induction members generalizing known with
  | nil =>
    cases h
    exact ⟨[], .nil, rfl⟩
  | cons m members ih =>
    obtain ⟨name, value⟩ := m
    rw [decodeFields] at h
    obtain ⟨field, decoded, h⟩ := bind_eq_ok_iff.mp h
    obtain ⟨others, described, rfl⟩ := ih h
    exact ⟨(name, field) :: others, .cons ⟨rfl, decoded⟩ described, rfl⟩

theorem forall₂_foldl_put {described into' : Fields} (start : List.Forall₂ Describes into into')
    (h : List.Forall₂ Describes members described) :
    List.Forall₂ Describes
      (members.foldl (fun collected m => Ordered.put Prod.fst m collected) into)
      (described.foldl (fun collected field => Ordered.put Prod.fst field collected) into') := by
  induction h generalizing into into' with
  | nil => exact start
  | cons first _ ih => exact ih (forall₂_put first start)

/-- With one member for each name the same fields are described: a field that comes twice is
described by its last value, in its first place. -/
theorem fieldsOfMembers_collect {fields : Fields} (h : fieldsOfMembers members = .ok fields) :
    fieldsOfMembers (Ordered.collect Prod.fst members) = .ok fields := by
  obtain ⟨described, each, rfl⟩ := exists_described_of_decodeFields h
  exact (fieldsOfMembers_eq_ok_iff (Ordered.nodup_collect members)).mpr
    (forall₂_foldl_put .nil each)

end

/-! ### What is said of values with one member for each name -/

theorem length_collectedItems (items : List Value) :
    (collectedItems items).length = items.length := by
  induction items with
  | nil => rfl
  | cons item items ih => rw [collectedItems, List.length_cons, List.length_cons, ih]

theorem map_fst_collectedMembers (members : List (String × Value)) :
    (collectedMembers members).map Prod.fst = members.map Prod.fst := by
  induction members with
  | nil => rfl
  | cons m members ih =>
    obtain ⟨name, value⟩ := m
    rw [collectedMembers, List.map_cons, List.map_cons, ih]

theorem describeMember_collected {m : Member} {value : Value} {d d' : Description}
    (item : SaidOnce value → ∀ {i}, Descriptor.ofValue value = .ok i →
      Descriptor.ofValue value.collected = .ok i)
    (fields : FieldsSaidOnce value → ∀ {f}, optionalFields value = .ok f →
      optionalFields value.collected = .ok f)
    (once : memberSaidOnce m (SaidOnce value) (FieldsSaidOnce value))
    (h : describeMember m value (fun _ => Descriptor.ofValue value)
      (fun _ => optionalFields value) d = .ok d') :
    describeMember m value.collected (fun _ => Descriptor.ofValue value.collected)
      (fun _ => optionalFields value.collected) d = .ok d' := by
  cases m with
  | type | format | isImplied =>
    -- Here only the form of the value matters, which stays the same.
    rw [describeMember] at h ⊢
    rw [← h]
    cases value <;> rfl
  | items =>
    have same : isNull value.collected = isNull value := by cases value <;> rfl
    rw [describeMember] at h ⊢
    rw [same]
    split at h
    · rename_i null
      rw [if_pos null, h]
    · rename_i null
      obtain ⟨i, decoded, done⟩ := bind_eq_ok_iff.mp h
      rw [if_neg null, item once decoded]
      exact done
  | properties | fields =>
    rw [describeMember] at h ⊢
    obtain ⟨f, decoded, done⟩ := bind_eq_ok_iff.mp h
    rw [fields once decoded]
    exact done

-- One induction on the value, for a description, for members with and without names and for fields.
mutual

/-- What is said once is also said with one member for each name. -/
theorem ofValue_collected : ∀ value : Value, SaidOnce value → ∀ {d : Descriptor},
    Descriptor.ofValue value = .ok d → Descriptor.ofValue value.collected = .ok d
  | .object members => by
    intro once d h
    rw [SaidOnce] at once
    rw [Descriptor.ofValue] at h
    obtain ⟨said, described, done⟩ := bind_eq_ok_iff.mp h
    have told : (saidMembers (collectedMembers members)).Nodup := by
      rw [saidMembers, map_fst_collectedMembers]
      exact once.1
    -- First the values of the members are replaced, then members of the same name are dropped.
    rw [Value.collected, Descriptor.ofValue, describe_collect told,
      describe_collected members once.2 described]
    exact done
  | .array items => by
    intro once d h
    rw [SaidOnce] at once
    rw [Descriptor.ofValue] at h
    obtain ⟨said, described, done⟩ := bind_eq_ok_iff.mp h
    rw [Value.collected, Descriptor.ofValue, length_collectedItems,
      describeInOrder_collected _ _ items once described]
    exact done
  | .null | .bool _ | .number _ | .string _ => fun _ _ h => h

theorem describe_collected : ∀ members : List (String × Value), MembersSaidOnce members →
    ∀ {d d' : Description}, describe members d = .ok d' →
      describe (collectedMembers members) d = .ok d'
  | [] => fun _ _ _ h => h
  | (name, value) :: members => by
    intro once d d' h
    rw [MembersSaidOnce] at once
    rw [collectedMembers, describe]
    rw [describe] at h
    cases named : Member.ofName? name with
    | none =>
      simp only [named] at once h ⊢
      exact describe_collected members once h
    | some m =>
      simp only [named] at once h ⊢
      obtain ⟨said, described, others⟩ := bind_eq_ok_iff.mp h
      rw [describeMember_collected (ofValue_collected value) (optionalFields_collected value)
        once.1 described]
      exact describe_collected members once.2 others

theorem describeInOrder_collected (length : Nat) : ∀ (members : List Member) (items : List Value),
    ItemsSaidOnce members items → ∀ {d d' : Description},
      describeInOrder length members items d = .ok d' →
        describeInOrder length members (collectedItems items) d = .ok d'
  | [], [], _, _, _ => fun h => h
  | [], _ :: _, _, _, _ => by
    intro h
    cases h
  | _ :: _, [], _, _, _ => fun h => h
  | m :: members, value :: items, once, d, d' => by
    intro h
    rw [ItemsSaidOnce] at once
    rw [describeInOrder] at h
    obtain ⟨said, described, others⟩ := bind_eq_ok_iff.mp h
    rw [collectedItems, describeInOrder, describeMember_collected (ofValue_collected value)
      (optionalFields_collected value) once.1 described]
    exact describeInOrder_collected length members items once.2 others

theorem optionalFields_collected : ∀ value : Value, FieldsSaidOnce value →
    ∀ {fields : Option Fields}, optionalFields value = .ok fields →
      optionalFields value.collected = .ok fields
  | .object members => by
    intro once fields h
    rw [FieldsSaidOnce] at once
    rw [optionalFields_object] at h
    obtain ⟨decoded, read, done⟩ := bind_eq_ok_iff.mp h
    rw [Value.collected, optionalFields_object,
      fieldsOfMembers_collect (decodeFields_collected members once read)]
    exact done
  | .null | .bool _ | .number _ | .string _ => fun _ _ h => h
  | .array _ => by
    intro _ fields h
    cases h

theorem decodeFields_collected : ∀ members : List (String × Value), EachSaidOnce members →
    ∀ {known fields : Fields}, decodeFields members known = .ok fields →
      decodeFields (collectedMembers members) known = .ok fields
  | [] => fun _ _ _ h => h
  | (name, value) :: members => by
    intro once known fields h
    rw [EachSaidOnce] at once
    rw [decodeFields] at h
    obtain ⟨field, decoded, others⟩ := bind_eq_ok_iff.mp h
    rw [collectedMembers, decodeFields, ofValue_collected value once.1 decoded]
    exact decodeFields_collected members once.2 others

end

/-! ### Values without repeated names -/

-- One induction on the value, for a value, for items and for members.
mutual

/-- Without repeated names there is one member for each name already. -/
theorem collected_of_distinctNames : ∀ value : Value, DistinctNames value → value.collected = value
  | .object members => by
    intro distinct
    rw [DistinctNames] at distinct
    rw [Value.collected, collectedMembers_of_distinct members distinct.2,
      Ordered.collect_of_nodup distinct.1]
  | .array items => by
    intro distinct
    rw [DistinctNames] at distinct
    rw [Value.collected, collectedItems_of_distinct items distinct]
  | .null | .bool _ | .number _ | .string _ => fun _ => rfl

theorem collectedItems_of_distinct : ∀ items : List Value, ItemsDistinct items →
    collectedItems items = items
  | [] => fun _ => rfl
  | value :: items => by
    intro distinct
    rw [ItemsDistinct] at distinct
    rw [collectedItems, collected_of_distinctNames value distinct.1,
      collectedItems_of_distinct items distinct.2]

theorem collectedMembers_of_distinct : ∀ members : List (String × Value),
    MembersDistinct members → collectedMembers members = members
  | [] => fun _ => rfl
  | (name, value) :: members => by
    intro distinct
    rw [MembersDistinct] at distinct
    rw [collectedMembers, collected_of_distinctNames value distinct.1,
      collectedMembers_of_distinct members distinct.2]

end

theorem nodup_saidMembers {members : List (String × Value)}
    (h : (members.map Prod.fst).Nodup) : (saidMembers members).Nodup := by
  refine List.Nodup.filterMap ?_ h
  intro name name' m named named'
  exact (Member.name_of_ofName? named).symm.trans (Member.name_of_ofName? named')

theorem memberSaidOnce_of_both (m : Member) {item fields : Prop} (h : item) (h' : fields) :
    memberSaidOnce m item fields := by
  cases m with
  | items => exact h
  | properties | fields => exact h'
  | type | format | isImplied => trivial

-- One induction on the value, for a description, for members with and without names and for fields.
mutual

/-- Without repeated names nothing is said twice. -/
theorem saidOnce_of_distinctNames : ∀ value : Value, DistinctNames value → SaidOnce value
  | .object members => by
    intro distinct
    rw [DistinctNames] at distinct
    rw [SaidOnce]
    exact ⟨nodup_saidMembers distinct.1, membersSaidOnce_of_distinct members distinct.2⟩
  | .array items => by
    intro distinct
    rw [DistinctNames] at distinct
    rw [SaidOnce]
    exact itemsSaidOnce_of_distinct Member.all items distinct
  | .null | .bool _ | .number _ | .string _ => fun _ => trivial

theorem membersSaidOnce_of_distinct : ∀ members : List (String × Value),
    MembersDistinct members → MembersSaidOnce members
  | [] => fun _ => trivial
  | (name, value) :: members => by
    intro distinct
    rw [MembersDistinct] at distinct
    have others := membersSaidOnce_of_distinct members distinct.2
    rw [MembersSaidOnce]
    cases Member.ofName? name with
    | none => exact others
    | some m =>
      exact ⟨memberSaidOnce_of_both m (saidOnce_of_distinctNames value distinct.1)
        (fieldsSaidOnce_of_distinct value distinct.1), others⟩

theorem itemsSaidOnce_of_distinct : ∀ (members : List Member) (items : List Value),
    ItemsDistinct items → ItemsSaidOnce members items
  | [], [] | [], _ :: _ | _ :: _, [] => fun _ => trivial
  | m :: members, value :: items => by
    intro distinct
    rw [ItemsDistinct] at distinct
    rw [ItemsSaidOnce]
    exact ⟨memberSaidOnce_of_both m (saidOnce_of_distinctNames value distinct.1)
      (fieldsSaidOnce_of_distinct value distinct.1),
      itemsSaidOnce_of_distinct members items distinct.2⟩

theorem fieldsSaidOnce_of_distinct : ∀ value : Value, DistinctNames value → FieldsSaidOnce value
  | .object members => by
    intro distinct
    rw [DistinctNames] at distinct
    rw [FieldsSaidOnce]
    exact eachSaidOnce_of_distinct members distinct.2
  | .null | .bool _ | .number _ | .string _ | .array _ => fun _ => trivial

theorem eachSaidOnce_of_distinct : ∀ members : List (String × Value),
    MembersDistinct members → EachSaidOnce members
  | [] => fun _ => trivial
  | (_, value) :: members => by
    intro distinct
    rw [MembersDistinct] at distinct
    rw [EachSaidOnce]
    exact ⟨saidOnce_of_distinctNames value distinct.1, eachSaidOnce_of_distinct members distinct.2⟩

end

end ValidatorGen.Schema
