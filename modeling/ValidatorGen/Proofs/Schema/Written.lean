import ValidatorGen.Proofs.Json.ReadBack
import ValidatorGen.Proofs.Schema.RoundTrip
import ValidatorGen.Proofs.Validator.Emission

/-!
# Documents in files

The description of a document is a plain value: it has no numbers, and no name comes twice in an
object. An object with described fields takes two containers, one for its description and one for
its fields, so twice the depth of the descriptors bounds the containers inside one another. What is
not too deep to be compiled is then not too deep to be read, with room to spare.

## Main results

* `Descriptor.plain_toValue`, `Document.plain_toValue` — descriptions are plain
* `Descriptor.nesting_toValue_le`, `Document.nesting_toValue_le` — how deep descriptions go
* `Document.ofFile_indented` — a document is read back from the file to which it is written
-/

namespace ValidatorGen.Schema

open Json Text

/-! ### Members -/

theorem membersPlain_append {members members' : List (String × Value)} :
    MembersPlain (members ++ members') ↔ MembersPlain members ∧ MembersPlain members' := by
  simp only [membersPlain_iff, List.forall_mem_append]

theorem membersNesting_append_le_iff {members members' : List (String × Value)} {n : Nat} :
    membersNesting (members ++ members') ≤ n ↔
      membersNesting members ≤ n ∧ membersNesting members' ≤ n := by
  simp only [membersNesting_le_iff, List.forall_mem_append]

theorem textMember_sublist (m : Member) (text : Option String) :
    ((textMember m text).map Prod.fst).Sublist [m.name] := by
  cases text with
  | none => exact List.nil_sublist _
  | some text => exact List.Sublist.refl _

theorem formatMember_sublist (kind : Kind) :
    (kind.formatMember.map Prod.fst).Sublist [Member.format.name] := by
  cases kind with
  | string format => exact textMember_sublist .format _
  | number | boolean | untypedArray | array _ | openObject | object _ | unknown _ =>
    exact List.nil_sublist _

theorem impliedMember_sublist (required : Bool) :
    ((impliedMember required).map Prod.fst).Sublist [Member.isImplied.name] := by
  cases required with
  | false => exact List.nil_sublist _
  | true => exact List.Sublist.refl _

theorem contents_sublist (kind : Kind) :
    (kind.contents.map Prod.fst).Sublist [Member.items.name, Member.properties.name] := by
  cases kind with
  | array item => exact (List.nil_sublist _).cons_cons _
  | object fields => exact (List.Sublist.refl _).cons _
  | string _ | number | boolean | untypedArray | openObject | unknown _ => exact List.nil_sublist _

/-- No member comes twice in a description. -/
theorem nodup_toValue (kind : Kind) (required : Bool) :
    ((textMember .type kind.tag ++ kind.formatMember ++ impliedMember required ++
      kind.contents).map Prod.fst).Nodup := by
  have order : [Member.type.name, Member.format.name, Member.isImplied.name, Member.items.name,
      Member.properties.name].Nodup := by decide
  refine order.sublist ?_
  simp only [List.map_append]
  exact (((textMember_sublist .type kind.tag).append (formatMember_sublist kind)).append
    (impliedMember_sublist required)).append (contents_sublist kind)

/-- The members before the contents are neither numbers nor containers. -/
theorem heading_scalar (kind : Kind) (required : Bool) :
    ∀ m ∈ textMember .type kind.tag ++ kind.formatMember ++ impliedMember required,
      m.2.Plain ∧ m.2.nesting = 0 := by
  have text (member : Member) (text : Option String) :
      ∀ m ∈ textMember member text, m.2.Plain ∧ m.2.nesting = 0 := by
    intro m mem
    cases text with
    | none => cases mem
    | some text =>
      obtain rfl := List.mem_singleton.mp mem
      exact ⟨trivial, rfl⟩
  intro m mem
  rw [List.mem_append, List.mem_append] at mem
  rcases mem with (mem | mem) | mem
  · exact text .type _ m mem
  · cases kind with
    | string format => exact text .format _ m mem
    | number | boolean | untypedArray | array _ | openObject | object _ | unknown _ => cases mem
  · cases required with
    | false => cases mem
    | true =>
      obtain rfl := List.mem_singleton.mp mem
      exact ⟨trivial, rfl⟩

/-! ### Descriptions are plain -/

mutual

/-- The description of a field is plain. -/
theorem Descriptor.plain_toValue : ∀ d : Descriptor, d.DistinctFields → d.toValue.Plain
  | .mk kind required => by
    intro distinct
    have contents := plain_contents kind distinct
    refine ⟨nodup_toValue kind required, membersPlain_append.mpr ⟨?_, contents⟩⟩
    exact membersPlain_iff.mpr fun m mem => (heading_scalar kind required m mem).1

theorem plain_contents : ∀ kind : Kind, kind.DistinctFields → MembersPlain kind.contents
  | .array item => fun distinct => ⟨item.plain_toValue distinct, trivial⟩
  | .object fields => by
    intro distinct
    refine ⟨⟨?_, plain_fieldsToMembers fields distinct.2⟩, trivial⟩
    rw [map_fst_fieldsToMembers]
    exact distinct.1
  | .string _ | .number | .boolean | .untypedArray | .openObject | .unknown _ => fun _ => trivial

theorem plain_fieldsToMembers : ∀ fields : Fields, FieldsDistinct fields →
    MembersPlain (fieldsToMembers fields)
  | [] => fun _ => trivial
  | (_, field) :: fields => fun distinct =>
    ⟨field.plain_toValue distinct.1, plain_fieldsToMembers fields distinct.2⟩

end

theorem ObjectType.plain_toValue {t : ObjectType} (h : t.DistinctFields) : t.toValue.Plain := by
  have names : ((fieldsToMembers t.fields).map Prod.fst).Nodup := by
    rw [map_fst_fieldsToMembers]
    exact h.1
  have members : [Member.type.name, Member.properties.name].Nodup := by decide
  exact ⟨members, trivial, ⟨names, plain_fieldsToMembers t.fields h.2⟩, trivial⟩

/-- The description of a document is plain. -/
theorem Document.plain_toValue {d : Document} (h : d.DistinctFields) : d.toValue.Plain := by
  refine ⟨?_, membersPlain_iff.mpr ?_⟩
  · rw [List.map_map]
    exact d.distinct
  · intro m mem
    obtain ⟨t, listed, rfl⟩ := List.mem_map.mp mem
    exact ObjectType.plain_toValue (h t listed)

/-! ### How deep descriptions go -/

-- The bound is tight for objects without fields, which take two containers at depth one.
mutual

/-- The description of a field takes at most two containers for each descriptor on the way down. -/
theorem Descriptor.nesting_toValue_le : ∀ d : Descriptor, d.toValue.nesting ≤ 2 * d.nesting
  | .mk kind required => by
    have contents := nesting_contents_lt kind
    have heading : membersNesting (textMember .type kind.tag ++ kind.formatMember ++
        impliedMember required) ≤ 0 :=
      membersNesting_le_iff.mpr fun m mem => Nat.le_of_eq (heading_scalar kind required m mem).2
    have all : membersNesting (textMember .type kind.tag ++ kind.formatMember ++
        impliedMember required ++ kind.contents) ≤ 2 * kind.nesting - 1 :=
      membersNesting_append_le_iff.mpr ⟨Nat.le_trans heading (Nat.zero_le _), by omega⟩
    rw [Descriptor.toValue, Value.nesting, Descriptor.nesting]
    omega

theorem nesting_contents_lt : ∀ kind : Kind, membersNesting kind.contents < 2 * kind.nesting
  | .array item => by
    have inside := item.nesting_toValue_le
    simp only [Kind.contents, membersNesting, Kind.nesting]
    omega
  | .object fields => by
    have inside := nesting_fieldsToMembers_le fields
    simp only [Kind.contents, membersNesting, Value.nesting, Kind.nesting]
    omega
  | .string _ | .number | .boolean | .untypedArray | .openObject | .unknown _ => by
    simp [Kind.contents, membersNesting, Kind.nesting]

theorem nesting_fieldsToMembers_le : ∀ fields : Fields,
    membersNesting (fieldsToMembers fields) ≤ 2 * fieldsNesting fields
  | [] => Nat.le_refl 0
  | (_, field) :: fields => by
    have first := field.nesting_toValue_le
    have others := nesting_fieldsToMembers_le fields
    simp only [fieldsToMembers, membersNesting, fieldsNesting]
    omega

end

/-- The description of a document takes three containers around those of its fields. -/
theorem Document.nesting_toValue_le {d : Document} {limit : Nat}
    (within : ∀ t ∈ d.types, t.isWithin limit) : d.toValue.nesting ≤ 3 + 2 * limit := by
  have types : membersNesting (d.types.map fun t => (t.name, t.toValue)) ≤ 2 + 2 * limit := by
    refine membersNesting_le_iff.mpr fun m mem => ?_
    obtain ⟨t, listed, rfl⟩ := List.mem_map.mp mem
    have inside := nesting_fieldsToMembers_le t.fields
    have fields : fieldsNesting t.fields ≤ limit :=
      fieldsNesting_le_iff.mpr (ObjectType.isWithin_iff.mp (within t listed))
    simp only [ObjectType.toValue, Value.nesting, membersNesting]
    omega
  rw [Document.toValue, Value.nesting]
  omega

/-- A document is read back from the file to which it is written, if its descriptors do not go too
deep. -/
theorem Document.ofFile_indented {d : Document} {limit : Nat} (distinct : d.DistinctFields)
    (within : ∀ t ∈ d.types, t.isWithin limit) (shallow : 3 + 2 * limit ≤ greatestNesting) :
    Value.ofFile (encode d.toValue.indented) = .ok d.toValue :=
  Value.ofFile_indented (Document.plain_toValue distinct)
    (Nat.le_trans (Document.nesting_toValue_le within) shallow)

end ValidatorGen.Schema
