import ValidatorGen.Proofs.Schema.Location
import ValidatorGen.Proofs.Schema.Members

/-!
# Replacing one description

In the value from which a descriptor was decoded, the steps to a descriptor inside it lead to the
value that describes that one. With another value there, what is decoded is the same but for the
descriptor that was replaced; and if the other value describes nothing, then nothing is decoded.

## Main definitions

* `replaceValueAt`, `replaceInDocument` — another value in place of the one that describes the
  descriptor at the end of steps, or at a location
* `DistinctNames` — no object in the value has two members of one name
* `Replaces` — a change of values that replaces a descriptor by another one

## Main results

* `replaces_replaceValueAt` — decoding a descriptor after a value was replaced
* `Document.ofValue_replaceInDocument` — decoding a document after a value was replaced
-/

namespace ValidatorGen.Schema

open Json

/-- Items without names, of which the one that stands for the member is changed. -/
def modifyInOrder (m : Member) (f : Value → Value) : List Member → List Value → List Value
  | m' :: members, value :: values =>
    (if m' = m then f value else value) :: modifyInOrder m f members values
  | _, values => values

/-- The description with the value of a member changed. -/
def modifyMember (m : Member) (f : Value → Value) : Value → Value
  | .object members => .object (Ordered.modify m.name f members)
  | .array items => .array (modifyInOrder m f Member.all items)
  | value => value

/-- The object with the value of a name changed. -/
def modifyEntry (name : String) (f : Value → Value) : Value → Value
  | .object members => .object (Ordered.modify name f members)
  | value => value

/-- The member of a description in which the fields of an object are described. -/
def fieldsMember (value : Value) : Member :=
  match (namedMembers? value).bind fun members => said? members .properties with
  | some properties => if isNull properties then .fields else .properties
  | none => .fields

/-- The description of a descriptor, with another value in place of the one that describes the
descriptor to which steps lead. -/
def replaceValueAt (new : Value) : List Step → Value → Value
  | [], _ => new
  | .item :: steps, value => modifyMember .items (replaceValueAt new steps) value
  | .field name :: steps, value =>
    modifyMember (fieldsMember value) (modifyEntry name (replaceValueAt new steps)) value

mutual

/-- No object in the value has two members of one name. -/
def DistinctNames : Value → Prop
  | .object members => (members.map Prod.fst).Nodup ∧ MembersDistinct members
  | .array items => ItemsDistinct items
  | .null | .bool _ | .number _ | .string _ => True

/-- No object inside the members has two members of one name. -/
def MembersDistinct : List (String × Value) → Prop
  | [] => True
  | (_, value) :: members => DistinctNames value ∧ MembersDistinct members

/-- No object inside the items has two members of one name. -/
def ItemsDistinct : List Value → Prop
  | [] => True
  | value :: values => DistinctNames value ∧ ItemsDistinct values

end

theorem membersDistinct_iff {members : List (String × Value)} :
    MembersDistinct members ↔ ∀ m ∈ members, DistinctNames m.2 := by
  induction members with
  | nil => simp [MembersDistinct]
  | cons m members ih => rw [MembersDistinct, List.forall_mem_cons, ih]

theorem itemsDistinct_iff {items : List Value} :
    ItemsDistinct items ↔ ∀ value ∈ items, DistinctNames value := by
  induction items with
  | nil => simp [ItemsDistinct]
  | cons value values ih => rw [ItemsDistinct, List.forall_mem_cons, ih]

/-! ### Members in their own order -/

theorem map_fst_zip_sublist (names : List String) (values : List Value) :
    ((names.zip values).map Prod.fst).Sublist names := by
  induction names generalizing values with
  | nil => exact List.Sublist.refl []
  | cons name names ih =>
    cases values with
    | nil => exact List.nil_sublist _
    | cons value values => exact (ih values).cons_cons name

/-- The members of a description with distinct names have distinct names. -/
theorem DistinctNames.namedMembers {value : Value} (h : DistinctNames value)
    {members : List (String × Value)} (named : namedMembers? value = some members) :
    (members.map Prod.fst).Nodup ∧ ∀ m ∈ members, DistinctNames m.2 := by
  cases value with
  | object members' =>
    obtain rfl := Option.some.inj named
    exact ⟨h.1, membersDistinct_iff.mp h.2⟩
  | array items =>
    rw [namedMembers?] at named
    split at named
    · obtain rfl := Option.some.inj named
      have names : (Member.all.map Member.name).Nodup := by decide
      exact ⟨names.sublist (map_fst_zip_sublist _ items),
        fun m mem => itemsDistinct_iff.mp h m.2 (List.of_mem_zip mem).2⟩
    · cases named
  | null | bool | number | string => cases named

theorem length_modifyInOrder (m : Member) (f : Value → Value) (members : List Member)
    (values : List Value) : (modifyInOrder m f members values).length = values.length := by
  induction members generalizing values with
  | nil => cases values <;> rfl
  | cons m' members ih =>
    cases values with
    | nil => rfl
    | cons value values => rw [modifyInOrder, List.length_cons, List.length_cons, ih]

theorem zip_modifyInOrder (m : Member) (f : Value → Value) (members : List Member)
    (values : List Value) :
    (members.map Member.name).zip (modifyInOrder m f members values) =
      Ordered.modify m.name f ((members.map Member.name).zip values) := by
  induction members generalizing values with
  | nil => rfl
  | cons m' members ih =>
    cases values with
    | nil => rfl
    | cons value values =>
      rw [modifyInOrder, List.map_cons, List.zip_cons_cons, List.zip_cons_cons,
        Ordered.modify_cons, ih]
      by_cases same : m' = m
      · rw [if_pos same, if_pos (congrArg Member.name same)]
      · rw [if_neg same, if_neg fun names => same (Member.name_injective names)]

/-- Whether the members of a description are named or not, one of them is changed. -/
theorem namedMembers?_modifyMember (m : Member) (f : Value → Value) (value : Value) :
    namedMembers? (modifyMember m f value) =
      (namedMembers? value).map (Ordered.modify m.name f) := by
  cases value with
  | array items =>
    rw [modifyMember, namedMembers?, namedMembers?, length_modifyInOrder, zip_modifyInOrder]
    split <;> rfl
  | object | null | bool | number | string => rfl

theorem said?_modify (m : Member) (f : Value → Value) (members : List (String × Value)) :
    said? (Ordered.modify m.name f members) =
      Function.update (said? members) m ((said? members m).map f) := by
  funext m'
  rw [said?, Ordered.value?_modify, Function.update_apply]
  by_cases same : m' = m
  · rw [if_pos (congrArg Member.name same), if_pos same, same, said?]
  · rw [if_neg fun names => same (Member.name_injective names), if_neg same, said?]

/-! ### What is said once a member was changed -/

section

variable {found : Member → Option Value} {known d d' : Description} {value : Value}

/-- Other items change nothing else of what is said. -/
theorem says_update_items_iff (h : Says found known d) :
    Says (Function.update found .items (some value)) known d' ↔
      ∃ items, optionalItem value = .ok items ∧ { d with items := items } = d' := by
  obtain ⟨tag, format, implied, -, properties, fields⟩ := h
  cases d'
  cases read : optionalItem value <;>
    simp [says_iff, Function.update, tag, format, implied, properties, fields, read]

/-- Other properties change nothing else of what is said. -/
theorem says_update_properties_iff (h : Says found known d) :
    Says (Function.update found .properties (some value)) known d' ↔
      ∃ fields, optionalFields value = .ok fields ∧ { d with properties := fields } = d' := by
  obtain ⟨tag, format, implied, items, -, fields⟩ := h
  cases d'
  cases read : optionalFields value <;>
    simp [says_iff, Function.update, tag, format, implied, items, fields, read]

/-- Other fields change nothing else of what is said. -/
theorem says_update_fields_iff (h : Says found known d) :
    Says (Function.update found .fields (some value)) known d' ↔
      ∃ fields, optionalFields value = .ok fields ∧ { d with fields := fields } = d' := by
  obtain ⟨tag, format, implied, items, properties, -⟩ := h
  cases d'
  cases read : optionalFields value <;>
    simp [says_iff, Function.update, tag, format, implied, items, properties, read]

end

/-! ### Changing one of several things -/

section

variable {α β : Type} {R : String × Value → α → Prop} {key : α → String}
  {members : List (String × Value)} {as as' : List α} {name : String} {f : Value → Value}
  {P : β → Prop} {change : β → α → α}

theorem map_key_of_forall₂ (keyed : ∀ m a, R m a → key a = m.1) (h : List.Forall₂ R members as) :
    as.map key = members.map Prod.fst := by
  induction h with
  | nil => rfl
  | cons first _ ih => rw [List.map_cons, List.map_cons, ih, keyed _ _ first]

/-- Things that are read one by one from members with distinct names are the same but for one, if
the member of that name is changed. -/
theorem forall₂_modify_iff (key : α → String) (change : β → α → α)
    (keyed : ∀ m a, R m a → key a = m.1) (unique : ∀ m a a', R m a → R m a' → a = a')
    (h : List.Forall₂ R members as)
    (distinct : (members.map Prod.fst).Nodup) (present : name ∈ members.map Prod.fst)
    (each : ∀ value a, (name, value) ∈ members → a ∈ as → R (name, value) a → ∀ a',
      R (name, f value) a' ↔ ∃ b, P b ∧ change b a = a') :
    List.Forall₂ R (Ordered.modify name f members) as' ↔
      ∃ b, P b ∧ as.map (fun a => if key a = name then change b a else a) = as' := by
  induction h generalizing as' with
  | nil => simp at present
  | @cons m a members as first rest ih =>
    have keys := map_key_of_forall₂ keyed rest
    rw [List.map_cons, List.nodup_cons] at distinct
    rw [Ordered.modify_cons, List.forall₂_cons_left_iff]
    simp only [List.map_cons, keyed m a first]
    by_cases here : m.1 = name
    · have changed :=
        each m.2 a (by simp [← here]) List.mem_cons_self (by simpa [← here] using first)
      have fresh : name ∉ members.map Prod.fst := here ▸ distinct.1
      -- No other thing has the name, so the rest is read as before.
      have others (b : β) : as.map (fun a => if key a = name then change b a else a) = as := by
        refine (List.map_congr_left ?_).trans (List.map_id as)
        intro a mem
        refine if_neg ?_
        intro same
        refine fresh ?_
        rw [← keys, ← same]
        exact List.mem_map_of_mem mem
      simp only [if_pos here, others, Ordered.modify_of_not_mem f fresh]
      constructor
      · rintro ⟨a', as', first', rest', rfl⟩
        obtain ⟨b, holds, rfl⟩ := (changed a').mp (by simpa [← here] using first')
        obtain rfl := List.right_unique_forall₂' unique rest rest'
        exact ⟨b, holds, rfl⟩
      · rintro ⟨b, holds, rfl⟩
        have first' := (changed (change b a)).mpr ⟨b, holds, rfl⟩
        exact ⟨_, as, by simpa [here] using first', rest, rfl⟩
    · have present : name ∈ members.map Prod.fst := by
        rw [List.map_cons, List.mem_cons] at present
        exact present.resolve_left fun same => here same.symm
      have others (as' : List α) : List.Forall₂ R (Ordered.modify name f members) as' ↔
          ∃ b, P b ∧ as.map (fun a => if key a = name then change b a else a) = as' :=
        ih distinct.2 present fun value a mem mem' =>
          each value a (List.mem_cons_of_mem _ mem) (List.mem_cons_of_mem _ mem')
      -- The first thing is read as before, and the changed one is found among the rest.
      simp only [if_neg here]
      constructor
      · rintro ⟨a', as', first', rest', rfl⟩
        obtain ⟨b, holds, rfl⟩ := (others as').mp rest'
        obtain rfl := unique m a a' first first'
        exact ⟨b, holds, rfl⟩
      · rintro ⟨b, holds, rfl⟩
        exact ⟨a, _, first, (others _).mpr ⟨b, holds, rfl⟩, rfl⟩

end

/-! ### Decoding after a value was replaced -/

/-- Wherever a value without repeated names describes the old descriptor, the changed value
describes what is made of the old descriptor and one that the new value describes, and nothing
else. -/
def Replaces (new : Value) (f : Value → Value) (change : Descriptor → Descriptor → Descriptor)
    (old : Descriptor) : Prop :=
  ∀ held, DistinctNames held → Descriptor.ofValue held = .ok old → ∀ d,
    Descriptor.ofValue (f held) = .ok d ↔ ∃ u, Descriptor.ofValue new = .ok u ∧ change u old = d

section

variable {value new : Value} {members : List (String × Value)} {m : Member} {held : Value}
  {f : Value → Value} {g : Descriptor → Descriptor → Descriptor} {d : Descriptor}

/-- What is described once a member was changed. -/
theorem ofValue_modifyMember_iff (named : namedMembers? value = some members)
    (distinct : (members.map Prod.fst).Nodup) (there : said? members m = some held) :
    Descriptor.ofValue (modifyMember m f value) = .ok d ↔
      ∃ said, Says (Function.update (said? members) m (some (f held))) {} said ∧
        said.descriptor = d := by
  have distinct' : ((Ordered.modify m.name f members).map Prod.fst).Nodup := by
    rw [Ordered.map_fst_modify]
    exact distinct
  have said (d' : Description) : describe (Ordered.modify m.name f members) {} = .ok d' ↔
      Says (said? (Ordered.modify m.name f members)) {} d' := describe_eq_ok_iff distinct'
  rw [said?_modify, there, Option.map_some] at said
  rw [ofValue_eq_ok_iff, namedMembers?_modifyMember, named, Option.map_some]
  constructor
  · rintro ⟨_, d', ⟨⟩, read, rfl⟩
    exact ⟨d', (said d').mp read, rfl⟩
  · rintro ⟨d', told, rfl⟩
    exact ⟨_, d', rfl, (said d').mpr told, rfl⟩

/-- The descriptors that are described when only one thing that is said may be another. -/
theorem exists_described_iff {α : Type} {P : Descriptor → Prop} {change : Descriptor → α}
    {put : α → Description} {result : Descriptor → Descriptor}
    (h : ∀ u, (put (change u)).descriptor = result u) :
    (∃ said, (∃ a, (∃ u, P u ∧ change u = a) ∧ put a = said) ∧ said.descriptor = d) ↔
      ∃ u, P u ∧ result u = d := by
  constructor
  · rintro ⟨_, ⟨_, ⟨u, holds, rfl⟩, rfl⟩, rfl⟩
    exact ⟨u, holds, (h u).symm⟩
  · rintro ⟨u, holds, rfl⟩
    exact ⟨_, ⟨_, ⟨u, holds, rfl⟩, rfl⟩, h u⟩

/-- Another value for the items of an array. -/
theorem ofValue_modifyItems_iff {item : Descriptor} {required : Bool} (names : DistinctNames value)
    (decoded : Descriptor.ofValue value = .ok (.mk (.array item) required))
    (solid : ∀ held, isNull held = false → isNull (f held) = false)
    (each : Replaces new f g item) :
    Descriptor.ofValue (modifyMember .items f value) = .ok d ↔
      ∃ u, Descriptor.ofValue new = .ok u ∧ .mk (.array (g u item)) required = d := by
  obtain ⟨members, said, named, read, same⟩ := ofValue_eq_ok_iff.mp decoded
  obtain ⟨kind, rfl⟩ := Descriptor.mk.inj same
  obtain ⟨tag, items⟩ := kind_eq_array_iff.mp kind
  obtain ⟨distinct, inside⟩ := names.namedMembers named
  have told := (describe_eq_ok_iff distinct).mp read
  obtain ⟨held, there, ok⟩ := exists_of_elim_eq_ok_some (told.items.trans (congrArg _ items))
  -- The items were not null and are not null now, so they are read as a descriptor again.
  obtain ⟨solid', decoded'⟩ := optionalItem_eq_ok_some_iff.mp ok
  have changed (items : Option Descriptor) : optionalItem (f held) = .ok items ↔
      ∃ u, Descriptor.ofValue new = .ok u ∧ some (g u item) = items := by
    have names' := inside _ ((Ordered.value?_eq_some_iff distinct).mp there)
    simp only [optionalItem_eq_ok_iff (solid held solid'), each held names' decoded']
    constructor
    · rintro ⟨_, ⟨u, read, rfl⟩, rfl⟩
      exact ⟨u, read, rfl⟩
    · rintro ⟨u, read, rfl⟩
      exact ⟨_, ⟨u, read, rfl⟩, rfl⟩
  rw [ofValue_modifyMember_iff named distinct there]
  simp only [says_update_items_iff told, changed]
  exact exists_described_iff fun u => descriptor_of_array tag rfl

/-- Another value for one of the members that describe fields. -/
theorem fieldsOfMembers_modify_iff {fields fields' : Fields} {name : String} {field : Descriptor}
    (names : DistinctNames (.object members)) (decoded : fieldsOfMembers members = .ok fields)
    (there : Ordered.value? name fields = some field) (each : Replaces new f g field) :
    fieldsOfMembers (Ordered.modify name f members) = .ok fields' ↔
      ∃ u, Descriptor.ofValue new = .ok u ∧ Ordered.modify name (g u) fields = fields' := by
  obtain ⟨distinct, inside⟩ := names
  have described := (fieldsOfMembers_eq_ok_iff distinct).mp decoded
  have keys : fields.map Prod.fst = members.map Prod.fst :=
    map_key_of_forall₂ (fun _ _ h => h.1) described
  have distinct' : ((Ordered.modify name f members).map Prod.fst).Nodup := by
    rw [Ordered.map_fst_modify]
    exact distinct
  have mem : (name, field) ∈ fields := (Ordered.value?_eq_some_iff (keys ▸ distinct)).mp there
  rw [fieldsOfMembers_eq_ok_iff distinct']
  refine forall₂_modify_iff Prod.fst (fun u pair => (pair.1, g u pair.2))
    (fun _ _ h => h.1) (fun _ _ _ => Describes.unique) described distinct
    (keys ▸ List.mem_map_of_mem mem) ?_
  rintro held ⟨_, field'⟩ heldMem mem' ⟨rfl, decoded'⟩ ⟨name', d⟩
  have same := (Ordered.value?_eq_some_iff (keys ▸ distinct)).mpr mem'
  obtain rfl : field = field' := Option.some.inj (there.symm.trans same)
  have changed := each held (membersDistinct_iff.mp inside _ heldMem) decoded'
  constructor
  · rintro ⟨rfl, ok⟩
    obtain ⟨u, read, rfl⟩ := (changed d).mp ok
    exact ⟨u, read, rfl⟩
  · rintro ⟨u, read, same⟩
    cases same
    exact ⟨rfl, (changed _).mpr ⟨u, read, rfl⟩⟩

/-- Another value for a field of an object. -/
theorem optionalFields_modifyEntry_iff {fields : Fields} {name : String} {field : Descriptor}
    (names : DistinctNames value) (read : optionalFields value = .ok (some fields))
    (there : Ordered.value? name fields = some field) (each : Replaces new f g field)
    {fields' : Option Fields} :
    optionalFields (modifyEntry name f value) = .ok fields' ↔
      ∃ u, Descriptor.ofValue new = .ok u ∧ some (Ordered.modify name (g u) fields) = fields' := by
  obtain ⟨members, rfl, decoded⟩ := optionalFields_eq_ok_some_iff.mp read
  rw [modifyEntry, optionalFields_object, bind_eq_ok_iff]
  simp only [fieldsOfMembers_modify_iff names decoded there each]
  constructor
  · rintro ⟨_, ⟨u, read, rfl⟩, same⟩
    exact ⟨u, read, Except.ok.inj same⟩
  · rintro ⟨u, read, rfl⟩
    exact ⟨_, ⟨u, read, rfl⟩, rfl⟩

/-- Another value for a field of a descriptor of objects. -/
theorem ofValue_modifyField_iff {fields : Fields} {required : Bool} {name : String}
    {field : Descriptor} (names : DistinctNames value)
    (decoded : Descriptor.ofValue value = .ok (.mk (.object fields) required))
    (there : Ordered.value? name fields = some field) (each : Replaces new f g field) :
    Descriptor.ofValue (modifyMember (fieldsMember value) (modifyEntry name f) value) = .ok d ↔
      ∃ u, Descriptor.ofValue new = .ok u ∧
        .mk (.object (Ordered.modify name (g u) fields)) required = d := by
  obtain ⟨members, said, named, read, same⟩ := ofValue_eq_ok_iff.mp decoded
  obtain ⟨kind, rfl⟩ := Descriptor.mk.inj same
  obtain ⟨tag, fields'⟩ := kind_eq_object_iff.mp kind
  obtain ⟨distinct, inside⟩ := names.namedMembers named
  have told := (describe_eq_ok_iff distinct).mp read
  -- The properties come before the fields, and `fieldsMember` finds the ones that were used.
  rcases Option.or_eq_some_iff.mp fields' with properties | ⟨nothing, fields'⟩
  · obtain ⟨held, held?, ok⟩ :=
      exists_of_elim_eq_ok_some (told.properties.trans (congrArg _ properties))
    have member : fieldsMember value = .properties := by
      obtain ⟨_, rfl, -⟩ := optionalFields_eq_ok_some_iff.mp ok
      rw [fieldsMember, named, Option.bind_some, held?]
      rfl
    have names' := inside _ ((Ordered.value?_eq_some_iff distinct).mp held?)
    rw [member, ofValue_modifyMember_iff named distinct held?]
    simp only [says_update_properties_iff told, optionalFields_modifyEntry_iff names' ok there each]
    exact exists_described_iff fun u => descriptor_of_object tag rfl
  · obtain ⟨held, held?, ok⟩ := exists_of_elim_eq_ok_some (told.fields.trans (congrArg _ fields'))
    have member : fieldsMember value = .fields := by
      -- Properties that say nothing are missing or null.
      have silent := told.properties.trans (congrArg _ nothing)
      rw [fieldsMember, named, Option.bind_some]
      cases properties : said? members .properties with
      | none => rfl
      | some other =>
        rw [properties] at silent
        obtain rfl := optionalFields_eq_ok_none silent
        rfl
    have names' := inside _ ((Ordered.value?_eq_some_iff distinct).mp held?)
    rw [member, ofValue_modifyMember_iff named distinct held?]
    simp only [says_update_fields_iff told, optionalFields_modifyEntry_iff names' ok there each]
    exact exists_described_iff fun u => descriptor_of_object tag (by rw [nothing]; rfl)

end

/-- Items that are there stay there, whatever is replaced inside them. -/
theorem isNull_replaceValueAt {new value : Value} (h : isNull new = false)
    (h' : isNull value = false) (steps : List Step) :
    isNull (replaceValueAt new steps value) = false := by
  cases steps with
  | nil => exact h
  | cons step steps =>
    cases step <;> cases value <;> first | rfl | exact h'

/-- Once another value is in place of the one that describes the descriptor to which steps lead, the
same is decoded but for that descriptor, which is the one that the value describes. -/
theorem replaces_replaceValueAt {new : Value} (solid : isNull new = false) (steps : List Step)
    {d inner : Descriptor} (there : d.at? steps = some inner) :
    Replaces new (replaceValueAt new steps) (fun u => Descriptor.replaceAt u steps) d := by
  induction steps generalizing d with
  | nil =>
    intro value _ _ d'
    simp [replaceValueAt, Descriptor.replaceAt]
  | cons step steps ih =>
    intro value names decoded d'
    cases step with
    | item =>
      obtain ⟨item, required, rfl, there⟩ := at?_item_eq_some there
      have solid' (held : Value) (h : isNull held = false) :
          isNull (replaceValueAt new steps held) = false := isNull_replaceValueAt solid h steps
      exact ofValue_modifyItems_iff names decoded solid' (ih there)
    | field name =>
      obtain ⟨fields, required, field, rfl, found, there⟩ := at?_field_eq_some there
      exact ofValue_modifyField_iff names decoded found (ih there)

/-! ### Documents -/

/-- The name of the member that holds the fields of an object type. -/
def bodyFieldsName (members : List (String × Value)) : String :=
  if (Ordered.value? "properties" members).isSome then "properties" else "fields"

/-- The body of an object type, with another value in place of the one that describes the descriptor
at a location. -/
def replaceInBody (new : Value) (l : Location) : Value → Value
  | .object members =>
    .object (Ordered.modify (bodyFieldsName members)
      (modifyEntry l.field (replaceValueAt new l.steps)) members)
  | body => body

/-- A document, with another value in place of the one that describes the descriptor at a
location. -/
def replaceInDocument (new : Value) (l : Location) : Value → Value :=
  modifyEntry l.type (replaceInBody new l)

theorem bodyFields?_eq_value? (members : List (String × Value)) :
    bodyFields? members = Ordered.value? (bodyFieldsName members) members := by
  rw [bodyFields?, bodyFieldsName]
  cases properties : Ordered.value? "properties" members with
  | none => rfl
  | some value => simpa using properties.symm

/-- Which of the two members is used does not depend on what it holds. -/
theorem bodyFieldsName_modify (name : String) (f : Value → Value)
    (members : List (String × Value)) :
    bodyFieldsName (Ordered.modify name f members) = bodyFieldsName members := by
  rw [bodyFieldsName, Ordered.value?_modify, bodyFieldsName]
  split <;> simp

section

variable {new : Value} {l : Location}

/-- Another value for a descriptor in the body of an object type. -/
theorem fieldsOfBody_replaceInBody_iff (solid : isNull new = false) {body : Value}
    {fields fields' : Fields} {field inner : Descriptor} (names : DistinctNames body)
    (read : fieldsOfBody body = .ok fields) (found : Ordered.value? l.field fields = some field)
    (there : field.at? l.steps = some inner) :
    fieldsOfBody (replaceInBody new l body) = .ok fields' ↔
      ∃ u, Descriptor.ofValue new = .ok u ∧
        Ordered.modify l.field (Descriptor.replaceAt u l.steps) fields = fields' := by
  obtain ⟨members, described, rfl, held, decoded⟩ := fieldsOfBody_eq_ok_iff.mp read
  obtain ⟨distinct, inside⟩ := names
  rw [bodyFields?_eq_value?] at held
  have names' : DistinctNames (.object described) :=
    membersDistinct_iff.mp inside _ ((Ordered.value?_eq_some_iff distinct).mp held)
  have held' : bodyFields? (Ordered.modify (bodyFieldsName members)
      (modifyEntry l.field (replaceValueAt new l.steps)) members) =
        some (.object (Ordered.modify l.field (replaceValueAt new l.steps) described)) := by
    rw [bodyFields?_eq_value?, bodyFieldsName_modify, Ordered.value?_modify, if_pos rfl, held]
    rfl
  have changed : fieldsOfMembers (Ordered.modify l.field (replaceValueAt new l.steps) described) =
      .ok fields' ↔ ∃ u, Descriptor.ofValue new = .ok u ∧
        Ordered.modify l.field (Descriptor.replaceAt u l.steps) fields = fields' :=
    fieldsOfMembers_modify_iff names' decoded found (replaces_replaceValueAt solid l.steps there)
  rw [replaceInBody, fieldsOfBody_eq_ok_iff, ← changed]
  constructor
  · rintro ⟨_, _, ⟨⟩, held, decoded⟩
    cases held'.symm.trans held
    exact decoded
  · exact fun decoded => ⟨_, _, rfl, held', decoded⟩

/-- Another value for a descriptor in an object type. -/
theorem ObjectType.ofValue_replaceInBody_iff (solid : isNull new = false) {name : String}
    {body : Value} {t t' : ObjectType} {field inner : Descriptor} (names : DistinctNames body)
    (decoded : ObjectType.ofValue name body = .ok t)
    (found : Ordered.value? l.field t.fields = some field)
    (there : field.at? l.steps = some inner) :
    ObjectType.ofValue name (replaceInBody new l body) = .ok t' ↔
      ∃ u, Descriptor.ofValue new = .ok u ∧
        ⟨t.name, Ordered.modify l.field (Descriptor.replaceAt u l.steps) t.fields⟩ = t' := by
  obtain ⟨rfl, read⟩ := ObjectType.ofValue_eq_ok_iff.mp decoded
  rw [ObjectType.ofValue_eq_ok_iff, fieldsOfBody_replaceInBody_iff solid names read found there]
  constructor
  · rintro ⟨same, u, ok, fields⟩
    refine ⟨u, ok, ?_⟩
    cases t'
    exact congrArg₂ ObjectType.mk same.symm fields
  · rintro ⟨u, ok, rfl⟩
    exact ⟨rfl, u, ok, rfl⟩

/-- Once another value is in place of the one that describes the descriptor at a location, the same
document is decoded but for that descriptor, which is the one that the value describes. -/
theorem Document.ofValue_replaceInDocument (solid : isNull new = false) {value : Value}
    {d d' : Document} (names : DistinctNames value) (decoded : Document.ofValue value = .ok d)
    (there : (d.at? l).isSome) :
    Document.ofValue (replaceInDocument new l value) = .ok d' ↔
      ∃ u, Descriptor.ofValue new = .ok u ∧ d.replaceAt u l = d' := by
  obtain ⟨members, types, rfl, read, rfl⟩ := Document.ofValue_eq_ok_iff.mp decoded
  obtain ⟨distinct, inside⟩ := names
  have described := readTypes_eq_ok_iff.mp read
  have keyed (m : String × Value) (t : ObjectType) (h : ObjectType.ofValue m.1 m.2 = .ok t) :
      t.name = m.1 := (ObjectType.ofValue_eq_ok_iff.mp h).1
  have keys : types.map ObjectType.name = members.map Prod.fst := map_key_of_forall₂ keyed described
  -- The types have distinct names, so the document has them just as they were read.
  have same : (Document.ofTypes types).types = types := Document.types_ofTypes (keys ▸ distinct)
  obtain ⟨inner, there⟩ := Option.isSome_iff_exists.mp there
  obtain ⟨t, isThere, there⟩ := Option.bind_eq_some_iff.mp there
  obtain ⟨field, found, there⟩ := Option.bind_eq_some_iff.mp there
  rw [Document.get?, same] at isThere
  have changed (types' : List ObjectType) :
      readTypes (Ordered.modify l.type (replaceInBody new l) members) = .ok types' ↔
        ∃ u, Descriptor.ofValue new = .ok u ∧ types.map (ObjectType.replaceAt u l) = types' := by
    rw [readTypes_eq_ok_iff]
    refine forall₂_modify_iff ObjectType.name (fun u t =>
        ⟨t.name, Ordered.modify l.field (Descriptor.replaceAt u l.steps) t.fields⟩)
      keyed (fun _ _ _ h h' => Except.ok.inj (h.symm.trans h')) described distinct ?_ ?_
    · rw [← keys, ← Ordered.key_of_get? isThere]
      exact List.mem_map_of_mem (List.mem_of_find?_eq_some isThere)
    · intro body t' mem mem' decoded' t''
      have there' := Ordered.get?_of_mem (keys ▸ distinct) mem'
      rw [keyed _ _ decoded'] at there'
      obtain rfl : t = t' := Option.some.inj (isThere.symm.trans there')
      have names := membersDistinct_iff.mp inside _ mem
      exact ObjectType.ofValue_replaceInBody_iff solid names decoded' found there
  have replaced (u : Descriptor) :
      Document.ofTypes (types.map (ObjectType.replaceAt u l)) =
        (Document.ofTypes types).replaceAt u l := by
    have distinct' : ((types.map (ObjectType.replaceAt u l)).map ObjectType.name).Nodup := by
      rw [map_name_map_replaceAt, keys]
      exact distinct
    exact Document.ext ((Document.types_ofTypes distinct').trans (congrArg _ same.symm))
  rw [replaceInDocument, modifyEntry, Document.ofValue_eq_ok_iff]
  constructor
  · rintro ⟨_, types', ⟨⟩, read', rfl⟩
    obtain ⟨u, ok, rfl⟩ := (changed types').mp read'
    exact ⟨u, ok, (replaced u).symm⟩
  · rintro ⟨u, ok, rfl⟩
    exact ⟨_, _, rfl, (changed _).mpr ⟨u, ok, rfl⟩, replaced u⟩

end

end ValidatorGen.Schema
