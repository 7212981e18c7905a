import ValidatorGen.Proofs.Schema.Blame

/-!
# What counts in the description of a document

Of an object type only the fields count, and of a field only the known members; a tag that is not a
text is like none. Everything else may be there or not, in any order and with any value, at every
level: what is decoded is the same, and so is what is blamed if nothing can be decoded.

## Main definitions

* `relevant`, `relevantFields` — what counts in the description of a field, or of fields
* `relevantBody`, `relevantDocument` — what counts in the body of an object type, or in a document

## Main results

* `ofValue_relevant` — a descriptor is decoded from what counts
* `fieldsOfBody_relevantBody` — so are the fields of an object type
* `Document.ofValue_relevantDocument` — so is a document
* `Document.ofValue_eq_of_relevantDocument_eq` — nothing else has any influence
* `relevantMembers_insert`, `relevantBody_insert` — members that make no difference
-/

namespace ValidatorGen.Schema

open Json

/-- Whether a member counts: a tag only does if it is a text. -/
def Member.counts (m : Member) (value : Value) : Bool := m ≠ .type || (text? value).isSome

/-- What counts in the value of a member, if it is known what counts in it as the description of a
field and as fields. -/
def Member.relevant (m : Member) (value item fields : Value) : Value :=
  match m with
  | .type | .format | .isImplied => value
  | .items => item
  | .properties | .fields => fields

mutual

/-- What counts in the description of a field. -/
def relevant : Value → Value
  | .object members => .object (relevantMembers members)
  | .array items => .array (relevantItems Member.all items)
  | value => value

/-- The members of a description that count. -/
def relevantMembers : List (String × Value) → List (String × Value)
  | [] => []
  | (name, value) :: members =>
    match Member.ofName? name with
    | some m =>
      if m.counts value then
        (name, m.relevant value (relevant value) (relevantFields value)) :: relevantMembers members
      else relevantMembers members
    | none => relevantMembers members

/-- What counts in items that stand for members. Each of them has its place, so none is left out. -/
def relevantItems : List Member → List Value → List Value
  | m :: members, value :: values =>
    m.relevant value (relevant value) (relevantFields value) :: relevantItems members values
  | _, values => values

/-- What counts in fields. -/
def relevantFields : Value → Value
  | .object members => .object (relevantEach members)
  | value => value

/-- What counts in the descriptions of fields. -/
def relevantEach : List (String × Value) → List (String × Value)
  | [] => []
  | (name, value) :: members => (name, relevant value) :: relevantEach members

end

/-- What counts in the member of an object type, if it does at all. -/
def relevantBodyMember (m : String × Value) : Option (String × Value) :=
  if m.1 = "properties" ∨ m.1 = "fields" then some (m.1, relevantFields m.2) else none

/-- What counts in the body of an object type. -/
def relevantBody : Value → Value
  | .object members => .object (members.filterMap relevantBodyMember)
  | value => value

/-- What counts in a document. -/
def relevantDocument : Value → Value
  | .object members => .object (members.map fun m => (m.1, relevantBody m.2))
  | value => value

/-! ### Changes that make no difference -/

theorem relevantMembers_append (members others : List (String × Value)) :
    relevantMembers (members ++ others) = relevantMembers members ++ relevantMembers others := by
  induction members with
  | nil => rfl
  | cons m members ih =>
    obtain ⟨name, value⟩ := m
    rw [List.cons_append, relevantMembers, relevantMembers, ih]
    split
    · split <;> rfl
    · rfl

/-- In a description, a member that is not known makes no difference wherever it is put, nor does a
tag that is not a text. -/
theorem relevantMembers_insert {name : String} {value : Value}
    (h : ∀ m, Member.ofName? name = some m → m.counts value = false)
    (members others : List (String × Value)) :
    relevantMembers (members ++ (name, value) :: others) = relevantMembers (members ++ others) := by
  have dropped : relevantMembers ((name, value) :: others) = relevantMembers others := by
    rw [relevantMembers]
    cases known : Member.ofName? name with
    | none => rfl
    | some m =>
      dsimp only
      rw [if_neg (by rw [h m known]; decide)]
  rw [relevantMembers_append, dropped, relevantMembers_append]

/-- In the body of an object type, a member by any other name than two makes no difference. -/
theorem relevantBody_insert {name : String} (h : ¬(name = "properties" ∨ name = "fields"))
    (value : Value) (members others : List (String × Value)) :
    relevantBody (.object (members ++ (name, value) :: others)) =
      relevantBody (.object (members ++ others)) := by
  have dropped : relevantBodyMember (name, value) = none := if_neg h
  rw [relevantBody, relevantBody, List.filterMap_append, List.filterMap_cons_none dropped,
    List.filterMap_append]

/-! ### Descriptors -/

theorem isNull_relevant (value : Value) : isNull (relevant value) = isNull value := by
  cases value <;> rfl

theorem length_relevantItems (members : List Member) (values : List Value) :
    (relevantItems members values).length = values.length := by
  induction values generalizing members with
  | nil => cases members <;> rfl
  | cons value values ih =>
    cases members with
    | nil => rfl
    | cons m members => rw [relevantItems, List.length_cons, List.length_cons, ih]

/-- Only the member for the tag changes the tag. -/
theorem tag_of_describeMember {m : Member} (other : m ≠ .type) {value : Value}
    {item : Unit → Except Rejection Descriptor} {fields : Unit → Except Rejection (Option Fields)}
    {d d' : Description} (h : describeMember m value item fields d = .ok d') : d'.tag = d.tag := by
  cases m with
  | type => exact absurd rfl other
  | items =>
    rw [describeMember] at h
    split at h
    · cases h
      rfl
    · obtain ⟨item, -, h⟩ := bind_eq_ok_iff.mp h
      cases h
      rfl
  | format | isImplied | properties | fields =>
    obtain ⟨said, -, h⟩ := bind_eq_ok_iff.mp h
    cases h
    rfl

/-- A member says what the part of its value says that counts. -/
theorem describeMember_relevant (m : Member) {value : Value}
    (item : Descriptor.ofValue (relevant value) = Descriptor.ofValue value)
    (fields : optionalFields (relevantFields value) = optionalFields value) (d : Description) :
    describeMember m (m.relevant value (relevant value) (relevantFields value))
        (fun _ => Descriptor.ofValue (m.relevant value (relevant value) (relevantFields value)))
        (fun _ => optionalFields (m.relevant value (relevant value) (relevantFields value))) d =
      describeMember m value (fun _ => Descriptor.ofValue value)
        (fun _ => optionalFields value) d := by
  cases m with
  | type | format | isImplied => rfl
  | items => simp only [describeMember, Member.relevant, isNull_relevant, item]
  | properties | fields => simp only [describeMember, Member.relevant, fields]

-- A tag that does not count leaves no trace only if none has been said before. The names are
-- distinct, so this holds of every description met on the way: the tag comes once.
mutual

/-- A descriptor is decoded from what counts in its description. -/
theorem ofValue_relevant : ∀ value : Value, DistinctNames value →
    Descriptor.ofValue (relevant value) = Descriptor.ofValue value
  | .object members => by
    intro distinct
    have each := describe_relevantMembers members distinct.1 distinct.2 {} fun _ => rfl
    rw [relevant, Descriptor.ofValue, Descriptor.ofValue, each]
  | .array items => by
    intro distinct
    -- No item is left out, so what would be too many items still are.
    have each := describeInOrder_relevantItems items distinct items.length Member.all {}
    rw [relevant, Descriptor.ofValue, Descriptor.ofValue, length_relevantItems, each]
  | .null | .bool _ | .number _ | .string _ => fun _ => rfl

theorem describe_relevantMembers : ∀ members : List (String × Value),
    (members.map Prod.fst).Nodup → MembersDistinct members → ∀ d : Description,
      (Member.type.name ∈ members.map Prod.fst → d.tag = none) →
        describe (relevantMembers members) d = describe members d
  | [] => fun _ _ _ _ => rfl
  | (name, value) :: members => by
    intro nodup distinct d untold
    rw [List.map_cons, List.nodup_cons] at nodup
    have item := ofValue_relevant value distinct.1
    have fields := optionalFields_relevantFields value distinct.1
    have rest := describe_relevantMembers members nodup.2 distinct.2
    have later : Member.type.name ∈ members.map Prod.fst → d.tag = none := fun mem =>
      untold (List.mem_cons_of_mem name mem)
    rw [relevantMembers]
    cases known : Member.ofName? name with
    | none =>
      rw [describe, known]
      exact rest d later
    | some m =>
      have named := Member.name_of_ofName? known
      dsimp only
      by_cases counts : m.counts value
      · rw [if_pos counts, describe, describe, known]
        dsimp only
        rw [describeMember_relevant m item fields]
        apply bind_congr_ok
        intro d' said
        apply rest
        intro mem
        -- The tag is still to come, so the member at hand is another one.
        have other : m ≠ .type := by
          intro same
          rw [same] at named
          exact nodup.1 (named ▸ mem)
        rw [tag_of_describeMember other said, later mem]
      · obtain ⟨rfl, none⟩ : m = .type ∧ text? value = none := by
          simpa [Member.counts] using counts
        have tag : d.tag = Option.none := untold (named ▸ List.mem_cons_self)
        have same : { d with tag := text? value } = d := by rw [none, ← tag]
        rw [if_neg counts, describe, known]
        dsimp only
        rw [describeMember, same]
        exact rest d later

theorem describeInOrder_relevantItems : ∀ values : List Value, ItemsDistinct values →
    ∀ (length : Nat) (members : List Member) (d : Description),
      describeInOrder length members (relevantItems members values) d =
        describeInOrder length members values d
  | [] => by
    intro _ length members d
    cases members <;> rfl
  | value :: values => by
    intro distinct length members d
    have item := ofValue_relevant value distinct.1
    have fields := optionalFields_relevantFields value distinct.1
    have rest := describeInOrder_relevantItems values distinct.2 length
    cases members with
    | nil => rfl
    | cons m members =>
      rw [relevantItems, describeInOrder, describeInOrder, describeMember_relevant m item fields]
      simp only [rest]

/-- Fields are decoded from what counts in them. -/
theorem optionalFields_relevantFields : ∀ value : Value, DistinctNames value →
    optionalFields (relevantFields value) = optionalFields value
  | .object members => by
    intro distinct
    rw [relevantFields, optionalFields, optionalFields,
      decodeFields_relevantEach members distinct.2]
  | .null | .bool _ | .number _ | .string _ | .array _ => fun _ => rfl

theorem decodeFields_relevantEach : ∀ members : List (String × Value), MembersDistinct members →
    ∀ known : Fields, decodeFields (relevantEach members) known = decodeFields members known
  | [] => fun _ _ => rfl
  | (name, value) :: members => by
    intro distinct known
    have first := ofValue_relevant value distinct.1
    have rest := decodeFields_relevantEach members distinct.2
    rw [relevantEach, decodeFields, decodeFields, first]
    simp only [rest]

end

/-! ### Object types and documents -/

theorem readFields_relevantEach {members : List (String × Value)} (h : MembersDistinct members)
    (known : Fields) : readFields (relevantEach members) known = readFields members known := by
  induction members generalizing known with
  | nil => rfl
  | cons m members ih =>
    obtain ⟨name, value⟩ := m
    rw [relevantEach, readFields, readFields, ofValue_relevant value h.1]
    simp only [ih h.2]

/-- Under the two names that count in the body of an object type, what counts is found. -/
theorem value?_filterMap_relevantBodyMember {name : String}
    (h : name = "properties" ∨ name = "fields") (members : List (String × Value)) :
    Ordered.value? name (members.filterMap relevantBodyMember) =
      (Ordered.value? name members).map relevantFields := by
  induction members with
  | nil => rfl
  | cons m members ih =>
    rw [Ordered.value?_cons]
    by_cases counts : m.1 = "properties" ∨ m.1 = "fields"
    · have kept : relevantBodyMember m = some (m.1, relevantFields m.2) := if_pos counts
      rw [List.filterMap_cons_some kept, Ordered.value?_cons, ih]
      by_cases here : m.1 = name
      · rw [if_pos here, if_pos here, Option.map_some]
      · rw [if_neg here, if_neg here]
    · have dropped : relevantBodyMember m = none := if_neg counts
      have other : m.1 ≠ name := fun same => counts (same ▸ h)
      rw [List.filterMap_cons_none dropped, ih, if_neg other]

theorem bodyFields?_filterMap_relevantBodyMember (members : List (String × Value)) :
    bodyFields? (members.filterMap relevantBodyMember) =
      (bodyFields? members).map relevantFields := by
  -- Whether the first name is there at all decides if the second one is looked at.
  rw [bodyFields?, bodyFields?, value?_filterMap_relevantBodyMember (.inl rfl),
    value?_filterMap_relevantBodyMember (.inr rfl)]
  cases Ordered.value? "properties" members <;> rfl

/-- What is found in a body has distinct names if the body has. -/
theorem distinctNames_of_bodyFields? {members : List (String × Value)} {held : Value}
    (h : DistinctNames (.object members)) (found : bodyFields? members = some held) :
    DistinctNames held := by
  have inside {name : String} (here : Ordered.value? name members = some held) :
      DistinctNames held :=
    membersDistinct_iff.mp h.2 _ (Ordered.mem_of_value? here)
  rcases Option.or_eq_some_iff.mp found with properties | ⟨-, fields⟩
  · exact inside properties
  · exact inside fields

/-- The fields of an object type are decoded from what counts in its body. -/
theorem fieldsOfBody_relevantBody {body : Value} (h : DistinctNames body) :
    fieldsOfBody (relevantBody body) = fieldsOfBody body := by
  cases body with
  | object members =>
    rw [relevantBody, fieldsOfBody_object, fieldsOfBody_object,
      bodyFields?_filterMap_relevantBodyMember]
    cases found : bodyFields? members with
    | none => rfl
    | some held =>
      have distinct := distinctNames_of_bodyFields? h found
      cases held with
      | object fields => exact readFields_relevantEach distinct.2 []
      | null | bool | number | string | array => rfl
  | null | bool | number | string | array => rfl

theorem readTypes_map_relevantBody {members : List (String × Value)} (h : MembersDistinct members) :
    readTypes (members.map fun m => (m.1, relevantBody m.2)) = readTypes members := by
  induction members with
  | nil => rfl
  | cons m members ih =>
    obtain ⟨name, body⟩ := m
    rw [List.map_cons, readTypes, readTypes, ObjectType.ofValue, ObjectType.ofValue,
      fieldsOfBody_relevantBody h.1, ih h.2]

/-- A document is decoded from what counts in it. -/
theorem Document.ofValue_relevantDocument {value : Value} (h : DistinctNames value) :
    Document.ofValue (relevantDocument value) = Document.ofValue value := by
  cases value with
  | object members =>
    rw [relevantDocument, Document.ofValue, Document.ofValue, readTypes_map_relevantBody h.2]
  | null | bool | number | string | array => rfl

/-- Two values that differ in nothing that counts are decoded as the same document, or nothing is
decoded and the same is blamed. -/
theorem Document.ofValue_eq_of_relevantDocument_eq {value value' : Value}
    (distinct : DistinctNames value) (distinct' : DistinctNames value')
    (same : relevantDocument value = relevantDocument value') :
    Document.ofValue value = Document.ofValue value' := by
  rw [← Document.ofValue_relevantDocument distinct, same,
    Document.ofValue_relevantDocument distinct']

/-- A document with nothing in it that does not count. -/
def bareOrders : Value :=
  .object [("orders", .object [("properties", .object [
    ("lines", .object [("type", .string "array"), ("items", .object [("format", .string "date")])]),
    ("total", .object [("isImplied", .bool true), ("fields", .number (.integer 3))])])])]

/-- The same document with notes in it, and with a tag that is not a text. -/
def annotatedOrders : Value :=
  .object [("orders", .object [("title", .null), ("properties", .object [
    ("lines", .object [("note", .array []), ("type", .string "array"),
      ("items", .object [("type", .bool true), ("format", .string "date"), ("Type", .null)])]),
    ("total", .object [("isImplied", .bool true), ("fields", .number (.integer 3)),
      ("type", .object [("fields", .null)])])])])]

theorem Document.ofValue_eq_of_relevantDocument_eq_orders :
    DistinctNames bareOrders ∧ DistinctNames annotatedOrders ∧
      relevantDocument bareOrders = relevantDocument annotatedOrders ∧
      Document.ofValue bareOrders = Document.ofValue annotatedOrders ∧
      Document.ofValue bareOrders = .error (.malformed (some "orders")
        (.badField "total" (.mismatch (.ofValue (.number (.integer 3))) .fields))) := by
  have distinct : DistinctNames bareOrders := by
    simp [bareOrders, DistinctNames, MembersDistinct]
  have distinct' : DistinctNames annotatedOrders := by
    simp [annotatedOrders, DistinctNames, MembersDistinct, ItemsDistinct]
  have same : relevantDocument bareOrders = relevantDocument annotatedOrders := rfl
  exact ⟨distinct, distinct', same,
    Document.ofValue_eq_of_relevantDocument_eq distinct distinct' same, rfl⟩

end ValidatorGen.Schema
