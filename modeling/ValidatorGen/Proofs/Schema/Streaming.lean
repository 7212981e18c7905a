import ValidatorGen.Proofs.Schema.Containers
import ValidatorGen.Schema.Streaming

/-!
# Reading descriptors straight from text

The description of a descriptor, however it is spelled, is read straight from the text as the
descriptor that comes back of its value, if not more containers stand inside one another than may be
opened. If more do, the text is rejected for that and for nothing else.

## Main definitions

* `Comes` — reading comes to something if it fits, and finds the text too deep otherwise

## Main results

* `descriptorAt_ahead` — what reading a descriptor comes to, whatever follows
* `Descriptor.ofText_of_spells` — the same for a whole text
-/

namespace ValidatorGen.Schema

open Json

variable {α β : Type} {fits fits' : Prop} {x : Except TextError α}

/-- Reading comes to `a` if it fits, and finds too many containers inside one another otherwise. -/
structure Comes (fits : Prop) (x : Except TextError α) (a : α) : Prop where
  /-- What fits is read. -/
  ok : fits → x = .ok a
  /-- Nothing else is wrong with what does not. -/
  tooDeep : ¬fits → ∃ p, x = .error (.notJson ⟨.tooDeep, p⟩)

theorem comes_ok (a : α) : Comes True (.ok a) a := ⟨fun _ => rfl, fun none => absurd trivial none⟩

theorem Comes.congr {a : α} (h : Comes fits x a) (same : fits ↔ fits') : Comes fits' x a :=
  ⟨fun fit => h.ok (same.mpr fit), fun none => h.tooDeep fun fit => none (same.mp fit)⟩

/-- Two readings in a row come to something if both fit. -/
theorem Comes.bind {a : α} {f : α → Except TextError β} {b : β} (h : Comes fits x a)
    (h' : Comes fits' (f a) b) : Comes (fits ∧ fits') (x >>= f) b := by
  constructor
  · rintro ⟨fit, fit'⟩
    rw [h.ok fit]
    exact h'.ok fit'
  · intro none
    by_cases fit : fits
    · obtain ⟨p, failed⟩ := h'.tooDeep fun fit' => none ⟨fit, fit'⟩
      rw [h.ok fit]
      exact ⟨p, failed⟩
    · obtain ⟨p, failed⟩ := h.tooDeep fit
      rw [failed]
      exact ⟨p, rfl⟩

theorem Comes.map {a : α} (h : Comes fits x a) (f : α → β) :
    Comes fits (x >>= fun a => .ok (f a)) (f a) :=
  (h.bind (comes_ok (f a))).congr (and_iff_left trivial)

variable {levels : Nat} {d d₁ d' : Description} {m : Member} {value : Value}
  {members : List (String × Value)}

/-- A member that says `d₁` after `d` is read as it should, after blanks and whatever follows. -/
def MemberRead (levels : Nat) (fits : Prop) (m : Member) (value : Value) (d d₁ : Description) :
    Prop :=
  ∀ (blanks text : List Char) (fuel : Nat), Blanks blanks → Spells value text →
    4 * text.length + 2 ≤ fuel → ∀ rest p,
      Comes fits (memberAt fuel levels m d (ahead (blanks ++ text) rest p))
        (d₁, ⟨rest, (p.past blanks).past text⟩)

/-- Members that say `d'` after `d` are read as they should, whatever follows. None of them has been
seen before. -/
def MembersRead (levels : Nat) (fits : Prop) (members : List (String × Value))
    (d d' : Description) : Prop :=
  ∀ (first : Bool) (seen : List Member) (body : List Char) (fuel : Nat),
    SpellsMembers first members body → (∀ m ∈ seen, m.name ∉ members.map Prod.fst) →
      4 * body.length + 2 ≤ fuel → ∀ rest p,
        Comes fits (membersAt fuel levels first seen d (ahead body rest p))
          (d', ⟨rest, p.past body⟩)

/-! ### Members of a heading -/

-- The steps that are left are enough by the length of the text: four for each character. A member
-- is read by two functions in turn, each of which takes a step before it looks at a character.

theorem memberRead_type (s : String) (d : Description) :
    MemberRead levels True .type (.string s) d { d with tag := some s } := by
  intro blanks text fuel before spells enough rest p
  obtain ⟨fuel, rfl⟩ : ∃ n, fuel = n + 1 := ⟨fuel - 1, by omega⟩
  -- A tag may be any value, for which the steps are counted anew.
  have steps : 2 * text.length ≤ 2 * (ahead (blanks ++ text) rest p).rest.length + 1 + 1 := by
    simp only [ahead, List.length_append, List.length_map]
    omega
  have read := valueWithin_ahead .text (.string s) spells steps (Nat.zero_le levels) rest
    (p.past blanks)
  rw [← valueWithin_blanks before spells] at read
  have said : memberAt (fuel + 1) levels .type d (ahead (blanks ++ text) rest p) =
      .ok ({ d with tag := some s }, ⟨rest, (p.past blanks).past text⟩) := by
    simp only [memberAt, Cursor.steps, read]
    rfl
  rw [said]
  exact comes_ok _

theorem memberRead_format (s : String) (d : Description) :
    MemberRead levels True .format (.string s) d { d with format := some s } := by
  intro blanks text fuel before spells enough rest p
  obtain ⟨fuel, rfl⟩ : ∃ n, fuel = n + 1 := ⟨fuel - 1, by omega⟩
  rw [Spells, toList_quoted] at spells
  subst spells
  have read := string_ahead s rest ((p.past blanks).after (.char '"'))
  have said : memberAt (fuel + 1) levels .format d
      (ahead (blanks ++ '"' :: (s.toList.flatMap escape ++ ['"'])) rest p) =
        .ok ({ d with format := some s },
          ⟨rest, (p.past blanks).past ('"' :: (s.toList.flatMap escape ++ ['"']))⟩) := by
    simp only [memberAt, textAt, skipBlanks_ahead before (c := '"') (by decide), peek?_ahead,
      advance_ahead, read]
    rfl
  rw [said]
  exact comes_ok _

theorem memberRead_isImplied (d : Description) :
    MemberRead levels True .isImplied (.bool true) d { d with implied := some true } := by
  intro blanks text fuel before spells enough rest p
  obtain ⟨fuel, rfl⟩ : ∃ n, fuel = n + 1 := ⟨fuel - 1, by omega⟩
  have letters : text = ['t', 'r', 'u', 'e'] := spells
  subst letters
  have read := spell_ahead ['t', 'r', 'u', 'e'] rest (p.past blanks)
  have said : memberAt (fuel + 1) levels .isImplied d
      (ahead (blanks ++ ['t', 'r', 'u', 'e']) rest p) =
        .ok ({ d with implied := some true },
          ⟨rest, (p.past blanks).past ['t', 'r', 'u', 'e']⟩) := by
    simp only [memberAt, flagAt, skipBlanks_ahead before (c := 't') (by decide), peek?_ahead, read]
    rfl
  rw [said]
  exact comes_ok _

/-! ### Members one after another -/

theorem membersRead_nil (d : Description) : MembersRead levels True [] d d := by
  intro first seen body fuel spells unseen enough rest p
  obtain ⟨fuel, rfl⟩ : ∃ n, fuel = n + 1 := ⟨fuel - 1, by omega⟩
  obtain ⟨blanks, h, rfl⟩ := spells
  have read : membersAt (fuel + 1) levels first seen d (ahead (blanks ++ ['\x7d']) rest p) =
      .ok (d, ⟨rest, p.past (blanks ++ ['\x7d'])⟩) := by
    rw [membersAt, nextName_end h]
    rfl
  rw [read]
  exact comes_ok _

/-- A member that has not been seen is read, and then the others are. -/
theorem MembersRead.cons (h : MemberRead levels fits m value d d₁)
    (others : MembersRead levels fits' members d₁ d') (new : m.name ∉ members.map Prod.fst) :
    MembersRead levels (fits ∧ fits') ((m.name, value) :: members) d d' := by
  intro first seen body fuel spells unseen enough rest p
  obtain ⟨fuel, rfl⟩ : ∃ n, fuel = n + 1 := ⟨fuel - 1, by omega⟩
  obtain ⟨separator, colon, text, body, separates, marks, spelled, spelledRest, rfl⟩ := spells
  simp only [toList_quoted, List.length_append, List.length_cons] at enough
  obtain ⟨c₁, c₂, p₃, after, blanksAfter, arrival, readName, readString, readColon⟩ :=
    name_ahead separates marks m.name (text ++ body) rest p
  -- A member that had been seen would be rejected, and so would this one if it came again.
  have unseenHere : m ∉ seen := fun mem => unseen m mem List.mem_cons_self
  have unseenNext : ∀ m' ∈ m :: seen, m'.name ∉ members.map Prod.fst := by
    intro m' mem
    rcases List.mem_cons.mp mem with rfl | mem
    · exact new
    · exact fun later => unseen m' mem (List.mem_cons_of_mem _ later)
  have readMember := h after text fuel blanksAfter spelled (by omega) (body.map .char ++ rest) p₃
  have readOthers := others false (m :: seen) body fuel spelledRest unseenNext (by omega) rest
    ((p₃.past after).past text)
  have step : membersAt (fuel + 1) levels first seen d
      (ahead (separator ++ (quoted m.name).toList ++ colon ++ text ++ body) rest p) =
        memberAt fuel levels m d (ahead (after ++ text) (body.map .char ++ rest) p₃) >>=
          fun said => membersAt fuel levels false (m :: seen) said.1 said.2 := by
    rw [List.append_assoc _ text body, membersAt, readName]
    simp only [bind, Except.bind, liftSyntax, readString, readColon, m.ofName?_name,
      if_neg unseenHere, ← ahead_append, List.append_assoc]
  have finish : ((p₃.past after).past text).past body =
      p.past (separator ++ (quoted m.name).toList ++ colon ++ text ++ body) := by
    rw [arrival, Position.past_append _ body, Position.past_append _ text]
  rw [step, ← finish]
  exact readMember.bind readOthers

theorem MembersRead.congr (h : MembersRead levels fits members d d') (same : fits ↔ fits') :
    MembersRead levels fits' members d d' := by
  intro first seen body fuel spells unseen enough rest p
  exact (h first seen body fuel spells unseen enough rest p).congr same

/-- A member that is left out says nothing; otherwise it is read before the others. -/
theorem MembersRead.optional {heading : List (String × Value)}
    (one : heading = [] ∧ d = d₁ ∨
      ∃ m value, heading = [(m.name, value)] ∧ MemberRead levels True m value d d₁)
    (others : MembersRead levels fits members d₁ d')
    (nodup : ((heading ++ members).map Prod.fst).Nodup) :
    MembersRead levels fits (heading ++ members) d d' := by
  rcases one with ⟨rfl, rfl⟩ | ⟨m, value, rfl, read⟩
  · exact others
  · have new : m.name ∉ members.map Prod.fst := (List.nodup_cons.mp nodup).1
    exact (MembersRead.cons read others new).congr (and_iff_right trivial)

/-- The members that come first say the heading, and the contents are added to it. -/
theorem membersRead_toValue {kind : Kind} {required : Bool}
    (contents : MembersRead levels fits kind.contents (Descriptor.mk kind required).heading d') :
    MembersRead levels fits (textMember .type kind.tag ++ kind.formatMember ++
      impliedMember required ++ kind.contents) {} d' := by
  have format : kind.formatMember = textMember .format kind.formatTag := by cases kind <;> rfl
  have nodup := nodup_toValue kind required
  rw [List.append_assoc, List.append_assoc] at nodup ⊢
  have later {members members' : List (String × Value)}
      (h : ((members ++ members').map Prod.fst).Nodup) : (members'.map Prod.fst).Nodup := by
    rw [List.map_append] at h
    exact (List.nodup_append.mp h).2.1
  have implied : MembersRead levels fits (impliedMember required ++ kind.contents)
      { tag := kind.tag, format := kind.formatTag } d' := by
    refine MembersRead.optional ?_ contents (later (later nodup))
    cases required with
    | false => exact .inl ⟨rfl, rfl⟩
    | true => exact .inr ⟨.isImplied, _, rfl, memberRead_isImplied _⟩
  have formatted : MembersRead levels fits
      (kind.formatMember ++ (impliedMember required ++ kind.contents)) { tag := kind.tag } d' := by
    refine MembersRead.optional ?_ implied (later nodup)
    rw [format]
    cases kind.formatTag with
    | none => exact .inl ⟨rfl, rfl⟩
    | some tag => exact .inr ⟨.format, _, rfl, memberRead_format tag _⟩
  refine MembersRead.optional ?_ formatted nodup
  cases kind.tag with
  | none => exact .inl ⟨rfl, rfl⟩
  | some tag => exact .inr ⟨.type, _, rfl, memberRead_type tag _⟩

/-! ### Descriptors and fields -/

/-- A descriptor is read from what spells its description, whatever follows. -/
def DescriptorRead (levels : Nat) (d : Descriptor) : Prop :=
  ∀ (text : List Char) (fuel : Nat), Spells d.toValue text → 4 * text.length ≤ fuel →
    ∀ rest p, Comes (d.containers ≤ levels) (descriptorAt fuel levels (ahead text rest p))
      (d.normalize, ⟨rest, p.past text⟩)

/-- Fields are read from what spells their descriptions and put after those known. -/
def FieldsRead (levels : Nat) (fields : Fields) : Prop :=
  ∀ (first : Bool) (known : Fields) (body : List Char) (fuel : Nat),
    SpellsMembers first (fieldsToMembers fields) body → ((known ++ fields).map Prod.fst).Nodup →
      4 * body.length + 2 ≤ fuel → ∀ rest p,
        Comes (fieldsContainers fields ≤ levels)
          (fieldsAt fuel levels first known (ahead body rest p))
          (known ++ normalizeFields fields, ⟨rest, p.past body⟩)

theorem opens_of_spells {d : Descriptor} {text : List Char} (h : Spells d.toValue text) :
    ∃ body, text = '\x7b' :: body := by
  cases d
  obtain ⟨-, body, rfl, -⟩ := h
  exact ⟨body, rfl⟩

/-- Blanks before a descriptor do not count. -/
theorem descriptorAt_blanks {blanks : List Char} (h : Blanks blanks) {c : Char}
    (visible : isBlank c = false) (cs : List Char) (fuel levels : Nat) (rest : List Text.Symbol)
    (p : Position) :
    descriptorAt (fuel + 1) levels (ahead (blanks ++ c :: cs) rest p) =
      descriptorAt (fuel + 1) levels (ahead (c :: cs) rest (p.past blanks)) := by
  cases levels <;>
    simp only [descriptorAt, skipBlanks_ahead h visible, skipBlanks_ahead_cons visible]

theorem memberRead_items {item : Descriptor} (h : DescriptorRead levels item) (d : Description) :
    MemberRead levels (item.containers ≤ levels) .items item.toValue d
      { d with items := some item.normalize } := by
  intro blanks text fuel before spells enough rest p
  obtain ⟨fuel, rfl⟩ : ∃ n, fuel = n + 1 + 1 := ⟨fuel - 2, by omega⟩
  have read := h text (fuel + 1) spells (by omega) rest (p.past blanks)
  obtain ⟨body, rfl⟩ := opens_of_spells spells
  rw [← descriptorAt_blanks before (by decide)] at read
  have step : memberAt (fuel + 1 + 1) levels .items d (ahead (blanks ++ '\x7b' :: body) rest p) =
      descriptorAt (fuel + 1) levels (ahead (blanks ++ '\x7b' :: body) rest p) >>=
        fun read => .ok ({ d with items := some read.1 }, read.2) := by
    have brace : ('\x7b' : Char) ≠ 'n' := by decide
    simp only [memberAt, startsNull, skipBlanks_ahead before (c := '\x7b') (by decide),
      peek?_ahead, Option.some.injEq, brace, decide_false, Bool.false_eq_true, if_false]
    rfl
  rw [step]
  exact read.map fun read => ({ d with items := some read.1 }, read.2)

theorem memberRead_properties {fields : Fields} (h : ∀ levels, FieldsRead levels fields)
    (distinct : (fields.map Prod.fst).Nodup) (d : Description) :
    MemberRead levels (1 + fieldsContainers fields ≤ levels) .properties
      (.object (fieldsToMembers fields)) d
      { d with properties := some (normalizeFields fields) } := by
  intro blanks text fuel before spells enough rest p
  obtain ⟨fuel, rfl⟩ : ∃ n, fuel = n + 1 + 1 := ⟨fuel - 2, by omega⟩
  obtain ⟨-, body, rfl, spelled⟩ := spells
  rw [List.length_cons] at enough
  -- What opens with a brace is not the word for nothing.
  have brace : ('\x7b' : Char) ≠ 'n' := by decide
  have here := skipBlanks_ahead before (c := '\x7b') (by decide) body rest p
  have read : Comes (1 + fieldsContainers fields ≤ levels)
      (optionalFieldsAt (fuel + 1) levels (ahead (blanks ++ '\x7b' :: body) rest p))
      (some (normalizeFields fields), ⟨rest, (p.past blanks).past ('\x7b' :: body)⟩) := by
    cases levels with
    | zero =>
      -- The container around the fields is already one too many.
      refine ⟨fun fit => absurd fit (by omega), fun _ => ?_⟩
      simp only [optionalFieldsAt, here, peek?_ahead, Option.some.injEq, brace, if_false, if_true]
      exact ⟨_, rfl⟩
    | succ levels =>
      have inside := h levels true [] body fuel spelled distinct (by omega) rest
        ((p.past blanks).after (.char '\x7b'))
      have fits : fieldsContainers fields ≤ levels ↔ 1 + fieldsContainers fields ≤ levels + 1 := by
        omega
      simp only [optionalFieldsAt, here, peek?_ahead, Option.some.injEq, brace, if_false, if_true,
        advance_ahead]
      exact (inside.map fun read => (some read.1, read.2)).congr fits
  have step : memberAt (fuel + 1 + 1) levels .properties d
      (ahead (blanks ++ '\x7b' :: body) rest p) =
        optionalFieldsAt (fuel + 1) levels (ahead (blanks ++ '\x7b' :: body) rest p) >>=
          fun read => .ok ({ d with properties := read.1 }, read.2) := by
    rw [memberAt]
    rfl
  rw [step]
  exact read.map fun read => ({ d with properties := read.1 }, read.2)

theorem fieldsRead_nil : FieldsRead levels [] := by
  intro first known body fuel spells distinct enough rest p
  obtain ⟨fuel, rfl⟩ : ∃ n, fuel = n + 1 := ⟨fuel - 1, by omega⟩
  obtain ⟨blanks, h, rfl⟩ := spells
  have read : fieldsAt (fuel + 1) levels first known (ahead (blanks ++ ['\x7d']) rest p) =
      .ok (known ++ [], ⟨rest, p.past (blanks ++ ['\x7d'])⟩) := by
    rw [fieldsAt, nextName_end h, List.append_nil]
    rfl
  rw [normalizeFields, read]
  exact (comes_ok _).congr (iff_of_true trivial (Nat.zero_le _))

theorem fieldsRead_cons {name : String} {field : Descriptor} {fields : Fields}
    (first : DescriptorRead levels field) (others : FieldsRead levels fields) :
    FieldsRead levels ((name, field) :: fields) := by
  intro isFirst known body fuel spells distinct enough rest p
  obtain ⟨fuel, rfl⟩ : ∃ n, fuel = n + 1 + 1 := ⟨fuel - 2, by omega⟩
  obtain ⟨separator, colon, text, body, separates, marks, spelled, spelledRest, rfl⟩ := spells
  simp only [toList_quoted, List.length_append, List.length_cons] at enough
  obtain ⟨c₁, c₂, p₃, after, blanksAfter, arrival, readName, readString, readColon⟩ :=
    name_ahead separates marks name (text ++ body) rest p
  -- The name is new, so the field is put last and takes no other one's place.
  have fresh : name ∉ known.map Prod.fst := by
    rw [List.map_append, List.nodup_append] at distinct
    exact fun mem => distinct.2.2 name mem name (by simp) rfl
  have put : Ordered.put Prod.fst (name, field.normalize) known =
      known ++ [(name, field.normalize)] := Ordered.put_of_not_mem fresh
  have distinctNext : ((known ++ [(name, field.normalize)] ++ fields).map Prod.fst).Nodup := by
    simpa using distinct
  have readField := first text (fuel + 1) spelled (by omega) (body.map .char ++ rest)
    (p₃.past after)
  have readOthers := others false (known ++ [(name, field.normalize)]) body (fuel + 1) spelledRest
    distinctNext (by omega) rest ((p₃.past after).past text)
  rw [← put] at readOthers
  have step : fieldsAt (fuel + 1 + 1) levels isFirst known
      (ahead (separator ++ (quoted name).toList ++ colon ++ text ++ body) rest p) =
        descriptorAt (fuel + 1) levels (ahead text (body.map .char ++ rest) (p₃.past after)) >>=
          fun read => fieldsAt (fuel + 1) levels false
            (Ordered.put Prod.fst (name, read.1) known) read.2 := by
    obtain ⟨inner, rfl⟩ := opens_of_spells spelled
    rw [List.append_assoc _ _ body, fieldsAt, readName]
    simp only [bind, Except.bind, liftSyntax, readString, readColon]
    rw [← List.append_assoc, ahead_append, descriptorAt_blanks blanksAfter (by decide)]
  have finish : ((p₃.past after).past text).past body =
      p.past (separator ++ (quoted name).toList ++ colon ++ text ++ body) := by
    rw [arrival, Position.past_append _ body, Position.past_append _ text]
  have fits : field.containers ≤ levels ∧ fieldsContainers fields ≤ levels ↔
      fieldsContainers ((name, field) :: fields) ≤ levels := Nat.max_le.symm
  have result : known ++ normalizeFields ((name, field) :: fields) =
      Ordered.put Prod.fst (name, field.normalize) known ++ normalizeFields fields := by
    rw [put, normalizeFields, List.append_assoc, List.singleton_append]
  rw [step, ← finish, result]
  exact (readField.bind readOthers).congr fits

/-- A descriptor is read if the contents of its kind are. -/
theorem descriptorRead_of_contents {kind : Kind} {required : Bool}
    (contents : ∀ levels, MembersRead levels (kind.containers ≤ levels + 1) kind.contents
      (Descriptor.mk kind required).heading d')
    (same : d'.descriptor = (Descriptor.mk kind required).normalize) (levels : Nat) :
    DescriptorRead levels (.mk kind required) := by
  intro text fuel spells enough rest p
  obtain ⟨-, body, rfl, spelled⟩ := spells
  rw [List.length_cons] at enough
  obtain ⟨fuel, rfl⟩ : ∃ n, fuel = n + 1 := ⟨fuel - 1, by omega⟩
  have array : ('\x7b' : Char) ≠ '[' := by decide
  rw [← same, Descriptor.containers]
  cases levels with
  | zero =>
    -- Every description takes a container.
    have positive : 0 < kind.containers := by
      rw [← one_add_nesting_contents kind]
      exact Nat.add_pos_left Nat.one_pos _
    refine ⟨fun fit => absurd fit (by omega), fun _ => ?_⟩
    simp only [descriptorAt, skipBlanks_ahead_cons (c := '\x7b') (by decide), peek?_ahead,
      Option.some.injEq, array, if_false, if_true]
    exact ⟨_, rfl⟩
  | succ levels =>
    have inside := membersRead_toValue (contents levels) true [] body fuel spelled (by simp)
      (by omega) rest (p.after (.char '\x7b'))
    simp only [descriptorAt, skipBlanks_ahead_cons (c := '\x7b') (by decide), peek?_ahead,
      Option.some.injEq, array, if_false, if_true, advance_ahead]
    exact inside.map fun said => (said.1.descriptor, said.2)

-- One induction on the descriptor, with the levels left to the reader free: each container uses up
-- one of them.
mutual

/-- A descriptor is read from what spells its description. -/
theorem descriptorRead : ∀ d : Descriptor, d.DistinctFields → ∀ levels, DescriptorRead levels d
  | .mk kind required => by
    intro distinct
    obtain ⟨d', said, same⟩ := describe_contents kind distinct required
    exact descriptorRead_of_contents (contentsRead kind distinct said) same

/-- What the contents of a kind say is read. -/
theorem contentsRead : ∀ kind : Kind, kind.DistinctFields → ∀ {d d' : Description},
    describe kind.contents d = .ok d' →
      ∀ levels, MembersRead levels (kind.containers ≤ levels + 1) kind.contents d d'
  | .array item => by
    intro distinct d d' said levels
    rw [Kind.contents, describe_member, describeMember, if_neg (by simp [isNull_toValue]),
      ofValue_toValue item distinct] at said
    cases said
    have read := MembersRead.cons (memberRead_items (descriptorRead item distinct levels) d)
      (membersRead_nil _) List.not_mem_nil
    refine read.congr ?_
    rw [and_true, Kind.containers]
    omega
  | .object fields => by
    intro distinct d d' said levels
    have names : ((fieldsToMembers fields).map Prod.fst).Nodup := by
      rw [map_fst_fieldsToMembers]
      exact distinct.1
    have decoded : decodeFields (fieldsToMembers fields) [] = .ok (normalizeFields fields) :=
      (fieldsOfMembers_eq_ok_iff names).mpr (forall₂_fieldsToMembers fields distinct.2)
    rw [Kind.contents, describe_member, describeMember, optionalFields, decoded] at said
    cases said
    have one : MemberRead levels (1 + fieldsContainers fields ≤ levels) _ _ _ _ :=
      memberRead_properties (fieldsRead fields distinct.2) distinct.1 d
    have read := MembersRead.cons one (membersRead_nil _) List.not_mem_nil
    refine read.congr ?_
    rw [and_true, Kind.containers]
    omega
  | .string _ | .number | .boolean | .untypedArray | .openObject | .unknown _ => by
    intro _ d d' said levels
    rw [Kind.contents, describe] at said
    cases said
    exact (membersRead_nil d).congr (iff_of_true trivial (Nat.le_add_left 1 levels))

/-- Fields are read from what spells their descriptions. -/
theorem fieldsRead : ∀ fields : Fields, FieldsDistinct fields → ∀ levels, FieldsRead levels fields
  | [] => fun _ _ => fieldsRead_nil
  | (_, field) :: fields => by
    intro distinct levels
    have first := descriptorRead field distinct.1 levels
    exact fieldsRead_cons first (fieldsRead fields distinct.2 levels)

end

/-- A text that spells the description of a descriptor is read as what comes back of the value, if
not too many containers stand inside one another. -/
theorem Descriptor.ofText_of_spells {d : Descriptor} (distinct : d.DistinctFields) {text : String}
    (spells : Spells d.toValue text.toList) :
    Comes (d.containers ≤ greatestNesting) (Descriptor.ofText text) d.normalize := by
  have begun : Cursor.start (Text.symbols text) = ahead text.toList [] ⟨1, 0⟩ := by
    rw [ahead, List.append_nil]
    rfl
  have enough : 4 * text.toList.length ≤ 2 * (ahead text.toList [] ⟨1, 0⟩).steps := by
    simp only [Cursor.steps, ahead, List.length_append, List.length_map]
    omega
  have read := descriptorRead d distinct greatestNesting text.toList _ spells enough [] ⟨1, 0⟩
  rw [Descriptor.ofText, begun]
  -- Nothing is left of the text, so nothing else can be wrong.
  exact (read.bind (comes_ok d.normalize)).congr (and_iff_left trivial)

end ValidatorGen.Schema
