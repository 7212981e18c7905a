import ValidatorGen.Proofs.Json.Passing
import ValidatorGen.Proofs.Schema.Collected
import ValidatorGen.Schema.Streaming

/-!
# Two decoders that agree

A descriptor is read straight from a text as it is described by the value that is written there, if
no member of a description comes twice. So it comes to the same to read the value of the text first:
what is not known is passed over by both, whatever stands there, and a field that comes twice is
described by the last of its values, in the place of the first.

Only the text itself tells whether a name is repeated. The value that is read has one member for
each name, so it may describe a descriptor although an earlier member of the same name does not.

## Main definitions

* `Matches` — reading from a text comes to what reading from a value comes to

## Main results

* `matches_descriptorAt` — a descriptor is read from a text as from the value that is written
* `ofText_eq_ok_iff` — the texts that are read as a descriptor
* `decoders_agree` — both decoders come to the same
-/

namespace ValidatorGen.Schema

open Json

variable {α β : Type} {fuel levels : Nat} {first : Bool} {c c' : Cursor} {v : Value}

/-! ### Readings that match -/

/-- Reading from a text comes to what reading from a value comes to, provided that something holds
of the value, and stops at a certain cursor. -/
def Matches (x : Except TextError (α × Cursor)) (y : Except Rejection α) (condition : Prop)
    (stop : Cursor) : Prop :=
  ∀ a c, x = .ok (a, c) ↔ y = .ok a ∧ condition ∧ c = stop

section

variable {x : Except TextError (α × Cursor)} {y : Except Rejection α} {p q : Prop}

theorem matches_ok (a : α) (c : Cursor) : Matches (.ok (a, c)) (.ok a) True c := by
  intro a' c'
  rw [Except.ok.injEq, Except.ok.injEq, Prod.mk.injEq, true_and, eq_comm (a := c)]

theorem matches_of_ne_ok (text : ∀ read, x ≠ .ok read) (value : ∀ a, y ≠ .ok a) (p : Prop)
    (c : Cursor) : Matches x y p c := by
  intro a c'
  exact iff_of_false (text _) fun read => value a read.1

/-- Where the condition does not hold, nothing may be read. -/
theorem matches_of_not (text : ∀ read, x ≠ .ok read) (condition : ¬ p) (c : Cursor) :
    Matches x y p c := by
  intro a c'
  exact iff_of_false (text _) fun read => condition read.2.1

theorem Matches.congr (h : Matches x y p c) (same : p ↔ q) : Matches x y q c := by
  intro a c'
  rw [h a c', same]

/-- Readings that match go on to readings that match. -/
theorem Matches.bind {f : α × Cursor → Except TextError (β × Cursor)}
    {g : α → Except Rejection β} (h : Matches x y p c)
    (next : ∀ a, Matches (f (a, c)) (g a) q c') : Matches (x >>= f) (y >>= g) (p ∧ q) c' := by
  intro b c''
  rw [bind_eq_ok_iff, bind_eq_ok_iff]
  constructor
  · rintro ⟨⟨a, c₁⟩, read, others⟩
    obtain ⟨value, holds, rfl⟩ := (h a c₁).mp read
    obtain ⟨value', holds', same⟩ := (next a b c'').mp others
    exact ⟨⟨a, value, value'⟩, ⟨holds, holds'⟩, same⟩
  · rintro ⟨⟨a, value, value'⟩, ⟨holds, holds'⟩, same⟩
    exact ⟨(a, c), (h a c).mpr ⟨value, holds, rfl⟩, (next a b c'').mpr ⟨value', holds', same⟩⟩

/-- What follows a reading of symbols that succeeds may match. -/
theorem matches_lift {γ : Type} {z : Except Json.Error γ} {r : γ}
    {f : γ → Except TextError (α × Cursor)} (read : z = .ok r) (next : Matches (f r) y p c) :
    Matches (liftSyntax z >>= f) y p c := by
  rw [read]
  exact next

/-- What is made of what is read matches as well. -/
theorem Matches.map (h : Matches x y p c) (f : α → β) :
    Matches (x >>= fun read => .ok (f read.1, read.2)) (y >>= fun a => .ok (f a)) p c :=
  (h.bind fun a => matches_ok (f a) c).congr (and_iff_left trivial)

end

/-! ### Texts and truth values -/

theorem mismatchAt_ne_ok (c : Cursor) (expected : Expected) (read : α) :
    mismatchAt c expected ≠ .ok read := by
  simp only [mismatchAt]
  split
  · nofun
  · split
    · nofun
    · cases c.skipBlanks.scalar .text <;> nofun

theorem mismatch_ne_ok (v : Value) (expected : Expected) (a : α) : mismatch v expected ≠ .ok a :=
  nofun

/-- A mismatch is reported by both. -/
theorem matches_mismatch {expected : Expected} {p : Prop} :
    Matches (mismatchAt c expected : Except TextError (α × Cursor)) (mismatch v expected) p c' :=
  matches_of_ne_ok (mismatchAt_ne_ok c expected) (mismatch_ne_ok v expected) p c'

theorem skipNull_eq_ok (spelled : c.skipBlanks.spell ['n', 'u', 'l', 'l'] = .ok c') :
    skipNull c = .ok c' := by
  rw [skipNull, spelled]
  rfl

theorem peek?_ne_of_beginsNumber {x y : Char} (here : c.peek? = some x) (begins : beginsNumber x)
    (no : beginsNumber y = false) : c.peek? ≠ some y := by
  rw [here]
  exact fun same => ne_of_beginsNumber begins no (Option.some.inj same)

theorem matches_textAt (h : ValueAt fuel c c' levels v) :
    Matches (textAt c) (optionalText v) True c' := by
  simp only [textAt]
  cases h with
  | array here _ | object here _ =>
    simp only [here, Option.some.injEq, Char.reduceEq, if_false]
    exact matches_mismatch
  | scalar _ _ read =>
    cases scalarAt_of_scalar read with
    | null here spelled =>
      rw [← skipBlanks_skipBlanks] at spelled
      rw [if_pos here, skipNull_eq_ok spelled]
      exact matches_ok none c'
    | true here _ | false here _ =>
      simp only [here, Option.some.injEq, Char.reduceEq, if_false]
      exact matches_mismatch
    | number here begins _ =>
      rw [if_neg (peek?_ne_of_beginsNumber here begins (by decide)),
        if_neg (peek?_ne_of_beginsNumber here begins (by decide))]
      exact matches_mismatch
    | string here text =>
      simp only [here, Option.some.injEq, Char.reduceEq, if_false, if_true, text]
      exact matches_ok (some _) c'

theorem matches_flagAt (h : ValueAt fuel c c' levels v) :
    Matches (flagAt c) (optionalFlag v) True c' := by
  simp only [flagAt]
  cases h with
  | array here _ | object here _ =>
    simp only [here, Option.some.injEq, Char.reduceEq, if_false]
    exact matches_mismatch
  | scalar _ _ read =>
    cases scalarAt_of_scalar read with
    | null here spelled =>
      rw [← skipBlanks_skipBlanks] at spelled
      rw [if_pos here, skipNull_eq_ok spelled]
      exact matches_ok none c'
    | true here spelled | false here spelled =>
      simp only [here, Option.some.injEq, Char.reduceEq, if_false, if_true, spelled]
      exact matches_ok (some _) c'
    | number here begins _ =>
      rw [if_neg (peek?_ne_of_beginsNumber here begins (by decide)),
        if_neg (peek?_ne_of_beginsNumber here begins (by decide)),
        if_neg (peek?_ne_of_beginsNumber here begins (by decide))]
      exact matches_mismatch
    | string here _ =>
      simp only [here, Option.some.injEq, Char.reduceEq, if_false]
      exact matches_mismatch

/-! ### Members -/

theorem startsNull_eq (h : ValueAt fuel c c' levels v) : startsNull c = isNull v := by
  rw [startsNull]
  cases h with
  | array here _ | object here _ => simp [here, isNull]
  | scalar _ _ read =>
    cases scalarAt_of_scalar read with
    | null here _ | true here _ | false here _ | string here _ => simp [here, isNull]
    | number here begins _ =>
      simpa [isNull] using peek?_ne_of_beginsNumber here begins (y := 'n') (by decide)

theorem eq_null_of_isNull (h : isNull v = true) : v = .null := by
  cases v with
  | null => rfl
  | bool | number | string | array | object => cases h

theorem skipNull_of_null (h : ValueAt fuel c c' levels .null) : skipNull c = .ok c' := by
  cases h with
  | scalar _ _ read =>
    cases scalarAt_of_scalar read with
    | null _ spelled => exact skipNull_eq_ok spelled

theorem text?_collected (v : Value) : text? v.collected = text? v := by
  cases v <;> rfl

/-- One member is read from a text as from a value, if a description and fields are. -/
theorem matches_memberAt {steps : Nat} (h : c.writtenWithin fuel levels = .ok (v, c'))
    (item : Matches (descriptorAt steps levels c) (Descriptor.ofValue v) (SaidOnce v) c')
    (fields : Matches (optionalFieldsAt steps levels c) (optionalFields v) (FieldsSaidOnce v) c')
    (m : Member) (d : Description) :
    Matches (memberAt (steps + 1) levels m d c)
      (describeMember m v (fun _ => Descriptor.ofValue v) (fun _ => optionalFields v) d)
      (memberSaidOnce m (SaidOnce v) (FieldsSaidOnce v)) c' := by
  obtain ⟨fuel', hv⟩ : ∃ fuel', ValueAt fuel' c c' levels v := by
    cases fuel with
    | zero => cases h
    | succ fuel => exact ⟨fuel, written_succ_eq_ok_iff.mp h⟩
  cases m with
  | type =>
    -- Any value may stand here. It is read with one member for each name, but only a text counts.
    rw [memberAt, describeMember, value_of_written h, ← text?_collected]
    exact matches_ok _ c'
  | format =>
    rw [memberAt, describeMember]
    exact (matches_textAt hv).map fun format => { d with format := format }
  | isImplied =>
    rw [memberAt, describeMember]
    exact (matches_flagAt hv).map fun implied => { d with implied := implied }
  | items =>
    rw [memberAt, describeMember, startsNull_eq hv]
    cases null : isNull v with
    | true =>
      obtain rfl := eq_null_of_isNull null
      simp only [if_true, skipNull_of_null hv]
      exact (matches_ok _ c').congr (iff_of_true trivial trivial)
    | false =>
      simp only [Bool.false_eq_true, if_false]
      exact item.map fun item => { d with items := some item }
  | properties =>
    rw [memberAt, describeMember]
    exact fields.map fun fields => { d with properties := fields }
  | fields =>
    rw [memberAt, describeMember]
    exact fields.map fun fields => { d with fields := fields }

/-! ### Arrays and objects -/

theorem endOfArray_of_inr (next : c.nextItem first = .ok (.inr c')) : endOfArray c = .ok c' := by
  obtain ⟨closing, rfl⟩ := nextItem_eq_inr next
  simp only [endOfArray, rest_isEmpty_of_peek? closing, closing, Bool.false_eq_true, if_false,
    if_true]

theorem endOfArray_ne_ok {c₁ : Cursor} (next : c.nextItem first = .ok (.inl c₁)) (c₂ : Cursor) :
    endOfArray c ≠ .ok c₂ := by
  obtain ⟨rfl, -, other, comma⟩ := nextItem_eq_inl next
  have open' : c.skipBlanks.peek? ≠ some ']' := by
    cases first with
    | true => exact other
    | false => simp [comma rfl]
  simp only [endOfArray, if_neg open']
  split_ifs <;> nofun

theorem descriptorAt_of_other {steps : Nat} (array : c.skipBlanks.peek? ≠ some '[')
    (object : c.skipBlanks.peek? ≠ some '\x7b') :
    descriptorAt (steps + 1) levels c = mismatchAt c.skipBlanks .description := by
  cases levels <;> rw [descriptorAt, if_neg array, if_neg object]

theorem optionalFieldsAt_of_other {steps : Nat} (object : c.skipBlanks.peek? ≠ some '\x7b') :
    optionalFieldsAt (steps + 1) levels c =
      if c.skipBlanks.peek? = some 'n' then do
        let c ← skipNull c.skipBlanks
        return (none, c)
      else mismatchAt c.skipBlanks .fields := by
  cases levels <;> simp only [optionalFieldsAt, if_neg object]

/-- A member that was not seen before is one of those seen from then on. -/
theorem unseen_cons_iff {m : Member} {seen said : List Member} (fresh : m ∉ seen) :
    ((∀ m' ∈ m :: said, m' ∉ seen) ∧ (m :: said).Nodup) ↔
      (∀ m' ∈ said, m' ∉ m :: seen) ∧ said.Nodup := by
  rw [List.forall_mem_cons, List.nodup_cons]
  constructor
  · rintro ⟨⟨-, unseen⟩, new, distinct⟩
    refine ⟨fun m' mem before => ?_, distinct⟩
    rcases List.mem_cons.mp before with rfl | before
    · exact new mem
    · exact unseen m' mem before
  · rintro ⟨unseen, distinct⟩
    refine ⟨⟨fresh, fun m' mem before => ?_⟩, fun mem => ?_, distinct⟩
    · exact unseen m' mem (List.mem_cons_of_mem m before)
    · exact unseen m mem List.mem_cons_self

-- One induction on the steps of the reader. For one of its steps the decoder takes at most two,
-- since it looks for a member before it looks at the value of the member.
mutual

/-- A descriptor is read from a text as from the value that is written. -/
theorem matches_descriptorAt : ∀ (fuel : Nat) {levels : Nat} {c c' : Cursor} {v : Value},
    c.writtenWithin fuel levels = .ok (v, c') → ∀ steps : Nat, 2 * fuel ≤ steps →
      Matches (descriptorAt steps levels c) (Descriptor.ofValue v) (SaidOnce v) c'
  | 0, _, _, _, _ => by
    intro h
    cases h
  | fuel + 1, levels, c, c', v => by
    intro h steps enough
    obtain ⟨steps, rfl⟩ : ∃ n, steps = n + 1 := ⟨steps - 1, by omega⟩
    cases written_succ_eq_ok_iff.mp h with
    | array here inside =>
      rw [descriptorAt, if_pos here, Descriptor.ofValue, SaidOnce]
      have items := matches_itemsAt fuel inside steps (by omega)
      exact (items _ Member.all {}).map Description.descriptor
    | object here inside =>
      rw [descriptorAt, if_neg (by simp [here]), if_pos here, Descriptor.ofValue, SaidOnce]
      have members := matches_membersAt fuel inside steps (by omega)
      -- No member has been seen before the first.
      refine ((members [] {}).map Description.descriptor).congr ?_
      exact and_congr_left' (and_iff_right fun _ _ => List.not_mem_nil)
    | scalar noArray noObject read =>
      rw [descriptorAt_of_other noArray noObject]
      cases scalarAt_of_scalar read <;> exact matches_mismatch

theorem matches_itemsAt : ∀ (fuel : Nat) {levels : Nat} {first : Bool} {c c' : Cursor}
    {items : List Value}, c.writtenItems fuel levels first = .ok (items, c') →
      ∀ steps : Nat, 2 * fuel ≤ steps → ∀ (length : Nat) (members : List Member) (d : Description),
        Matches (itemsAt steps levels first members d c) (describeInOrder length members items d)
          (ItemsSaidOnce members items) c'
  | 0, _, _, _, _, _ => by
    intro h
    cases h
  | fuel + 1, levels, first, c, c', items => by
    intro h steps enough length members d
    obtain ⟨steps, rfl⟩ : ∃ n, steps = n + 1 := ⟨steps - 1, by omega⟩
    cases members with
    | nil =>
      rw [itemsAt]
      cases writtenItems_succ_eq_ok_iff.mp h with
      | nil next =>
        rw [endOfArray_of_inr next]
        exact matches_ok d c'
      | cons next _ _ =>
        -- No member is left for this item, which both refuse.
        refine matches_of_ne_ok ?_ (describeInOrder_ne_ok length (by simp) d) _ c'
        intro read more
        obtain ⟨c₁, ended, -⟩ := bind_eq_ok_iff.mp more
        exact endOfArray_ne_ok next c₁ ended
    | cons m members =>
      rw [itemsAt]
      cases writtenItems_succ_eq_ok_iff.mp h with
      | nil next => exact matches_lift next (matches_ok d c')
      | cons next read others =>
        obtain ⟨steps, rfl⟩ : ∃ n, steps = n + 1 := ⟨steps - 1, by omega⟩
        rw [describeInOrder, ItemsSaidOnce]
        have member := matches_memberAt read
          (matches_descriptorAt fuel read steps (by omega))
          (matches_optionalFieldsAt fuel read steps (by omega)) m d
        exact matches_lift next (member.bind fun d =>
          matches_itemsAt fuel others (steps + 1) (by omega) length members d)

theorem matches_membersAt : ∀ (fuel : Nat) {levels : Nat} {first : Bool} {c c' : Cursor}
    {members : List (String × Value)}, c.writtenMembers fuel levels first = .ok (members, c') →
      ∀ steps : Nat, 2 * fuel ≤ steps → ∀ (seen : List Member) (d : Description),
        Matches (membersAt steps levels first seen d c) (describe members d)
          (((∀ m ∈ saidMembers members, m ∉ seen) ∧ (saidMembers members).Nodup) ∧
            MembersSaidOnce members) c'
  | 0, _, _, _, _, _ => by
    intro h
    cases h
  | fuel + 1, levels, first, c, c', members => by
    intro h steps enough seen d
    obtain ⟨steps, rfl⟩ : ∃ n, steps = n + 1 := ⟨steps - 1, by omega⟩
    rw [membersAt]
    cases writtenMembers_succ_eq_ok_iff.mp h with
    | nil next =>
      refine matches_lift next ((matches_ok d c').congr (iff_of_true trivial ?_))
      exact ⟨⟨nofun, List.nodup_nil⟩, trivial⟩
    | @cons c₁ c₂ c₃ c₄ name value members next named colon read others =>
      refine matches_lift next (matches_lift named ?_)
      dsimp only
      rw [describe, MembersSaidOnce]
      cases known : Member.ofName? name with
      | none =>
        -- The value is passed over, which it can be since it was read as it is written.
        rw [saidMembers_cons_none known]
        exact matches_lift colon (matches_lift (skipValue_of_written read)
          (matches_membersAt fuel others steps (by omega) seen d))
      | some m =>
        rw [saidMembers_cons_some known]
        dsimp only
        by_cases repeated : m ∈ seen
        · -- The decoder stops here, and what is written says something twice.
          rw [if_pos repeated]
          refine matches_of_not (fun _ => by simp) ?_ c'
          exact fun once => once.1.1 m List.mem_cons_self repeated
        · rw [if_neg repeated]
          refine matches_lift colon ?_
          obtain ⟨steps, rfl⟩ : ∃ n, steps = n + 1 := ⟨steps - 1, by omega⟩
          have member := matches_memberAt read
            (matches_descriptorAt fuel read steps (by omega))
            (matches_optionalFieldsAt fuel read steps (by omega)) m d
          refine Matches.congr (member.bind fun d =>
            matches_membersAt fuel others (steps + 1) (by omega) (m :: seen) d) ?_
          rw [unseen_cons_iff repeated]
          exact and_left_comm

theorem matches_optionalFieldsAt : ∀ (fuel : Nat) {levels : Nat} {c c' : Cursor} {v : Value},
    c.writtenWithin fuel levels = .ok (v, c') → ∀ steps : Nat, 2 * fuel ≤ steps →
      Matches (optionalFieldsAt steps levels c) (optionalFields v) (FieldsSaidOnce v) c'
  | 0, _, _, _, _ => by
    intro h
    cases h
  | fuel + 1, levels, c, c', v => by
    intro h steps enough
    obtain ⟨steps, rfl⟩ : ∃ n, steps = n + 1 := ⟨steps - 1, by omega⟩
    cases written_succ_eq_ok_iff.mp h with
    | array here inside =>
      rw [optionalFieldsAt_of_other (by simp [here]), if_neg (by simp [here])]
      exact matches_mismatch
    | object here inside =>
      simp only [optionalFieldsAt, here, Option.some.injEq, Char.reduceEq, if_false, if_true]
      rw [optionalFields, FieldsSaidOnce]
      exact (matches_fieldsAt fuel inside steps (by omega) []).map some
    | scalar _ noObject read =>
      rw [optionalFieldsAt_of_other noObject]
      cases scalarAt_of_scalar read with
      | null here spelled =>
        rw [← skipBlanks_skipBlanks] at spelled
        rw [if_pos here, skipNull_eq_ok spelled]
        exact (matches_ok none c').congr (iff_of_true trivial trivial)
      | true here _ | false here _ | string here _ =>
        rw [if_neg (by simp [here])]
        exact matches_mismatch
      | number here begins _ =>
        rw [if_neg (peek?_ne_of_beginsNumber here begins (by decide))]
        exact matches_mismatch

theorem matches_fieldsAt : ∀ (fuel : Nat) {levels : Nat} {first : Bool} {c c' : Cursor}
    {members : List (String × Value)}, c.writtenMembers fuel levels first = .ok (members, c') →
      ∀ steps : Nat, 2 * fuel ≤ steps → ∀ known : Fields,
        Matches (fieldsAt steps levels first known c) (decodeFields members known)
          (EachSaidOnce members) c'
  | 0, _, _, _, _, _ => by
    intro h
    cases h
  | fuel + 1, levels, first, c, c', members => by
    intro h steps enough known
    obtain ⟨steps, rfl⟩ : ∃ n, steps = n + 1 := ⟨steps - 1, by omega⟩
    rw [fieldsAt]
    cases writtenMembers_succ_eq_ok_iff.mp h with
    | nil next => exact matches_lift next (matches_ok known c')
    | @cons c₁ c₂ c₃ c₄ name value members next named colon read others =>
      rw [decodeFields, EachSaidOnce]
      have field := matches_descriptorAt fuel read steps (by omega)
      exact matches_lift next (matches_lift named (matches_lift colon
        (field.bind fun field => matches_fieldsAt fuel others steps (by omega) _)))

end

/-! ### Whole texts -/

/-- A text is read as a descriptor iff what is written in it describes the descriptor and says
nothing twice. -/
theorem ofText_eq_ok_iff {text : String} (written : Value.asWritten text = .ok v)
    {d : Descriptor} :
    Descriptor.ofText text = .ok d ↔ Descriptor.ofValue v = .ok d ∧ SaidOnce v := by
  obtain ⟨⟨v', c⟩, read, finish⟩ := bind_eq_ok_iff.mp written
  obtain ⟨finished, ended, done⟩ := bind_eq_ok_iff.mp finish
  cases done
  have same := matches_descriptorAt _ read _ (Nat.le_refl _) d
  rw [Descriptor.ofText, bind_eq_ok_iff]
  constructor
  · rintro ⟨⟨d', c'⟩, decoded, rest⟩
    obtain ⟨_, -, done⟩ := bind_eq_ok_iff.mp rest
    cases done
    obtain ⟨described, once, -⟩ := (same c').mp decoded
    exact ⟨described, once⟩
  · rintro ⟨described, once⟩
    refine ⟨(d, c), (same c).mpr ⟨described, once, rfl⟩, ?_⟩
    dsimp only
    rw [ended]
    rfl

/-- Reading a descriptor straight from a text and describing it by the value of the text come to
the same. -/
theorem decoders_agree (text : String) :
    (∀ d v, Descriptor.ofText text = .ok d → Value.ofText text = .ok v →
      Descriptor.ofValue v = .ok d) ∧
    (∀ v d, Value.ofText text = .ok v → Descriptor.ofValue v = .ok d →
      (∀ w, Value.asWritten text = .ok w → DistinctNames w) → Descriptor.ofText text = .ok d) ∧
    (Value.ofText text = Value.collected <$> Value.asWritten text ∧
      ∀ w d, Value.asWritten text = .ok w →
        (Descriptor.ofText text = .ok d ↔ Descriptor.ofValue w = .ok d ∧ SaidOnce w)) := by
  have value := Value.ofText_eq_map text
  refine ⟨?_, ?_, value, fun w d written => ofText_eq_ok_iff written⟩
  · intro d v read parsed
    cases written : Value.asWritten text with
    | error e =>
      rw [value, written] at parsed
      cases parsed
    | ok w =>
      rw [value, written] at parsed
      cases parsed
      obtain ⟨described, once⟩ := (ofText_eq_ok_iff written).mp read
      exact ofValue_collected w once described
  · intro v d parsed described distinct
    cases written : Value.asWritten text with
    | error e =>
      rw [value, written] at parsed
      cases parsed
    | ok w =>
      rw [value, written] at parsed
      cases parsed
      have names := distinct w written
      rw [collected_of_distinctNames w names] at described
      exact (ofText_eq_ok_iff written).mpr ⟨described, saidOnce_of_distinctNames w names⟩

/-- A description with members that are not known, a null and names that come twice. One field is
described without names, and another one by a tag that is no text before it is described again. -/
def repeatedOrder : String :=
  "\x7b\"x\":[],\"x\":1,\"type\":\"object\",\"format\":null," ++
  "\"fields\":\x7b\"a\":\x7b\"type\":7\x7d," ++
  "\"b\":[\"array\",null,true,[\"string\"]],\"a\":\x7b\"type\":\"number\"\x7d\x7d\x7d"

/-- What it describes. -/
def order : Descriptor :=
  .mk (.object [("a", .mk .number false), ("b", .mk (.array (.mk (.string none) false)) true)])
    false

/-- A description without repeated names. -/
def plainNumber : String := "\x7b\"x\":null,\"type\":\"number\"\x7d"

theorem decoders_agree_order :
    (∃ w, Value.asWritten repeatedOrder = .ok w ∧ ¬DistinctNames w ∧
      Descriptor.ofText repeatedOrder = .ok order ∧
      Value.ofText repeatedOrder = .ok w.collected ∧
      Descriptor.ofValue w.collected = .ok order) ∧
    ∃ v, Value.ofText plainNumber = .ok v ∧ Descriptor.ofValue v = .ok (.mk .number false) ∧
      Descriptor.ofText plainNumber = .ok (.mk .number false) := by
  constructor
  · obtain ⟨forward, -, value, described⟩ := decoders_agree repeatedOrder
    obtain ⟨w, written, repeats, once, told⟩ : ∃ w,
        Value.asWritten repeatedOrder = .ok w ∧ ¬DistinctNames w ∧ SaidOnce w ∧
          Descriptor.ofValue w = .ok order := by decide +kernel
    have read := (described w order written).mpr ⟨told, once⟩
    have parsed : Value.ofText repeatedOrder = .ok w.collected := by
      rw [value, written]
      rfl
    exact ⟨w, written, repeats, read, parsed, forward _ _ read parsed⟩
  · obtain ⟨-, backward, -⟩ := decoders_agree plainNumber
    obtain ⟨v, parsed, told⟩ : ∃ v, Value.ofText plainNumber = .ok v ∧
        Descriptor.ofValue v = .ok (.mk .number false) := by decide +kernel
    obtain ⟨w, written, distinct⟩ : ∃ w,
        Value.asWritten plainNumber = .ok w ∧ DistinctNames w := by decide +kernel
    refine ⟨v, parsed, told, backward v _ parsed told fun w' same => ?_⟩
    exact Except.ok.inj (written.symm.trans same) ▸ distinct

end ValidatorGen.Schema
