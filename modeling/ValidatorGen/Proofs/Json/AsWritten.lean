import Mathlib.Tactic.SplitIfs
import ValidatorGen.Proofs.Json.Scalars

/-!
# Values as they are written

A text can also be read without putting the members of an object under their names, so that a name
that comes again is seen again. What the text stands for is what is written, with one member for
each name.

## Main definitions

* `Value.collected` — the value with one member for each name
* `Value.asWritten` — the value that a text stands for, with every member of its objects
* `ValueAt`, `ItemsAt`, `MembersAt` — what comes next and how it is read

## Main results

* `Value.ofText_eq_map` — what a text stands for is what is written, with one member for each name
* `written_succ_eq_ok_iff` — a value that is written is an array, an object or neither
-/

namespace ValidatorGen.Json

open Text

mutual

/-- The value with one member for each name: the last one, in the place of the first. -/
def Value.collected : Value → Value
  | .null => .null
  | .bool b => .bool b
  | .number n => .number n
  | .string s => .string s
  | .array items => .array (collectedItems items)
  | .object members => .object (Ordered.collect Prod.fst (collectedMembers members))

/-- The items with one member for each name inside them. -/
def collectedItems : List Value → List Value
  | [] => []
  | item :: items => item.collected :: collectedItems items

/-- The members with one member for each name inside them. -/
def collectedMembers : List (String × Value) → List (String × Value)
  | [] => []
  | (name, value) :: members => (name, value.collected) :: collectedMembers members

end

mutual

/-- The value at a cursor as it is written, with every member of its objects, and the cursor after
it. -/
def Cursor.writtenWithin : Nat → Nat → Cursor → Except Error (Value × Cursor)
  | 0, _, c => c.fail .endInValue
  | fuel + 1, levels, c =>
    let c := c.skipBlanks
    if c.peek? = some '[' then
      match levels with
      | 0 => c.failAhead .tooDeep
      | levels + 1 => do
        let (items, c) ← writtenItems fuel levels true c.advance
        return (.array items, c)
    else if c.peek? = some '\x7b' then
      match levels with
      | 0 => c.failAhead .tooDeep
      | levels + 1 => do
        let (members, c) ← writtenMembers fuel levels true c.advance
        return (.object members, c)
    else c.scalar .text

/-- The items of an array as they are written, and the cursor after the array. -/
def Cursor.writtenItems : Nat → Nat → Bool → Cursor → Except Error (List Value × Cursor)
  | 0, _, _, c => c.fail .endInArray
  | fuel + 1, levels, first, c => do
    match ← c.nextItem first with
    | .inr c => return ([], c)
    | .inl c =>
      let (item, c) ← writtenWithin fuel levels c
      let (items, c) ← writtenItems fuel levels false c
      return (item :: items, c)

/-- The members of an object as they are written, and the cursor after the object. -/
def Cursor.writtenMembers :
    Nat → Nat → Bool → Cursor → Except Error (List (String × Value) × Cursor)
  | 0, _, _, c => c.fail .endInObject
  | fuel + 1, levels, first, c => do
    match ← c.nextName first with
    | .inr c => return ([], c)
    | .inl c =>
      let (name, c) ← c.string
      let c ← c.colon
      let (value, c) ← writtenWithin fuel levels c
      let (members, c) ← writtenMembers fuel levels false c
      return ((name, value) :: members, c)

end

/-- The value that a text stands for, with every member of its objects. -/
def Value.asWritten (text : String) : Except Error Value := do
  let start := Cursor.start (symbols text)
  let (value, c) ← start.writtenWithin start.steps greatestNesting
  c.finish
  return value

/-! ### Collecting what is written -/

theorem collected_of_scalar {c c' : Cursor} {v : Value} (h : c.scalar .text = .ok (v, c')) :
    v.collected = v := by
  cases scalarAt_of_scalar h <;> rfl

/-- What is read when `known` has been read is what is written, put after it. -/
def collectedAfter (known : List (String × Value)) (members : List (String × Value)) :
    List (String × Value) :=
  (collectedMembers members).foldl (fun known m => Ordered.put Prod.fst m known) known

-- One induction on the steps left to the reader. Members that are put in one by one as they are
-- read are collected after those that are known.
mutual

theorem valueWithin_eq_map : ∀ (fuel levels : Nat) (c : Cursor),
    c.valueWithin .text fuel levels =
      Prod.map Value.collected id <$> c.writtenWithin fuel levels
  | 0, _, _ => rfl
  | fuel + 1, levels, c => by
    simp only [Cursor.valueWithin, Cursor.writtenWithin]
    split
    · cases levels with
      | zero => rfl
      | succ levels =>
        dsimp only
        rw [itemsWithin_eq_map fuel levels true, bind_map_left, map_bind]
        rfl
    · split
      · cases levels with
        | zero => rfl
        | succ levels =>
          dsimp only
          rw [membersWithin_eq_map fuel levels true [], bind_map_left, map_bind]
          rfl
      · cases read : c.skipBlanks.scalar .text with
        | error e => rfl
        | ok a =>
          obtain ⟨v, c'⟩ := a
          change Except.ok (v, c') = .ok (v.collected, c')
          rw [collected_of_scalar read]

theorem itemsWithin_eq_map : ∀ (fuel levels : Nat) (first : Bool) (c : Cursor),
    c.itemsWithin .text fuel levels first =
      Prod.map collectedItems id <$> c.writtenItems fuel levels first
  | 0, _, _, _ => rfl
  | fuel + 1, levels, first, c => by
    rw [Cursor.itemsWithin, Cursor.writtenItems, map_bind]
    refine bind_congr fun next => ?_
    cases next with
    | inr c => rfl
    | inl c =>
      dsimp only
      rw [valueWithin_eq_map fuel levels c, bind_map_left, map_bind]
      refine bind_congr fun item => ?_
      rw [itemsWithin_eq_map fuel levels false, bind_map_left, map_bind]
      rfl

theorem membersWithin_eq_map : ∀ (fuel levels : Nat) (first : Bool)
    (known : List (String × Value)) (c : Cursor),
    c.membersWithin .text fuel levels first known =
      Prod.map (collectedAfter known) id <$> c.writtenMembers fuel levels first
  | 0, _, _, _, _ => rfl
  | fuel + 1, levels, first, known, c => by
    rw [Cursor.membersWithin, Cursor.writtenMembers, map_bind]
    refine bind_congr fun next => ?_
    cases next with
    | inr c => rfl
    | inl c =>
      dsimp only
      rw [map_bind]
      refine bind_congr fun name => ?_
      rw [map_bind]
      refine bind_congr fun c => ?_
      rw [valueWithin_eq_map fuel levels c, bind_map_left, map_bind]
      refine bind_congr fun value => ?_
      -- What is known to the reader from here on has the member put in already.
      rw [membersWithin_eq_map fuel levels false, map_bind]
      rfl

end


/-- A text stands for what is written, with one member for each name. -/
theorem Value.ofText_eq_map (text : String) :
    Value.ofText text = Value.collected <$> Value.asWritten text := by
  rw [Value.ofText, Value.ofSymbols, Cursor.value, valueWithin_eq_map, bind_map_left,
    Value.asWritten, map_bind]
  refine bind_congr fun read => ?_
  rw [map_bind]
  rfl

/-! ### What comes next -/

/-- A value, from one cursor to another. -/
inductive ValueAt (fuel : Nat) (c c' : Cursor) : Nat → Value → Prop
  | array {levels : Nat} {items : List Value} (here : c.skipBlanks.peek? = some '[')
      (inside : c.skipBlanks.advance.writtenItems fuel levels true = .ok (items, c')) :
    ValueAt fuel c c' (levels + 1) (.array items)
  | object {levels : Nat} {members : List (String × Value)}
      (here : c.skipBlanks.peek? = some '\x7b')
      (inside : c.skipBlanks.advance.writtenMembers fuel levels true = .ok (members, c')) :
    ValueAt fuel c c' (levels + 1) (.object members)
  | scalar {levels : Nat} {v : Value} (noArray : c.skipBlanks.peek? ≠ some '[')
      (noObject : c.skipBlanks.peek? ≠ some '\x7b')
      (read : c.skipBlanks.scalar .text = .ok (v, c')) :
    ValueAt fuel c c' levels v

/-- Items, from one cursor to another. -/
inductive ItemsAt (fuel levels : Nat) (first : Bool) (c c' : Cursor) : List Value → Prop
  | nil (next : c.nextItem first = .ok (.inr c')) : ItemsAt fuel levels first c c' []
  | cons {c₁ c₂ : Cursor} {item : Value} {items : List Value}
      (next : c.nextItem first = .ok (.inl c₁))
      (read : c₁.writtenWithin fuel levels = .ok (item, c₂))
      (others : c₂.writtenItems fuel levels false = .ok (items, c')) :
    ItemsAt fuel levels first c c' (item :: items)

/-- Members, from one cursor to another. -/
inductive MembersAt (fuel levels : Nat) (first : Bool) (c c' : Cursor) :
    List (String × Value) → Prop
  | nil (next : c.nextName first = .ok (.inr c')) : MembersAt fuel levels first c c' []
  | cons {c₁ c₂ c₃ c₄ : Cursor} {name : String} {value : Value} {members : List (String × Value)}
      (next : c.nextName first = .ok (.inl c₁)) (named : c₁.string = .ok (name, c₂))
      (colon : c₂.colon = .ok c₃) (read : c₃.writtenWithin fuel levels = .ok (value, c₄))
      (others : c₄.writtenMembers fuel levels false = .ok (members, c')) :
    MembersAt fuel levels first c c' ((name, value) :: members)

variable {fuel levels : Nat} {first : Bool} {c c' : Cursor}

theorem written_succ_eq_ok_iff {v : Value} :
    c.writtenWithin (fuel + 1) levels = .ok (v, c') ↔ ValueAt fuel c c' levels v := by
  constructor
  · intro h
    simp only [Cursor.writtenWithin] at h
    split at h
    · rename_i here
      cases levels with
      | zero => cases h
      | succ levels =>
        obtain ⟨⟨items, c₁⟩, inside, done⟩ := bind_eq_ok_iff.mp h
        cases done
        exact .array here inside
    · rename_i noArray
      split at h
      · rename_i here
        cases levels with
        | zero => cases h
        | succ levels =>
          obtain ⟨⟨members, c₁⟩, inside, done⟩ := bind_eq_ok_iff.mp h
          cases done
          exact .object here inside
      · rename_i noObject
        exact .scalar noArray noObject h
  · intro h
    simp only [Cursor.writtenWithin]
    cases h with
    | array here inside =>
      rw [if_pos here]
      dsimp only
      rw [inside]
      rfl
    | object here inside =>
      rw [if_neg (by simp [here]), if_pos here]
      dsimp only
      rw [inside]
      rfl
    | scalar noArray noObject read => rw [if_neg noArray, if_neg noObject, read]

theorem writtenItems_succ_eq_ok_iff {items : List Value} :
    c.writtenItems (fuel + 1) levels first = .ok (items, c') ↔
      ItemsAt fuel levels first c c' items := by
  rw [Cursor.writtenItems]
  constructor
  · intro h
    obtain ⟨next | c₁, next, h⟩ := bind_eq_ok_iff.mp h
    · obtain ⟨⟨item, c₂⟩, read, h⟩ := bind_eq_ok_iff.mp h
      obtain ⟨⟨items, c₃⟩, others, done⟩ := bind_eq_ok_iff.mp h
      cases done
      exact .cons next read others
    · cases h
      exact .nil next
  · intro h
    cases h with
    | nil next =>
      rw [next]
      rfl
    | cons next read others =>
      simp only [next, bind, Except.bind, read, others]
      rfl

theorem writtenMembers_succ_eq_ok_iff {members : List (String × Value)} :
    c.writtenMembers (fuel + 1) levels first = .ok (members, c') ↔
      MembersAt fuel levels first c c' members := by
  rw [Cursor.writtenMembers]
  constructor
  · intro h
    obtain ⟨next | c₁, next, h⟩ := bind_eq_ok_iff.mp h
    · obtain ⟨⟨name, c₂⟩, named, h⟩ := bind_eq_ok_iff.mp h
      obtain ⟨c₃, colon, h⟩ := bind_eq_ok_iff.mp h
      obtain ⟨⟨value, c₄⟩, read, h⟩ := bind_eq_ok_iff.mp h
      obtain ⟨⟨members, c₅⟩, others, done⟩ := bind_eq_ok_iff.mp h
      cases done
      exact .cons next named colon read others
    · cases h
      exact .nil next
  · intro h
    cases h with
    | nil next =>
      rw [next]
      rfl
    | cons next named colon read others =>
      simp only [next, bind, Except.bind, named, colon, read, others]
      rfl

/-! ### Items and names -/

/-- Where the next item of an array begins, or the next member of an object: for all but the first
of them, after a comma. -/
def Cursor.entry (first : Bool) (c : Cursor) : Cursor :=
  if first then c.skipBlanks else c.skipBlanks.advance.skipBlanks

theorem nextItem_eq_inr (h : c.nextItem first = .ok (.inr c')) :
    c.skipBlanks.peek? = some ']' ∧ c' = c.skipBlanks.advance := by
  simp only [Cursor.nextItem] at h
  split_ifs at h with _ closed
  all_goals cases h
  exact ⟨closed, rfl⟩

theorem nextItem_eq_inl (h : c.nextItem first = .ok (.inl c')) :
    c' = c.entry first ∧ c'.rest.isEmpty = false ∧ c'.peek? ≠ some ']' ∧
      (first = false → c.skipBlanks.peek? = some ',') := by
  simp only [Cursor.nextItem] at h
  split_ifs at h with ended closed isFirst comma ended' closed'
  all_goals cases h
  · subst isFirst
    exact ⟨rfl, by simpa using ended, closed, fun no => absurd no (by decide)⟩
  · obtain rfl : first = false := by simpa using isFirst
    exact ⟨rfl, by simpa using ended', closed', fun _ => comma⟩

theorem nextName_eq_inr (h : c.nextName first = .ok (.inr c')) :
    c.skipBlanks.peek? = some '\x7d' ∧ c' = c.skipBlanks.advance := by
  simp only [Cursor.nextName] at h
  split_ifs at h with _ closed
  all_goals cases h
  exact ⟨closed, rfl⟩

theorem nextName_eq_inl (h : c.nextName first = .ok (.inl c')) :
    c' = (c.entry first).advance ∧ (c.entry first).peek? = some '"' ∧
      (first = false → c.skipBlanks.peek? = some ',') := by
  simp only [Cursor.nextName] at h
  split_ifs at h with ended closed isFirst quote comma ended' quote'
  all_goals cases h
  · subst isFirst
    exact ⟨rfl, quote, fun no => absurd no (by decide)⟩
  · obtain rfl : first = false := by simpa using isFirst
    exact ⟨rfl, quote', fun _ => comma⟩

theorem colon_eq_ok (h : c.colon = .ok c') :
    c.skipBlanks.peek? = some ':' ∧ c' = c.skipBlanks.advance := by
  simp only [Cursor.colon] at h
  split_ifs at h with _ colon
  all_goals cases h
  exact ⟨colon, rfl⟩

end ValidatorGen.Json
