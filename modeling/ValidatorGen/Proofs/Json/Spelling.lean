import ValidatorGen.Json.Cursor
import ValidatorGen.Json.Printer

/-!
# Spellings of JSON values

A value can be spelled in more than one way: blanks may stand between its parts. Both layouts in
which values are written are spellings. Numbers are left out, and so are objects in which a name
comes twice; a value without them is plain.

## Main definitions

* `Value.Plain` — the value has no numbers, and no object in it has two members of one name
* `Spells` — the characters spell the value
* `Value.nesting` — how many containers stand inside one another

## Main results

* `spells_compact` — a plain value without blanks is spelled
* `spells_indented` — a plain value over several lines is spelled
-/

namespace ValidatorGen.Json

mutual

/-- The value has no numbers, and no object in it has two members of one name. -/
def Value.Plain : Value → Prop
  | .null | .bool _ | .string _ => True
  | .number _ => False
  | .array items => ItemsPlain items
  | .object members => (members.map Prod.fst).Nodup ∧ MembersPlain members

/-- Each item is plain. -/
def ItemsPlain : List Value → Prop
  | [] => True
  | item :: items => item.Plain ∧ ItemsPlain items

/-- The value of each member is plain. -/
def MembersPlain : List (String × Value) → Prop
  | [] => True
  | (_, value) :: members => value.Plain ∧ MembersPlain members

end

theorem membersPlain_iff {members : List (String × Value)} :
    MembersPlain members ↔ ∀ m ∈ members, m.2.Plain := by
  induction members with
  | nil => simp [MembersPlain]
  | cons m members ih => rw [MembersPlain, List.forall_mem_cons, ih]

mutual

/-- How many containers stand inside one another at most. -/
def Value.nesting : Value → Nat
  | .null | .bool _ | .number _ | .string _ => 0
  | .array items => 1 + itemsNesting items
  | .object members => 1 + membersNesting members

/-- How many containers stand inside one another at most among items. -/
def itemsNesting : List Value → Nat
  | [] => 0
  | item :: items => max item.nesting (itemsNesting items)

/-- How many containers stand inside one another at most among the values of members. -/
def membersNesting : List (String × Value) → Nat
  | [] => 0
  | (_, value) :: members => max value.nesting (membersNesting members)

end

theorem membersNesting_le_iff {members : List (String × Value)} {n : Nat} :
    membersNesting members ≤ n ↔ ∀ m ∈ members, m.2.nesting ≤ n := by
  induction members with
  | nil => simp [membersNesting]
  | cons m members ih => rw [membersNesting, Nat.max_le, List.forall_mem_cons, ih]

/-! ### Spellings -/

/-- Nothing but blanks. -/
def Blanks (cs : List Char) : Prop := ∀ c ∈ cs, isBlank c

/-- A mark with blanks around it. -/
def Marks (mark : Char) (cs : List Char) : Prop :=
  ∃ before after, Blanks before ∧ Blanks after ∧ cs = before ++ mark :: after

/-- What stands before an item or a member: only blanks before the first one, and a comma before
every other one. -/
def Separates (first : Bool) (cs : List Char) : Prop :=
  if first then Blanks cs else Marks ',' cs

mutual

/-- The characters spell the value. -/
def Spells : Value → List Char → Prop
  | .null, cs => cs = "null".toList
  | .bool b, cs => cs = (if b then "true" else "false").toList
  | .number _, _ => False
  | .string s, cs => cs = (quoted s).toList
  | .array items, cs => ∃ body, cs = '[' :: body ∧ SpellsItems true items body
  | .object members, cs =>
    (members.map Prod.fst).Nodup ∧ ∃ body, cs = '\x7b' :: body ∧ SpellsMembers true members body

/-- The characters spell items and end their array. -/
def SpellsItems : Bool → List Value → List Char → Prop
  | _, [], cs => ∃ blanks, Blanks blanks ∧ cs = blanks ++ [']']
  | first, item :: items, cs =>
    ∃ separator text rest, Separates first separator ∧ Spells item text ∧
      SpellsItems false items rest ∧ cs = separator ++ text ++ rest

/-- The characters spell members and end their object. -/
def SpellsMembers : Bool → List (String × Value) → List Char → Prop
  | _, [], cs => ∃ blanks, Blanks blanks ∧ cs = blanks ++ ['\x7d']
  | first, (name, value) :: members, cs =>
    ∃ separator colon text rest, Separates first separator ∧ Marks ':' colon ∧ Spells value text ∧
      SpellsMembers false members rest ∧
        cs = separator ++ (quoted name).toList ++ colon ++ text ++ rest

end

theorem blanks_nil : Blanks [] := by simp [Blanks]

theorem marks_alone (mark : Char) : Marks mark [mark] := ⟨[], [], blanks_nil, blanks_nil, rfl⟩

/-! ### The compact layout -/

mutual

/-- A plain value without blanks is spelled. -/
theorem spells_compact : ∀ value : Value, value.Plain → Spells value value.compact.toList
  | .null => fun _ => rfl
  | .bool b => fun _ => by cases b <;> rfl
  | .number _ => fun plain => plain.elim
  | .string _ => fun _ => rfl
  | .array [] => fun _ => ⟨[']'], rfl, [], blanks_nil, rfl⟩
  | .array (item :: items) => by
    intro plain
    have first := spells_compact item plain.1
    have rest := spellsItems_compact items plain.2
    refine ⟨item.compact.toList ++ ((compactItems items).toList ++ [']']), ?_,
      [], _, _, blanks_nil, first, rest, rfl⟩
    simp [Value.compact]
  | .object [] => fun _ => ⟨by simp, ['\x7d'], rfl, [], blanks_nil, rfl⟩
  | .object ((name, value) :: members) => by
    intro plain
    have first := spells_compact value plain.2.1
    have rest := spellsMembers_compact members plain.2.2
    refine ⟨plain.1, (quoted name).toList ++ [':'] ++ value.compact.toList ++
      ((compactMembers members).toList ++ ['\x7d']), ?_,
      [], _, _, _, blanks_nil, marks_alone ':', first, rest, by simp⟩
    simp [Value.compact]

theorem spellsItems_compact : ∀ items : List Value, ItemsPlain items →
    SpellsItems false items ((compactItems items).toList ++ [']'])
  | [] => fun _ => ⟨[], blanks_nil, by simp [compactItems]⟩
  | item :: items => by
    intro plain
    have first := spells_compact item plain.1
    have rest := spellsItems_compact items plain.2
    refine ⟨[','], _, _, marks_alone ',', first, rest, ?_⟩
    simp [compactItems]

theorem spellsMembers_compact : ∀ members : List (String × Value), MembersPlain members →
    SpellsMembers false members ((compactMembers members).toList ++ ['\x7d'])
  | [] => fun _ => ⟨[], blanks_nil, by simp [compactMembers]⟩
  | (name, value) :: members => by
    intro plain
    have first := spells_compact value plain.1
    have rest := spellsMembers_compact members plain.2
    refine ⟨[','], _, _, _, marks_alone ',', marks_alone ':', first, rest, ?_⟩
    simp [compactMembers]

end

/-! ### The indented layout -/

theorem blanks_lineBreak (level : Nat) : Blanks (lineBreak level).toList := by
  intro c mem
  rw [lineBreak, String.toList_ofList] at mem
  rcases List.mem_cons.mp mem with rfl | mem
  · rfl
  · rw [List.eq_of_mem_replicate mem]
    rfl

theorem marks_comma_lineBreak (level : Nat) : Marks ',' (',' :: (lineBreak level).toList) :=
  ⟨[], _, blanks_nil, blanks_lineBreak level, rfl⟩

theorem marks_colon_space : Marks ':' [':', ' '] :=
  ⟨[], [' '], blanks_nil, by simp [Blanks, isBlank], rfl⟩

-- What ends a container stands one level further out than its contents, so the level of the line
-- break before it is a parameter of its own.
mutual

/-- A plain value over several lines is spelled, inside however many containers. -/
theorem spells_indentedAt : ∀ (value : Value) (level : Nat), value.Plain →
    Spells value (value.indentedAt level).toList
  | .null => fun _ _ => rfl
  | .bool b => fun _ _ => by cases b <;> rfl
  | .number _ => fun _ plain => plain.elim
  | .string _ => fun _ _ => rfl
  | .array [] => fun _ _ => ⟨[']'], by simp [Value.indentedAt], [], blanks_nil, rfl⟩
  | .array (item :: items) => by
    intro level plain
    have first := spells_indentedAt item (level + 1) plain.1
    have rest := spellsItems_indented items (level + 1) level plain.2
    refine ⟨_, ?_, _, _, _, blanks_lineBreak (level + 1), first, rest, rfl⟩
    simp [Value.indentedAt]
  | .object [] => fun _ _ => ⟨by simp, ['\x7d'], by simp [Value.indentedAt], [], blanks_nil, rfl⟩
  | .object ((name, value) :: members) => by
    intro level plain
    have first := spells_indentedAt value (level + 1) plain.2.1
    have rest := spellsMembers_indented members (level + 1) level plain.2.2
    refine ⟨plain.1, _, ?_, _, _, _, _, blanks_lineBreak (level + 1), marks_colon_space, first,
      rest, rfl⟩
    simp [Value.indentedAt]

theorem spellsItems_indented : ∀ (items : List Value) (level outer : Nat), ItemsPlain items →
    SpellsItems false items
      ((indentedItems level items).toList ++ ((lineBreak outer).toList ++ [']']))
  | [] => fun _ outer _ => ⟨_, blanks_lineBreak outer, by simp [indentedItems]⟩
  | item :: items => by
    intro level outer plain
    have first := spells_indentedAt item level plain.1
    have rest := spellsItems_indented items level outer plain.2
    refine ⟨_, _, _, marks_comma_lineBreak level, first, rest, ?_⟩
    simp [indentedItems]

theorem spellsMembers_indented : ∀ (members : List (String × Value)) (level outer : Nat),
    MembersPlain members →
      SpellsMembers false members
        ((indentedMembers level members).toList ++ ((lineBreak outer).toList ++ ['\x7d']))
  | [] => fun _ outer _ => ⟨_, blanks_lineBreak outer, by simp [indentedMembers]⟩
  | (name, value) :: members => by
    intro level outer plain
    have first := spells_indentedAt value level plain.1
    have rest := spellsMembers_indented members level outer plain.2
    refine ⟨_, _, _, _, marks_comma_lineBreak level, marks_colon_space, first, rest, ?_⟩
    simp [indentedMembers]

end

/-- A plain value over several lines is spelled. -/
theorem spells_indented {value : Value} (plain : value.Plain) :
    Spells value value.indented.toList :=
  spells_indentedAt value 0 plain

end ValidatorGen.Json
