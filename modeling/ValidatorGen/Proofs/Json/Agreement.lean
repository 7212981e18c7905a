import ValidatorGen.Json.Reader
import ValidatorGen.Proofs.Except
import ValidatorGen.Proofs.Text.Utf8

/-!
# Readings that agree

Reading a text from a file comes to the same as reading it from memory, except for the place where a
number is reported that is out of range. Reading it with fewer levels for containers comes to the
same, unless there are too few and that is reported. So if a text stands for a value at all, then
it is read as that value from anywhere, provided that it does not go too deep.

## Main definitions

* `Agree` — two readings come to the same unless the second one reports a certain fault
* `Value.Denotes` — a text stands for a value, however deep it goes

## Main results

* `agree_valueWithin` — readings agree with fewer levels, and from elsewhere
* `Value.ofText_of_denotes` — a text that stands for a value is read as the value, or goes too deep
* `Value.ofFile_or_ofText` — a file is read as its text is
-/

namespace ValidatorGen.Json

open Text

variable {α β : Type} {P : Fault → Prop}

/-- The two readings come to the same, unless the second one reports a fault for which that need not
be so. -/
def Agree (P : Fault → Prop) (x y : Except Error α) : Prop :=
  x = y ∨ ∃ e, y = .error e ∧ P e.fault

theorem Agree.refl (x : Except Error α) : Agree P x x := .inl rfl

/-- Readings that agree go on to readings that agree. -/
theorem Agree.bind {x y : Except Error α} {f g : α → Except Error β} (h : Agree P x y)
    (next : ∀ a, Agree P (f a) (g a)) : Agree P (x >>= f) (y >>= g) := by
  rcases h with rfl | ⟨e, rfl, fault⟩
  · cases x with
    | error e => exact .refl _
    | ok a => exact next a
  · exact .inr ⟨e, rfl, fault⟩

/-! ### Numbers and other scalars -/

variable {o o' : Origin}

/-- Where a text comes from decides at most where a number out of range is reported. -/
theorem agree_outOfRange (range : o ≠ o' → P .numberOutOfRange) (c : Cursor) (t : Numeral) :
    Agree P (c.outOfRange o t : Except Error α) (c.outOfRange o' t) := by
  by_cases same : o = o'
  · exact .inl (by rw [same])
  · apply Or.inr
    have fault : P .numberOutOfRange := range same
    -- The place depends on what comes after the number, but the fault is always the same.
    rw [Cursor.outOfRange]
    split
    · split
      · exact ⟨_, rfl, fault⟩
      · split <;> exact ⟨_, rfl, fault⟩
    · split <;> exact ⟨_, rfl, fault⟩

theorem agree_number (range : o ≠ o' → P .numberOutOfRange) (c : Cursor) :
    Agree P (c.number o) (c.number o') := by
  have unsigned (c : Cursor) (negative : Bool) :
      Agree P (c.unsigned o negative) (c.unsigned o' negative) := by
    refine (Agree.refl _).bind fun (numeral, after) => ?_
    dsimp only
    cases numeral.value? negative with
    | some n => exact .refl _
    | none => exact agree_outOfRange range after numeral
  rw [Cursor.number, Cursor.number]
  split
  · exact unsigned _ true
  · exact unsigned _ false

theorem agree_scalar (range : o ≠ o' → P .numberOutOfRange) (c : Cursor) :
    Agree P (c.scalar o) (c.scalar o') := by
  rw [Cursor.scalar, Cursor.scalar]
  split
  · exact .refl _
  · exact .refl _
  · split
    · exact .refl _
    · split
      · exact (agree_number range c).bind fun _ => .refl _
      · exact .refl _

/-! ### Values -/

/-- A container is opened if there is a level for it, and what is inside has one level less. -/
theorem agree_opened {x y : Nat → Except Error α} (c : Cursor)
    (inside : ∀ {levels levels' : Nat}, levels' ≤ levels → (levels' < levels → P .tooDeep) →
      Agree P (x levels) (y levels')) :
    ∀ {levels levels' : Nat}, levels' ≤ levels → (levels' < levels → P .tooDeep) →
      Agree P (match levels with | 0 => c.failAhead .tooDeep | levels + 1 => x levels)
        (match levels' with | 0 => c.failAhead .tooDeep | levels' + 1 => y levels')
  | 0, 0, _, _ => .refl _
  | _ + 1, 0, _, deep => .inr ⟨_, rfl, deep (Nat.succ_pos _)⟩
  | _ + 1, _ + 1, fewer, deep =>
    inside (Nat.le_of_succ_le_succ fewer) fun less => deep (Nat.succ_lt_succ less)

-- One induction on the steps left to the reader, for a value, for items and for members.
mutual

/-- Readings agree with fewer levels, and from elsewhere. -/
theorem agree_valueWithin (range : o ≠ o' → P .numberOutOfRange) :
    ∀ (fuel : Nat) {levels levels' : Nat} (_ : levels' ≤ levels)
      (_ : levels' < levels → P .tooDeep) (c : Cursor),
    Agree P (c.valueWithin o fuel levels) (c.valueWithin o' fuel levels')
  | 0, _, _, _, _, _ => .refl _
  | fuel + 1, levels, levels', fewer, deep, c => by
    simp only [Cursor.valueWithin]
    split
    · refine agree_opened c.skipBlanks (fun fewer deep => ?_) fewer deep
      exact (agree_itemsWithin range fuel fewer deep true _).bind fun _ => .refl _
    · split
      · refine agree_opened c.skipBlanks (fun fewer deep => ?_) fewer deep
        exact (agree_membersWithin range fuel fewer deep true [] _).bind fun _ => .refl _
      · exact agree_scalar range _

theorem agree_itemsWithin (range : o ≠ o' → P .numberOutOfRange) :
    ∀ (fuel : Nat) {levels levels' : Nat} (_ : levels' ≤ levels)
      (_ : levels' < levels → P .tooDeep) (first : Bool) (c : Cursor),
    Agree P (c.itemsWithin o fuel levels first) (c.itemsWithin o' fuel levels' first)
  | 0, _, _, _, _, _, _ => .refl _
  | fuel + 1, levels, levels', fewer, deep, first, c => by
    rw [Cursor.itemsWithin, Cursor.itemsWithin]
    refine (Agree.refl _).bind fun next => ?_
    cases next with
    | inr c => exact .refl _
    | inl c =>
      refine (agree_valueWithin range fuel fewer deep c).bind fun (item, c) => ?_
      exact (agree_itemsWithin range fuel fewer deep false c).bind fun _ => .refl _

theorem agree_membersWithin (range : o ≠ o' → P .numberOutOfRange) :
    ∀ (fuel : Nat) {levels levels' : Nat} (_ : levels' ≤ levels)
      (_ : levels' < levels → P .tooDeep) (first : Bool) (known : List (String × Value))
      (c : Cursor), Agree P (c.membersWithin o fuel levels first known)
      (c.membersWithin o' fuel levels' first known)
  | 0, _, _, _, _, _, _, _ => .refl _
  | fuel + 1, levels, levels', fewer, deep, first, known, c => by
    rw [Cursor.membersWithin, Cursor.membersWithin]
    refine (Agree.refl _).bind fun next => ?_
    cases next with
    | inr c => exact .refl _
    | inl c =>
      refine (Agree.refl _).bind fun (name, c) => (Agree.refl _).bind fun c => ?_
      refine (agree_valueWithin range fuel fewer deep c).bind fun (value, c) => ?_
      exact agree_membersWithin range fuel fewer deep false _ c

end

/-! ### Whole texts -/

/-- The value that a sequence of symbols stands for, if no more containers stand inside one another
than there are levels. -/
def Value.ofSymbolsWithin (origin : Origin) (levels : Nat) (symbols : List Symbol) :
    Except Error Value := do
  let start := Cursor.start symbols
  let (value, c) ← start.valueWithin origin start.steps levels
  c.finish
  return value

/-- The text stands for the value, however deep it goes. -/
def Value.Denotes (text : String) (v : Value) : Prop :=
  ∃ levels, Value.ofSymbolsWithin .text levels (symbols text) = .ok v

theorem agree_ofSymbolsWithin (range : o ≠ o' → P .numberOutOfRange) {levels levels' : Nat}
    (fewer : levels' ≤ levels) (deep : levels' < levels → P .tooDeep) (symbols : List Symbol) :
    Agree P (Value.ofSymbolsWithin o levels symbols)
      (Value.ofSymbolsWithin o' levels' symbols) := by
  refine (agree_valueWithin range _ fewer deep _).bind fun (value, c) => ?_
  exact .refl _

/-- A text that stands for a value is read as the value, unless it goes too deep. -/
theorem Value.ofText_of_denotes {text : String} {v : Value} (h : Value.Denotes text v) :
    Value.ofText text = .ok v ∨ ∃ p, Value.ofText text = .error ⟨.tooDeep, p⟩ := by
  obtain ⟨levels, read⟩ := h
  have agree {levels levels' : Nat} (fewer : levels' ≤ levels) : Agree (· = .tooDeep)
      (Value.ofSymbolsWithin .text levels (symbols text))
      (Value.ofSymbolsWithin .text levels' (symbols text)) :=
    agree_ofSymbolsWithin (P := (· = .tooDeep)) (fun other => absurd rfl other) fewer
      (fun _ => rfl) _
  change Value.ofSymbolsWithin .text greatestNesting (symbols text) = _ ∨
    ∃ p, Value.ofSymbolsWithin .text greatestNesting (symbols text) = _
  rcases Nat.le_total levels greatestNesting with fewer | more
  · -- More levels than are enough make no difference.
    rcases agree fewer with same | ⟨e, failed, -⟩
    · exact .inl (same.trans read)
    · cases read.symm.trans failed
  · rcases agree more with same | ⟨⟨_, p⟩, failed, rfl⟩
    · exact .inl (same.symm.trans read)
    · exact .inr ⟨p, failed⟩

/-- A file is read as its text is, but for the place of a number that is out of range. -/
theorem Value.ofFile_or_ofText (text : String) : Value.ofFile (encode text) = Value.ofText text ∨
    ∃ p q, Value.ofFile (encode text) = .error ⟨.numberOutOfRange, p⟩ ∧
      Value.ofText text = .error ⟨.numberOutOfRange, q⟩ := by
  have agree (o o' : Origin) : Agree (· = .numberOutOfRange)
      (Value.ofSymbols o (symbols text)) (Value.ofSymbols o' (symbols text)) :=
    agree_ofSymbolsWithin (P := (· = .numberOutOfRange)) (fun _ => rfl) (Nat.le_refl _)
      (fun less => absurd less (Nat.lt_irrefl _)) _
  rw [Value.ofFile, decode_encode, Value.ofText]
  -- The two readings may be compared either way, so if they differ then both report the fault.
  rcases agree .file .text with same | ⟨⟨_, q⟩, text, rfl⟩
  · exact .inl same
  · rcases agree .text .file with same | ⟨⟨_, p⟩, file, rfl⟩
    · exact .inl same.symm
    · exact .inr ⟨p, q, file, text⟩

end ValidatorGen.Json
