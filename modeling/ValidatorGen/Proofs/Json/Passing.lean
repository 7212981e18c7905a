import ValidatorGen.Proofs.Json.Progress

/-!
# Passing over what could be read

A value that can be read can also be passed over, and the same is left after it. The converse fails:
what is passed over may go deeper, hold numbers that are out of range and escapes for half a
character.

## Main results

* `skipValue_of_written` — what is read as a value is passed over
-/

namespace ValidatorGen.Json

variable {fuel levels : Nat} {first : Bool} {c c' : Cursor}

theorem skipBlanks_entry (first : Bool) (c : Cursor) :
    (c.entry first).skipBlanks = c.entry first := by
  rw [Cursor.entry]
  split <;> exact skipBlanks_skipBlanks _

theorem skipValueWithin_skipBlanks (c : Cursor) {steps : Nat} (h : 0 < steps) :
    c.skipBlanks.skipValueWithin steps = c.skipValueWithin steps := by
  obtain ⟨steps, rfl⟩ : ∃ n, steps = n + 1 := ⟨steps - 1, by omega⟩
  simp only [Cursor.skipValueWithin, skipBlanks_skipBlanks]

/-- A name that is read is passed over with its colon, from any blank before it. -/
theorem skipName_of_name {c₀ c₁ c₂ : Cursor} {name : String}
    (next : c.nextName first = .ok (.inl c₁)) (named : c₁.string = .ok (name, c₂))
    (colon : c₂.colon = .ok c') (same : c₀.skipBlanks = c.entry first) : c₀.skipName = .ok c' := by
  obtain ⟨rfl, quote, -⟩ := nextName_eq_inl next
  simp only [Cursor.skipName, same, rest_isEmpty_of_peek? quote, quote, if_true, if_false,
    Bool.false_eq_true, skipString_of_string named]
  exact colon

theorem nextItem_of_written {items : List Value}
    (h : c.writtenItems fuel levels first = .ok (items, c')) :
    c.nextItem first = .ok (.inr c') ∨ ∃ c₁, c.nextItem first = .ok (.inl c₁) := by
  cases fuel with
  | zero => cases h
  | succ fuel =>
    cases writtenItems_succ_eq_ok_iff.mp h with
    | nil next => exact .inl next
    | cons next _ _ => exact .inr ⟨_, next⟩

theorem nextName_of_written {members : List (String × Value)}
    (h : c.writtenMembers fuel levels first = .ok (members, c')) :
    c.nextName first = .ok (.inr c') ∨ ∃ c₁, c.nextName first = .ok (.inl c₁) := by
  cases fuel with
  | zero => cases h
  | succ fuel =>
    cases writtenMembers_succ_eq_ok_iff.mp h with
    | nil next => exact .inl next
    | cons next _ _ _ _ => exact .inr ⟨_, next⟩

-- One induction on the steps of the reader. Items and members are passed over from the first of
-- them on, with any blanks before it, since what passes over them looks for the end only after one.
mutual

/-- A value that is read is passed over. -/
theorem skipValueWithin_of_written : ∀ (fuel : Nat) {levels : Nat} {c c' : Cursor} {v : Value},
    c.writtenWithin fuel levels = .ok (v, c') → ∀ enough : Nat, 2 * c.rest.length ≤ enough →
      c.skipValueWithin enough = .ok c'
  | 0, _, _, _, _ => by
    intro h
    cases h
  | fuel + 1, levels, c, c', v => by
    intro h enough le
    have some := length_lt_of_written _ h
    obtain ⟨enough, rfl⟩ : ∃ n, enough = n + 1 := ⟨enough - 1, by omega⟩
    simp only [Cursor.skipValueWithin]
    cases written_succ_eq_ok_iff.mp h with
    | array here inside =>
      rw [if_pos here]
      rcases nextItem_of_written inside with closed | ⟨c₁, more⟩
      · obtain ⟨closing, rfl⟩ := nextItem_eq_inr closed
        rw [if_pos closing]
      · have shorter := length_advance_skipBlanks_lt here
        have blanks := length_skipBlanks_le c.skipBlanks.advance
        obtain ⟨rfl, present, other, -⟩ := nextItem_eq_inl more
        have same : c.skipBlanks.advance.skipBlanks = c.skipBlanks.advance.entry true := rfl
        rw [same, if_neg other, if_neg (by simp [present])]
        exact skipItemsWithin_of_written fuel inside more (skipBlanks_entry _ _) enough
          (by rw [← same]; omega)
    | object here inside =>
      rw [if_neg (by simp [here]), if_pos here]
      rcases nextName_of_written inside with closed | ⟨c₁, more⟩
      · obtain ⟨closing, rfl⟩ := nextName_eq_inr closed
        rw [if_pos closing]
      · have shorter := length_advance_skipBlanks_lt here
        have blanks := length_skipBlanks_le c.skipBlanks.advance
        obtain ⟨rfl, quote, -⟩ := nextName_eq_inl more
        have same : c.skipBlanks.advance.skipBlanks = c.skipBlanks.advance.entry true := rfl
        rw [same, if_neg (by simp [quote]), if_neg (by simp [rest_isEmpty_of_peek? quote])]
        exact skipMembersWithin_of_written fuel inside more (skipBlanks_entry _ _) enough
          (by rw [← same]; omega)
    | scalar noArray noObject read =>
      rw [if_neg noArray, if_neg noObject]
      exact skipScalar_of_scalarAt (scalarAt_of_scalar read)

theorem skipItemsWithin_of_written : ∀ (fuel : Nat) {levels : Nat} {first : Bool}
    {c c₀ c₁ c' : Cursor} {items : List Value},
    c.writtenItems fuel levels first = .ok (items, c') → c.nextItem first = .ok (.inl c₁) →
      c₀.skipBlanks = c.entry first → ∀ enough : Nat, 2 * c₀.rest.length + 1 ≤ enough →
        c₀.skipItemsWithin enough = .ok c'
  | 0, _, _, _, _, _, _, _ => by
    intro h
    cases h
  | fuel + 1, levels, first, c, c₀, c₁, c', items => by
    intro h next same enough le
    obtain ⟨enough, rfl⟩ : ∃ n, enough = n + 1 := ⟨enough - 1, by omega⟩
    cases writtenItems_succ_eq_ok_iff.mp h with
    | nil next' => cases next.symm.trans next'
    | cons next' read others =>
      obtain ⟨rfl, -, -, -⟩ := nextItem_eq_inl next'
      rw [← same] at read
      have shorter := length_lt_of_written fuel read
      have before := length_skipBlanks_le c₀
      have passed := skipValueWithin_of_written fuel read enough (by omega)
      rw [skipValueWithin_skipBlanks c₀ (by omega)] at passed
      simp only [Cursor.skipItemsWithin, passed, bind, Except.bind]
      rcases nextItem_of_written others with closed | ⟨c₃, more⟩
      · obtain ⟨closing, rfl⟩ := nextItem_eq_inr closed
        rw [if_neg (by simp [closing]), if_pos closing]
        rfl
      · -- The comma is passed over, but not the blanks after it.
        obtain ⟨-, -, -, comma⟩ := nextItem_eq_inl more
        have separated := length_advance_skipBlanks_lt (comma rfl)
        rw [if_pos (comma rfl)]
        exact skipItemsWithin_of_written fuel others more rfl enough (by omega)

theorem skipMembersWithin_of_written : ∀ (fuel : Nat) {levels : Nat} {first : Bool}
    {c c₀ c₁ c' : Cursor} {members : List (String × Value)},
    c.writtenMembers fuel levels first = .ok (members, c') → c.nextName first = .ok (.inl c₁) →
      c₀.skipBlanks = c.entry first → ∀ enough : Nat, 2 * c₀.rest.length + 1 ≤ enough →
        c₀.skipMembersWithin enough = .ok c'
  | 0, _, _, _, _, _, _, _ => by
    intro h
    cases h
  | fuel + 1, levels, first, c, c₀, c₁, c', members => by
    intro h next same enough le
    obtain ⟨enough, rfl⟩ : ∃ n, enough = n + 1 := ⟨enough - 1, by omega⟩
    cases writtenMembers_succ_eq_ok_iff.mp h with
    | nil next' => cases next.symm.trans next'
    | cons next' named colon read others =>
      have name := skipName_of_name next' named colon same
      have gone := length_lt_of_name next' named colon
      rw [← same] at gone
      have before := length_skipBlanks_le c₀
      have shorter := length_lt_of_written fuel read
      have passed := skipValueWithin_of_written fuel read enough (by omega)
      simp only [Cursor.skipMembersWithin, name, passed, bind, Except.bind]
      rcases nextName_of_written others with closed | ⟨c₅, more⟩
      · obtain ⟨closing, rfl⟩ := nextName_eq_inr closed
        rw [if_neg (by simp [closing]), if_pos closing]
        rfl
      · obtain ⟨-, -, comma⟩ := nextName_eq_inl more
        have separated := length_advance_skipBlanks_lt (comma rfl)
        rw [if_pos (comma rfl)]
        exact skipMembersWithin_of_written fuel others more rfl enough (by omega)

end

/-- What is written is passed over in as many steps as the reader allows itself. -/
theorem skipValue_of_written {v : Value} (h : c.writtenWithin fuel levels = .ok (v, c')) :
    c.skipValue = .ok c' :=
  skipValueWithin_of_written fuel h _ (by rw [Cursor.steps]; omega)

end ValidatorGen.Json
