import ValidatorGen.Proofs.Json.AsWritten

/-!
# Progress of the reader

Whatever is read is gone, so that less of the text is left after it. Each step of the reader takes
at least one symbol or descends from a container to its contents; so twice as many steps as there
are symbols left are enough, and more make no difference.

## Main results

* `length_lt_of_written` — less is left after a value
* `written_of_le` — a value that is read in some number of steps is read in any that is large enough
* `value_of_written` — so it is read in as many steps as the reader allows itself
-/

namespace ValidatorGen.Json

variable {fuel levels : Nat} {first : Bool} {c c' : Cursor}

theorem length_entry_le (first : Bool) (c : Cursor) :
    (c.entry first).rest.length ≤ c.rest.length := by
  have here := length_skipBlanks_le c
  have advanced := length_advance_le c.skipBlanks
  have there := length_skipBlanks_le c.skipBlanks.advance
  rw [Cursor.entry]
  split <;> omega

theorem length_lt_of_name {c₁ c₂ : Cursor} {name : String}
    (next : c.nextName first = .ok (.inl c₁)) (named : c₁.string = .ok (name, c₂))
    (colon : c₂.colon = .ok c') : c'.rest.length < (c.entry first).rest.length := by
  obtain ⟨rfl, quote, -⟩ := nextName_eq_inl next
  obtain ⟨marked, rfl⟩ := colon_eq_ok colon
  have opened := length_advance_lt quote
  have text := length_lt_of_string named
  have mark := length_advance_skipBlanks_lt marked
  omega

-- One induction on the steps left to the reader, for a value, for items and for members.
mutual

/-- A value that is read is gone. -/
theorem length_lt_of_written : ∀ (fuel : Nat) {levels : Nat} {c c' : Cursor} {v : Value},
    c.writtenWithin fuel levels = .ok (v, c') → c'.rest.length < c.rest.length
  | 0, _, _, _, _ => by
    intro h
    cases h
  | fuel + 1, levels, c, c', v => by
    intro h
    cases written_succ_eq_ok_iff.mp h with
    | array here inside =>
      exact Nat.lt_trans (length_lt_of_writtenItems fuel inside)
        (length_advance_skipBlanks_lt here)
    | object here inside =>
      exact Nat.lt_trans (length_lt_of_writtenMembers fuel inside)
        (length_advance_skipBlanks_lt here)
    | scalar _ _ read =>
      exact Nat.lt_of_lt_of_le (scalarAt_of_scalar read).length_lt (length_skipBlanks_le c)

theorem length_lt_of_writtenItems : ∀ (fuel : Nat) {levels : Nat} {first : Bool} {c c' : Cursor}
    {items : List Value},
    c.writtenItems fuel levels first = .ok (items, c') → c'.rest.length < c.rest.length
  | 0, _, _, _, _, _ => by
    intro h
    cases h
  | fuel + 1, levels, first, c, c', items => by
    intro h
    cases writtenItems_succ_eq_ok_iff.mp h with
    | nil next =>
      obtain ⟨closed, rfl⟩ := nextItem_eq_inr next
      exact length_advance_skipBlanks_lt closed
    | cons next read others =>
      obtain ⟨rfl, -, -, -⟩ := nextItem_eq_inl next
      have here := length_lt_of_written fuel read
      have there := length_lt_of_writtenItems fuel others
      have before := length_entry_le first c
      omega

theorem length_lt_of_writtenMembers : ∀ (fuel : Nat) {levels : Nat} {first : Bool}
    {c c' : Cursor} {members : List (String × Value)},
    c.writtenMembers fuel levels first = .ok (members, c') → c'.rest.length < c.rest.length
  | 0, _, _, _, _, _ => by
    intro h
    cases h
  | fuel + 1, levels, first, c, c', members => by
    intro h
    cases writtenMembers_succ_eq_ok_iff.mp h with
    | nil next =>
      obtain ⟨closed, rfl⟩ := nextName_eq_inr next
      exact length_advance_skipBlanks_lt closed
    | cons next named colon read others =>
      have before := length_entry_le first c
      have name := length_lt_of_name next named colon
      have here := length_lt_of_written fuel read
      have there := length_lt_of_writtenMembers fuel others
      omega

end

-- Twice as many steps as there are symbols left are enough, and more make no difference: one step
-- is taken for each container and one for what is inside.
mutual

/-- What is read in some number of steps is read in any number that is large enough. -/
theorem written_of_le : ∀ (fuel : Nat) {levels : Nat} {c c' : Cursor} {v : Value},
    c.writtenWithin fuel levels = .ok (v, c') → ∀ {enough : Nat}, 2 * c.rest.length ≤ enough →
      c.writtenWithin enough levels = .ok (v, c')
  | 0, _, _, _, _ => by
    intro h
    cases h
  | fuel + 1, levels, c, c', v => by
    intro h enough le
    -- A value takes at least one symbol, so there is a step left for it.
    have some := length_lt_of_written _ h
    obtain ⟨enough, rfl⟩ : ∃ n, enough = n + 1 := ⟨enough - 1, by omega⟩
    rw [written_succ_eq_ok_iff]
    cases written_succ_eq_ok_iff.mp h with
    | array here inside =>
      have shorter := length_advance_skipBlanks_lt here
      exact .array here (writtenItems_of_le fuel inside (by omega))
    | object here inside =>
      have shorter := length_advance_skipBlanks_lt here
      exact .object here (writtenMembers_of_le fuel inside (by omega))
    | scalar noArray noObject read => exact .scalar noArray noObject read

theorem writtenItems_of_le : ∀ (fuel : Nat) {levels : Nat} {first : Bool} {c c' : Cursor}
    {items : List Value}, c.writtenItems fuel levels first = .ok (items, c') →
      ∀ {enough : Nat}, 2 * c.rest.length + 1 ≤ enough →
        c.writtenItems enough levels first = .ok (items, c')
  | 0, _, _, _, _, _ => by
    intro h
    cases h
  | fuel + 1, levels, first, c, c', items => by
    intro h enough le
    obtain ⟨enough, rfl⟩ : ∃ n, enough = n + 1 := ⟨enough - 1, by omega⟩
    rw [writtenItems_succ_eq_ok_iff]
    cases writtenItems_succ_eq_ok_iff.mp h with
    | nil next => exact .nil next
    | cons next read others =>
      have shorter := length_lt_of_written fuel read
      obtain ⟨rfl, -, -, -⟩ := nextItem_eq_inl next
      have before := length_entry_le first c
      exact .cons next (written_of_le fuel read (by omega))
        (writtenItems_of_le fuel others (by omega))

theorem writtenMembers_of_le : ∀ (fuel : Nat) {levels : Nat} {first : Bool} {c c' : Cursor}
    {members : List (String × Value)}, c.writtenMembers fuel levels first = .ok (members, c') →
      ∀ {enough : Nat}, 2 * c.rest.length + 1 ≤ enough →
        c.writtenMembers enough levels first = .ok (members, c')
  | 0, _, _, _, _, _ => by
    intro h
    cases h
  | fuel + 1, levels, first, c, c', members => by
    intro h enough le
    obtain ⟨enough, rfl⟩ : ∃ n, enough = n + 1 := ⟨enough - 1, by omega⟩
    rw [writtenMembers_succ_eq_ok_iff]
    cases writtenMembers_succ_eq_ok_iff.mp h with
    | nil next => exact .nil next
    | cons next named colon read others =>
      have before := length_entry_le first c
      have name := length_lt_of_name next named colon
      have shorter := length_lt_of_written fuel read
      exact .cons next named colon (written_of_le fuel read (by omega))
        (writtenMembers_of_le fuel others (by omega))

end

/-- What is written is read in as many steps as the reader allows itself. -/
theorem value_of_written {v : Value} (h : c.writtenWithin fuel levels = .ok (v, c')) :
    c.valueWithin .text c.steps levels = .ok (v.collected, c') := by
  rw [valueWithin_eq_map, written_of_le fuel h (by rw [Cursor.steps]; omega)]
  rfl

end ValidatorGen.Json
