import ValidatorGen.Proofs.Except
import ValidatorGen.Proofs.Json.ReadBack
import ValidatorGen.Proofs.Json.Scalars

/-!
# How deep the values go that are read

Each container that is opened uses up one of the levels that are left, and one that finds no level
left is not read. So no value that is read goes deeper than the levels that the reader was given.

## Main results

* `nesting_le_of_valueWithin` — a value that is read does not go deeper than the levels left
* `Value.nesting_le_of_ofText` — no text stands for a value that goes too deep
* `Value.ofText_indented` — a plain value over several lines is read back
-/

namespace ValidatorGen.Json

variable {origin : Origin}

theorem nesting_of_scalar {c c' : Cursor} {v : Value} (h : c.scalar origin = .ok (v, c')) :
    v.nesting = 0 := by
  cases scalarAt_of_scalar h <;> rfl

/-- Putting in a member goes no deeper than the member and the others. -/
theorem membersNesting_put_le {name : String} {value : Value} {members : List (String × Value)}
    {n : Nat} (first : value.nesting ≤ n) (others : membersNesting members ≤ n) :
    membersNesting (Ordered.put Prod.fst (name, value) members) ≤ n := by
  rw [membersNesting_le_iff] at others ⊢
  intro m mem
  rcases Ordered.mem_put mem with rfl | mem
  · exact first
  · exact others m mem

-- One induction on the steps left to the reader, for a value, for items and for members.
mutual

/-- A value that is read does not go deeper than the levels left. -/
theorem nesting_le_of_valueWithin : ∀ (fuel levels : Nat) {c c' : Cursor} {v : Value},
    c.valueWithin origin fuel levels = .ok (v, c') → v.nesting ≤ levels
  | 0, _, _, _, _ => by
    intro h
    cases h
  | fuel + 1, levels, c, c', v => by
    intro h
    simp only [Cursor.valueWithin] at h
    split at h
    · cases levels with
      | zero => cases h
      | succ levels =>
        obtain ⟨⟨items, c₁⟩, read, done⟩ := bind_eq_ok_iff.mp h
        cases done
        -- The array takes one level, and its items share the others.
        have inside := itemsNesting_le_of_itemsWithin fuel levels read
        change 1 + itemsNesting items ≤ levels + 1
        omega
    · split at h
      · cases levels with
        | zero => cases h
        | succ levels =>
          obtain ⟨⟨members, c₁⟩, read, done⟩ := bind_eq_ok_iff.mp h
          cases done
          have inside := membersNesting_le_of_membersWithin fuel levels read (Nat.zero_le _)
          change 1 + membersNesting members ≤ levels + 1
          omega
      · rw [nesting_of_scalar h]
        exact Nat.zero_le _

theorem itemsNesting_le_of_itemsWithin : ∀ (fuel levels : Nat) {first : Bool} {c c' : Cursor}
    {items : List Value},
    c.itemsWithin origin fuel levels first = .ok (items, c') → itemsNesting items ≤ levels
  | 0, _, _, _, _, _ => by
    intro h
    cases h
  | fuel + 1, levels, first, c, c', items => by
    intro h
    rw [Cursor.itemsWithin] at h
    obtain ⟨next, -, h⟩ := bind_eq_ok_iff.mp h
    cases next with
    | inr c₁ =>
      cases h
      exact Nat.zero_le _
    | inl c₁ =>
      obtain ⟨⟨item, c₂⟩, read, h⟩ := bind_eq_ok_iff.mp h
      obtain ⟨⟨others, c₃⟩, readOthers, done⟩ := bind_eq_ok_iff.mp h
      cases done
      have here := nesting_le_of_valueWithin fuel levels read
      have there := itemsNesting_le_of_itemsWithin fuel levels readOthers
      exact Nat.max_le.mpr ⟨here, there⟩

theorem membersNesting_le_of_membersWithin : ∀ (fuel levels : Nat) {first : Bool}
    {known members : List (String × Value)} {c c' : Cursor},
    c.membersWithin origin fuel levels first known = .ok (members, c') →
      membersNesting known ≤ levels → membersNesting members ≤ levels
  | 0, _, _, _, _, _, _ => by
    intro h
    cases h
  | fuel + 1, levels, first, known, members, c, c' => by
    intro h within
    rw [Cursor.membersWithin] at h
    obtain ⟨next, -, h⟩ := bind_eq_ok_iff.mp h
    cases next with
    | inr c₁ =>
      cases h
      exact within
    | inl c₁ =>
      obtain ⟨⟨name, c₂⟩, -, h⟩ := bind_eq_ok_iff.mp h
      obtain ⟨c₃, -, h⟩ := bind_eq_ok_iff.mp h
      obtain ⟨⟨value, c₄⟩, read, h⟩ := bind_eq_ok_iff.mp h
      have here := nesting_le_of_valueWithin fuel levels read
      exact membersNesting_le_of_membersWithin fuel levels h (membersNesting_put_le here within)

end

/-- No text stands for a value in which too many containers stand inside one another. -/
theorem Value.nesting_le_of_ofText {text : String} {v : Value} (h : Value.ofText text = .ok v) :
    v.nesting ≤ greatestNesting := by
  obtain ⟨⟨value, c⟩, read, h⟩ := bind_eq_ok_iff.mp h
  obtain ⟨finished, -, done⟩ := bind_eq_ok_iff.mp h
  cases done
  exact nesting_le_of_valueWithin _ _ read

/-- A plain value that is written over several lines is read back. -/
theorem Value.ofText_indented {v : Value} (plain : v.Plain) (within : v.nesting ≤ greatestNesting) :
    Value.ofText v.indented = .ok v :=
  Value.ofSymbols_of_spells (spells_indented plain) within .text

end ValidatorGen.Json
