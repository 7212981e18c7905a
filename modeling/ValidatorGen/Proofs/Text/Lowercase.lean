import Mathlib.Data.List.Basic
import ValidatorGen.Naming
import ValidatorGen.Text.Lowercase

/-!
# Lower case keeps separators

White space and hyphens stay as they are in lower case, and no other character becomes one. So the
names of a union keep what is left out of identifiers.

## Main definitions

* `CodePointSet.avoids` — whether no member of a set lies within bounds

## Main results

* `filter_isSeparator_lowercase` — a text has the same separators in lower case
* `lowercase_ne_safeIdentifier` — in lower case a text with a separator is not an identifier
-/

namespace ValidatorGen.Text

open Naming

/-! ### Sets without members within bounds -/

/-- Whether no member of the set lies between `first` and `last`: there is none at `first`, and the
next change comes after `last`. -/
def CodePointSet.avoids (set : CodePointSet) (first last : Nat) : Bool :=
  !oddlyMany first set.changes && (set.changes.dropWhile (· ≤ first)).head?.all (last < ·)

/-- Up to the next change after `first` nothing changes. -/
theorem oddlyMany_eq_of_next_change {first last n : Nat} (lower : first ≤ n) (upper : n ≤ last)
    {changes : List Nat} (h : (changes.dropWhile (· ≤ first)).head?.all (last < ·)) :
    oddlyMany n changes = oddlyMany first changes := by
  induction changes with
  | nil => rfl
  | cons change changes ih =>
    by_cases before : change ≤ first
    · rw [List.dropWhile_cons_of_pos (by simpa using before)] at h
      rw [oddlyMany_cons_of_le (by omega), oddlyMany_cons_of_le before, ih h]
    · rw [List.dropWhile_cons_of_neg (by simpa using before)] at h
      have beyond : last < change := by simpa using h
      rw [oddlyMany_cons_of_lt (by omega), oddlyMany_cons_of_lt (by omega)]

theorem CodePointSet.not_contains_of_avoids {set : CodePointSet} {first last : Nat} {c : Char}
    (h : set.avoids first last) (lower : first ≤ c.toNat) (upper : c.toNat ≤ last) :
    set.contains c = false := by
  rw [avoids, Bool.and_eq_true, Bool.not_eq_true'] at h
  rw [contains, oddlyMany_eq_of_next_change lower upper h.2, h.1]

/-- Whether neither white space nor the hyphen lies between `first` and `last`. -/
def avoidsSeparators (first last : Nat) : Bool :=
  blank.avoids first last && (last < '-'.toNat || '-'.toNat < first)

theorem not_isSeparator_of_avoids {first last : Nat} {c : Char} (h : avoidsSeparators first last)
    (lower : first ≤ c.toNat) (upper : c.toNat ≤ last) : isSeparator c = false := by
  rw [avoidsSeparators, Bool.and_eq_true] at h
  have hyphen : c ≠ '-' := by
    rintro rfl
    have apart := h.2
    simp only [Bool.or_eq_true, decide_eq_true_eq] at apart
    omega
  rw [isSeparator, isBlank, CodePointSet.not_contains_of_avoids h.1 lower upper]
  simpa using hyphen

/-- No capital is a separator, and none has a separator as its lower-case form. -/
theorem avoidsSeparators_of_mem_caseRuns :
    ∀ run ∈ caseRuns, avoidsSeparators run.first run.last ∧
      avoidsSeparators run.target (run.target + (run.last - run.first)) := by
  decide +kernel

/-! ### One character -/

theorem CaseRun.bounds_of_covers {run : CaseRun} {n : Nat} (h : run.covers n) :
    run.first ≤ n ∧ n ≤ run.last := by
  simp only [covers, Bool.and_eq_true, decide_eq_true_eq] at h
  exact h.1

/-- A code point stands for a character with it, or for none and then for the first of all. -/
theorem toNat_ofNat_cases (n : Nat) : (Char.ofNat n).toNat = n ∨ (Char.ofNat n).toNat = 0 := by
  by_cases valid : n.isValidChar
  · left
    rw [Char.ofNat, dif_pos valid]
    rfl
  · right
    rw [Char.ofNat, dif_neg valid]
    rfl

/-- The lower-case form of a character has the same separators as the character. -/
theorem filter_isSeparator_lowerChar (c : Char) :
    (lowerChar c).filter isSeparator = [c].filter isSeparator := by
  rw [lowerChar]
  split
  · rename_i dotted
    obtain rfl : c = Char.ofNat 0x130 := by rw [← dotted, Char.ofNat_toNat]
    decide
  · cases found : caseRuns.find? (·.covers c.toNat) with
    | none => rfl
    | some run =>
      obtain ⟨source, target⟩ :=
        avoidsSeparators_of_mem_caseRuns run (List.mem_of_find?_eq_some found)
      have covers : run.covers c.toNat := by simpa using List.find?_some found
      obtain ⟨lower, upper⟩ := CaseRun.bounds_of_covers covers
      have small : isSeparator (Char.ofNat (run.target + (c.toNat - run.first))) = false := by
        rcases toNat_ofNat_cases (run.target + (c.toNat - run.first)) with code | zero
        · exact not_isSeparator_of_avoids target (by omega) (by omega)
        · exact not_isSeparator_of_avoids (by decide : avoidsSeparators 0 0) (by omega) (by omega)
      have capital := not_isSeparator_of_avoids source lower upper
      simp [small, capital]

/-! ### Texts -/

theorem filter_isSeparator_lowercaseAfter (before cs : List Char) :
    (lowercaseAfter before cs).filter isSeparator = cs.filter isSeparator := by
  induction cs generalizing before with
  | nil => rfl
  | cons c cs ih =>
    have first : (if c = 'Σ' then [if endsWord before cs then 'ς' else 'σ']
        else lowerChar c).filter isSeparator = [c].filter isSeparator := by
      split
      · rename_i sigma
        subst sigma
        split <;> decide
      · exact filter_isSeparator_lowerChar c
    rw [lowercaseAfter, List.filter_append, first, ih, ← List.filter_append, List.singleton_append]

/-- A text has the same separators in lower case. -/
theorem filter_isSeparator_lowercase (s : String) :
    (lowercase s).toList.filter isSeparator = s.toList.filter isSeparator := by
  rw [lowercase, String.toList_ofList, filter_isSeparator_lowercaseAfter]

theorem filter_isSeparator_safeIdentifier (s : String) :
    (safeIdentifier s).toList.filter isSeparator = [] := by
  rw [safeIdentifier, String.toList_ofList, List.filter_filter]
  simp

/-- A text with a separator does not become an identifier in lower case. -/
theorem lowercase_ne_safeIdentifier {s : String} (h : ∃ c ∈ s.toList, isSeparator c)
    (t : String) : lowercase s ≠ safeIdentifier t := by
  intro same
  obtain ⟨c, mem, separator⟩ := h
  have left : c ∈ (lowercase s).toList.filter isSeparator := by
    rw [filter_isSeparator_lowercase]
    exact List.mem_filter.mpr ⟨mem, separator⟩
  rw [same, filter_isSeparator_safeIdentifier] at left
  exact absurd left List.not_mem_nil

end ValidatorGen.Text
