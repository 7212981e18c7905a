import Mathlib.Tactic.SplitIfs
import ValidatorGen.Json.Skip
import ValidatorGen.Proofs.Json.Agreement
import ValidatorGen.Proofs.Json.ReadBack

/-!
# Scalars

A value that is no container is one of three words, a number or a text, and its first character
tells which. Some of the text is gone when it has been read, and it can also be passed over, with
the same left after it.

## Main definitions

* `ScalarAt` — what a scalar begins with and how it is read

## Main results

* `scalarAt_of_scalar` — a scalar that is read is one of these
* `ScalarAt.length_lt` — less of the text is left after it
* `skipString_of_string`, `skipScalar_of_scalarAt` — what is read of a text or of another scalar is
  passed over
-/

namespace ValidatorGen.Json

open Text

variable {origin : Origin} {c c' : Cursor}

/-- A value that is no container, from one cursor to another. -/
inductive ScalarAt (origin : Origin) (c c' : Cursor) : Value → Prop
  | null (here : c.peek? = some 'n') (spelled : c.spell ['n', 'u', 'l', 'l'] = .ok c') :
    ScalarAt origin c c' .null
  | true (here : c.peek? = some 't') (spelled : c.spell ['t', 'r', 'u', 'e'] = .ok c') :
    ScalarAt origin c c' (.bool true)
  | false (here : c.peek? = some 'f') (spelled : c.spell ['f', 'a', 'l', 's', 'e'] = .ok c') :
    ScalarAt origin c c' (.bool false)
  | number {n : Number} {x : Char} (here : c.peek? = some x) (begins : beginsNumber x)
      (read : c.number origin = .ok (n, c')) : ScalarAt origin c c' (.number n)
  | string {s : String} (here : c.peek? = some '"') (read : c.advance.string = .ok (s, c')) :
    ScalarAt origin c c' (.string s)

theorem peek?_eq_some_iff {x : Char} : c.peek? = some x ↔ ∃ rest, c.rest = .char x :: rest := by
  rw [Cursor.peek?]
  rcases c.rest with _ | ⟨x' | bytes, rest⟩ <;> simp [Symbol.char?]

theorem rest_isEmpty_of_peek? {x : Char} (h : c.peek? = some x) : c.rest.isEmpty = false := by
  obtain ⟨rest, next⟩ := peek?_eq_some_iff.mp h
  rw [next]
  rfl

theorem scalarAt_of_scalar {v : Value} (h : c.scalar origin = .ok (v, c')) :
    ScalarAt origin c c' v := by
  rw [Cursor.scalar] at h
  split at h
  · cases h
  · cases h
  · rename_i x rest next
    have here := peek?_eq_some_iff.mpr ⟨rest, next⟩
    split at h
    · rename_i letters value word
      obtain ⟨c₁, spelled, done⟩ := bind_eq_ok_iff.mp h
      cases done
      -- One of the three words comes next, and it is the one with this first letter.
      have listed : (letters, v) ∈ words := List.mem_of_find?_eq_some word
      have head : letters.head? = some x := by simpa using List.find?_some word
      simp only [words, List.mem_cons, Prod.mk.injEq, List.not_mem_nil, or_false] at listed
      rcases listed with ⟨rfl, rfl⟩ | ⟨rfl, rfl⟩ | ⟨rfl, rfl⟩
      · exact .null (here.trans head.symm) spelled
      · exact .true (here.trans head.symm) spelled
      · exact .false (here.trans head.symm) spelled
    · split at h
      · rename_i begins
        obtain ⟨⟨n, c₁⟩, read, done⟩ := bind_eq_ok_iff.mp h
        cases done
        exact .number here begins read
      · split at h
        · rename_i quote
          obtain ⟨⟨s, c₁⟩, read, done⟩ := bind_eq_ok_iff.mp h
          cases done
          exact .string (quote ▸ here) read
        · cases h

/-! ### What is left to read -/

theorem length_skipBlanksFrom_le (rest : List Symbol) (p : Position) :
    (skipBlanksFrom rest p).rest.length ≤ rest.length := by
  induction rest generalizing p with
  | nil => exact Nat.le_refl 0
  | cons symbol rest ih =>
    cases symbol with
    | stray bytes => exact Nat.le_refl _
    | char x =>
      rw [skipBlanksFrom]
      split
      · exact Nat.le_succ_of_le (ih _)
      · exact Nat.le_refl _

theorem length_skipBlanks_le (c : Cursor) : c.skipBlanks.rest.length ≤ c.rest.length :=
  length_skipBlanksFrom_le c.rest c.position

theorem length_advance_le (c : Cursor) : c.advance.rest.length ≤ c.rest.length := by
  rw [Cursor.advance]
  split
  · exact Nat.le_refl _
  · rename_i next
    rw [next]
    exact Nat.le_succ _

theorem length_advance_lt {x : Char} (h : c.peek? = some x) :
    c.advance.rest.length < c.rest.length := by
  have present := rest_isEmpty_of_peek? h
  rw [Cursor.advance]
  split
  · rename_i next
    rw [next] at present
    cases present
  · rename_i next
    rw [next]
    exact Nat.lt_succ_self _

/-- What comes after a symbol that is not blank is shorter than what came before the blanks. -/
theorem length_advance_skipBlanks_lt {x : Char} (h : c.skipBlanks.peek? = some x) :
    c.skipBlanks.advance.rest.length < c.rest.length :=
  Nat.lt_of_lt_of_le (length_advance_lt h) (length_skipBlanks_le c)

theorem skipBlanks_skipBlanksFrom (rest : List Symbol) (p : Position) :
    (skipBlanksFrom rest p).skipBlanks = skipBlanksFrom rest p := by
  induction rest generalizing p with
  | nil => rfl
  | cons symbol rest ih =>
    cases symbol with
    | stray bytes => rfl
    | char x =>
      rw [skipBlanksFrom]
      split
      · exact ih _
      · rename_i visible
        rw [Cursor.skipBlanks, skipBlanksFrom, if_neg visible]

theorem skipBlanks_skipBlanks (c : Cursor) : c.skipBlanks.skipBlanks = c.skipBlanks :=
  skipBlanks_skipBlanksFrom c.rest c.position

theorem spell_cons_eq_ok {letter : Char} {letters : List Char}
    (h : c.spell (letter :: letters) = .ok c') :
    c.peek? = some letter ∧ c.advance.spell letters = .ok c' := by
  rw [Cursor.spell] at h
  split at h
  · cases h
  · split at h
    · rename_i here
      exact ⟨here, h⟩
    · cases h

theorem length_le_of_spell {letters : List Char} (h : c.spell letters = .ok c') :
    c'.rest.length ≤ c.rest.length := by
  induction letters generalizing c with
  | nil =>
    cases h
    exact Nat.le_refl _
  | cons letter letters ih =>
    exact Nat.le_trans (ih (spell_cons_eq_ok h).2) (length_advance_le c)

theorem length_lt_of_spell {letter : Char} {letters : List Char}
    (h : c.spell (letter :: letters) = .ok c') : c'.rest.length < c.rest.length := by
  obtain ⟨here, others⟩ := spell_cons_eq_ok h
  exact Nat.lt_of_le_of_lt (length_le_of_spell others) (length_advance_lt here)

theorem length_lt_of_stringFrom {skip : Nat} {s : StringProgress} {rest : List Symbol}
    {p : Position} {text : String} (h : stringFrom skip s rest p = .ok (text, c')) :
    c'.rest.length < rest.length := by
  induction rest generalizing skip s p with
  | nil => cases h
  | cons symbol rest ih =>
    refine Nat.lt_succ_of_le ?_
    cases skip with
    | succ skip => exact Nat.le_of_lt (ih h)
    | zero =>
      cases symbol with
      | stray bytes => exact Nat.le_of_lt (ih h)
      | char x =>
        simp only [stringFrom] at h
        split_ifs at h with quote backslash
        · -- The string ends here, and what is left is all that comes after the quote.
          rw [StringProgress.finish] at h
          split at h
          · cases h
          · cases h
            exact Nat.le_refl _
        · split at h
          · exact Nat.le_of_lt (ih h)
          · cases h
        · exact Nat.le_of_lt (ih h)

theorem length_lt_of_string {text : String} (h : c.string = .ok (text, c')) :
    c'.rest.length < c.rest.length :=
  length_lt_of_stringFrom h


/-- The digits that are read are gone. -/
theorem length_digitsFrom (rest : List Symbol) (p : Position) :
    (digitsFrom rest p).2.rest.length + (digitsFrom rest p).1.length = rest.length := by
  induction rest generalizing p with
  | nil => rfl
  | cons symbol rest ih =>
    cases symbol with
    | stray bytes => rfl
    | char x =>
      rw [digitsFrom]
      cases digit? x with
      | none => rfl
      | some d => exact congrArg (· + 1) (ih _)

theorem length_of_digits {ds : List Nat} (h : c.digits = (ds, c')) :
    c'.rest.length + ds.length = c.rest.length := by
  have all := length_digitsFrom c.rest c.position
  rwa [← Cursor.digits, h] at all

theorem missingDigit_ne_ok {α : Type} (c : Cursor) (atEnd : Fault) (a : α) :
    c.missingDigit atEnd ≠ .ok a := by
  rw [Cursor.missingDigit]
  split <;> nofun

theorem length_lt_of_wholeDigits {atEnd : Fault} {ds : List Nat}
    (h : c.wholeDigits atEnd = .ok (ds, c')) : c'.rest.length < c.rest.length := by
  rw [Cursor.wholeDigits] at h
  split at h
  · exact absurd h (missingDigit_ne_ok c atEnd _)
  · cases h
  · rename_i digits after none _ read
    cases h
    have all := length_of_digits read
    have some : ds.length ≠ 0 := by simpa using none
    omega

theorem length_le_of_fractionDigits {atEnd : Fault} {ds : List Nat}
    (h : c.fractionDigits atEnd = .ok (ds, c')) : c'.rest.length ≤ c.rest.length := by
  rw [Cursor.fractionDigits] at h
  split at h
  · split at h
    · exact absurd h (missingDigit_ne_ok _ atEnd _)
    · rename_i read
      cases h
      have all := length_of_digits read
      have point := length_advance_le c
      omega
  · cases h
    exact Nat.le_refl _

theorem length_le_of_exponent {atEnd : Fault} {e : Option Exponent}
    (h : c.exponent atEnd = .ok (e, c')) : c'.rest.length ≤ c.rest.length := by
  simp only [Cursor.exponent] at h
  split at h
  · split at h
    · exact absurd h (missingDigit_ne_ok _ atEnd _)
    · rename_i read
      cases h
      have all := length_of_digits read
      have letter := length_advance_le c
      have sign := length_advance_le c.advance
      split at all <;> omega
  · cases h
    exact Nat.le_refl _

theorem length_lt_of_numeral {atEnd : Fault} {t : Numeral}
    (h : c.numeral atEnd = .ok (t, c')) : c'.rest.length < c.rest.length := by
  obtain ⟨⟨whole, c₁⟩, readWhole, h⟩ := bind_eq_ok_iff.mp h
  obtain ⟨⟨fraction, c₂⟩, readFraction, h⟩ := bind_eq_ok_iff.mp h
  obtain ⟨⟨exponent, c₃⟩, readExponent, done⟩ := bind_eq_ok_iff.mp h
  cases done
  have before := length_lt_of_wholeDigits readWhole
  have after := length_le_of_fractionDigits readFraction
  have last := length_le_of_exponent readExponent
  omega

/-- A number that is read is a numeral, perhaps after a sign. -/
theorem numeral_of_number {n : Number} (h : c.number origin = .ok (n, c')) :
    ∃ t, (if c.peek? = some '-' then c.advance else c).numeral .endInValue = .ok (t, c') := by
  have unsigned {c : Cursor} {negative : Bool} (h : c.unsigned origin negative = .ok (n, c')) :
      ∃ t, c.numeral .endInValue = .ok (t, c') := by
    obtain ⟨⟨t, c₁⟩, read, h⟩ := bind_eq_ok_iff.mp h
    dsimp only at h
    split at h
    · cases h
      exact ⟨t, read⟩
    · rw [Cursor.outOfRange] at h
      split at h
      · split_ifs at h <;> cases h
      · split_ifs at h <;> cases h
  rw [Cursor.number] at h
  split at h
  · rename_i minus
    rw [if_pos minus]
    exact unsigned h
  · rename_i minus
    rw [if_neg minus]
    exact unsigned h

theorem length_lt_of_number {n : Number} (h : c.number origin = .ok (n, c')) :
    c'.rest.length < c.rest.length := by
  obtain ⟨t, read⟩ := numeral_of_number h
  have shorter := length_lt_of_numeral read
  have sign := length_advance_le c
  split at shorter <;> omega

theorem ScalarAt.length_lt {v : Value} (h : ScalarAt origin c c' v) :
    c'.rest.length < c.rest.length := by
  cases h with
  | null _ spelled => exact length_lt_of_spell spelled
  | true _ spelled => exact length_lt_of_spell spelled
  | false _ spelled => exact length_lt_of_spell spelled
  | number _ _ read => exact length_lt_of_number read
  | string here read => exact Nat.lt_trans (length_lt_of_string read) (length_advance_lt here)

/-! ### Passing over numbers -/

section

variable {atEnd atEnd' : Fault}

theorem agree_missingDigit {α : Type} (c : Cursor) :
    Agree (fun _ => True) (c.missingDigit atEnd' : Except Error α) (c.missingDigit atEnd) := by
  refine .inr ?_
  rw [Cursor.missingDigit]
  split <;> exact ⟨_, rfl, trivial⟩

/-- What is reported at the end of the text makes no difference to a numeral that is there. -/
theorem agree_numeral (atEnd atEnd' : Fault) (c : Cursor) :
    Agree (fun _ => True) (c.numeral atEnd') (c.numeral atEnd) := by
  have whole (c : Cursor) :
      Agree (fun _ => True) (c.wholeDigits atEnd') (c.wholeDigits atEnd) := by
    rw [Cursor.wholeDigits, Cursor.wholeDigits]
    split
    · exact agree_missingDigit c
    · exact .refl _
    · exact .refl _
  have fraction (c : Cursor) :
      Agree (fun _ => True) (c.fractionDigits atEnd') (c.fractionDigits atEnd) := by
    rw [Cursor.fractionDigits, Cursor.fractionDigits]
    split
    · split
      · exact agree_missingDigit _
      · exact .refl _
    · exact .refl _
  have exponent (c : Cursor) :
      Agree (fun _ => True) (c.exponent atEnd') (c.exponent atEnd) := by
    simp only [Cursor.exponent]
    split
    · split
      · exact agree_missingDigit _
      · exact .refl _
    · exact .refl _
  refine (whole c).bind fun (_, c) => (fraction c).bind fun (_, c) => ?_
  exact (exponent c).bind fun _ => .refl _

theorem numeral_of_numeral {t : Numeral} (h : c.numeral atEnd = .ok (t, c')) :
    c.numeral atEnd' = .ok (t, c') := by
  rcases agree_numeral atEnd atEnd' c with same | ⟨e, failed, -⟩
  · exact same.trans h
  · cases h.symm.trans failed

end

/-! ### Passing over texts -/

theorem skipStringFrom_skip (cs : List Char) (rest : List Symbol) (p : Position) :
    skipStringFrom cs.length (cs.map .char ++ rest) p = skipStringFrom 0 rest (p.past cs) := by
  induction cs generalizing p with
  | nil => rfl
  | cons c cs ih => exact ih (p.after (.char c))

/-- The column tells how many symbols belong to an escape. -/
theorem skipStringFrom_column {cs : List Char} (narrow : ∀ c ∈ cs, Narrow c) (rest : List Symbol)
    (p : Position) :
    skipStringFrom ((p.past cs).column - p.column) (cs.map .char ++ rest) p =
      skipStringFrom 0 rest (p.past cs) := by
  have count : (p.past cs).column - p.column = cs.length := by
    rw [column_past narrow]
    omega
  rw [count, skipStringFrom_skip]

/-- A hexadecimal digit takes one byte. -/
theorem exists_narrow_of_hex {symbol : Symbol} {n : Nat}
    (h : symbol.char?.bind hexValue? = some n) : ∃ x, symbol = .char x ∧ Narrow x := by
  have narrow {x : Char} (first : '0' ≤ x) (last : x ≤ 'f') : Narrow x := by
    constructor
    · rintro rfl
      exact absurd first (by decide)
    · have ascii : x ≤ Char.ofNat 0x7f := Char.le_trans last (by decide)
      exact Char.utf8Size_eq_one_iff.mpr ascii
  cases symbol with
  | stray bytes => cases h
  | char x =>
    refine ⟨x, rfl, ?_⟩
    change hexValue? x = some n at h
    rw [hexValue?] at h
    split_ifs at h with digit lower upper
    · exact narrow digit.1 (Char.le_trans digit.2 (by decide))
    · exact narrow (Char.le_trans (by decide) lower.1) lower.2
    · exact narrow (Char.le_trans (by decide) upper.1) (Char.le_trans upper.2 (by decide))

/-- A UTF-16 unit takes symbols of one byte. -/
theorem unit_eq_ok {n : Nat} (h : c.unit = .ok (n, c')) :
    ∃ digits rest, (∀ d ∈ digits, Narrow d) ∧ c.rest = digits.map .char ++ rest ∧
      c' = ⟨rest, c.position.past digits⟩ := by
  rw [Cursor.unit] at h
  split at h
  · rename_i read
    cases h
    rw [Cursor.hexDigits?] at read
    split at read
    · rename_i digits
      obtain ⟨symbols, p⟩ := c
      rcases symbols with _ | ⟨s₁, _ | ⟨s₂, _ | ⟨s₃, _ | ⟨s₄, rest⟩⟩⟩⟩ <;> simp at digits
      obtain ⟨first, second, third, fourth⟩ := digits
      obtain ⟨x₁, rfl, narrow₁⟩ := exists_narrow_of_hex first
      obtain ⟨x₂, rfl, narrow₂⟩ := exists_narrow_of_hex second
      obtain ⟨x₃, rfl, narrow₃⟩ := exists_narrow_of_hex third
      obtain ⟨x₄, rfl, narrow₄⟩ := exists_narrow_of_hex fourth
      exact ⟨[x₁, x₂, x₃, x₄], rest, by simp [narrow₁, narrow₂, narrow₃, narrow₄], rfl, rfl⟩
    · cases read
  · split at h <;> cases h

theorem joint_eq_ok {x : Char} (h : c.joint x = .ok c') :
    ∃ rest, c.rest = .char x :: rest ∧ c' = ⟨rest, c.position.after (.char x)⟩ := by
  rw [Cursor.joint] at h
  split at h
  · cases h
  · split at h
    · rename_i here
      obtain ⟨rest, next⟩ := peek?_eq_some_iff.mp here
      cases h
      exact ⟨rest, next, by rw [Cursor.advance, next]⟩
    · cases h

/-- An escape by code point gives one UTF-16 unit, or two with a backslash and a letter between. -/
theorem codePoint_eq_ok {meaning : Char} (h : c.codePoint = .ok (meaning, c')) :
    ∃ first c₁, c.unit = .ok (first, c₁) ∧ (c' = c₁ ∨ ∃ c₂ c₃ second,
      c₁.joint '\\' = .ok c₂ ∧ c₂.joint 'u' = .ok c₃ ∧ c₃.unit = .ok (second, c')) := by
  obtain ⟨⟨first, c₁⟩, readFirst, h⟩ := bind_eq_ok_iff.mp h
  refine ⟨first, c₁, readFirst, ?_⟩
  dsimp only at h
  split_ifs at h with lone half
  · simp [Cursor.fail] at h
  · obtain ⟨c₂, backslash, h⟩ := bind_eq_ok_iff.mp h
    obtain ⟨c₃, letter, h⟩ := bind_eq_ok_iff.mp h
    obtain ⟨⟨second, c₄⟩, readSecond, h⟩ := bind_eq_ok_iff.mp h
    dsimp only at h
    split_ifs at h
    · obtain ⟨-, rfl⟩ := Prod.mk.inj (Except.ok.inj h)
      exact .inr ⟨c₂, c₃, second, backslash, letter, readSecond⟩
    · simp [Cursor.fail] at h
  · obtain ⟨-, rfl⟩ := Prod.mk.inj (Except.ok.inj h)
    exact .inl rfl

/-- An escape that is not wanted is passed over by its column. -/
theorem skipStringFrom_escape {cs : List Char} (narrow : ∀ c ∈ cs, Narrow c) {rest : List Symbol}
    {p : Position}
    (skipped : (ahead cs rest (p.after (.char '\\'))).skipEscape =
      .ok ⟨rest, p.past ('\\' :: cs)⟩) :
    skipStringFrom 0 (('\\' :: cs).map .char ++ rest) p =
      skipStringFrom 0 rest (p.past ('\\' :: cs)) := by
  rw [ahead] at skipped
  rw [List.map_cons, List.cons_append, skipStringFrom, if_neg (by decide), if_pos rfl]
  dsimp only
  rw [skipped]
  exact skipStringFrom_column narrow rest _

/-- An escape is passed over as far as it was read. If it was the first of two halves of a
character, the other half is passed over as an escape of its own. -/
theorem skipEscape_of_escaped {meaning : Char} {rest : List Symbol} {p : Position}
    (h : (⟨rest, p⟩ : Cursor).escaped = .ok (meaning, c')) :
    ∃ c₁, (⟨rest, p⟩ : Cursor).skipEscape = .ok c₁ ∧
      skipStringFrom (c₁.position.column - p.column) rest p =
        skipStringFrom (c'.position.column - p.column) rest p := by
  by_cases unit : (⟨rest, p⟩ : Cursor).peek? = some 'u'
  · obtain ⟨inner, rfl⟩ := peek?_eq_some_iff.mp unit
    rw [Cursor.escaped, if_neg (by simp), if_pos unit] at h
    obtain ⟨first, c₁, readFirst, second⟩ := codePoint_eq_ok h
    refine ⟨c₁, by rw [Cursor.skipEscape, if_pos unit, readFirst]; rfl, ?_⟩
    rcases second with rfl | ⟨c₂, c₃, second, backslash, letter, readSecond⟩
    · rfl
    · obtain ⟨digits, rest, narrow, here, rfl⟩ := unit_eq_ok readFirst
      obtain ⟨rest, rfl, rfl⟩ := joint_eq_ok backslash
      obtain ⟨rest, rfl, rfl⟩ := joint_eq_ok letter
      obtain ⟨digits', rest, narrow', rfl, rfl⟩ := unit_eq_ok readSecond
      have narrowU {digits : List Char} (narrow : ∀ d ∈ digits, Narrow d) :
          ∀ d ∈ 'u' :: digits, Narrow d := List.forall_mem_cons.mpr ⟨by decide, narrow⟩
      have narrowBoth : ∀ d ∈ 'u' :: digits ++ '\\' :: 'u' :: digits', Narrow d :=
        List.forall_mem_append.mpr
          ⟨narrowU narrow, List.forall_mem_cons.mpr ⟨by decide, narrowU narrow'⟩⟩
      have skipped : (ahead ('u' :: digits') rest ((p.past ('u' :: digits)).after
          (.char '\\'))).skipEscape =
            .ok ⟨rest, (p.past ('u' :: digits)).past ('\\' :: 'u' :: digits')⟩ := by
        rw [Cursor.skipEscape, if_pos (peek?_ahead ..), advance_ahead]
        exact congrArg (· >>= fun read => .ok read.2) readSecond
      have written : .char 'u' :: inner =
          ('u' :: digits ++ '\\' :: 'u' :: digits').map .char ++ rest := by
        rw [List.map_append, List.append_assoc]
        exact congrArg _ here
      rw [written]
      calc skipStringFrom _ (('u' :: digits ++ '\\' :: 'u' :: digits').map .char ++ rest) p
        _ = skipStringFrom 0 (('\\' :: 'u' :: digits').map .char ++ rest)
              (p.past ('u' :: digits)) := by
          rw [List.map_append, List.append_assoc]
          exact skipStringFrom_column (narrowU narrow) _ p
        _ = skipStringFrom 0 rest (p.past ('u' :: digits ++ '\\' :: 'u' :: digits')) := by
          rw [skipStringFrom_escape (narrowU narrow') skipped, Position.past_append]
        _ = skipStringFrom ((p.past ('u' :: digits ++ '\\' :: 'u' :: digits')).column - p.column)
              (('u' :: digits ++ '\\' :: 'u' :: digits').map .char ++ rest) p :=
          (skipStringFrom_column narrowBoth rest p).symm
        _ = _ := by
          rw [Position.past_append]
          rfl
  · refine ⟨c', ?_, rfl⟩
    rw [Cursor.skipEscape, if_neg unit, h]
    rfl

theorem skipStringFrom_of_stringFrom {skip : Nat} {s : StringProgress} {rest : List Symbol}
    {p : Position} {text : String} (h : stringFrom skip s rest p = .ok (text, c')) :
    skipStringFrom skip rest p = .ok c' := by
  induction rest generalizing skip s p with
  | nil => cases h
  | cons symbol rest ih =>
    cases skip with
    | succ skip => exact ih h
    | zero =>
      cases symbol with
      | stray bytes => exact ih h
      | char x =>
        simp only [stringFrom, skipStringFrom] at h ⊢
        split_ifs at h ⊢ with quote backslash control
        · rw [StringProgress.finish] at h
          split at h
          · cases h
          · cases h
            rfl
        · -- The escape itself need not be passed over as far as it was read, but then what follows
          -- it is.
          split at h
          · rename_i meaning c₁ escaped
            obtain ⟨c₂, skipped, same⟩ := skipEscape_of_escaped escaped
            rw [skipped]
            exact same.trans (ih h)
          · cases h
        · exact ih h

/-- A text that is read is passed over. -/
theorem skipString_of_string {text : String} (h : c.string = .ok (text, c')) :
    c.skipString = .ok c' :=
  skipStringFrom_of_stringFrom h

/-! ### Passing over scalars -/

theorem ne_of_beginsNumber {x y : Char} (begins : beginsNumber x) (other : beginsNumber y = false) :
    x ≠ y := by
  rintro rfl
  exact absurd begins (by simp [other])

theorem word?_of_beginsNumber {x : Char} (begins : beginsNumber x) : word? x = none := by
  have n := ne_of_beginsNumber begins (y := 'n') (by decide)
  have t := ne_of_beginsNumber begins (y := 't') (by decide)
  have f := ne_of_beginsNumber begins (y := 'f') (by decide)
  rw [word?, List.find?_eq_none]
  simp [words, n.symm, t.symm, f.symm]

/-- A scalar that is read is passed over. -/
theorem skipScalar_of_scalarAt {v : Value} (h : ScalarAt origin c c' v) :
    c.skipScalar = .ok c' := by
  cases h with
  | null here spelled | true here spelled | false here spelled =>
    obtain ⟨rest, next⟩ := peek?_eq_some_iff.mp here
    rw [Cursor.skipScalar, next]
    exact spelled
  | @number n x here begins read =>
    obtain ⟨rest, next⟩ := peek?_eq_some_iff.mp here
    obtain ⟨t, numeral⟩ := numeral_of_number read
    -- What is passed over looks for the sign by itself, and for a digit it reports another fault.
    simp only [here, Option.some.injEq] at numeral
    simp only [Cursor.skipScalar, next, word?_of_beginsNumber begins, if_pos begins,
      numeral_of_numeral numeral, bind, Except.bind]
    rfl
  | string here read =>
    obtain ⟨rest, next⟩ := peek?_eq_some_iff.mp here
    rw [Cursor.skipScalar, next]
    exact skipString_of_string read

end ValidatorGen.Json
