import ValidatorGen.Yaml.Scalar.Written

/-!
# Places in written text

Characters of a line lead to the right on the line, and a line break leads to the beginning of the
next line. What can be written by itself is not a blank other than a space.

## Main definitions

* `wordNext` — whether a word comes next, or nothing at all

## Main results

* `column_after_pos` — only a line break leads to the beginning of a line
* `line_le_foldl`, `line_lt_after_feed` — reading never leads back to an earlier line, and a line
  break leads to a later one
* `isBlank_of_isPrintable` — the only blank that is written by itself is the space
-/

namespace ValidatorGen.Yaml

variable {c : Char} {cs : List Char}

/-! ### Places -/

namespace Mark

variable {m : Mark}

theorem after_of_isBreak (h : isBreak c) (m : Mark) :
    m.after c = ⟨m.line + 1, 0, m.offset + c.utf8Size⟩ := if_pos h

theorem after_of_not_isBreak (h : isBreak c = false) (m : Mark) :
    m.after c = ⟨m.line, m.column + 1, m.offset + c.utf8Size⟩ := if_neg (by simp [h])

theorem column_after_pos (h : isBreak c = false) (m : Mark) : 0 < (m.after c).column := by
  rw [after_of_not_isBreak h]
  exact Nat.succ_pos _

theorem line_le_after (m : Mark) (c : Char) : m.line ≤ (m.after c).line := by
  cases h : isBreak c with
  | true => exact Nat.le_of_lt (by simp [after_of_isBreak h])
  | false => exact Nat.le_of_eq (by rw [after_of_not_isBreak h])

/-- Reading never leads back to an earlier line. -/
theorem line_le_foldl (m : Mark) (cs : List Char) : m.line ≤ (cs.foldl after m).line := by
  induction cs generalizing m with
  | nil => exact Nat.le_refl _
  | cons c cs ih => exact Nat.le_trans (line_le_after m c) (ih _)

/-- A line break leads to a later line. -/
theorem line_lt_after_feed (m : Mark) (cs : List Char) :
    m.line < ((cs.foldl after m).after '\n').line := Nat.lt_succ_of_le (line_le_foldl m cs)

/-- Without a line break the line stays the same, and each character takes one column. -/
theorem foldl_of_not_isBreak (h : ∀ c ∈ cs, isBreak c = false) (m : Mark) :
    (cs.foldl after m).line = m.line ∧ (cs.foldl after m).column = m.column + cs.length := by
  induction cs generalizing m with
  | nil => exact ⟨rfl, rfl⟩
  | cons c cs ih =>
    obtain ⟨line, column⟩ := ih (fun d mem => h d (List.mem_cons_of_mem c mem)) (m.after c)
    rw [List.foldl_cons, line, column, after_of_not_isBreak (h c List.mem_cons_self),
      List.length_cons]
    exact ⟨rfl, by simp only; omega⟩

/-- The column after characters of the same line. -/
theorem column_foldl_pos (h : ∀ c ∈ cs, isBreak c = false) (pos : 0 < m.column) :
    0 < (cs.foldl after m).column := by
  rw [(foldl_of_not_isBreak h m).2]
  omega

/-- The same characters take the same octets wherever they stand. -/
theorem offset_foldl (m m' : Mark) (cs : List Char) :
    (cs.foldl after m).offset + m'.offset = (cs.foldl after m').offset + m.offset := by
  have step (m : Mark) (c : Char) : (m.after c).offset = m.offset + c.utf8Size := by
    cases h : isBreak c with
    | true => rw [after_of_isBreak h]
    | false => rw [after_of_not_isBreak h]
  induction cs generalizing m m' with
  | nil => exact Nat.add_comm m.offset m'.offset
  | cons c cs ih =>
    have later := ih (m.after c) (m'.after c)
    rw [step, step] at later
    simp only [List.foldl_cons]
    omega

end Mark

/-! ### Characters -/

theorem isBlank_eq_false_iff : isBlank c = false ↔ c ≠ ' ' ∧ c ≠ '\t' := by
  simp [isBlank]

theorem isBreak_iff : isBreak c ↔ c = '\n' ∨ c = '\u2028' ∨ c = '\u2029' := by
  simp [isBreak, or_assoc]

theorem not_isBlank_of_isBreak (h : isBreak c) : isBlank c = false := by
  rcases isBreak_iff.mp h with rfl | rfl | rfl <;> decide

/-- The only blank that is written by itself is the space. -/
theorem isBlank_of_isPrintable (printable : isPrintable c) : isBlank c = decide (c = ' ') := by
  have tab : c ≠ '\t' := by
    rintro rfl
    exact absurd printable (by decide)
  simp [isBlank, tab]

/-- What stands before other text ends a word no more than the text does by itself. -/
theorem blankNext_of_append {more : List Char} (h : blankNext (cs ++ more)) : blankNext cs := by
  cases cs with
  | nil => rfl
  | cons c cs => exact h

/-- Whether a word comes next, or nothing at all. -/
def wordNext : List Char → Bool
  | [] => true
  | c :: _ => !(isBlank c || isBreak c || c = '#' || c = '\ufeff')

theorem wordNext_cons_iff {rest : List Char} :
    wordNext (c :: rest) ↔ isBlank c = false ∧ isBreak c = false ∧ c ≠ '#' ∧ c ≠ '\ufeff' := by
  simp [wordNext, and_assoc]

theorem atDocumentMarker_of_pos {m : Mark} (h : 0 < m.column) (rest : List Char) :
    atDocumentMarker m rest = false := by
  simp [atDocumentMarker, Nat.ne_of_gt h]

/-- No marker between documents begins with a line break or a space. -/
theorem atDocumentMarker_of_separator (h : isBreak c ∨ c = ' ') (m : Mark) (rest : List Char) :
    atDocumentMarker m (c :: rest) = false := by
  rw [isBreak_iff] at h
  rcases h with (rfl | rfl | rfl) | rfl <;>
    simp [atDocumentMarker, atDocumentStart, atDocumentEnd]

end ValidatorGen.Yaml
