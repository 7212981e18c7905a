import Mathlib.Tactic.SplitIfs
import ValidatorGen.Proofs.Yaml.Cursor
import ValidatorGen.Yaml.Scalar.Block

/-!
# Block scalars are read as they are written

A text in lines of its own is indented by two columns. The reader takes the indentation from the
header, or from the first line where that line shows it. Line breaks are put aside until another
line comes, and the header says which of them count at the end.

## Main definitions

* `pending` — the line breaks that have been put aside
* `literalChar`, `literalEnd` — how a character is written in lines of its own, and what ends the
  last line
* `indicators` — what the header says

## Main results

* `blockLinesFrom_body` — the lines of a text are read one after the other
* `blockLinesFrom_line` — a text is read back from its lines
* `blockHeader_indicators` — the header is read back
* `blockScalar_line` — a text in lines of its own is read back
-/

namespace ValidatorGen.Yaml

variable {c : Char} {s rest : List Char} {m start : Mark} {b : BlockLines}

/-! ### Lines -/

/-- The line breaks that have been put aside. -/
def pending : LineGap ⊕ Bool → List Char
  | .inl gap => gap.first.toList ++ gap.later
  | .inr _ => []

/-- A character as it is written in lines of their own. -/
def literalChar (afterBreak : Bool) (c : Char) : List Char :=
  if afterBreak && !isBreak c then indentation ++ [c] else [c]

theorem literalBody_cons (afterBreak : Bool) (c : Char) (s : List Char) :
    literalBody afterBreak (c :: s) = literalChar afterBreak c ++ literalBody (isBreak c) s := by
  rw [literalBody, literalChar]
  cases isBreak c <;> cases afterBreak <;> rfl

/-- What stands in lines of its own is the text and spaces. -/
theorem of_mem_literalBody {d : Char} {afterBreak : Bool} (mem : d ∈ literalBody afterBreak s) :
    d = ' ' ∨ d ∈ s := by
  induction s generalizing afterBreak with
  | nil => cases mem
  | cons c s ih => grind [literalBody_cons, literalChar, indentation]

theorem prepend_nil (x : Except Error (List Char × Cursor)) : prepend [] x = x := by
  cases x <;> rfl

theorem prepend_prepend (cs ds : List Char) (x : Except Error (List Char × Cursor)) :
    prepend cs (prepend ds x) = prepend (cs ++ ds) x := by
  cases x <;> simp [prepend, Except.map]

section

variable (literal : b.literal) (indent : b.indent = 2)

include literal indent

/-- A character counts together with the line breaks before it, or it is a line break that is put
aside. -/
theorem blockLinesFrom_char (more : List Char) (state : LineGap ⊕ Bool)
    (column : state.isLeft → m.column = 0) (c : Char) :
    ∃ state' out, blockLinesFrom b state (literalChar state.isLeft c ++ more) m =
        prepend out (blockLinesFrom b state' more
          ((literalChar state.isLeft c).foldl Mark.after m)) ∧
      out ++ pending state' = pending state ++ [c] ∧ state'.isLeft = isBreak c ∧
      (state'.isLeft → ((literalChar state.isLeft c).foldl Mark.after m).column = 0) := by
  cases breaks : isBreak c with
  | true =>
    obtain ⟨noSpace, noTab⟩ := isBlank_eq_false_iff.mp (not_isBlank_of_isBreak breaks)
    have char : literalChar state.isLeft c = [c] := by simp [literalChar, breaks]
    rw [char, List.foldl_cons, List.foldl_nil, Mark.after_of_isBreak breaks]
    cases state with
    | inl gap =>
      refine ⟨.inl { gap with later := gap.later ++ [c] }, [], ?_, by simp [pending], rfl,
        fun _ => rfl⟩
      simp [blockLinesFrom, noSpace, noTab, breaks, prepend_nil, Mark.after_of_isBreak breaks]
    | inr blank =>
      refine ⟨.inl ⟨some c, [], blank⟩, [], ?_, rfl, rfl, fun _ => rfl⟩
      simp [blockLinesFrom, breaks, prepend_nil, Mark.after_of_isBreak breaks]
  | false =>
    cases state with
    | inl gap =>
      have char : literalChar true c = [' ', ' ', c] := by simp [literalChar, breaks, indentation]
      refine ⟨.inr (isBlank c), gap.first.toList ++ gap.later ++ [c], ?_, by simp [pending], rfl,
        nofun⟩
      have zero : m.column = 0 := column rfl
      have space : isBreak ' ' = false := rfl
      change blockLinesFrom b _ (literalChar true c ++ _) _ =
        prepend _ (blockLinesFrom b _ _ ((literalChar true c).foldl _ _))
      simp [char, blockLinesFrom, zero, indent, Mark.after_of_not_isBreak space, breaks,
        BlockLines.gapText, literal]
    | inr blank =>
      have char : literalChar false c = [c] := rfl
      refine ⟨.inr blank, [c], ?_, by simp [pending], rfl, nofun⟩
      change blockLinesFrom b _ (literalChar false c ++ _) _ =
        prepend _ (blockLinesFrom b _ _ ((literalChar false c).foldl _ _))
      simp [char, blockLinesFrom, breaks]

/-- The characters of a text are read one after the other: what counts so far, with what has been
put aside, is the text. -/
theorem blockLinesFrom_body (more : List Char) (state : LineGap ⊕ Bool)
    (column : state.isLeft → m.column = 0) (s : List Char) :
    ∃ state' out, blockLinesFrom b state (literalBody state.isLeft s ++ more) m =
        prepend out (blockLinesFrom b state' more
          ((literalBody state.isLeft s).foldl Mark.after m)) ∧
      out ++ pending state' = pending state ++ s ∧
      (state'.isLeft → ((literalBody state.isLeft s).foldl Mark.after m).column = 0) ∧
      state'.isLeft = s.getLast?.elim state.isLeft isBreak := by
  induction s generalizing state m with
  | nil => exact ⟨state, [], (prepend_nil _).symm, by simp, column, rfl⟩
  | cons c s ih =>
    obtain ⟨first, out, read, text, breaks, column₁⟩ :=
      blockLinesFrom_char literal indent (literalBody (isBreak c) s ++ more) state column c
    obtain ⟨state', out', read', text', column', last⟩ := ih first column₁
    rw [literalBody_cons]
    rw [breaks] at read' column' last
    refine ⟨state', out ++ out', ?_, ?_, ?_, ?_⟩
    · rw [List.append_assoc, read, read', prepend_prepend, List.foldl_append]
    · rw [List.append_assoc, text', ← List.append_assoc, text, List.append_assoc]
      rfl
    · rwa [List.foldl_append]
    · cases s with
      | nil => exact last
      | cons d s =>
        rw [List.getLast?_cons_cons, last, List.getLast?_eq_some_getLast (List.cons_ne_nil d s)]
        rfl

/-! ### The end of a text -/

omit literal in
/-- The text ends where a word stands at the beginning of a line. -/
theorem blockLinesFrom_end (gap : LineGap) (column : m.column = 0) (word : wordNext rest) :
    blockLinesFrom b (.inl gap) rest m = .ok (b.tailText gap, ⟨rest, m⟩) := by
  cases rest with
  | nil => rfl
  | cons c rest =>
    obtain ⟨blank, noBreak, -, -⟩ := wordNext_cons_iff.mp word
    obtain ⟨noSpace, noTab⟩ := isBlank_eq_false_iff.mp blank
    simp [blockLinesFrom, noBreak, noSpace, noTab, column, indent]

omit literal in
/-- One line break ends the text where a word follows on the next line. -/
theorem blockLinesFrom_lineBreak (blank : Bool) (breaks : isBreak c) (word : wordNext rest) :
    blockLinesFrom b (.inr blank) (c :: rest) m =
      .ok (b.tailText ⟨some c, [], blank⟩, ⟨rest, m.after c⟩) := by
  have column : (m.after c).column = 0 := by rw [Mark.after_of_isBreak breaks]
  rw [blockLinesFrom, if_pos breaks, blockLinesFrom_end indent _ column word]

end

theorem literalBody_concat (breaks : isBreak c) (afterBreak : Bool) (s : List Char) :
    literalBody afterBreak (s ++ [c]) = literalBody afterBreak s ++ [c] := by
  induction s generalizing afterBreak with
  | nil => simp [literalBody, breaks]
  | cons d s ih => rw [List.cons_append, literalBody_cons, ih, literalBody_cons, List.append_assoc]

theorem chompingOf_concat (s : List Char) (c : Char) :
    chompingOf (s ++ [c]) =
      if !isBreak c then .strip else if s.getLast?.all isBreak then .keep else .clip := by
  rw [chompingOf, List.reverse_append, List.reverse_singleton, List.singleton_append]
  simp only [List.head?_reverse]

/-- What ends the last line of a text. -/
def literalEnd (s : List Char) : List Char := if s.getLast?.any isBreak then [] else ['\n']

/-- The lines of a text end with a line break. -/
theorem column_literalEnd (nonempty : s ≠ []) (cs : List Char) (m : Mark) :
    ((cs ++ literalBody true s ++ literalEnd s).foldl Mark.after m).column = 0 := by
  obtain ⟨s, c, rfl⟩ : ∃ s' c, s = s' ++ [c] := ⟨_, _, (List.dropLast_concat_getLast nonempty).symm⟩
  rw [literalEnd, List.getLast?_concat, Option.any_some]
  split_ifs with breaks
  · rw [literalBody_concat breaks, List.append_nil, ← List.append_assoc, List.foldl_append,
      List.foldl_cons, List.foldl_nil, Mark.after_of_isBreak breaks]
  · rw [List.foldl_append]
    rfl

/-- A text is read back from its lines. -/
theorem blockLinesFrom_line (nonempty : s ≠ []) (start : Mark) (column : m.column = 0)
    (word : wordNext rest) :
    blockLinesFrom ⟨true, 2, chompingOf s, start⟩ (.inl {})
        (literalBody true s ++ literalEnd s ++ rest) m =
      .ok (s, ⟨rest, (literalBody true s ++ literalEnd s).foldl Mark.after m⟩) := by
  obtain ⟨s, c, rfl⟩ : ∃ s' c, s = s' ++ [c] := ⟨_, _, (List.dropLast_concat_getLast nonempty).symm⟩
  have lines (more : List Char) (k : Chomping) (s : List Char) :=
    blockLinesFrom_body (b := ⟨true, 2, k, start⟩) rfl rfl more (.inl {}) (fun _ => column) s
  rw [chompingOf_concat, literalEnd, List.getLast?_concat, Option.any_some, List.append_assoc]
  cases breaks : isBreak c with
  | false =>
    -- The line break that is added does not count.
    obtain ⟨state', out, read, text, -, left⟩ := lines ('\n' :: rest) .strip (s ++ [c])
    rw [List.getLast?_concat, Option.elim_some, breaks] at left
    obtain ⟨blank, rfl⟩ := Sum.isRight_iff.mp (Sum.isLeft_eq_false.mp left)
    rw [blockLinesFrom_lineBreak rfl blank rfl word] at read
    simp only [pending, List.append_nil, Option.toList_none, List.nil_append] at text
    subst text
    exact read.trans (by simp [prepend, Except.map, BlockLines.tailText])
  | true =>
    cases last : s.getLast?.all isBreak with
    | true =>
      -- All line breaks at the end count.
      obtain ⟨state', out, read, text, column', left⟩ := lines rest .keep (s ++ [c])
      rw [List.getLast?_concat, Option.elim_some, breaks] at left
      obtain ⟨gap, rfl⟩ := Sum.isLeft_iff.mp left
      rw [blockLinesFrom_end rfl gap (column' rfl) word] at read
      simp only [pending, Option.toList_none, List.nil_append] at text
      exact read.trans (by simp [prepend, Except.map, BlockLines.tailText, text])
    | false =>
      -- The only line break at the end counts.
      obtain ⟨d, other, noBreak⟩ : ∃ d, s.getLast? = .some d ∧ isBreak d = false := by
        cases found : s.getLast? with
        | none => simp [found] at last
        | some d => exact ⟨d, rfl, by simpa [found] using last⟩
      obtain ⟨state', out, read, text, -, left⟩ := lines (c :: rest) .clip s
      rw [other, Option.elim_some, noBreak] at left
      obtain ⟨blank, rfl⟩ := Sum.isRight_iff.mp (Sum.isLeft_eq_false.mp left)
      rw [blockLinesFrom_lineBreak rfl blank breaks word] at read
      simp only [pending, List.append_nil, Option.toList_none, List.nil_append] at text
      subst text
      rw [literalBody_concat breaks, List.append_assoc]
      exact read.trans (by simp [prepend, Except.map, BlockLines.tailText])

/-! ### The header -/

/-- What the header says of the indentation, which it may leave to the first line, and of the line
breaks at the end. -/
def indicators (explicit : Bool) (k : Chomping) : List Char :=
  (if explicit then ['2'] else []) ++ k.indicator

theorem blockHeader_indicators (explicit : Bool) (k : Chomping) (body : List Char)
    (start m : Mark) :
    Cursor.blockHeader ⟨indicators explicit k ++ '\n' :: body, m⟩ start =
      .ok (⟨k, if explicit then some 2 else none⟩,
        ⟨body, (indicators explicit k ++ ['\n']).foldl Mark.after m⟩) := by
  cases explicit <;> cases k <;> rfl

/-- Whether the first line of a text does not show how deep the text is indented. -/
def hidesIndent (s : List Char) : Bool := s.head?.any fun c => c = ' ' || isBreak c

theorem literalHeader_eq (s : List Char) :
    literalHeader s = '|' :: indicators (hidesIndent s) (chompingOf s) := rfl

theorem of_mem_literalHeader {d : Char} (mem : d ∈ literalHeader s) : d ∈ ['|', '2', '-', '+'] := by
  rw [literalHeader_eq, indicators] at mem
  cases hidesIndent s <;> cases chompingOf s <;> simp [Chomping.indicator] at mem ⊢ <;> grind

/-- The first line shows the indentation if it begins with neither a space nor a line break. -/
theorem indentation_shown (nonempty : s ≠ []) (shown : hidesIndent s = false)
    (printable : ∀ c ∈ s, isPrintable c) (column : m.column = 0) (more : List Char) :
    tabAmongIndents (literalBody true s ++ more) m = none ∧
      deepestIndent m.column (literalBody true s ++ more) m = 2 := by
  obtain ⟨c, s, rfl⟩ := List.exists_cons_of_ne_nil nonempty
  simp only [hidesIndent, List.head?_cons, Option.any_some, Bool.or_eq_false_iff,
    decide_eq_false_iff_not] at shown
  obtain ⟨noSpace, noBreak⟩ := shown
  have noTab : c ≠ '\t' := by
    rintro rfl
    exact absurd (printable _ List.mem_cons_self) (by decide)
  have space : isBreak ' ' = false := rfl
  simp [literalBody, noBreak, indentation, tabAmongIndents, deepestIndent, noSpace, noTab, column,
    Mark.after_of_not_isBreak space]

/-- A text in lines of its own is read back. -/
theorem blockScalar_line (nonempty : s ≠ []) (printable : ∀ c ∈ s, isPrintable c)
    (word : wordNext rest) (m : Mark) :
    Cursor.blockScalar ⟨literalHeader s ++ '\n' :: literalBody true s ++ literalEnd s ++ rest, m⟩
        true (some 0) =
      .ok (s, ⟨rest,
        (literalHeader s ++ '\n' :: literalBody true s ++ literalEnd s).foldl Mark.after m⟩) := by
  have begins : Cursor.advance
      ⟨literalHeader s ++ '\n' :: literalBody true s ++ literalEnd s ++ rest, m⟩ =
        ⟨indicators (hidesIndent s) (chompingOf s) ++
          '\n' :: (literalBody true s ++ literalEnd s ++ rest), m.after '|'⟩ := by
    simp [Cursor.advance, literalHeader_eq]
  have header := blockHeader_indicators (hidesIndent s) (chompingOf s)
    (literalBody true s ++ literalEnd s ++ rest) m (m.after '|')
  have column : ((indicators (hidesIndent s) (chompingOf s) ++ ['\n']).foldl Mark.after
      (m.after '|')).column = 0 := by
    rw [List.foldl_append]
    rfl
  have lines := blockLinesFrom_line nonempty m column word
  have marks : (literalHeader s ++ '\n' :: literalBody true s ++ literalEnd s).foldl Mark.after m =
      (literalBody true s ++ literalEnd s).foldl Mark.after
        ((indicators (hidesIndent s) (chompingOf s) ++ ['\n']).foldl Mark.after
          (m.after '|')) := by
    simp [literalHeader_eq]
  rw [Cursor.blockScalar, begins, marks]
  simp only [header, bind, Except.bind]
  cases hidden : hidesIndent s with
  | true =>
    rw [hidden] at lines
    exact lines
  | false =>
    rw [hidden] at lines column
    obtain ⟨noTab, deepest⟩ := indentation_shown nonempty hidden printable column
      (literalEnd s ++ rest)
    rw [← List.append_assoc] at noTab deepest
    simp only [if_false, Bool.false_eq_true] at *
    rw [noTab, deepest]
    exact lines

end ValidatorGen.Yaml
