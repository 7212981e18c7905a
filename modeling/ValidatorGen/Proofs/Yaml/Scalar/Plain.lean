import ValidatorGen.Proofs.Yaml.Cursor
import ValidatorGen.Yaml.Scalar.Plain

/-!
# Plain scalars are read as they are written

A text that may be written without quotes is read up to the character after it: a colon, if it is a
key, and the line break otherwise.

## Main results

* `plainStart_of_allowsPlain` — how such a text begins
* `plainFrom_append` — the characters of such a text are read one after the other
* `plain_key` — a key is read up to the colon after it
* `plain_line` — a text on a line of its own is read up to the next line
-/

namespace ValidatorGen.Yaml

variable {c : Char} {cs rest : List Char}

/-! ### Texts that may be written without quotes -/

/-- What `allowsPlain` looks at, apart from the beginning of the text. -/
structure PlainText (after : Bool) (cs : List Char) : Prop where
  /-- Every character can be written by itself. -/
  printable : ∀ c ∈ cs, isPrintable c
  /-- There is no line break. -/
  noBreak : ∀ c ∈ cs, isBreak c = false
  /-- No space stands at the end. -/
  last : cs.getLast? ≠ some ' '
  /-- No colon is taken for one after a key, and no number sign for the beginning of a comment. -/
  indicators : holdsIndicator after cs = false

theorem plainText_of_allowsPlain (h : allowsPlain cs) : PlainText true cs := by
  simp only [allowsPlain, hasLooseEnd, Bool.and_eq_true, Bool.not_eq_true', Bool.or_eq_false_iff,
    List.all_eq_true, List.any_eq_false, Bool.not_eq_true] at h
  obtain ⟨⟨⟨⟨printable, noBreak⟩, -, last⟩, -⟩, indicators⟩ := h
  refine ⟨printable, noBreak, fun space => ?_, indicators⟩
  rw [space] at last
  exact absurd last (by decide)

theorem PlainText.tail {after : Bool} (h : PlainText after (c :: cs)) :
    PlainText (isBlank c) cs where
  printable d mem := h.printable d (List.mem_cons_of_mem c mem)
  noBreak d mem := h.noBreak d (List.mem_cons_of_mem c mem)
  last := by
    cases cs with
    | nil => exact nofun
    | cons d ds => simpa using h.last
  indicators := by
    have whole := h.indicators
    rw [holdsIndicator, h.noBreak c List.mem_cons_self, Bool.or_false] at whole
    exact (Bool.or_eq_false_iff.mp whole).2

/-- How a text begins that may be written without quotes. -/
structure PlainStart (c : Char) (cs : List Char) : Prop where
  /-- It begins with neither a space nor a line break. -/
  word : wordNext (c :: cs)
  /-- It does not begin with a tab either, or with an indicator. -/
  noIndicator : isIndicator c = false
  /-- What can be an indicator does not stand before a blank. -/
  joined : c = '-' ∨ c = '?' ∨ c = ':' → blankNext cs = false
  /-- No marker between documents can be made of it by a character that is not in the marker. -/
  noMarker : ∀ rest : List Char, (∀ d ∈ rest.head?, d ≠ '-' ∧ d ≠ '.') →
    atDocumentStart (c :: cs ++ rest) = false ∧ atDocumentEnd (c :: cs ++ rest) = false

/-- Three characters of one kind do not come first in a text if they do not in the part of it before
another character. -/
theorem append_ne_three {x : Char} (h : ∀ more, cs ≠ x :: x :: x :: more)
    (other : ∀ d ∈ rest.head?, d ≠ x) (nonempty : cs ≠ []) (more : List Char) :
    cs ++ rest ≠ x :: x :: x :: more := by
  intro equal
  match cs, h, nonempty, equal with
  | [c], _, _, equal =>
    rw [List.singleton_append, List.cons.injEq] at equal
    exact other x (by rw [equal.2]; rfl) rfl
  | [c, d], _, _, equal =>
    rw [List.cons_append, List.singleton_append, List.cons.injEq, List.cons.injEq] at equal
    exact other x (by rw [equal.2.2]; rfl) rfl
  | c :: d :: e :: cs, h, _, equal =>
    rw [List.cons_append, List.cons_append, List.cons_append, List.cons.injEq, List.cons.injEq,
      List.cons.injEq] at equal
    obtain ⟨rfl, rfl, rfl, -⟩ := equal
    exact h cs rfl

theorem atDocumentStart_eq_false (h : ∀ more, cs ≠ '-' :: '-' :: '-' :: more) :
    atDocumentStart cs = false := by
  rw [atDocumentStart.eq_def]
  split
  · exact absurd rfl (h _)
  · rfl

theorem atDocumentEnd_eq_false (h : ∀ more, cs ≠ '.' :: '.' :: '.' :: more) :
    atDocumentEnd cs = false := by
  rw [atDocumentEnd.eq_def]
  split
  · exact absurd rfl (h _)
  · rfl

theorem beginsOddly_cons (h : beginsOddly (c :: cs) = false) :
    isIndicator c = false ∧ (c = '?' ∨ c = '-' → blankNext cs = false) := by
  rw [beginsOddly.eq_def] at h
  split at h
  · cases h
  · cases h
  · rename_i equal
    cases equal
    simpa using h
  · rename_i equal
    cases equal

theorem plainStart_of_allowsPlain (h : allowsPlain (c :: cs)) : PlainStart c cs := by
  obtain ⟨printable, noBreak, -, indicators⟩ := plainText_of_allowsPlain h
  simp only [allowsPlain, hasLooseEnd, Bool.and_eq_true, Bool.not_eq_true', Bool.or_eq_false_iff,
    List.head?_cons, Option.any_some, decide_eq_false_iff_not] at h
  obtain ⟨⟨⟨-, ⟨space, -⟩, -⟩, odd⟩, -⟩ := h
  have dashes (rest : List Char) : c :: cs ≠ '-' :: '-' :: '-' :: rest := by
    intro equal
    rw [equal] at odd
    cases odd
  have dots (rest : List Char) : c :: cs ≠ '.' :: '.' :: '.' :: rest := by
    intro equal
    rw [equal] at odd
    cases odd
  obtain ⟨noIndicator, joined⟩ := beginsOddly_cons odd
  have comment : c ≠ '#' := by
    rintro rfl
    cases noIndicator
  have mark : c ≠ '\ufeff' := by
    rintro rfl
    exact absurd (printable _ List.mem_cons_self) (by decide)
  have blank : isBlank c = false := by
    rw [isBlank_of_isPrintable (printable c List.mem_cons_self)]
    simpa using space
  have breaks := noBreak c List.mem_cons_self
  refine ⟨wordNext_cons_iff.mpr ⟨blank, breaks, comment, mark⟩, noIndicator, ?_,
    fun rest more => ?_⟩
  · rintro (dash | question | rfl)
    · exact joined (.inr dash)
    · exact joined (.inl question)
    · simpa [holdsIndicator] using (Bool.or_eq_false_iff.mp indicators).1
  · exact ⟨atDocumentStart_eq_false
        (append_ne_three dashes (fun d mem => (more d mem).1) (List.cons_ne_nil c cs)),
      atDocumentEnd_eq_false
        (append_ne_three dots (fun d mem => (more d mem).2) (List.cons_ne_nil c cs))⟩

/-! ### Reading -/

/-- The characters of a text that may be written without quotes are read one after the other, and
so are the spaces among them. -/
theorem plainFrom_append {s : PlainSetting} (block : s.inFlow = false) (low : s.indent ≤ 1)
    {after crossed : Bool} {more : List Char} {stop : Cursor} (h : PlainText after cs)
    {blanks : List Char} {m : Mark} (spaced : blanks ≠ [] → after = true ∧ 0 < m.column)
    (complete : cs = [] → blanks = [])
    (ends : plainFrom s .empty more (cs.foldl Mark.after m) = .ok ⟨[], stop, crossed⟩) :
    plainFrom s (.within blanks) (cs ++ more) m = .ok ⟨blanks ++ cs, stop, crossed⟩ := by
  -- The spaces before the place reached count only once another character comes.
  induction cs generalizing after blanks m with
  | nil => rw [complete rfl]; exact ends
  | cons c cs ih =>
    have noBreak := h.noBreak c List.mem_cons_self
    have pos := Mark.column_after_pos noBreak m
    have blank := isBlank_of_isPrintable (h.printable c List.mem_cons_self)
    rw [List.cons_append, plainFrom, blank]
    by_cases space : c = ' '
    · have goesOn : cs ≠ [] := by
        rintro rfl
        exact h.last (by simp [space])
      have later : plainFrom s (.within (blanks ++ [c])) (cs ++ more) (m.after c) =
          .ok ⟨blanks ++ [c] ++ cs, stop, crossed⟩ :=
        ih h.tail (fun _ => ⟨by rw [blank]; simp [space], pos⟩) (fun none => absurd none goesOn)
          ends
      simpa [space, Gap.crosses, Gap.blank] using later
    · have inside : s.endsAfter (.within blanks) c (cs ++ more) m = false := by
        rw [PlainSetting.endsAfter]
        by_cases none : blanks = []
        · simp [none, Gap.empty]
        · obtain ⟨rfl, column⟩ := spaced none
          have noComment : c ≠ '#' := by
            rintro rfl
            exact absurd h.indicators (by simp [holdsIndicator])
          simp only [atDocumentMarker_of_pos column, noComment, block]
          simp
          omega
      have noKey : s.endsBefore c (cs ++ more) = false := by
        have indicators := h.indicators
        rw [holdsIndicator, Bool.or_eq_false_iff, Bool.or_eq_false_iff] at indicators
        rw [PlainSetting.endsBefore, block, Bool.false_and, Bool.or_false, Bool.and_eq_false_iff]
        refine (Bool.and_eq_false_iff.mp indicators.1.1).imp_right fun word => ?_
        exact Bool.eq_false_iff.mpr fun next => by simp [blankNext_of_append next] at word
      have later : plainFrom s .empty (cs ++ more) (m.after c) = .ok ⟨cs, stop, crossed⟩ :=
        ih h.tail (fun some => absurd rfl some) (fun _ => rfl) ends
      simp [space, noBreak, inside, noKey, block, later, Except.map, Plain.after, Gap.text]

/-- A key is read up to the colon after it. -/
theorem plain_key {indent : Nat} (low : indent ≤ 1) (h : allowsPlain cs) (blank : blankNext rest)
    (m : Mark) :
    Cursor.plain ⟨cs ++ ':' :: rest, m⟩ false indent =
      .ok ⟨cs, ⟨':' :: rest, cs.foldl Mark.after m⟩, false⟩ := by
  refine plainFrom_append rfl low (plainText_of_allowsPlain h) (absurd rfl) (fun _ => rfl) ?_
  simp [plainFrom, PlainSetting.endsAfter, PlainSetting.endsBefore, blank, isBlank, isBreak,
    Gap.empty, Gap.crosses]

/-- A text on a line of its own is read up to the next line. -/
theorem plain_line (h : allowsPlain cs) (word : wordNext rest) (m : Mark) :
    Cursor.plain ⟨cs ++ '\n' :: rest, m⟩ false 1 =
      .ok ⟨cs, ⟨rest, (cs.foldl Mark.after m).after '\n'⟩, true⟩ := by
  refine plainFrom_append rfl (Nat.le_refl 1) (plainText_of_allowsPlain h) (absurd rfl)
    (fun _ => rfl) ?_
  rw [plainFrom, if_neg (by decide), if_pos (by decide)]
  cases rest with
  | nil => rfl
  | cons c rest =>
    obtain ⟨blank, noBreak, -, -⟩ := wordNext_cons_iff.mp word
    -- The next line begins too far to the left to belong to the text.
    have ends : PlainSetting.endsAfter ⟨false, 1, m⟩ (Gap.empty.lineBreak '\n') c rest
        ((cs.foldl Mark.after m).after '\n') := by
      rw [Mark.after_of_isBreak rfl]
      rfl
    simp only [plainFrom, blank, noBreak, ends, if_true, if_false, Bool.false_eq_true]
    rfl

end ValidatorGen.Yaml
