import ValidatorGen.Proofs.Yaml.Tokens

/-!
# The tokens of a mapping

A mapping is laid out in lines: each key is followed by a text on the same line, or by texts on
lines of their own, or by brackets with nothing inside.

## Main definitions

* `Content` — what follows a key: a text, or texts
* `Content.Lines` — how the content is written after the colon
* `PairLines` — how a mapping is written
* `mappingKinds` — the tokens of a mapping

## Main results

* `Scan.At.pair` — a key and its content are read as their tokens
* `tokens_of_pairLines` — so is a mapping
-/

namespace ValidatorGen.Yaml

/-- What follows a key: a text, or texts. -/
inductive Content where
  /-- A text in the given style. -/
  | text (style : Style) (x : List Char)
  /-- Texts. -/
  | items (xs : List (List Char))

/-- A key with its content. -/
abbrev Pair := List Char × Content

/-- The tokens of the content. -/
def Content.kinds : Content → List Token.Kind
  | .text style x => [.scalar style x]
  | .items [] => [.openSequence, .closeSequence]
  | .items (x :: xs) => (x :: xs).flatMap fun x => [.entry, .scalar (styleOf x) x]

/-- The tokens of a key and its content. -/
def pairKinds (p : Pair) : List Token.Kind :=
  [.key, .scalar .plain p.1, .value] ++ p.2.kinds

/-- The tokens of a mapping. -/
def mappingKinds (ps : List Pair) : List Token.Kind :=
  .blockMapping :: ps.flatMap pairKinds ++ [.blockEnd]

/-- How the content is written after the colon. -/
inductive Content.Lines : Content → List Char → Prop
  | text {x : List Char} {style : Style} {line : List Char} (written : Written x style line) :
      Lines (.text style x) (' ' :: line)
  | brackets : Lines (.items []) [' ', '[', ']', '\n']
  | items (x : List Char) (xs : List (List Char)) :
      Lines (.items (x :: xs)) ('\n' :: (x :: xs).flatMap itemLine)

/-- What can be a key: it is written without quotes, and it is not too long. -/
structure IsKey (name : List Char) : Prop where
  /-- It is not empty. -/
  nonempty : name ≠ []
  /-- It can be written without quotes. -/
  allowed : allowsPlain name
  /-- The colon follows within the length of a key. -/
  short : (name.foldl Mark.after .origin).offset ≤ keyLength

/-- How a mapping is written. -/
inductive PairLines : List Pair → List Char → Prop
  | nil : PairLines [] []
  | cons {name : List Char} {content : Content} {lines rest : List Char} {pairs : List Pair}
      (key : IsKey name) (first : content.Lines lines) (others : PairLines pairs rest) :
      PairLines ((name, content) :: pairs) (name ++ ':' :: lines ++ rest)

variable {ps : List Pair} {text rest : List Char}

theorem PairLines.wordNext (h : PairLines ps text) : wordNext text := by
  cases h with
  | nil => rfl
  | cons key first others =>
    obtain ⟨c, name, rfl⟩ := List.exists_cons_of_ne_nil key.nonempty
    exact (plainStart_of_allowsPlain key.allowed).word

/-- What follows the colon holds only characters that can be written by themselves. -/
theorem Content.Lines.isPrintable {content : Content} {lines : List Char} {c : Char}
    (h : content.Lines lines) (mem : c ∈ lines) : isPrintable c := by
  have special (d : Char) (mem : d ∈ [' ', '\n', '[', ']', '-']) : Yaml.isPrintable d :=
    List.all_eq_true.mp (by decide) d mem
  cases h with
  | text written => grind [Written.isPrintable]
  | brackets => grind
  | items x xs =>
    rcases List.mem_cons.mp mem with rfl | mem
    · exact special _ (by simp)
    · obtain ⟨y, -, mem⟩ := List.mem_flatMap.mp mem
      have line := (written_line y).isPrintable (c := c)
      grind [itemLine]

/-- A mapping holds only characters that can be written by themselves. -/
theorem PairLines.isPrintable (h : PairLines ps text) {c : Char} (mem : c ∈ text) :
    isPrintable c := by
  induction h with
  | nil => cases mem
  | cons key first others ih =>
    have name := (plainText_of_allowsPlain key.allowed).printable
    rcases List.mem_append.mp mem with mem | mem
    · rcases List.mem_append.mp mem with mem | mem
      · exact name c mem
      · rcases List.mem_cons.mp mem with rfl | mem
        · rfl
        · exact first.isPrintable mem
    · exact ih mem

namespace Scan

variable {s t : Scan} {kinds : List Token.Kind} {indents : List Nat} {m : Mark}

/-- A key and its content are read as their tokens. -/
theorem At.pair {name lines : List Char} {content : Content}
    (h : s.At kinds true indents ⟨name ++ ':' :: (lines ++ rest), m⟩)
    (zero : indents = [] ∨ indents = [0]) (column : m.column = 0) (key : IsKey name)
    (first : content.Lines lines) (word : wordNext rest) :
    ∃ t m', m'.column = 0 ∧ Relation.ReflTransGen Passes s t ∧
      t.At (kinds ++ (opening indents m).map Token.kind ++ pairKinds (name, content)) true [0]
        ⟨rest, m'⟩ := by
  obtain ⟨nonempty, allowed, short⟩ := key
  cases first with
  | text written =>
    obtain ⟨t, passes, next⟩ := h.key zero column nonempty allowed short rfl
      (skipFrom_space (written.wordNext rest) ..)
    obtain ⟨t', m', column', passes', next'⟩ :=
      next.scalar written (Mark.column_after_pos rfl _) word
    refine ⟨t', m', column', passes.tail passes', ?_⟩
    simpa [pairKinds, Content.kinds] using next'
  | brackets =>
    have bracket : Yaml.wordNext (['[', ']', '\n'] ++ rest) := rfl
    obtain ⟨t, passes, next⟩ := h.key zero column nonempty allowed short rfl
      (skipFrom_space bracket ..)
    obtain ⟨t', m', column', passes', next'⟩ := next.brackets word
    refine ⟨t', m', column', passes.trans passes', ?_⟩
    simpa [pairKinds, Content.kinds] using next'
  | items x xs =>
    have hyphen : Yaml.wordNext ((x :: xs).flatMap itemLine ++ rest) := rfl
    obtain ⟨t, passes, next⟩ := h.key zero column nonempty allowed short rfl
      (skipFrom_lineBreak hyphen ..)
    obtain ⟨t', m', column', passes', next'⟩ := next.items (x :: xs) rfl word
    refine ⟨t', m', column', passes.trans passes', ?_⟩
    simpa [pairKinds, Content.kinds] using next'

/-- Keys and their contents after the first are read as their tokens. -/
theorem At.pairs (lines : PairLines ps text) (h : s.At kinds true [0] ⟨text, m⟩)
    (column : m.column = 0) :
    ∃ t m', m'.column = 0 ∧ Relation.ReflTransGen Passes s t ∧
      t.At (kinds ++ ps.flatMap pairKinds) true [0] ⟨[], m'⟩ := by
  -- The mapping has begun with the first key, so the others only continue it.
  induction lines generalizing s kinds m with
  | nil =>
    rw [List.flatMap_nil, List.append_nil]
    exact ⟨s, m, column, .refl, h⟩
  | cons key first others ih =>
    rw [List.append_assoc, List.cons_append] at h
    obtain ⟨t, m₁, column₁, passes, next⟩ := h.pair (.inr rfl) column key first others.wordNext
    obtain ⟨t', m₂, column₂, passes', next'⟩ := ih next column₁
    refine ⟨t', m₂, column₂, passes.trans passes', ?_⟩
    simpa [opening] using next'

end Scan

/-- A mapping with at least one key is read as its tokens. -/
theorem tokens_of_pairLines (lines : PairLines ps text) (nonempty : ps ≠ []) :
    ∃ tokens m, Tokens.ofText text none = ⟨tokens, .ok m⟩ ∧
      tokens.map Token.kind = mappingKinds ps := by
  cases lines with
  | nil => exact absurd rfl nonempty
  | cons key first others =>
    have start := Scan.at_start (PairLines.cons key first others).wordNext
    rw [List.append_assoc, List.cons_append] at start ⊢
    obtain ⟨t, m₁, column₁, passes, next⟩ := start.pair (.inl rfl) rfl key first others.wordNext
    obtain ⟨t', m₂, column₂, passes', next'⟩ := next.pairs others column₁
    exact ofText_of_at (passes.trans passes') next' column₂

end ValidatorGen.Yaml
