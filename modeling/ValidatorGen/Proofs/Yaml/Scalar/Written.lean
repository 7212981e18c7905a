import ValidatorGen.Proofs.Yaml.Scalar.Block
import ValidatorGen.Proofs.Yaml.Scalar.Plain
import ValidatorGen.Proofs.Yaml.Scalar.Quoted

/-!
# Written scalars

A text is written in the style that allows it. Whatever the style, it begins with a word, it holds
only characters that can be written by themselves, and it ends with a line break.

## Main definitions

* `Written` — a text, its style, and how it is written in that style

## Main results

* `written_line` — a text is written in a style that allows it
* `Written.wordNext` — what is written begins with a word
* `Written.isPrintable` — it holds only characters that can be written by themselves
-/

namespace ValidatorGen.Yaml

variable {c : Char} {s : List Char}

/-- How a text is written in a style, and what the text must be like. -/
inductive Written (s : List Char) : Style → List Char → Prop
  | plain (nonempty : s ≠ []) (allowed : allowsPlain s) : Written s .plain (s ++ ['\n'])
  | single (text : SingleText s) :
      Written s .single ('\x27' :: singleBody false s ++ ['\x27', '\n'])
  | double : Written s .double ('"' :: s.flatMap doubleChar ++ ['"', '\n'])
  | literal (nonempty : s ≠ []) (printable : ∀ c ∈ s, isPrintable c) :
      Written s .literal (literalHeader s ++ '\n' :: literalBody true s ++ literalEnd s)

/-- A text is written in a style that allows it. -/
theorem written_line (s : List Char) : Written s (styleOf s) (writtenLine s) := by
  rw [writtenLine]
  fun_cases styleOf s with
  | case1 feed literal =>
    simp only [allowsLiteral, Bool.and_eq_true, List.all_eq_true] at literal
    exact .literal (List.ne_nil_of_mem feed) literal.1.1
  | case2 feed _ => exact .double
  | case3 feed plain =>
    rw [Bool.and_eq_true] at plain
    refine .plain ?_ plain.2
    rintro rfl
    exact absurd plain.1 (by decide)
  | case4 feed _ single =>
    simp only [allowsSingle, Bool.and_eq_true, Bool.not_eq_true', List.all_eq_true] at single
    exact .single ⟨single.1.1, feed, single.1.2, single.2⟩
  | case5 feed _ _ => exact .double

-- A text that would mean something else is quoted, a line that begins with a space makes the header
-- say how deep the lines are indented, and what cannot be written by itself is escaped.
example : writtenLine "null".toList = "'null'\n".toList := by decide
example : writtenLine " a\n".toList = "|2\n   a\n".toList := by decide
example : writtenLine "\t".toList = "\"\\t\"\n".toList := by decide

variable {style : Style} {line : List Char}

/-- What is written begins with a word. -/
theorem Written.wordNext (h : Written s style line) (rest : List Char) :
    wordNext (line ++ rest) := by
  cases h with
  | plain nonempty allowed =>
    obtain ⟨c, s, rfl⟩ := List.exists_cons_of_ne_nil nonempty
    exact (plainStart_of_allowsPlain allowed).word
  | single text => rfl
  | double => rfl
  | literal nonempty printable => rfl

/-- What is written holds only characters that can be written by themselves. -/
theorem Written.isPrintable (h : Written s style line) (mem : c ∈ line) : isPrintable c := by
  have special (d : Char) (mem : d ∈ [' ', '\n', '\x27', '"', '|', '2', '-', '+']) :
      Yaml.isPrintable d := List.all_eq_true.mp (by decide) d mem
  cases h with
  | plain nonempty allowed =>
    have text := (plainText_of_allowsPlain allowed).printable
    rcases List.mem_append.mp mem with mem | mem
    · exact text c mem
    · exact special c (by simp [List.mem_singleton.mp mem])
  | single text =>
    have text := text.printable
    grind [of_mem_singleBody]
  | double => grind [of_mem_doubleChar]
  | literal nonempty printable =>
    grind [of_mem_literalHeader, of_mem_literalBody, literalEnd]

/-- An item on a line of its own. -/
def itemLine (x : List Char) : List Char := '-' :: ' ' :: writtenLine x

theorem wordNext_items (xs : List (List Char)) {rest : List Char} (word : wordNext rest) :
    wordNext (xs.flatMap itemLine ++ rest) := by
  cases xs with
  | nil => exact word
  | cons x xs => rfl

end ValidatorGen.Yaml
