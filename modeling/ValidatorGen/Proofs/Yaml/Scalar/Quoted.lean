import Mathlib.Tactic.SplitIfs
import ValidatorGen.Proofs.Yaml.Cursor
import ValidatorGen.Yaml.Scalar.Quoted

/-!
# Quoted scalars are read as they are written

Between single quotes the separators U+2028 and U+2029 are the only line breaks that are written.
Each counts, and so do the spaces, since none stands beside a line break. Between double quotes a
character is read back from its escape.

## Main definitions

* `SingleText` — what must be true of a text that is written between single quotes
* `Gap.Precedes` — a gap that means what stands in it, also before the text that follows

## Main results

* `singleQuoted_line` — a text between single quotes is read back
* `escape_escapeTail` — a character is read back from its escape
* `doubleQuoted_line` — a text between double quotes is read back
-/

namespace ValidatorGen.Yaml

variable {c : Char} {cs rest : List Char} {start m : Mark} {g : Gap}

/-! ### Gaps that mean what stands in them -/

/-- What must be true of a text that is written between single quotes. -/
structure SingleText (cs : List Char) : Prop where
  /-- Every character can be written by itself. -/
  printable : ∀ c ∈ cs, isPrintable c
  /-- There is no line feed. -/
  noFeed : '\n' ∉ cs
  /-- No space stands before a line break. -/
  trailing : hasTrailingSpace cs = false
  /-- No space stands after a line break. -/
  leading : hasLeadingSpace cs = false

theorem holdsPair_cons {p q : Char → Bool} (h : holdsPair p q (c :: cs) = false) :
    holdsPair p q cs = false ∧ ∀ d ∈ cs.head?, p c → q d = false := by
  cases cs with
  | nil => exact ⟨rfl, nofun⟩
  | cons d ds =>
    rw [holdsPair, Bool.or_eq_false_iff] at h
    refine ⟨h.2, ?_⟩
    rintro _ ⟨⟩ first
    simpa [first] using h.1

theorem SingleText.tail (h : SingleText (c :: cs)) : SingleText cs where
  printable d mem := h.printable d (List.mem_cons_of_mem c mem)
  noFeed mem := h.noFeed (List.mem_cons_of_mem c mem)
  trailing := (holdsPair_cons h.trailing).1
  leading := (holdsPair_cons h.leading).1

theorem SingleText.ne_feed (h : SingleText (c :: cs)) : c ≠ '\n' := fun equal =>
  h.noFeed (equal ▸ List.mem_cons_self)

namespace Gap

/-- The gap means what stands in it, and no space stands beside a line break where the text
follows. -/
structure Precedes (g : Gap) (cs : List Char) : Prop where
  /-- The first line break of the gap does not stand for a space. -/
  exact : ∀ first later, g = .across first later → ∃ d ≠ '\n', first = some d
  /-- Before a line break there is another one, or nothing. -/
  lineBreak : ∀ c ∈ cs.head?, isBreak c → g.crosses ∨ g = .empty
  /-- After a line break there is no space. -/
  space : g.crosses → ∀ c ∈ cs.head?, c ≠ ' '

theorem precedes_empty (cs : List Char) : empty.Precedes cs where
  exact := nofun
  lineBreak _ _ _ := .inr rfl
  space := nofun

theorem crosses_lineBreak (c : Char) (g : Gap) : (g.lineBreak c).crosses := by
  cases g <;> rfl

theorem crosses_blank (c : Char) (g : Gap) : (g.blank c).crosses = g.crosses := by
  cases g <;> rfl

theorem blank_of_crosses (h : g.crosses) (c : Char) : g.blank c = g := by
  cases g with
  | within blanks => cases h
  | across first later => rfl

theorem text_blank (h : g.crosses = false) (c : Char) : (g.blank c).text = g.text ++ [c] := by
  cases g with
  | within blanks => rfl
  | across first later => cases h

theorem Precedes.after_lineBreak (h : g.Precedes (c :: cs)) (text : SingleText (c :: cs))
    (breaks : isBreak c) : (g.lineBreak c).Precedes cs where
  exact first later equal := by
    cases g with
    | within blanks =>
      cases equal
      exact ⟨c, text.ne_feed, rfl⟩
    | across first later =>
      cases equal
      exact h.exact _ _ rfl
  lineBreak _ _ _ := .inl (crosses_lineBreak c g)
  space _ d mem := by simpa using (holdsPair_cons text.leading).2 d mem breaks

theorem Precedes.after_space (crosses : g.crosses = false) (text : SingleText (' ' :: cs)) :
    (g.blank ' ').Precedes cs where
  exact first later equal := by
    have none := crosses_blank ' ' g
    rw [equal, crosses] at none
    cases none
  lineBreak d mem breaks := by
    have none := (holdsPair_cons text.trailing).2 d mem rfl
    rw [breaks] at none
    cases none
  space still := by
    rw [crosses_blank, crosses] at still
    cases still

/-- A line break counts if no space stands before it. -/
theorem Precedes.text_lineBreak (h : g.Precedes (c :: cs)) (feed : c ≠ '\n') (breaks : isBreak c) :
    (g.lineBreak c).text = g.text ++ [c] := by
  cases g with
  | within blanks =>
    rcases h.lineBreak c rfl breaks with crosses | equal
    · cases crosses
    · rw [equal]
      simp [Gap.lineBreak, Gap.empty, Gap.text, feed]
  | across first later =>
    obtain ⟨d, other, rfl⟩ := h.exact _ _ rfl
    simp [Gap.lineBreak, Gap.text, other]

end Gap

/-! ### Single quotes -/

/-- A character between single quotes, where a quote is written twice. -/
def singleChar (c : Char) : List Char := if c = '\x27' then [c, c] else [c]

theorem singleBody_of_isBreak (breaks : isBreak c) (feed : c ≠ '\n') (afterBreak : Bool)
    (cs : List Char) : singleBody afterBreak (c :: cs) = c :: singleBody true cs := by
  rw [singleBody, if_pos breaks, if_neg fun h => feed h.1]
  rfl

/-- A line that does not begin with a line break is indented. -/
theorem singleBody_true (h : ∀ c ∈ cs.head?, isBreak c = false) :
    singleBody true cs = indentation ++ singleBody false cs := by
  cases cs with
  | nil => rfl
  | cons c cs => simp [singleBody, h c rfl]

/-- What stands between single quotes is the text and spaces. -/
theorem of_mem_singleBody {d : Char} {afterBreak : Bool} (mem : d ∈ singleBody afterBreak cs) :
    d = ' ' ∨ d ∈ cs := by
  induction cs generalizing afterBreak with
  | nil => grind [singleBody, indentation]
  | cons c cs ih =>
    have later {afterBreak : Bool} (mem : d ∈ singleBody afterBreak cs) : d = ' ' ∨ d ∈ c :: cs :=
      (ih mem).imp_right (List.mem_cons_of_mem c)
    rw [singleBody] at mem
    split_ifs at mem <;> grind [indentation]

theorem singleBody_of_not_isBreak (noBreak : isBreak c = false) (cs : List Char) :
    singleBody false (c :: cs) = singleChar c ++ singleBody false cs := by
  simp [singleBody, singleChar, noBreak]

/-- The indentation of a line between quotes means nothing. -/
theorem singleQuotedFrom_indentation (h : g.crosses) (cs : List Char) (m : Mark) :
    singleQuotedFrom start false g (indentation ++ cs) m =
      singleQuotedFrom start false g cs (indentation.foldl Mark.after m) := by
  have space : isBlank ' ' := by decide
  simp [indentation, singleQuotedFrom, atDocumentMarker_of_separator (.inr rfl), space,
    Gap.blank_of_crosses h]

theorem column_indentation_pos (m : Mark) : 0 < (indentation.foldl Mark.after m).column :=
  Mark.column_after_pos (c := ' ') (by decide) (m.after ' ')

/-- A line break joins the gap, wherever it stands. -/
theorem singleQuotedFrom_lineBreak (breaks : isBreak c) (cs : List Char) :
    singleQuotedFrom start false g (c :: cs) m =
      singleQuotedFrom start false (g.lineBreak c) cs (m.after c) := by
  rw [singleQuotedFrom, atDocumentMarker_of_separator (.inl breaks), if_neg Bool.false_ne_true,
    not_isBlank_of_isBreak breaks, if_neg Bool.false_ne_true, if_pos breaks]

/-- A character that is neither a blank nor a line break counts with the gap before it. -/
theorem singleQuotedFrom_char (noBreak : isBreak c = false) (noBlank : isBlank c = false)
    (column : 0 < m.column) (cs : List Char) :
    singleQuotedFrom start false g (singleChar c ++ cs) m =
      prepend (g.text ++ [c])
        (singleQuotedFrom start false .empty cs ((singleChar c).foldl Mark.after m)) := by
  rw [singleChar]
  split_ifs with quote
  · simp [quote, singleQuotedFrom, atDocumentMarker_of_pos column, isBlank, isBreak]
  · simp [singleQuotedFrom, atDocumentMarker_of_pos column, noBreak, noBlank, quote]

theorem column_singleChar_pos (noBreak : isBreak c = false) (m : Mark) :
    0 < ((singleChar c).foldl Mark.after m).column := by
  rw [singleChar]
  split_ifs
  · exact Mark.column_after_pos noBreak _
  · exact Mark.column_after_pos noBreak _

/-- A text between single quotes is read up to the closing quote. -/
theorem singleQuotedFrom_body (text : SingleText cs) (closed : rest.head? ≠ some '\x27')
    (precedes : g.Precedes cs) (column : g.crosses = false → 0 < m.column) :
    singleQuotedFrom start false g (singleBody g.crosses cs ++ '\x27' :: rest) m =
      .ok (g.text ++ cs, ⟨rest, (singleBody g.crosses cs ++ ['\x27']).foldl Mark.after m⟩) := by
  -- Line breaks and spaces join the gap, and the gap counts once another character comes. A line
  -- that has been begun is indented first, so that a marker between documents can stand nowhere.
  induction cs generalizing g m with
  | nil =>
    have quote {m : Mark} (column : 0 < m.column) :
        singleQuotedFrom start false g ('\x27' :: rest) m =
          .ok (g.text, ⟨rest, m.after '\x27'⟩) := by
      simp [singleQuotedFrom, atDocumentMarker_of_pos column, isBlank, isBreak, closed]
    cases crosses : g.crosses with
    | true =>
      rw [singleBody, if_pos rfl, singleQuotedFrom_indentation crosses,
        quote (column_indentation_pos m), List.append_nil, List.foldl_append]
      rfl
    | false =>
      rw [singleBody, if_neg (by decide), List.nil_append, quote (column crosses), List.append_nil]
      rfl
  | cons c cs ih =>
    by_cases breaks : isBreak c
    · have crosses := Gap.crosses_lineBreak c g
      have later := ih (m := m.after c) text.tail (precedes.after_lineBreak text breaks)
        (by simp [crosses])
      rw [crosses, precedes.text_lineBreak text.ne_feed breaks] at later
      rw [singleBody_of_isBreak breaks text.ne_feed, List.cons_append,
        singleQuotedFrom_lineBreak breaks, later]
      simp
    · have noBreak : isBreak c = false := by simpa using breaks
      have onLine {m : Mark} (column : 0 < m.column) :
          singleQuotedFrom start false g (singleBody false (c :: cs) ++ '\x27' :: rest) m =
            .ok (g.text ++ c :: cs,
              ⟨rest, (singleBody false (c :: cs) ++ ['\x27']).foldl Mark.after m⟩) := by
        rw [singleBody_of_not_isBreak noBreak]
        by_cases space : c = ' '
        · subst space
          have crosses : g.crosses = false := by
            simpa using fun crosses => precedes.space crosses ' ' rfl
          have later := ih (g := g.blank ' ') (m := m.after ' ') text.tail
            (Gap.Precedes.after_space crosses text) fun _ => Mark.column_after_pos rfl m
          rw [Gap.crosses_blank, crosses, Gap.text_blank crosses] at later
          simpa [singleChar, singleQuotedFrom, atDocumentMarker_of_pos column, isBlank] using later
        · have blank := isBlank_of_isPrintable (text.printable c List.mem_cons_self)
          have later := ih (g := .empty) (m := (singleChar c).foldl Mark.after m) text.tail
            (Gap.precedes_empty cs) fun _ => column_singleChar_pos noBreak m
          rw [show Gap.empty.crosses = false from rfl] at later
          rw [List.append_assoc, singleQuotedFrom_char noBreak (by simp [blank, space]) column,
            later]
          simp [prepend, Except.map, Gap.empty, Gap.text]
      cases crosses : g.crosses with
      | true =>
        rw [singleBody_true (by simpa using noBreak), List.append_assoc,
          singleQuotedFrom_indentation crosses, onLine (column_indentation_pos m)]
        simp only [List.foldl_append]
      | false => exact onLine (column crosses)

/-- A text between single quotes is read back. -/
theorem singleQuoted_line (text : SingleText cs) (m : Mark) :
    Cursor.singleQuoted ⟨'\x27' :: singleBody false cs ++ '\x27' :: '\n' :: rest, m⟩ =
      .ok (cs, ⟨'\n' :: rest,
        ('\x27' :: singleBody false cs ++ ['\x27']).foldl Mark.after m⟩) :=
  singleQuotedFrom_body (g := .empty) text (by simp) (Gap.precedes_empty cs)
    fun _ => Mark.column_after_pos rfl m

/-! ### Double quotes -/

theorem hexValue?_digitChar {n : Nat} (h : n < 16) :
    Text.hexValue? (Nat.digitChar n).toUpper = some n := by
  revert n
  decide

theorem hexNumber?_concat (digits : List Char) (d : Char) :
    Text.hexNumber? (digits ++ [d]) =
      (Text.hexNumber? digits).bind fun n => (Text.hexValue? d).map (n * 16 + ·) := by
  simp [Text.hexNumber?, List.foldlM_append]

theorem length_hexDigits (count n : Nat) : (hexDigits count n).length = count := by
  induction count generalizing n with
  | zero => rfl
  | succ count ih => rw [hexDigits, List.length_append, ih, List.length_singleton]

/-- The last digits of a number are all of it if there are enough of them. -/
theorem hexNumber?_hexDigits {count n : Nat} (h : n < .pow 16 count) :
    Text.hexNumber? (hexDigits count n) = some n := by
  induction count generalizing n with
  | zero =>
    rw [Nat.lt_one_iff.mp h]
    rfl
  | succ count ih =>
    have high : n / 16 < .pow 16 count := (Nat.div_lt_iff_lt_mul (by decide)).mpr h
    rw [hexDigits, hexNumber?_concat, ih high, hexValue?_digitChar (Nat.mod_lt n (by decide))]
    simp
    omega

/-- What comes after the backslash of an escape. -/
def escapeTail (c : Char) : List Char := (escapedChar c).tail

theorem escapedChar_eq (c : Char) : escapedChar c = '\\' :: escapeTail c := by
  rw [escapeTail, escapedChar]
  split
  · rfl
  · split_ifs <;> rfl

theorem exists_of_mem_hexDigits {count n : Nat} {d : Char} (mem : d ∈ hexDigits count n) :
    ∃ k < 16, d = (Nat.digitChar k).toUpper := by
  induction count generalizing n with
  | zero => cases mem
  | succ count ih =>
    rcases List.mem_append.mp mem with earlier | last
    · exact ih earlier
    · exact ⟨_, Nat.mod_lt n (by decide), List.mem_singleton.mp last⟩

/-- The digits of a character are read as its number. -/
theorem escape_digits {letter : Char} {count : Nat} (noBreak : isBreak letter = false)
    (digits : escapeDigits? letter = some count) (h : c.toNat < .pow 16 count) (more : List Char) :
    escape start (letter :: hexDigits count c.toNat ++ more) m = .ok (.char c (count + 1)) := by
  have taken : (hexDigits count c.toNat ++ more).take count = hexDigits count c.toNat :=
    List.take_left' (length_hexDigits count _)
  have enough : ¬ (hexDigits count c.toNat ++ more).length < count := by
    rw [List.length_append, length_hexDigits]
    omega
  have valid : c.toNat.isValidChar := c.valid
  simp only [escape, List.cons_append, noBreak, digits, taken, hexNumber?_hexDigits h, enough,
    valid, Char.ofNat_toNat, if_true, if_false, Bool.false_eq_true]

/-- A character is read back from its escape. -/
theorem escape_escapeTail (c : Char) (more : List Char) :
    escape start (escapeTail c ++ more) m = .ok (.char c (escapeTail c).length) := by
  rw [escapeTail, escapedChar]
  split
  · rename_i letter x found
    have means : x = c := by simpa using List.find?_some found
    have each : ∀ e ∈ escapeLetters, isBreak e.1 = false ∧ escapeDigits? e.1 = none ∧
        escapeLetters.lookup e.1 = some e.2 := by decide
    obtain ⟨noBreak, digits, looked⟩ := each _ (List.mem_of_find?_eq_some found)
    simp [escape, noBreak, digits, looked, means]
  · have valid : c.toNat < 0xd800 ∨ 0xdfff < c.toNat ∧ c.toNat < 0x110000 := c.valid
    split_ifs with one two
    · have enough : c.toNat < 0x100 := Nat.lt_succ_of_le one
      rw [List.tail_cons, escape_digits rfl rfl enough, List.length_cons, length_hexDigits]
    · have enough : c.toNat < 0x10000 := Nat.lt_succ_of_le two
      rw [List.tail_cons, escape_digits rfl rfl enough, List.length_cons, length_hexDigits]
    · have enough : c.toNat < 0x100000000 := by omega
      rw [List.tail_cons, escape_digits rfl rfl enough, List.length_cons, length_hexDigits]

/-- An escape stands on one line, and it needs no escapes itself. -/
theorem of_mem_escapeTail {d : Char} (mem : d ∈ escapeTail c) :
    isPrintable d ∧ isBreak d = false := by
  rw [escapeTail, escapedChar] at mem
  split at mem
  · rename_i letter x found
    have means : x = c := by simpa using List.find?_some found
    -- A tab stands for itself after a backslash as well, but another letter comes first.
    have each : ∀ e ∈ escapeLetters, ∀ e' ∈ escapeLetters.find? fun f => f.2 = e.2,
        isPrintable e'.1 ∧ isBreak e'.1 = false := by decide
    rw [List.tail_cons, List.mem_singleton] at mem
    exact mem ▸ each _ (List.mem_of_find?_eq_some found) (letter, x) (means ▸ found)
  · have digits {letter : Char} {count : Nat} (proper : isPrintable letter ∧ isBreak letter = false)
        (mem : d ∈ letter :: hexDigits count c.toNat) : isPrintable d ∧ isBreak d = false := by
      rcases List.mem_cons.mp mem with rfl | mem
      · exact proper
      · obtain ⟨k, less, rfl⟩ := exists_of_mem_hexDigits mem
        have each : ∀ k < 16, isPrintable (Nat.digitChar k).toUpper ∧
            isBreak (Nat.digitChar k).toUpper = false := by decide
        exact each k less
    split_ifs at mem
    · exact digits (by decide) mem
    · exact digits (by decide) mem
    · exact digits (by decide) mem

/-- What belongs to an escape is passed over. -/
theorem doubleQuotedFrom_skip (cs more : List Char) (m : Mark) :
    doubleQuotedFrom start cs.length g (cs ++ more) m =
      doubleQuotedFrom start 0 g more (cs.foldl Mark.after m) := by
  induction cs generalizing m with
  | nil => rfl
  | cons c cs ih => exact ih (m.after c)

/-- What is escaped counts with the spaces before it. -/
theorem doubleQuotedFrom_escapedChar (column : 0 < m.column) (c : Char) (more : List Char) :
    doubleQuotedFrom start 0 g (escapedChar c ++ more) m =
      prepend (g.text ++ [c])
        (doubleQuotedFrom start 0 .empty more ((escapedChar c).foldl Mark.after m)) := by
  rw [escapedChar_eq, List.cons_append, doubleQuotedFrom, atDocumentMarker_of_pos column,
    escape_escapeTail, List.foldl_cons, ← doubleQuotedFrom_skip]
  rfl

/-- What stands between double quotes stands on one line, and no character of it would have to be
escaped. -/
theorem of_mem_doubleChar {d : Char} (mem : d ∈ doubleChar c) :
    isPrintable d ∧ isBreak d = false := by
  rw [doubleChar, escapedChar_eq] at mem
  split_ifs at mem with escaped
  · rcases List.mem_cons.mp mem with rfl | mem
    · decide
    · exact of_mem_escapeTail mem
  · simp only [Bool.or_eq_true, not_or, Bool.not_eq_true, Bool.not_eq_false'] at escaped
    rw [List.mem_singleton.mp mem]
    exact ⟨escaped.1.1.1, escaped.1.1.2⟩

theorem column_doubleChar_pos (column : 0 < m.column) (c : Char) :
    0 < ((doubleChar c).foldl Mark.after m).column :=
  Mark.column_foldl_pos (fun _ mem => (of_mem_doubleChar mem).2) column

/-- A text between double quotes is read up to the closing quote. -/
theorem doubleQuotedFrom_body {blanks : List Char} (column : 0 < m.column) (cs rest : List Char) :
    doubleQuotedFrom start 0 (.within blanks) (cs.flatMap doubleChar ++ '"' :: rest) m =
      .ok (blanks ++ cs, ⟨rest, (cs.flatMap doubleChar ++ ['"']).foldl Mark.after m⟩) := by
  -- Spaces wait for the character after them; every other blank is escaped, and so is a line break.
  induction cs generalizing blanks m with
  | nil => simp [doubleQuotedFrom, atDocumentMarker_of_pos column, isBlank, isBreak, Gap.text]
  | cons c cs ih =>
    have later {blanks : List Char} : doubleQuotedFrom start 0 (.within blanks)
        (cs.flatMap doubleChar ++ '"' :: rest) ((doubleChar c).foldl Mark.after m) = .ok _ :=
      ih (column_doubleChar_pos column c)
    rw [List.flatMap_cons, List.append_assoc, List.append_assoc, List.foldl_append]
    rw [doubleChar] at later ⊢
    split_ifs at later ⊢ with escaped
    · rw [doubleQuotedFrom_escapedChar column, Gap.empty, later]
      simp [prepend, Except.map, Gap.text]
    · simp only [Bool.or_eq_true, not_or, Bool.not_eq_true, Bool.not_eq_false',
        decide_eq_true_eq] at escaped
      obtain ⟨⟨⟨printable, noBreak⟩, quote⟩, backslash⟩ := escaped
      have blank := isBlank_of_isPrintable printable
      rw [List.singleton_append, doubleQuotedFrom, atDocumentMarker_of_pos column,
        if_neg Bool.false_ne_true, blank, noBreak, if_neg Bool.false_ne_true, if_neg quote,
        if_neg backslash]
      split_ifs with space
      · exact later.trans (by simp)
      · rw [Gap.empty]
        change prepend _ (doubleQuotedFrom start 0 _ _ ([c].foldl Mark.after m)) = _
        rw [later]
        simp [prepend, Except.map, Gap.text]

/-- A text between double quotes is read back. -/
theorem doubleQuoted_line (cs : List Char) (m : Mark) :
    Cursor.doubleQuoted ⟨'"' :: cs.flatMap doubleChar ++ '"' :: '\n' :: rest, m⟩ =
      .ok (cs, ⟨'\n' :: rest,
        ('"' :: cs.flatMap doubleChar ++ ['"']).foldl Mark.after m⟩) := by
  have column : 0 < (m.after '"').column := Mark.column_after_pos rfl m
  exact doubleQuotedFrom_body column cs ('\n' :: rest)

end ValidatorGen.Yaml
