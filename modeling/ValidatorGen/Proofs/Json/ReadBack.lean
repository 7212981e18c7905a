import ValidatorGen.Json.Reader
import ValidatorGen.Proofs.Json.Spelling
import ValidatorGen.Proofs.Json.StringLiteral
import ValidatorGen.Proofs.Text.Utf8

/-!
# Reading what spells a value

Whatever spells a value is read as that value, as long as not too many containers stand inside one
another; nothing that follows is touched. So a plain value comes back from either layout.

## Main definitions

* `Position.past` — the position after characters
* `ahead` — the cursor with characters ahead of it

## Main results

* `string_ahead` — a text is read back from its literal
* `valueWithin_ahead` — a value is read back from what spells it, whatever follows
* `Value.ofText_of_spells`, `Value.ofFile_of_spells` — the same for a whole text, or for a file
-/

namespace ValidatorGen.Json

open Text

/-- The position after characters. -/
def Position.past (cs : List Char) (p : Position) : Position :=
  cs.foldl (fun p c => p.after (.char c)) p

/-- The cursor with characters ahead of it, and after them the rest. -/
def ahead (cs : List Char) (rest : List Symbol) (p : Position) : Cursor := ⟨cs.map .char ++ rest, p⟩

variable {rest : List Symbol} {p : Position}

theorem Position.past_nil (p : Position) : p.past [] = p := rfl

theorem Position.past_cons (c : Char) (cs : List Char) (p : Position) :
    p.past (c :: cs) = (p.after (.char c)).past cs := rfl

theorem Position.past_append (cs cs' : List Char) (p : Position) :
    p.past (cs ++ cs') = (p.past cs).past cs' := List.foldl_append ..

theorem ahead_append (cs cs' : List Char) (rest : List Symbol) (p : Position) :
    ahead (cs ++ cs') rest p = ahead cs (cs'.map .char ++ rest) p := by
  rw [ahead, ahead, List.map_append, List.append_assoc]

theorem advance_ahead (c : Char) (cs : List Char) (rest : List Symbol) (p : Position) :
    (ahead (c :: cs) rest p).advance = ahead cs rest (p.after (.char c)) := rfl

theorem peek?_ahead (c : Char) (cs : List Char) (rest : List Symbol) (p : Position) :
    (ahead (c :: cs) rest p).peek? = some c := rfl

/-! ### Blanks and words -/

/-- Blanks are skipped up to a character that is not blank. -/
theorem skipBlanks_ahead {blanks : List Char} (h : Blanks blanks) {c : Char}
    (visible : isBlank c = false) (cs : List Char) (rest : List Symbol) (p : Position) :
    (ahead (blanks ++ c :: cs) rest p).skipBlanks = ahead (c :: cs) rest (p.past blanks) := by
  rw [Cursor.skipBlanks, ahead]
  induction blanks generalizing p with
  | nil =>
    rw [List.nil_append, List.map_cons, List.cons_append, skipBlanksFrom,
      if_neg (by simp [visible])]
    rfl
  | cons b blanks ih =>
    have blank : isBlank b := h b List.mem_cons_self
    have others : Blanks blanks := fun c mem => h c (List.mem_cons_of_mem b mem)
    rw [List.cons_append, List.map_cons, List.cons_append, skipBlanksFrom, if_pos blank]
    exact ih others (p.after (.char b))

theorem skipBlanks_ahead_cons {c : Char} (visible : isBlank c = false) (cs : List Char)
    (rest : List Symbol) (p : Position) :
    (ahead (c :: cs) rest p).skipBlanks = ahead (c :: cs) rest p :=
  skipBlanks_ahead blanks_nil visible cs rest p

theorem spell_ahead (letters : List Char) (rest : List Symbol) (p : Position) :
    Cursor.spell letters (ahead letters rest p) = .ok ⟨rest, p.past letters⟩ := by
  induction letters generalizing p with
  | nil => rfl
  | cons letter letters ih =>
    rw [Cursor.spell, if_neg (by simp [ahead]), peek?_ahead, if_pos rfl, advance_ahead, ih]
    rfl

/-! ### Strings -/

theorem toList_quoted (s : String) :
    (quoted s).toList = '"' :: (s.toList.flatMap escape ++ ['"']) := by
  rw [quoted, String.toList_ofList]
  rfl

/-- A character of one byte that breaks no line. -/
def Narrow (c : Char) : Prop := c ≠ '\n' ∧ c.utf8Size = 1

instance (c : Char) : Decidable (Narrow c) := inferInstanceAs (Decidable (_ ∧ _))

theorem column_past {cs : List Char} (narrow : ∀ c ∈ cs, Narrow c) (p : Position) :
    (p.past cs).column = p.column + cs.length := by
  induction cs generalizing p with
  | nil => rfl
  | cons c cs ih =>
    rw [List.forall_mem_cons] at narrow
    have one : p.after (.char c) = ⟨p.line, p.column + 1⟩ := by
      rw [Position.after, if_neg (by simpa using narrow.1.1), Symbol.size, narrow.1.2]
    rw [Position.past_cons, ih narrow.2, one, List.length_cons]
    dsimp only
    omega

theorem stringFrom_skip (cs : List Char) (s : StringProgress) (rest : List Symbol) (p : Position) :
    stringFrom cs.length s (cs.map .char ++ rest) p = stringFrom 0 s rest (p.past cs) := by
  induction cs generalizing p with
  | nil => rfl
  | cons c cs ih => exact ih (p.after (.char c))

/-- Once the meaning of an escape is known its symbols are skipped, and the column tells how many
there are. -/
theorem stringFrom_escaped {cs : List Char} {meaning : Char}
    (escaped : (ahead cs rest (p.after (.char '\\'))).escaped =
      .ok (meaning, ⟨rest, (p.after (.char '\\')).past cs⟩))
    (narrow : ∀ c ∈ cs, Narrow c) (s : StringProgress) :
    stringFrom 0 s (('\\' :: cs).map .char ++ rest) p =
      stringFrom 0 (s.push meaning) rest (p.past ('\\' :: cs)) := by
  have count : ((p.after (.char '\\')).past cs).column - (p.after (.char '\\')).column =
      cs.length := by
    rw [column_past narrow]
    omega
  rw [ahead] at escaped
  rw [List.map_cons, List.cons_append, stringFrom, if_neg (by decide), if_pos rfl]
  dsimp only
  rw [escaped]
  dsimp only
  rw [count, stringFrom_skip]
  rfl

theorem narrow_of_escapeMeaning? {letter meaning : Char}
    (h : escapeMeaning? letter = some meaning) : Narrow letter := by
  rw [escapeMeaning?] at h
  split_ifs at h with itself b f n r t
  · rcases itself with rfl | rfl | rfl <;> decide
  · rw [b]; decide
  · rw [f]; decide
  · rw [n]; decide
  · rw [r]; decide
  · rw [t]; decide

/-- A backslash and a letter are read as what they stand for together. -/
theorem stringFrom_letter {letter meaning : Char} (h : escapeMeaning? letter = some meaning)
    (s : StringProgress) (rest : List Symbol) (p : Position) :
    stringFrom 0 s (['\\', letter].map .char ++ rest) p =
      stringFrom 0 (s.push meaning) rest (p.past ['\\', letter]) := by
  have unit : letter ≠ 'u' := by
    rintro rfl
    exact absurd (h.symm.trans (by decide : escapeMeaning? 'u' = none)) (by simp)
  refine stringFrom_escaped ?_ (by simpa using narrow_of_escapeMeaning? h) s
  rw [Cursor.escaped, if_neg (by simp [ahead]), peek?_ahead, if_neg (by simpa using unit),
    Option.bind_some, h]
  rfl

theorem narrow_hexDigit {n : Nat} (h : n < 16) : Narrow (hexDigit n) := by
  revert n
  decide

/-- The escape of a control character by its code point is read as that character. -/
theorem stringFrom_control {c : Char} (h : c.toNat < 0x20) (s : StringProgress)
    (rest : List Symbol) (p : Position) :
    stringFrom 0 s (['\\', 'u', '0', '0', hexDigit (c.toNat / 16),
        hexDigit (c.toNat % 16)].map .char ++ rest) p =
      stringFrom 0 (s.push c) rest
        (p.past ['\\', 'u', '0', '0', hexDigit (c.toNat / 16), hexDigit (c.toNat % 16)]) := by
  have high := hexValue?_hexDigit (n := c.toNat / 16) (by omega)
  have low := hexValue?_hexDigit (n := c.toNat % 16) (by omega)
  have zero : hexValue? '0' = some 0 := by decide
  have code : ((0 * 16 + 0) * 16 + c.toNat / 16) * 16 + c.toNat % 16 = c.toNat := by omega
  have digits (q : Position) : (ahead ['0', '0', hexDigit (c.toNat / 16), hexDigit (c.toNat % 16)]
      rest q).hexDigits? = some c.toNat := by
    simp [Cursor.hexDigits?, ahead, Symbol.char?, zero, high, low]
    omega
  refine stringFrom_escaped ?_ ?_ s
  · rw [Cursor.escaped, if_neg (by simp [ahead]), peek?_ahead, if_pos rfl, advance_ahead,
      Cursor.codePoint, Cursor.unit, digits]
    -- The number is far below those that stand for half a character.
    have whole : ¬ (0xdc00 ≤ c.toNat ∧ c.toNat ≤ 0xdfff) ∧
        ¬ (0xd800 ≤ c.toNat ∧ c.toNat ≤ 0xdbff) := by omega
    simp only [bind, Except.bind, pure, Except.pure, if_neg whole.1, if_neg whole.2,
      Char.ofNat_toNat]
    rfl
  · have first := narrow_hexDigit (n := c.toNat / 16) (by omega)
    have second := narrow_hexDigit (n := c.toNat % 16) (by omega)
    have ascii : Narrow 'u' ∧ Narrow '0' := by decide
    simp [first, second, ascii]

/-- A character is read back from the way it is written. -/
theorem stringFrom_escape (c : Char) (s : StringProgress) (rest : List Symbol) (p : Position) :
    stringFrom 0 s ((escape c).map .char ++ rest) p =
      stringFrom 0 (s.push c) rest (p.past (escape c)) := by
  rw [escape]
  split_ifs with quote backslash newline carriage tab backspace feed control
  · exact stringFrom_letter (by rw [quote]; decide) s rest p
  · exact stringFrom_letter (by rw [backslash]; decide) s rest p
  · exact stringFrom_letter (by rw [newline]; decide) s rest p
  · exact stringFrom_letter (by rw [carriage]; decide) s rest p
  · exact stringFrom_letter (by rw [tab]; decide) s rest p
  · exact stringFrom_letter (by rw [backspace]; decide) s rest p
  · exact stringFrom_letter (by rw [feed]; decide) s rest p
  · exact stringFrom_control control s rest p
  · rw [List.map_singleton, List.singleton_append, stringFrom, if_neg quote, if_neg backslash,
      if_neg control]
    rfl

/-- A text is read back from its literal, whatever follows the closing quote. -/
theorem string_ahead (s : String) (rest : List Symbol) (p : Position) :
    (ahead (s.toList.flatMap escape ++ ['"']) rest p).string =
      .ok (s, ⟨rest, p.past (s.toList.flatMap escape ++ ['"'])⟩) := by
  have read (cs : List Char) (progress : StringProgress) (whole : progress.stray = none)
      (p : Position) :
      stringFrom 0 progress ((cs.flatMap escape ++ ['"']).map .char ++ rest) p =
        .ok (String.ofList (progress.read.reverse ++ cs),
          ⟨rest, p.past (cs.flatMap escape ++ ['"'])⟩) := by
    induction cs generalizing progress p with
    | nil =>
      rw [List.flatMap_nil, List.nil_append, List.map_singleton, List.singleton_append, stringFrom,
        if_pos rfl, StringProgress.finish, whole, List.append_nil]
      rfl
    | cons c cs ih =>
      rw [List.flatMap_cons, List.append_assoc, List.map_append, List.append_assoc,
        stringFrom_escape, ih _ (by rw [StringProgress.push, whole]; rfl), Position.past_append]
      simp [StringProgress.push, Position.past_append]
  rw [Cursor.string]
  have all := read s.toList {} rfl p
  simpa [ahead] using all

/-! ### Between items and members -/

theorem isEmpty_rest_ahead (c : Char) (cs : List Char) (rest : List Symbol) (p : Position) :
    (ahead (c :: cs) rest p).rest.isEmpty = false := rfl

theorem nextItem_end {blanks : List Char} (h : Blanks blanks) (first : Bool) (rest : List Symbol)
    (p : Position) :
    (ahead (blanks ++ [']']) rest p).nextItem first =
      .ok (.inr ⟨rest, p.past (blanks ++ [']'])⟩) := by
  rw [Cursor.nextItem, skipBlanks_ahead h (by decide), Position.past_append]
  rfl

/-- The next item begins after what separates it from the one before. -/
theorem nextItem_ahead {first : Bool} {separator : List Char}
    (separates : Separates first separator) {c : Char} (visible : isBlank c = false)
    (inside : c ≠ ']') (cs : List Char) (rest : List Symbol) (p : Position) :
    (ahead (separator ++ c :: cs) rest p).nextItem first =
      .ok (.inl (ahead (c :: cs) rest (p.past separator))) := by
  have other : some c ≠ some ']' := by simpa using inside
  cases first with
  | true =>
    have blanks : Blanks separator := separates
    simp [Cursor.nextItem, skipBlanks_ahead blanks visible, isEmpty_rest_ahead, peek?_ahead, inside]
  | false =>
    obtain ⟨before, after, blanksBefore, blanksAfter, rfl⟩ := separates
    have comma : (ahead (before ++ ',' :: (after ++ c :: cs)) rest p).skipBlanks =
        ahead (',' :: (after ++ c :: cs)) rest (p.past before) :=
      skipBlanks_ahead blanksBefore (by decide) _ rest p
    have item := skipBlanks_ahead blanksAfter visible cs rest ((p.past before).after (.char ','))
    simp [Cursor.nextItem, comma, isEmpty_rest_ahead, peek?_ahead, advance_ahead, item, inside,
      Position.past_append, Position.past_cons]

theorem nextName_end {blanks : List Char} (h : Blanks blanks) (first : Bool) (rest : List Symbol)
    (p : Position) :
    (ahead (blanks ++ ['\x7d']) rest p).nextName first =
      .ok (.inr ⟨rest, p.past (blanks ++ ['\x7d'])⟩) := by
  rw [Cursor.nextName, skipBlanks_ahead h (by decide), Position.past_append]
  rfl

/-- The next name is opened after what separates it from the member before. -/
theorem nextName_ahead {first : Bool} {separator : List Char}
    (separates : Separates first separator) (cs : List Char) (rest : List Symbol) (p : Position) :
    (ahead (separator ++ '"' :: cs) rest p).nextName first =
      .ok (.inl (ahead cs rest (p.past (separator ++ ['"'])))) := by
  cases first with
  | true =>
    have blanks : Blanks separator := separates
    simp [Cursor.nextName, skipBlanks_ahead blanks (c := '"') (by decide), isEmpty_rest_ahead,
      peek?_ahead, advance_ahead, Position.past_append, Position.past_cons]
    rfl
  | false =>
    obtain ⟨before, after, blanksBefore, blanksAfter, rfl⟩ := separates
    have comma : (ahead (before ++ ',' :: (after ++ '"' :: cs)) rest p).skipBlanks =
        ahead (',' :: (after ++ '"' :: cs)) rest (p.past before) :=
      skipBlanks_ahead blanksBefore (by decide) _ rest p
    have name := skipBlanks_ahead blanksAfter (c := '"') (by decide) cs rest
      ((p.past before).after (.char ','))
    simp [Cursor.nextName, comma, isEmpty_rest_ahead, peek?_ahead, advance_ahead, name,
      Position.past_append, Position.past_cons]
    rfl

/-- A colon is passed; what follows it may begin with blanks. -/
theorem colon_ahead {before : List Char} (h : Blanks before) (cs : List Char) (rest : List Symbol)
    (p : Position) :
    (ahead (before ++ ':' :: cs) rest p).colon =
      .ok (ahead cs rest (p.past (before ++ [':']))) := by
  rw [Cursor.colon, skipBlanks_ahead h (by decide), Position.past_append]
  rfl

/-- A name and its colon are passed; what follows them may begin with blanks. -/
theorem name_ahead {first : Bool} {separator colon : List Char}
    (separates : Separates first separator) (marks : Marks ':' colon) (name : String)
    (cs : List Char) (rest : List Symbol) (p : Position) :
    ∃ c₁ c₂ p₃ after, Blanks after ∧
      p₃.past after = p.past (separator ++ (quoted name).toList ++ colon) ∧
      (ahead (separator ++ (quoted name).toList ++ colon ++ cs) rest p).nextName first =
        .ok (.inl c₁) ∧
      c₁.string = .ok (name, c₂) ∧ c₂.colon = .ok (ahead (after ++ cs) rest p₃) := by
  obtain ⟨before, after, blanksBefore, blanksAfter, rfl⟩ := marks
  have opened := toList_quoted name
  -- The cursor stands in turn after the opening quote, after the name and after the colon.
  let p₁ := p.past (separator ++ ['"'])
  let p₂ := p₁.past (name.toList.flatMap escape ++ ['"'])
  let p₃ := p₂.past (before ++ [':'])
  let colonAndOn := before ++ ':' :: (after ++ cs)
  have whole : separator ++ (quoted name).toList ++ (before ++ ':' :: after) ++ cs =
      separator ++ '"' :: (name.toList.flatMap escape ++ ['"'] ++ colonAndOn) := by
    simp [opened, colonAndOn]
  have arrival : p₃.past after =
      p.past (separator ++ (quoted name).toList ++ (before ++ ':' :: after)) := by
    simp [p₃, p₂, p₁, opened, Position.past_append, Position.past_cons, Position.past_nil]
  refine ⟨ahead (name.toList.flatMap escape ++ ['"'] ++ colonAndOn) rest p₁,
    ahead colonAndOn rest p₂, p₃, after, blanksAfter, arrival, ?_, ?_, ?_⟩
  · rw [whole]
    exact nextName_ahead separates _ rest p
  · rw [ahead_append]
    exact string_ahead name _ p₁
  · exact colon_ahead blanksBefore _ rest p₂

/-! ### Values -/

/-- What spells a value begins with a character that is neither blank nor the end of an array. -/
theorem Spells.begins {v : Value} {text : List Char} (h : Spells v text) :
    ∃ c cs, text = c :: cs ∧ isBlank c = false ∧ c ≠ ']' := by
  cases v with
  | null => exact ⟨'n', _, h, by decide, by decide⟩
  | bool b =>
    cases b with
    | false => exact ⟨'f', _, h, by decide, by decide⟩
    | true => exact ⟨'t', _, h, by decide, by decide⟩
  | number n => exact h.elim
  | string s =>
    rw [Spells] at h
    exact ⟨'"', _, h.trans (toList_quoted s), by decide, by decide⟩
  | array items =>
    obtain ⟨body, rfl, _⟩ := h
    exact ⟨'[', body, rfl, by decide, by decide⟩
  | object members =>
    obtain ⟨_, body, rfl, _⟩ := h
    exact ⟨'\x7b', body, rfl, by decide, by decide⟩

/-- Blanks before a value do not count. -/
theorem valueWithin_blanks {blanks : List Char} (h : Blanks blanks) {v : Value} {text : List Char}
    (spells : Spells v text) (origin : Origin) (fuel levels : Nat) (rest : List Symbol)
    (p : Position) :
    Cursor.valueWithin origin (fuel + 1) levels (ahead (blanks ++ text) rest p) =
      Cursor.valueWithin origin (fuel + 1) levels (ahead text rest (p.past blanks)) := by
  obtain ⟨c, cs, rfl, visible, _⟩ := spells.begins
  simp only [Cursor.valueWithin, skipBlanks_ahead h visible, skipBlanks_ahead_cons visible]

/-- What begins like neither an array nor an object is read as a scalar. -/
theorem valueWithin_scalar {c : Char} (visible : isBlank c = false) (array : c ≠ '[')
    (object : c ≠ '\x7b') (cs : List Char) (origin : Origin) (fuel levels : Nat)
    (rest : List Symbol) (p : Position) :
    Cursor.valueWithin origin (fuel + 1) levels (ahead (c :: cs) rest p) =
      (ahead (c :: cs) rest p).scalar origin := by
  simp only [Cursor.valueWithin, skipBlanks_ahead_cons visible, peek?_ahead, Option.some.injEq,
    if_neg array, if_neg object]

theorem scalar_word {letter : Char} {letters : List Char} {v : Value}
    (word : word? letter = some (letter :: letters, v)) (origin : Origin) (rest : List Symbol)
    (p : Position) :
    (ahead (letter :: letters) rest p).scalar origin =
      .ok (v, ⟨rest, p.past (letter :: letters)⟩) := by
  have spelled := spell_ahead (letter :: letters) rest p
  rw [ahead, List.map_cons, List.cons_append] at spelled ⊢
  simp only [Cursor.scalar, word, spelled]
  rfl

theorem scalar_quoted (s : String) (origin : Origin) (rest : List Symbol) (p : Position) :
    (ahead (quoted s).toList rest p).scalar origin =
      .ok (.string s, ⟨rest, p.past (quoted s).toList⟩) := by
  have read := string_ahead s rest (p.after (.char '"'))
  have noWord : word? '"' = none := by decide
  have noNumber : beginsNumber '"' = false := by decide
  rw [← advance_ahead] at read
  rw [toList_quoted]
  rw [ahead, List.map_cons, List.cons_append] at read ⊢
  simp only [Cursor.scalar, noWord, noNumber, Bool.false_eq_true, if_false, if_true, read]
  rfl

-- Each step of the reader takes a symbol or enters a container, so the bound on the steps is twice
-- the number of symbols, and one more where items or members are still to come.
mutual

/-- A value is read back from what spells it, whatever follows. -/
theorem valueWithin_ahead (origin : Origin) : ∀ (v : Value) {text : List Char} {fuel levels : Nat},
    Spells v text → 2 * text.length ≤ fuel → v.nesting ≤ levels → ∀ rest p,
      Cursor.valueWithin origin fuel levels (ahead text rest p) = .ok (v, ⟨rest, p.past text⟩)
  | v, text, 0, _, spells, enough, _ => by
    obtain ⟨c, cs, rfl, _⟩ := spells.begins
    exact absurd enough (by simp)
  | .null, _, fuel + 1, levels, spells, _, _ => by
    intro rest p
    rw [Spells] at spells
    subst spells
    exact (valueWithin_scalar (by decide) (by decide) (by decide) _ origin fuel levels rest p).trans
      (scalar_word (by rfl) origin rest p)
  | .bool b, _, fuel + 1, levels, spells, _, _ => by
    intro rest p
    rw [Spells] at spells
    subst spells
    cases b with
    | false =>
      exact (valueWithin_scalar (by decide) (by decide) (by decide) _ origin fuel levels rest
        p).trans (scalar_word (by rfl) origin rest p)
    | true =>
      exact (valueWithin_scalar (by decide) (by decide) (by decide) _ origin fuel levels rest
        p).trans (scalar_word (by rfl) origin rest p)
  | .number _, _, _ + 1, _, spells, _, _ => spells.elim
  | .string s, _, fuel + 1, levels, spells, _, _ => by
    intro rest p
    rw [Spells] at spells
    subst spells
    rw [← scalar_quoted s origin rest p, toList_quoted]
    exact valueWithin_scalar (by decide) (by decide) (by decide) _ origin fuel levels rest p
  | .array items, _, fuel + 1, levels, spells, enough, within => by
    intro rest p
    obtain ⟨body, rfl, spelled⟩ := spells
    rw [Value.nesting] at within
    rw [List.length_cons] at enough
    obtain ⟨levels, rfl⟩ : ∃ n, levels = n + 1 := ⟨levels - 1, by omega⟩
    have read : Cursor.itemsWithin origin fuel levels true (ahead body rest (p.after (.char '['))) =
        .ok (items, ⟨rest, (p.after (.char '[')).past body⟩) :=
      itemsWithin_ahead origin items spelled (by omega) (by omega) rest _
    simp only [Cursor.valueWithin, skipBlanks_ahead_cons (c := '[') (by decide), peek?_ahead,
      if_true, advance_ahead, read]
    rfl
  | .object members, _, fuel + 1, levels, spells, enough, within => by
    intro rest p
    obtain ⟨nodup, body, rfl, spelled⟩ := spells
    rw [Value.nesting] at within
    rw [List.length_cons] at enough
    obtain ⟨levels, rfl⟩ : ∃ n, levels = n + 1 := ⟨levels - 1, by omega⟩
    have read : Cursor.membersWithin origin fuel levels true []
        (ahead body rest (p.after (.char '\x7b'))) =
          .ok (members, ⟨rest, (p.after (.char '\x7b')).past body⟩) := by
      have distinct : (([] ++ members).map Prod.fst).Nodup := nodup
      exact membersWithin_ahead origin members spelled distinct (by omega) (by omega) rest _
    have array : ('\x7b' : Char) ≠ '[' := by decide
    simp only [Cursor.valueWithin, skipBlanks_ahead_cons (c := '\x7b') (by decide), peek?_ahead,
      Option.some.injEq, if_neg array, if_true, advance_ahead, read]
    rfl

theorem itemsWithin_ahead (origin : Origin) : ∀ (items : List Value) {body : List Char}
    {fuel levels : Nat} {first : Bool},
    SpellsItems first items body → 2 * body.length + 1 ≤ fuel → itemsNesting items ≤ levels →
      ∀ rest p, Cursor.itemsWithin origin fuel levels first (ahead body rest p) =
        .ok (items, ⟨rest, p.past body⟩)
  | _, _, 0, _, _, _, enough, _ => absurd enough (by omega)
  | [], _, fuel + 1, levels, first, spells, _, _ => by
    intro rest p
    obtain ⟨blanks, h, rfl⟩ := spells
    rw [Cursor.itemsWithin, nextItem_end h]
    rfl
  | item :: items, _, fuel + 1, levels, first, spells, enough, within => by
    intro rest p
    obtain ⟨separator, text, others, separates, spelled, spelledRest, rfl⟩ := spells
    rw [itemsNesting, Nat.max_le] at within
    have positive : 0 < text.length := by
      obtain ⟨c, cs, rfl, _⟩ := spelled.begins
      exact Nat.succ_pos _
    rw [List.length_append, List.length_append] at enough
    have readItem : Cursor.valueWithin origin fuel levels
        (ahead text (others.map .char ++ rest) (p.past separator)) =
          .ok (item, ⟨others.map .char ++ rest, (p.past separator).past text⟩) :=
      valueWithin_ahead origin item spelled (by omega) within.1 _ _
    have readRest : Cursor.itemsWithin origin fuel levels false
        (ahead others rest ((p.past separator).past text)) =
          .ok (items, ⟨rest, ((p.past separator).past text).past others⟩) :=
      itemsWithin_ahead origin items spelledRest (by omega) within.2 rest _
    have next : (ahead (separator ++ text ++ others) rest p).nextItem first =
        .ok (.inl (ahead text (others.map .char ++ rest) (p.past separator))) := by
      obtain ⟨c, cs, rfl, visible, inside⟩ := spelled.begins
      rw [ahead_append]
      exact nextItem_ahead separates visible inside cs _ p
    rw [Cursor.itemsWithin, next]
    simp only [bind, Except.bind, readItem]
    rw [ahead] at readRest
    rw [readRest, Position.past_append, Position.past_append]
    rfl

theorem membersWithin_ahead (origin : Origin) : ∀ (members : List (String × Value))
    {body : List Char} {fuel levels : Nat} {first : Bool} {known : List (String × Value)},
    SpellsMembers first members body → ((known ++ members).map Prod.fst).Nodup →
      2 * body.length + 1 ≤ fuel → membersNesting members ≤ levels →
        ∀ rest p, Cursor.membersWithin origin fuel levels first known (ahead body rest p) =
          .ok (known ++ members, ⟨rest, p.past body⟩)
  | _, _, 0, _, _, _, _, _, enough, _ => absurd enough (by omega)
  | [], _, fuel + 1, levels, first, known, spells, _, _, _ => by
    intro rest p
    obtain ⟨blanks, h, rfl⟩ := spells
    rw [Cursor.membersWithin, nextName_end h, List.append_nil]
    rfl
  | (name, value) :: members, _, fuel + 1, levels, first, known, spells, nodup, enough, within => by
    intro rest p
    obtain ⟨separator, colon, text, others, separates, marks, spelled, spelledRest, rfl⟩ := spells
    rw [membersNesting, Nat.max_le] at within
    have positive : 0 < text.length := by
      obtain ⟨c, cs, rfl, _⟩ := spelled.begins
      exact Nat.succ_pos _
    have fresh : name ∉ known.map Prod.fst := by
      rw [List.map_append, List.nodup_append] at nodup
      exact fun mem => nodup.2.2 name mem name (by simp) rfl
    have put : Ordered.put Prod.fst (name, value) known = known ++ [(name, value)] :=
      Ordered.put_of_not_mem fresh
    have nodupNext : ((known ++ [(name, value)] ++ members).map Prod.fst).Nodup := by
      simpa using nodup
    simp only [toList_quoted, List.length_append, List.length_cons] at enough
    obtain ⟨c₁, c₂, p₃, after, blanksAfter, arrival, readName, readString, readColon⟩ :=
      name_ahead separates marks name (text ++ others) rest p
    have readValue : Cursor.valueWithin origin fuel levels
        (ahead (after ++ (text ++ others)) rest p₃) =
          .ok (value, ahead others rest ((p₃.past after).past text)) := by
      obtain ⟨fuel, rfl⟩ : ∃ n, fuel = n + 1 := ⟨fuel - 1, by omega⟩
      rw [← List.append_assoc, ahead_append, valueWithin_blanks blanksAfter spelled]
      exact valueWithin_ahead origin value spelled (by omega) within.1 _ _
    have readRest : Cursor.membersWithin origin fuel levels false (known ++ [(name, value)])
        (ahead others rest ((p₃.past after).past text)) =
          .ok (known ++ [(name, value)] ++ members,
            ⟨rest, ((p₃.past after).past text).past others⟩) :=
      membersWithin_ahead origin members spelledRest nodupNext (by omega) within.2 rest _
    rw [List.append_assoc _ text others, Cursor.membersWithin, readName]
    simp only [bind, Except.bind, readString, readColon, readValue, put, readRest]
    rw [List.append_assoc known, List.singleton_append, arrival,
      Position.past_append _ (text ++ others), Position.past_append text]

end

/-! ### Whole texts -/

/-- Symbols that spell a value stand for it, unless too many containers stand inside one another. -/
theorem Value.ofSymbols_of_spells {v : Value} {text : List Char} (spells : Spells v text)
    (within : v.nesting ≤ greatestNesting) (origin : Origin) :
    Value.ofSymbols origin (text.map .char) = .ok v := by
  have begun : Cursor.start (text.map .char) = ahead text [] ⟨1, 0⟩ := by
    rw [ahead, List.append_nil]
    rfl
  have enough : 2 * text.length ≤ (ahead text [] ⟨1, 0⟩).steps := by
    simp [Cursor.steps, ahead]
  have read := valueWithin_ahead origin v spells enough within [] ⟨1, 0⟩
  rw [Value.ofSymbols, begun, Cursor.value]
  simp only [bind, Except.bind, read]
  rfl

/-- The content of a file that spells a value stands for it. -/
theorem Value.ofFile_of_spells {v : Value} {text : String} (spells : Spells v text.toList)
    (within : v.nesting ≤ greatestNesting) : Value.ofFile (encode text) = .ok v := by
  rw [Value.ofFile, decode_encode, symbols]
  exact Value.ofSymbols_of_spells spells within .file

/-- A plain value that is written over several lines to a file is read back. -/
theorem Value.ofFile_indented {v : Value} (plain : v.Plain) (within : v.nesting ≤ greatestNesting) :
    Value.ofFile (encode v.indented) = .ok v :=
  Value.ofFile_of_spells (spells_indented plain) within

/-- A plain value that is written without blanks is read back. -/
theorem Value.ofText_compact {v : Value} (plain : v.Plain) (within : v.nesting ≤ greatestNesting) :
    Value.ofText v.compact = .ok v :=
  Value.ofSymbols_of_spells (spells_compact v plain) within .text

end ValidatorGen.Json
