import Mathlib.Logic.Relation
import Mathlib.Tactic.SplitIfs
import ValidatorGen.Proofs.Yaml.Scalar.Written
import ValidatorGen.Yaml.Tokens

/-!
# The tokens of written text

Between two tokens only the place reached, the tokens so far, and a candidate for a key matter to
what comes next. What is said here of one token is put together to what is said of a whole text in
as many steps as there are tokens.

## Main definitions

* `Scan.Passes` — one state comes right after another, and less text is left
* `Scan.At` — the state before a token, when no brackets are open and no candidate is left

## Main results

* `Scan.tokensFrom_of_passes` — any number of steps can be taken before the tokens are looked at
* `Scan.At.scalar`, `Scan.At.items`, `Scan.At.brackets`, `Scan.At.key` — a text, the items of a
  sequence, brackets with nothing inside, and a key are read as their tokens
* `ofText_of_at` — the tokens of a text are those on the way to its end
-/

namespace ValidatorGen.Yaml

variable {s t u : Scan}

namespace Scan

/-! ### Steps -/

/-- One state comes right after another, and less text is left. -/
def Passes (s t : Scan) : Prop :=
  s.next = .ok t ∧ t.ended = false ∧ t.cursor.rest.length < s.cursor.rest.length

/-- Any number of steps can be taken before the tokens are looked at. -/
theorem tokensFrom_of_passes (h : Relation.ReflTransGen Passes s t) {fuel : Nat}
    (enough : s.cursor.rest.length < fuel) :
    ∃ fuel', t.cursor.rest.length < fuel' ∧ tokensFrom fuel s = tokensFrom fuel' t := by
  induction h with
  | refl => exact ⟨fuel, enough, rfl⟩
  | tail _ step ih =>
    obtain ⟨fuel', enough', same⟩ := ih
    obtain ⟨next, going, shorter⟩ := step
    obtain ⟨fuel', rfl⟩ : ∃ n, fuel' = n + 1 := ⟨fuel' - 1, by omega⟩
    refine ⟨fuel', by omega, ?_⟩
    rw [same, tokensFrom, next]
    exact if_neg (by simp [going])

/-- A state in which no brackets are open. -/
def outside (cursor : Cursor) (tokens : List Token) (keyAllowed : Bool) (indents : List Nat)
    (candidate : Option Candidate) : Scan :=
  { cursor, tokens, count := tokens.length, candidate, keyAllowed, indents }

/-- A token begins at the cursor, and those before it are of the given kinds. No brackets are open,
and no candidate for a key is left. -/
def At (s : Scan) (kinds : List Token.Kind) (keyAllowed : Bool) (indents : List Nat)
    (cursor : Cursor) : Prop :=
  s.fault = none ∧ cursor.rest.length ≤ s.cursor.rest.length ∧
    ∃ tokens, tokens.reverse.map Token.kind = kinds ∧
      s.skip.dropStale = .ok (outside cursor tokens keyAllowed indents none)

/-! ### Candidates -/

theorem dropStale_of_none (outer : s.outer = []) (none : s.candidate = none) :
    s.dropStale = .ok s := by
  obtain ⟨_, _, _, _, _, _, _, _, _⟩ := s
  subst outer none
  rfl

variable {k : Candidate}

theorem dropStale_of_fresh (outer : s.outer = []) (some : s.candidate = some k)
    (fresh : k.isStale s.cursor.mark = false) : s.dropStale = .ok s := by
  obtain ⟨_, _, _, _, _, _, _, _, _⟩ := s
  subst outer some
  simp only at fresh
  simp [dropStale, fresh]
  rfl

theorem dropStale_of_stale (outer : s.outer = []) (some : s.candidate = some k)
    (stale : k.isStale s.cursor.mark) (optional : k.required = false) :
    s.dropStale = .ok { s with candidate := none } := by
  obtain ⟨_, _, _, _, _, _, _, _, _⟩ := s
  subst outer some
  simp only at stale
  simp [dropStale, stale, Candidate.drop, optional]
  rfl

/-! ### One token -/

theorem want_of_fault (h : s.fault = none) (c : Cursor) (count : Nat) :
    s.want c count = .ok () := by
  rw [want, h]

/-- No collection ends before any column if all of them begin at the first. -/
theorem closeBlocks_of_zero (h : ∀ i ∈ s.indents, i = 0) (column : Nat) :
    s.closeBlocks (fun i => column < i) = s := by
  obtain ⟨_, _, _, _, _, _, indents, _, _⟩ := s
  rw [closeBlocks]
  split_ifs
  · rfl
  · cases indents with
    | nil => rfl
    | cons i indents =>
      obtain rfl := h i List.mem_cons_self
      rfl

/-- What the state after a token is. -/
theorem next_of_token (fault : s.fault = none) (ready : s.skip.dropStale = .ok u)
    (fault' : u.fault = none) (indents : ∀ i ∈ u.indents, i = 0) (token : u.token = .ok t)
    (fault'' : t.fault = none) : s.next = t.dropStale := by
  have skipped : s.skip.fault = none := fault
  have within : u.tokenWithin = .ok t := by
    rw [tokenWithin, token]
    simp only [want_of_fault fault'']
    rfl
  rw [next]
  simp only [want_of_fault skipped, ready, want_of_fault fault', closeBlocks_of_zero indents,
    within, bind, Except.bind]

/-! ### The way to the next token -/

/-- Before a word nothing is passed over. -/
theorem skipFrom_word {rest : List Char} (word : wordNext rest) (inFlow keyAllowed : Bool)
    (m : Mark) : skipFrom inFlow keyAllowed false rest m = (keyAllowed, ⟨rest, m⟩) := by
  cases rest with
  | nil => rfl
  | cons c rest =>
    obtain ⟨blank, noBreak, comment, mark⟩ := wordNext_cons_iff.mp word
    rw [isBlank_eq_false_iff] at blank
    simp [skipFrom, noBreak, comment, mark, blank]

/-- A space is passed over. -/
theorem skipFrom_space {rest : List Char} (word : wordNext rest) (inFlow keyAllowed : Bool)
    (m : Mark) :
    skipFrom inFlow keyAllowed false (' ' :: rest) m = (keyAllowed, ⟨rest, m.after ' '⟩) := by
  rw [← skipFrom_word word inFlow]
  simp [skipFrom, isBreak]

/-- After a line break a key may begin. -/
theorem skipFrom_lineBreak {rest : List Char} (word : wordNext rest) (keyAllowed : Bool)
    (m : Mark) :
    skipFrom false keyAllowed false ('\n' :: rest) m = (true, ⟨rest, m.after '\n'⟩) := by
  rw [← skipFrom_word word false]
  simp [skipFrom, isBreak]

theorem length_skipFrom_le (inFlow keyAllowed inComment : Bool) (rest : List Char) (m : Mark) :
    (skipFrom inFlow keyAllowed inComment rest m).2.rest.length ≤ rest.length := by
  induction rest generalizing keyAllowed inComment m with
  | nil => exact Nat.le_refl _
  | cons c rest ih =>
    rw [skipFrom]
    split_ifs
    all_goals first | exact Nat.le_succ_of_le (ih ..) | exact Nat.le_refl _

variable {kinds : List Token.Kind} {kind : Token.Kind} {keyAllowed keyAllowed' allowed : Bool}
  {indents : List Nat} {cursor cursor' after : Cursor} {tokens : List Token}
  {candidate : Option Candidate}

theorem skip_outside (skipped : skipFrom false allowed false after.rest after.mark =
      (keyAllowed', cursor')) :
    (outside after tokens allowed indents candidate).skip =
      outside cursor' tokens keyAllowed' indents candidate := by
  simp only [skip, inFlow, outside, List.isEmpty_nil, Bool.not_true, skipped]

/-- A token begins where the text goes on if no colon can follow the candidate any more. -/
theorem at_outside (skipped : skipFrom false allowed false after.rest after.mark =
      (keyAllowed', cursor'))
    (kinds' : tokens.reverse.map Token.kind = kinds)
    (stale : ∀ k, candidate = some k → k.required = false ∧ k.isStale cursor'.mark) :
    (outside after tokens allowed indents candidate).At kinds keyAllowed' indents cursor' := by
  have length := length_skipFrom_le false allowed false after.rest after.mark
  rw [skipped] at length
  refine ⟨rfl, length, tokens, kinds', ?_⟩
  rw [skip_outside skipped]
  cases candidate with
  | none => exact dropStale_of_none rfl rfl
  | some k => exact dropStale_of_stale rfl rfl (stale k rfl).2 (stale k rfl).1

/-- One more token is read, and the text goes on where the next token begins. -/
theorem At.passes (h : s.At kinds keyAllowed indents cursor) (zero : ∀ i ∈ indents, i = 0)
    (token : ∀ tokens, ∃ t candidate, t.kind = kind ∧
      (outside cursor tokens keyAllowed indents none).token =
        .ok (outside after (t :: tokens) allowed indents candidate) ∧
      ∀ k, candidate = some k → k.required = false ∧ k.isStale cursor'.mark)
    (skipped : skipFrom false allowed false after.rest after.mark = (keyAllowed', cursor'))
    (shorter : after.rest.length < cursor.rest.length) :
    ∃ t, s.Passes t ∧ t.At (kinds ++ [kind]) keyAllowed' indents cursor' := by
  obtain ⟨fault, length, tokens, rfl, ready⟩ := h
  obtain ⟨t, candidate, rfl, read, stale⟩ := token tokens
  have next := next_of_token fault ready rfl zero read rfl
  have more : ((t :: tokens).reverse).map Token.kind =
      tokens.reverse.map Token.kind ++ [t.kind] := by simp
  -- The candidate may be dropped already, or stay until the next token begins.
  have dropped : ∃ candidate',
      s.next = .ok (outside after (t :: tokens) allowed indents candidate') ∧
        ∀ k, candidate' = some k → k.required = false ∧ k.isStale cursor'.mark := by
    cases candidate with
    | none => exact ⟨none, next.trans (dropStale_of_none rfl rfl), nofun⟩
    | some k =>
      cases early : k.isStale after.mark with
      | true => exact ⟨none, next.trans (dropStale_of_stale rfl rfl early (stale k rfl).1), nofun⟩
      | false => exact ⟨some k, next.trans (dropStale_of_fresh rfl rfl early), stale⟩
  obtain ⟨candidate', next, stale⟩ := dropped
  exact ⟨_, ⟨next, rfl, Nat.lt_of_lt_of_le shorter length⟩, at_outside skipped more stale⟩

/-! ### Scalars -/

/-- The candidate that is left where a node begins that may be a key. -/
def candidateAt (keyAllowed : Bool) (tokens : List Token) (indents : List Nat) (m : Mark) :
    Option Candidate :=
  if keyAllowed then some ⟨tokens.length, indents.head? = some m.column, m⟩ else none

theorem addCandidate_outside (cursor : Cursor) (tokens : List Token) (keyAllowed : Bool)
    (indents : List Nat) :
    (outside cursor tokens keyAllowed indents none).addCandidate =
      .ok (outside cursor tokens keyAllowed indents
        (candidateAt keyAllowed tokens indents cursor.mark)) := by
  cases keyAllowed <;> rfl

theorem plainScalar_outside {p : Plain} {tokens : List Token}
    (read : cursor.plain false (outside cursor tokens keyAllowed indents none).leastColumn =
      .ok p) :
    (outside cursor tokens keyAllowed indents none).plainScalar =
      .ok (outside p.rest (⟨.scalar .plain p.text, cursor.mark, p.rest.mark⟩ :: tokens) p.crossed
        indents (candidateAt keyAllowed tokens indents cursor.mark)) := by
  rw [plainScalar, addCandidate_outside]
  change Except.bind (cursor.plain false
    (outside cursor tokens keyAllowed indents none).leastColumn) _ = _
  rw [read]
  rfl

theorem quotedScalar_outside {style : Style} {read : Cursor → Except Error (List Char × Cursor)}
    {text : List Char} (h : read cursor = .ok (text, after)) (tokens : List Token) :
    (outside cursor tokens keyAllowed indents none).quotedScalar style read =
      .ok (outside after (⟨.scalar style text, cursor.mark, after.mark⟩ :: tokens) false indents
        (candidateAt keyAllowed tokens indents cursor.mark)) := by
  rw [quotedScalar, addCandidate_outside]
  change Except.bind (read cursor) _ = _
  rw [h]
  rfl

theorem blockScalar_outside {text : List Char}
    (h : cursor.blockScalar true indents.head? = .ok (text, after)) (tokens : List Token) :
    (outside cursor tokens keyAllowed indents none).blockScalar .literal =
      .ok (outside after (⟨.scalar .literal text, cursor.mark, after.mark⟩ :: tokens) true indents
        none) := by
  change Except.bind (cursor.blockScalar true indents.head?) _ = _
  rw [h]
  rfl

section

variable {rest : List Char} {m : Mark}

theorem token_single (tokens : List Token) :
    (outside ⟨'\x27' :: rest, m⟩ tokens keyAllowed indents none).token =
      (outside ⟨'\x27' :: rest, m⟩ tokens keyAllowed indents none).quotedScalar .single
        Cursor.singleQuoted := by
  simp [token, outside, inFlow, atDocumentStart, atDocumentEnd]

theorem token_double (tokens : List Token) :
    (outside ⟨'"' :: rest, m⟩ tokens keyAllowed indents none).token =
      (outside ⟨'"' :: rest, m⟩ tokens keyAllowed indents none).quotedScalar .double
        Cursor.doubleQuoted := by
  simp [token, outside, inFlow, atDocumentStart, atDocumentEnd]

theorem token_literal (tokens : List Token) :
    (outside ⟨'|' :: rest, m⟩ tokens keyAllowed indents none).token =
      (outside ⟨'|' :: rest, m⟩ tokens keyAllowed indents none).blockScalar .literal := by
  simp [token, outside, inFlow, atDocumentStart, atDocumentEnd]

theorem token_entry (tokens : List Token) :
    (outside ⟨'-' :: ' ' :: rest, m⟩ tokens keyAllowed indents none).token =
      (outside ⟨'-' :: ' ' :: rest, m⟩ tokens keyAllowed indents none).entry := by
  simp [token, outside, atDocumentStart, atDocumentEnd, blankNext, isBlank]

theorem token_value (blank : blankNext rest) (tokens : List Token) (candidate : Option Candidate) :
    (outside ⟨':' :: rest, m⟩ tokens keyAllowed indents candidate).token =
      (outside ⟨':' :: rest, m⟩ tokens keyAllowed indents candidate).value := by
  simp [token, outside, inFlow, atDocumentStart, atDocumentEnd, blank]

theorem token_open (tokens : List Token) :
    (outside ⟨'[' :: rest, m⟩ tokens keyAllowed indents none).token =
      (outside ⟨'[' :: rest, m⟩ tokens keyAllowed indents none).openFlow .openSequence := by
  simp [token, outside, atDocumentStart, atDocumentEnd]

/-- A text that may be written without quotes is taken for a plain scalar. -/
theorem token_plain {cs : List Char} (nonempty : cs ≠ []) (h : allowsPlain cs)
    (more : ∀ d ∈ rest.head?, d ≠ '-' ∧ d ≠ '.') (tokens : List Token) :
    (outside ⟨cs ++ rest, m⟩ tokens keyAllowed indents none).token =
      (outside ⟨cs ++ rest, m⟩ tokens keyAllowed indents none).plainScalar := by
  obtain ⟨c, cs, rfl⟩ := List.exists_cons_of_ne_nil nonempty
  obtain ⟨word, noIndicator, joined, noMarker⟩ := plainStart_of_allowsPlain h
  obtain ⟨blank, noBreak, -, -⟩ := wordNext_cons_iff.mp word
  obtain ⟨noStart, noEnd⟩ := noMarker rest more
  have joined' (h : c = '-' ∨ c = '?' ∨ c = ':') : blankNext (cs ++ rest) = false := by
    cases next : blankNext (cs ++ rest) with
    | true => exact absurd (joined h) (by simp [blankNext_of_append next])
    | false => rfl
  have plain : beginsPlain false c (cs ++ rest) := by
    by_cases special : c = '-' ∨ c = '?' ∨ c = ':'
    · have next := joined' special
      have head : (cs ++ rest).head?.any isBlank = false := by
        cases list : cs ++ rest with
        | nil => rfl
        | cons d ds =>
          rw [list, blankNext, Bool.or_eq_false_iff] at next
          exact next.1
      rcases special with rfl | rfl | rfl <;> simp [beginsPlain, next, head, -List.head?_append]
    · simp_all [beginsPlain, isIndicator, isBlank, isBreak]
  have dash : (c = '-' && blankNext (cs ++ rest)) = false := by
    simpa using fun h => joined' (.inl h)
  have question : (c = '?' && blankNext (cs ++ rest)) = false := by
    simpa using fun h => joined' (.inr (.inl h))
  have colon : (c = ':' && blankNext (cs ++ rest)) = false := by
    simpa using fun h => joined' (.inr (.inr h))
  simp only [isIndicator, decide_eq_false_iff_not, List.mem_cons, List.not_mem_nil, or_false,
    not_or] at noIndicator
  simp only [List.cons_append] at noStart noEnd
  simp [token, outside, inFlow, noStart, noEnd, noIndicator, plain, dash, question, colon]

end

section

variable {rest : List Char} {m m' : Mark}

/-- Away from the first column a candidate is not required, and on a later line it is stale. -/
theorem stale_candidateAt (column : 0 < m.column) (later : m.line < m'.line) {tokens : List Token} :
    ∀ k, candidateAt keyAllowed tokens [0] m = some k → k.required = false ∧ k.isStale m' := by
  intro k here
  cases keyAllowed with
  | false => cases here
  | true =>
    cases here
    refine ⟨?_, ?_⟩
    · simp
      omega
    · simp [Candidate.isStale, later]

/-- A text is one token as it is written, and the next token begins on the next line. -/
theorem At.scalar {x : List Char} {style : Style} {line : List Char}
    (written : Written x style line) (h : s.At kinds keyAllowed [0] ⟨line ++ rest, m⟩)
    (column : 0 < m.column) (word : wordNext rest) :
    ∃ t m', m'.column = 0 ∧ s.Passes t ∧ t.At (kinds ++ [.scalar style x]) true [0] ⟨rest, m'⟩ := by
  -- In quotes the line break is left to be passed over; in other styles it belongs to the token.
  cases written with
  | plain nonempty allowed =>
    rw [List.append_assoc, List.singleton_append] at h
    obtain ⟨t, passes, next⟩ := h.passes (by simp) (fun tokens => ⟨_, _, rfl,
      (token_plain nonempty allowed (by simp) tokens).trans
        (plainScalar_outside (plain_line allowed word m)),
      stale_candidateAt column (Mark.line_lt_after_feed m x)⟩) (skipFrom_word word ..)
      (by simp; omega)
    exact ⟨t, _, rfl, passes, next⟩
  | single text =>
    have line : '\x27' :: singleBody false x ++ ['\x27', '\n'] ++ rest =
        '\x27' :: (singleBody false x ++ '\x27' :: '\n' :: rest) := by simp
    rw [line] at h
    obtain ⟨t, passes, next⟩ := h.passes (by simp) (fun tokens => ⟨_, _, rfl,
      (token_single tokens).trans (quotedScalar_outside (singleQuoted_line text m) tokens),
      stale_candidateAt column (Mark.line_lt_after_feed m _)⟩) (skipFrom_lineBreak word ..)
      (by simp; omega)
    exact ⟨t, _, rfl, passes, next⟩
  | double =>
    have line : '"' :: x.flatMap doubleChar ++ ['"', '\n'] ++ rest =
        '"' :: (x.flatMap doubleChar ++ '"' :: '\n' :: rest) := by simp
    rw [line] at h
    obtain ⟨t, passes, next⟩ := h.passes (by simp) (fun tokens => ⟨_, _, rfl,
      (token_double tokens).trans (quotedScalar_outside (doubleQuoted_line x m) tokens),
      stale_candidateAt column (Mark.line_lt_after_feed m _)⟩) (skipFrom_lineBreak word ..)
      (by simp; omega)
    exact ⟨t, _, rfl, passes, next⟩
  | literal nonempty printable =>
    obtain ⟨t, passes, next⟩ := h.passes (by simp) (fun tokens => ⟨_, _, rfl,
      (token_literal tokens).trans
        (blockScalar_outside (blockScalar_line nonempty printable word m) tokens), nofun⟩)
      (skipFrom_word word ..) (by simp; omega)
    refine ⟨t, _, ?_, passes, next⟩
    rw [List.append_cons, column_literalEnd nonempty]

/-! ### Items -/

theorem entry_outside (column : cursor.mark.column = 0) (tokens : List Token) :
    (outside cursor tokens true [0] none).entry =
      .ok (outside cursor.advance (⟨.entry, cursor.mark, cursor.advance.mark⟩ :: tokens) true [0]
        none) := by
  obtain ⟨rest, ⟨_, _, _⟩⟩ := cursor
  obtain rfl := column
  rfl

/-- A hyphen is a token, and the item begins after the space. -/
theorem At.entry (h : s.At kinds true [0] ⟨'-' :: ' ' :: rest, m⟩) (column : m.column = 0)
    (word : wordNext rest) :
    ∃ t m', 0 < m'.column ∧ s.Passes t ∧ t.At (kinds ++ [.entry]) true [0] ⟨rest, m'⟩ := by
  obtain ⟨t, passes, next⟩ := h.passes (by simp) (fun tokens => ⟨_, _, rfl,
    (token_entry tokens).trans (entry_outside column tokens), nofun⟩) (skipFrom_space word ..)
    (by simp [Cursor.advance])
  exact ⟨t, _, Mark.column_after_pos rfl _, passes, next⟩

/-- The items of a sequence are read one after the other. -/
theorem At.items (items : List (List Char))
    (h : s.At kinds true [0] ⟨items.flatMap itemLine ++ rest, m⟩) (column : m.column = 0)
    (word : wordNext rest) :
    ∃ t m', m'.column = 0 ∧ Relation.ReflTransGen Passes s t ∧
      t.At (kinds ++ items.flatMap fun x => [.entry, .scalar (styleOf x) x]) true [0]
        ⟨rest, m'⟩ := by
  -- Every item begins in the first column, where the one before it has ended.
  induction items generalizing s kinds m with
  | nil =>
    rw [List.flatMap_nil, List.append_nil]
    exact ⟨s, m, column, .refl, h⟩
  | cons x items ih =>
    rw [List.flatMap_cons, List.append_assoc, itemLine, List.cons_append, List.cons_append] at h
    obtain ⟨t, m₁, column₁, passes, next⟩ :=
      h.entry column ((written_line x).wordNext (items.flatMap itemLine ++ rest))
    obtain ⟨t', m₂, column₂, passes', next'⟩ :=
      next.scalar (written_line x) column₁ (wordNext_items items word)
    obtain ⟨t'', m₃, column₃, passes'', next''⟩ := ih next' column₂
    refine ⟨t'', m₃, column₃, .head passes (.head passes' passes''), ?_⟩
    simpa using next''

/-- Brackets with nothing inside are two tokens. -/
theorem At.brackets (h : s.At kinds false [0] ⟨'[' :: ']' :: '\n' :: rest, m⟩)
    (word : wordNext rest) :
    ∃ t m', m'.column = 0 ∧ Relation.ReflTransGen Passes s t ∧
      t.At (kinds ++ [.openSequence, .closeSequence]) true [0] ⟨rest, m'⟩ := by
  obtain ⟨fault, length, tokens, rfl, ready⟩ := h
  -- Inside the brackets a key may begin, and no collection laid out in lines ends.
  let inside : Scan :=
    { outside ⟨']' :: '\n' :: rest, m.after '['⟩
        (⟨.openSequence, m, m.after '['⟩ :: tokens) true [0] none with outer := [none] }
  have opened : (outside ⟨'[' :: ']' :: '\n' :: rest, m⟩ tokens false [0] none).token =
      .ok inside := (token_open tokens).trans rfl
  have first : s.next = .ok inside :=
    (next_of_token fault ready rfl (by simp [outside]) opened rfl).trans rfl
  have closed : inside.token = .ok (outside ⟨'\n' :: rest, (m.after '[').after ']'⟩
      (⟨.closeSequence, m.after '[', (m.after '[').after ']'⟩ ::
        ⟨.openSequence, m, m.after '['⟩ :: tokens) false [0] none) := rfl
  have second := (next_of_token (s := inside) rfl rfl rfl
    (fun i mem => List.mem_singleton.mp mem) closed rfl).trans (dropStale_of_none rfl rfl)
  refine ⟨_, _, rfl, .tail (.single ⟨first, rfl, ?_⟩) ⟨second, rfl, ?_⟩,
    at_outside (skipFrom_lineBreak word ..) (by simp) nofun⟩
  · exact Nat.lt_of_lt_of_le (Nat.lt_succ_self _) length
  · exact Nat.lt_succ_self _

/-! ### Keys -/

/-- The mapping that a key begins if it is the first. -/
def opening (indents : List Nat) (m : Mark) : List Token :=
  if indents.isEmpty then [⟨.blockMapping, m, m⟩] else []

theorem value_outside (zero : indents = [] ∨ indents = [0]) (column : m.column = 0)
    (t : Token) (tokens : List Token) (required : Bool) (m' : Mark) :
    (outside ⟨':' :: rest, m'⟩ (t :: tokens) false indents
        (some ⟨tokens.length, required, m⟩)).value =
      .ok (outside ⟨rest, m'.after ':'⟩
        (⟨.value, m', m'.after ':'⟩ :: t :: ⟨.key, m, m⟩ :: (opening indents m ++ tokens)) false [0]
        none) := by
  obtain ⟨_, _, _⟩ := m
  obtain rfl := column
  rcases zero with rfl | rfl <;>
    simp [value, outside, announce, inFlow, leastColumn, opening, add, take, push, Nat.repeat,
      Cursor.advance]

/-- No candidate is stale after a short text on its line. -/
theorem not_isStale {name : List Char} (noBreak : ∀ c ∈ name, isBreak c = false)
    (short : (name.foldl Mark.after .origin).offset ≤ keyLength) (number : Nat) (required : Bool) :
    Candidate.isStale ⟨number, required, m⟩ (name.foldl Mark.after m) = false := by
  have length : (name.foldl Mark.after m).offset =
      (name.foldl Mark.after .origin).offset + m.offset := Mark.offset_foldl m .origin name
  rw [Candidate.isStale, (Mark.foldl_of_not_isBreak noBreak m).1, length]
  simp
  omega

/-- A key is announced when the colon after it is reached. -/
theorem At.key {name : List Char} (h : s.At kinds true indents ⟨name ++ ':' :: rest, m⟩)
    (zero : indents = [] ∨ indents = [0]) (column : m.column = 0) (nonempty : name ≠ [])
    (allowed : allowsPlain name) (short : (name.foldl Mark.after .origin).offset ≤ keyLength)
    (blank : blankNext rest)
    (skipped : skipFrom false false false rest ((name.foldl Mark.after m).after ':') =
      (keyAllowed', cursor')) :
    ∃ t, Relation.ReflTransGen Passes s t ∧
      t.At (kinds ++ (opening indents m).map Token.kind ++ [.key, .scalar .plain name, .value])
        keyAllowed' [0] cursor' := by
  obtain ⟨fault, length, tokens, rfl, ready⟩ := h
  have zero' : ∀ i ∈ indents, i = 0 := by rcases zero with rfl | rfl <;> simp
  have low : (outside ⟨name ++ ':' :: rest, m⟩ tokens true indents none).leastColumn ≤ 1 := by
    rcases zero with rfl | rfl
    · exact Nat.zero_le 1
    · exact Nat.le_refl 1
  have fresh := not_isStale (m := m) (plainText_of_allowsPlain allowed).noBreak short tokens.length
    (decide (indents.head? = some m.column))
  -- The candidate is still there when the colon is reached.
  let waiting : Scan := outside ⟨':' :: rest, name.foldl Mark.after m⟩
    (⟨.scalar .plain name, m, name.foldl Mark.after m⟩ :: tokens) false indents
    (some ⟨tokens.length, decide (indents.head? = some m.column), m⟩)
  have name' : (outside ⟨name ++ ':' :: rest, m⟩ tokens true indents none).token = .ok waiting :=
    (token_plain nonempty allowed (by simp) tokens).trans
      (plainScalar_outside (plain_key low allowed blank m))
  have first : s.next = .ok waiting :=
    (next_of_token fault ready rfl zero' name' rfl).trans (dropStale_of_fresh rfl rfl fresh)
  have ready' : waiting.skip.dropStale = .ok waiting :=
    (congrArg dropStale (skip_outside (skipFrom_word rfl ..))).trans
      (dropStale_of_fresh rfl rfl fresh)
  have value := (token_value blank ..).trans (value_outside zero column
    ⟨.scalar .plain name, m, name.foldl Mark.after m⟩ tokens
    (decide (indents.head? = some m.column)) (name.foldl Mark.after m))
  have second := (next_of_token (s := waiting) rfl ready' rfl zero' value rfl).trans
    (dropStale_of_none rfl rfl)
  refine ⟨_, .tail (.single ⟨first, rfl, ?_⟩) ⟨second, rfl, Nat.lt_succ_self _⟩,
    at_outside skipped ?_ nofun⟩
  · have some := List.length_pos_iff.mpr nonempty
    refine Nat.lt_of_lt_of_le ?_ length
    simp [waiting, outside]
    omega
  · rcases zero with rfl | rfl <;> simp [opening]

/-! ### The ends of a text -/

/-- The first token begins where the text does. -/
theorem at_start {text : List Char} (word : wordNext text) :
    At { cursor := ⟨text, .origin⟩ } [] true [] ⟨text, .origin⟩ :=
  have none : ([] : List Token).reverse.map Token.kind = [] := rfl
  at_outside (skipFrom_word word ..) none nofun

/-- At the end of the text its mapping ends. -/
theorem At.finish (h : s.At kinds true [0] ⟨[], m⟩) (column : m.column = 0) :
    ∃ t, s.next = .ok t ∧ t.ended ∧ t.settled.map Token.kind = kinds ++ [.blockEnd] := by
  obtain ⟨fault, length, tokens, rfl, ready⟩ := h
  obtain ⟨_, _, _⟩ := m
  obtain rfl := column
  have next := next_of_token fault ready rfl (by simp [outside]) rfl rfl
  refine ⟨_, next, rfl, ?_⟩
  change ((Token.mk .blockEnd _ _ :: tokens).reverse.take (tokens.length + 1)).map Token.kind = _
  simp [List.take_of_length_le]

end

end Scan

/-- The tokens of a text whose end is reached in any number of steps. -/
theorem ofText_of_at {text : List Char} {kinds : List Token.Kind} {m : Mark}
    (passes : Relation.ReflTransGen Scan.Passes { cursor := ⟨text, .origin⟩ } t)
    (h : t.At kinds true [0] ⟨[], m⟩) (column : m.column = 0) :
    ∃ tokens m', Tokens.ofText text none = ⟨tokens, .ok m'⟩ ∧
      tokens.map Token.kind = kinds ++ [.blockEnd] := by
  obtain ⟨u, next, ended, settled⟩ := h.finish column
  obtain ⟨fuel, enough, same⟩ := Scan.tokensFrom_of_passes passes (Nat.lt_succ_self _)
  obtain ⟨fuel, rfl⟩ : ∃ n, fuel = n + 1 := ⟨fuel - 1, by omega⟩
  refine ⟨u.settled, u.cursor.mark, ?_, settled⟩
  rw [Tokens.ofText]
  refine same.trans ?_
  rw [tokensFrom, next]
  exact if_pos ended

end ValidatorGen.Yaml
