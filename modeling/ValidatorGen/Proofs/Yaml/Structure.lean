import ValidatorGen.Proofs.Yaml.Content
import ValidatorGen.Proofs.Yaml.Octets
import ValidatorGen.Yaml.Document

/-!
# The structure of a mapping

The tokens of a mapping are read as its steps: a key is a scalar, a text is one as well, and texts
are a sequence of scalars. Where the tokens stand in the text makes no difference.

## Main definitions

* `mappingSteps` — the steps through a mapping
* `Step.Kind.isBare` — whether a step has nothing to do with references

## Main results

* `node_content`, `blockPairs_pairs` — the tokens of a content, and of keys with their contents, are
  read as their steps
* `numbered_of_isBare` — nothing is numbered where there are no references
* `ofTokens_mapping`, `ofOctets_mapping` — the tokens of a mapping, and the octets of its text, are
  a document that holds the mapping and nothing else
-/

namespace ValidatorGen.Yaml

variable {ρ : Type}

/-- The step of a text that has neither an anchor nor a tag. -/
def scalarStep (style : Style) (x : List Char) : Step.Kind ρ :=
  .scalar none none style (.ofList x)

/-- The steps through the content of a key. -/
def Content.steps : Content → List (Step.Kind ρ)
  | .text style x => [scalarStep style x]
  | .items xs => .sequence none :: xs.map (fun x => scalarStep (styleOf x) x) ++ [.sequenceEnd]

/-- The steps through a key and its content. -/
def pairSteps (p : Pair) : List (Step.Kind ρ) := scalarStep .plain p.1 :: p.2.steps

/-- The steps through a mapping. -/
def mappingSteps (ps : List Pair) : List (Step.Kind ρ) :=
  .mapping none :: ps.flatMap pairSteps ++ [.mappingEnd]

/-! ### One token after the other -/

theorem run_bind_of_ok {α β : Type} {x : Reading α} {p q : Progress} {a : α}
    (h : x.run.run p = (.ok a, q)) (f : α → Reading β) :
    (x >>= f).run.run p = (f a).run.run q := by
  rw [ExceptT.run_bind, StateT.run_bind, h]
  rfl

section

variable (fuel : Nat) {style : Style} {x name : List Char} {a b a' b' a'' b'' start : Mark}
  {t : Token} {ts more : List Token} {e : Except Error Mark}
  {handles : List (List Char × List UInt8)} {steps : List (Step (List Char))}

theorem node_scalar :
    (node (fuel + 1) true true).run.run ⟨⟨⟨.scalar style x, a, b⟩ :: ts, e⟩, handles, steps⟩ =
      (.ok (), ⟨⟨ts, e⟩, handles, ⟨scalarStep style x, a⟩ :: steps⟩) := rfl

theorem node_brackets :
    (node (fuel + 2) true true).run.run
        ⟨⟨⟨.openSequence, a, b⟩ :: ⟨.closeSequence, a', b'⟩ :: ts, e⟩, handles, steps⟩ =
      (.ok (), ⟨⟨ts, e⟩, handles, ⟨.sequenceEnd, a'⟩ :: ⟨.sequence none, a⟩ :: steps⟩) := rfl

theorem node_entry :
    (node (fuel + 1) true true).run.run ⟨⟨⟨.entry, a, b⟩ :: ts, e⟩, handles, steps⟩ =
      (openEntries fuel).run.run
        ⟨⟨⟨.entry, a, b⟩ :: ts, e⟩, handles, ⟨.sequence none, a⟩ :: steps⟩ := rfl

theorem openEntries_scalar :
    (openEntries (fuel + 2)).run.run
        ⟨⟨⟨.entry, a, b⟩ :: ⟨.scalar style x, a', b'⟩ :: ts, e⟩, handles, steps⟩ =
      (openEntries (fuel + 1)).run.run
        ⟨⟨ts, e⟩, handles, ⟨scalarStep style x, a'⟩ :: steps⟩ := rfl

theorem openEntries_end (h : t.kind ≠ .entry) :
    (openEntries (fuel + 1)).run.run ⟨⟨t :: ts, e⟩, handles, steps⟩ =
      (.ok (), ⟨⟨t :: ts, e⟩, handles, ⟨.sequenceEnd, t.start⟩ :: steps⟩) := by
  obtain ⟨kind, a, b⟩ := t
  cases kind
  case entry => exact absurd rfl h
  all_goals rfl

theorem blockPairs_end :
    (blockPairs (fuel + 1) start).run.run ⟨⟨[⟨.blockEnd, a, b⟩], e⟩, handles, steps⟩ =
      (.ok (), ⟨⟨[], e⟩, handles, ⟨.mappingEnd, a⟩ :: steps⟩) := rfl

/-- A key is read, and then the node after the colon. -/
theorem blockPairs_pair (h : t.kind ∉ [.key, .value, .blockEnd]) :
    (blockPairs (fuel + 2) start).run.run ⟨⟨⟨.key, a, b⟩ :: ⟨.scalar .plain name, a', b'⟩ ::
        ⟨.value, a'', b''⟩ :: t :: ts, e⟩, handles, steps⟩ =
      (node (fuel + 1) true true >>= fun _ => blockPairs (fuel + 1) start).run.run
        ⟨⟨t :: ts, e⟩, handles, ⟨scalarStep .plain name, a'⟩ :: steps⟩ := by
  obtain ⟨kind, c, d⟩ := t
  cases kind
  case key => simp at h
  case value => simp at h
  case blockEnd => simp at h
  all_goals rfl

theorem firstDocument_blockMapping {m : Mark} :
    (firstDocument (fuel + 2)).run.run
        { tokens := ⟨⟨.blockMapping, a, b⟩ :: ts, .ok m⟩ } =
      (blockPairs (fuel + 1) a >>= fun _ => do
        if (← Reading.look).kind = some .documentEnd then Reading.advance).run.run
        ⟨⟨ts, .ok m⟩, defaultHandles, [⟨.mapping none, a⟩]⟩ := rfl

end

/-! ### Keys and contents -/

section

variable {t : Token} {ts : List Token}

/-- After a content comes a key, or the mapping ends. -/
theorem exists_cons_of_pairKinds {ps : List Pair}
    (kinds : ts.map Token.kind = ps.flatMap pairKinds ++ [.blockEnd]) :
    ∃ t more, ts = t :: more ∧ t.kind ≠ .entry := by
  cases ps with
  | nil =>
    obtain ⟨t, rfl, kind⟩ := List.map_eq_singleton_iff.mp kinds
    exact ⟨t, [], rfl, by simp [kind]⟩
  | cons p ps =>
    obtain ⟨t, more, rfl, kind, -⟩ := List.map_eq_cons_iff.mp kinds
    exact ⟨t, more, rfl, by simp [kind]⟩

/-- A content begins with a token of its own. -/
theorem exists_cons_of_contentKinds {content : Content}
    (kinds : ts.map Token.kind = content.kinds) :
    ∃ t more, ts = t :: more ∧ t.kind ∉ [.key, .value, .blockEnd] := by
  match content with
  | .text style x =>
    obtain ⟨t, rfl, kind⟩ := List.map_eq_singleton_iff.mp kinds
    exact ⟨t, [], rfl, by simp [kind]⟩
  | .items [] =>
    obtain ⟨t, more, rfl, kind, -⟩ := List.map_eq_cons_iff.mp kinds
    exact ⟨t, more, rfl, by simp [kind]⟩
  | .items (x :: xs) =>
    obtain ⟨t, more, rfl, kind, -⟩ := List.map_eq_cons_iff.mp kinds
    exact ⟨t, more, rfl, by simp [kind]⟩

variable (e : Except Error Mark) (handles : List (List Char × List UInt8)) (fuel : Nat)
  (steps : List (Step (List Char)))

/-- The texts of a sequence are read up to a token that begins no item. -/
theorem openEntries_items (more : List Token) {xs : List (List Char)} (enough : xs.length ≤ fuel)
    (kinds : ts.map Token.kind = xs.flatMap fun x => [.entry, .scalar (styleOf x) x])
    (h : t.kind ≠ .entry) :
    ∃ made, (openEntries (fuel + 2)).run.run ⟨⟨ts ++ t :: more, e⟩, handles, steps⟩ =
        (.ok (), ⟨⟨t :: more, e⟩, handles, made ++ steps⟩) ∧
      made.reverse.map Step.kind =
        xs.map (fun x => scalarStep (styleOf x) x) ++ [.sequenceEnd] := by
  -- The steps are collected the last one first, and each item takes one unit of the fuel.
  induction xs generalizing fuel ts steps with
  | nil =>
    rw [List.flatMap_nil, List.map_eq_nil_iff] at kinds
    subst kinds
    exact ⟨[⟨.sequenceEnd, t.start⟩], openEntries_end (fuel + 1) h, rfl⟩
  | cons x xs ih =>
    simp only [List.flatMap_cons, List.cons_append, List.nil_append, List.map_eq_cons_iff] at kinds
    obtain ⟨⟨_, a, b⟩, _, rfl, rfl, ⟨_, a', b'⟩, ts, rfl, rfl, kinds⟩ := kinds
    obtain ⟨fuel, rfl⟩ : ∃ n, fuel = n + 1 := ⟨fuel - 1, by simp at enough; omega⟩
    obtain ⟨made, read, steps'⟩ :=
      ih fuel (⟨scalarStep (styleOf x) x, a'⟩ :: steps) (by simpa using enough) kinds
    refine ⟨made ++ [⟨scalarStep (styleOf x) x, a'⟩], ?_, by simpa using steps'⟩
    rw [List.append_assoc]
    exact (openEntries_scalar (fuel + 1)).trans read

theorem length_items (xs : List (List Char)) :
    (xs.flatMap fun x => [Token.Kind.entry, .scalar (styleOf x) x]).length = 2 * xs.length := by
  induction xs with
  | nil => rfl
  | cons x xs ih =>
    rw [List.flatMap_cons, List.length_append, ih, List.length_cons]
    simp
    omega

/-- The content of a key is read as its steps. -/
theorem node_content (content : Content) (more : List Token) (enough : ts.length ≤ fuel)
    (kinds : ts.map Token.kind = content.kinds) (h : t.kind ≠ .entry) :
    ∃ made, (node (fuel + 2) true true).run.run ⟨⟨ts ++ t :: more, e⟩, handles, steps⟩ =
        (.ok (), ⟨⟨t :: more, e⟩, handles, made ++ steps⟩) ∧
      made.reverse.map Step.kind = content.steps := by
  match content with
  | .text style x =>
    obtain ⟨⟨_, a, b⟩, rfl, rfl⟩ := List.map_eq_singleton_iff.mp kinds
    exact ⟨[⟨scalarStep style x, a⟩], node_scalar (fuel + 1), rfl⟩
  | .items [] =>
    simp only [Content.kinds, List.map_eq_cons_iff, List.map_eq_nil_iff] at kinds
    obtain ⟨⟨_, a, b⟩, _, rfl, rfl, ⟨_, a', b'⟩, _, rfl, rfl, rfl⟩ := kinds
    exact ⟨[⟨.sequenceEnd, a'⟩, ⟨.sequence none, a⟩], node_brackets fuel, rfl⟩
  | .items (x :: xs) =>
    have length := congrArg List.length kinds
    rw [List.length_map, Content.kinds, length_items] at length
    obtain ⟨⟨_, a, b⟩, ts, rfl, rfl, -⟩ := List.map_eq_cons_iff.mp kinds
    obtain ⟨fuel, rfl⟩ : ∃ n, fuel = n + 1 := ⟨fuel - 1, by simp at enough; omega⟩
    obtain ⟨made, read, steps'⟩ := openEntries_items e handles fuel (⟨.sequence none, a⟩ :: steps)
      more (by omega) kinds h
    refine ⟨made ++ [⟨.sequence none, a⟩], ?_, by simp [steps', Content.steps]⟩
    rw [List.append_assoc]
    exact (node_entry (fuel + 2)).trans read

/-- The tokens of keys and contents are read as their steps. -/
theorem blockPairs_pairs (start : Mark) {ps : List Pair} (enough : ts.length ≤ fuel)
    (kinds : ts.map Token.kind = ps.flatMap pairKinds ++ [.blockEnd]) :
    ∃ made, (blockPairs (fuel + 2) start).run.run ⟨⟨ts, e⟩, handles, steps⟩ =
        (.ok (), ⟨⟨[], e⟩, handles, made ++ steps⟩) ∧
      made.reverse.map Step.kind = ps.flatMap pairSteps ++ [.mappingEnd] := by
  induction ps generalizing fuel ts steps with
  | nil =>
    obtain ⟨⟨_, a, b⟩, rfl, rfl⟩ := List.map_eq_singleton_iff.mp kinds
    exact ⟨[⟨.mappingEnd, a⟩], blockPairs_end (fuel + 1), rfl⟩
  | cons p ps ih =>
    obtain ⟨name, content⟩ := p
    rw [List.flatMap_cons, pairKinds, List.append_assoc, List.append_assoc] at kinds
    obtain ⟨front, tail, rfl, front_kinds, kinds⟩ := List.map_eq_append_iff.mp kinds
    obtain ⟨inner, rest, rfl, inner_kinds, rest_kinds⟩ := List.map_eq_append_iff.mp kinds
    simp only [List.map_eq_cons_iff, List.map_eq_nil_iff] at front_kinds
    obtain ⟨⟨_, a, b⟩, _, rfl, rfl, ⟨_, a', b'⟩, _, rfl, rfl, ⟨_, a'', b''⟩, _, rfl, rfl, rfl⟩ :=
      front_kinds
    simp only [List.length_cons, List.length_append, List.length_nil] at enough
    obtain ⟨fuel, rfl⟩ : ∃ n, fuel = n + 1 := ⟨fuel - 1, by omega⟩
    obtain ⟨t, more, rfl, noEntry⟩ := exists_cons_of_pairKinds rest_kinds
    -- The node after the colon is read first, and then the keys that are left.
    obtain ⟨made, read, steps₁⟩ := node_content e handles fuel
      (⟨scalarStep .plain name, a'⟩ :: steps) content more (by omega) inner_kinds noEntry
    obtain ⟨made', read', steps₂⟩ := ih fuel (made ++ ⟨scalarStep .plain name, a'⟩ :: steps)
      (by omega) rest_kinds
    obtain ⟨u, inner, rfl, first⟩ := exists_cons_of_contentKinds inner_kinds
    refine ⟨made' ++ made ++ [⟨scalarStep .plain name, a'⟩], ?_, ?_⟩
    · rw [List.append_assoc, List.append_assoc]
      exact (blockPairs_pair (fuel + 1) first).trans ((run_bind_of_ok read _).trans read')
    · simp [pairSteps, steps₁, steps₂]

/-- The tokens of a mapping are read as its steps. -/
theorem firstDocument_mapping {m : Mark} {ps : List Pair} (enough : ts.length ≤ fuel)
    (kinds : ts.map Token.kind = mappingKinds ps) :
    ∃ made, (firstDocument (fuel + 3)).run.run { tokens := ⟨ts, .ok m⟩ } =
        (.ok (), ⟨⟨[], .ok m⟩, defaultHandles, made⟩) ∧
      made.reverse.map Step.kind = mappingSteps ps := by
  obtain ⟨⟨_, a, b⟩, ts, rfl, rfl, kinds'⟩ := List.map_eq_cons_iff.mp kinds
  obtain ⟨made, read, steps'⟩ := blockPairs_pairs (.ok m) defaultHandles fuel [⟨.mapping none, a⟩]
    a (Nat.le_of_succ_le enough) kinds'
  refine ⟨made ++ [⟨.mapping none, a⟩], ?_, by simp [steps', mappingSteps]⟩
  exact (firstDocument_blockMapping (fuel + 1)).trans (run_bind_of_ok read _)

end

/-! ### Numbers for names -/

namespace Step.Kind

variable {σ : Type}

/-- The step with another reference, if it is one. -/
def map (f : ρ → σ) : Step.Kind ρ → Step.Kind σ
  | .reference target => .reference (f target)
  | .scalar anchor tag style text => .scalar anchor tag style text
  | .sequence anchor => .sequence anchor
  | .sequenceEnd => .sequenceEnd
  | .mapping anchor => .mapping anchor
  | .mappingEnd => .mappingEnd

/-- Whether a step is not a reference, and no reference can lead to it. -/
def isBare : Step.Kind ρ → Bool
  | .reference _ => false
  | .scalar anchor _ _ _ | .sequence anchor | .mapping anchor => anchor.isNone
  | .sequenceEnd | .mappingEnd => true

end Step.Kind

/-- Where there are no names, nothing is numbered. -/
theorem numbered_of_isBare (f : List Char → Nat) {steps : List (Step (List Char))}
    (bare : ∀ s ∈ steps, s.kind.isBare) (count : Nat) (names : Names)
    (anchors : List (Nat × Nat)) :
    numbered steps count names anchors =
      (steps.map fun s => ⟨s.kind.map f, s.mark⟩, anchors, none) := by
  induction steps generalizing count with
  | nil => rfl
  | cons s steps ih =>
    have later := ih (fun s' mem => bare s' (List.mem_cons_of_mem s mem)) (count + 1)
    have first := bare s List.mem_cons_self
    obtain ⟨kind, m⟩ := s
    cases kind with
    | reference target => cases first
    | scalar anchor tag style text =>
      obtain rfl := Option.isNone_iff_eq_none.mp first
      simp [numbered, Step.Kind.anchor?, later, Step.Kind.map]
    | sequence anchor =>
      obtain rfl := Option.isNone_iff_eq_none.mp first
      simp [numbered, Step.Kind.anchor?, later, Step.Kind.map]
    | mapping anchor =>
      obtain rfl := Option.isNone_iff_eq_none.mp first
      simp [numbered, Step.Kind.anchor?, later, Step.Kind.map]
    | sequenceEnd => simp [numbered, Step.Kind.anchor?, later, Step.Kind.map]
    | mappingEnd => simp [numbered, Step.Kind.anchor?, later, Step.Kind.map]

theorem isBare_mappingSteps {ps : List Pair} {kind : Step.Kind ρ} (mem : kind ∈ mappingSteps ps) :
    kind.isBare := by
  have content (c : Content) (mem : kind ∈ c.steps) : kind.isBare := by
    cases c with
    | text style x =>
      rw [List.mem_singleton.mp mem]
      rfl
    | items xs =>
      simp only [Content.steps, List.cons_append, List.mem_cons, List.mem_append, List.mem_map,
        List.not_mem_nil, or_false] at mem
      rcases mem with rfl | ⟨x, -, rfl⟩ | rfl <;> rfl
  simp only [mappingSteps, List.cons_append, List.mem_cons, List.mem_append, List.mem_flatMap,
    pairSteps, List.not_mem_nil, or_false] at mem
  rcases mem with rfl | ⟨p, -, rfl | mem⟩ | rfl
  · rfl
  · rfl
  · exact content p.2 mem
  · rfl

theorem map_mappingSteps {σ : Type} (f : ρ → σ) (ps : List Pair) :
    (mappingSteps ps).map (Step.Kind.map f) = mappingSteps ps := by
  have content (c : Content) : c.steps.map (Step.Kind.map f) = c.steps := by
    cases c with
    | text style x => rfl
    | items xs => simp [Content.steps, Step.Kind.map, scalarStep]
  have pair (p : Pair) : (pairSteps p).map (Step.Kind.map f) = pairSteps p :=
    congrArg _ (content p.2)
  simp [mappingSteps, Step.Kind.map, List.map_flatMap, pair]

/-! ### Documents -/

/-- The tokens of a mapping are a document that holds the mapping and nothing else. -/
theorem ofTokens_mapping {ts : List Token} {m : Mark} {ps : List Pair}
    (kinds : ts.map Token.kind = mappingKinds ps) :
    (Document.ofTokens ⟨ts, .ok m⟩).steps.map Step.kind = mappingSteps ps ∧
      (Document.ofTokens ⟨ts, .ok m⟩).fault = none ∧
      (Document.ofTokens ⟨ts, .ok m⟩).further = false := by
  obtain ⟨made, read, steps⟩ :=
    firstDocument_mapping (4 * ts.length + 1) (m := m) (by omega) kinds
  have bare : ∀ s ∈ made.reverse, s.kind.isBare := fun s mem =>
    isBare_mappingSteps (steps ▸ List.mem_map_of_mem mem)
  have numbers := numbered_of_isBare (fun _ => 0) bare 0 {} []
  have document : Document.ofTokens ⟨ts, .ok m⟩ =
      ⟨made.reverse.map fun s => ⟨s.kind.map fun _ => 0, s.mark⟩, [], none, false⟩ := by
    rw [Document.ofTokens]
    simp only [read, numbers]
    rfl
  rw [document]
  refine ⟨?_, rfl, rfl⟩
  rw [List.map_map, ← map_mappingSteps (fun _ => 0), ← steps, List.map_map]
  rfl

/-- The octets of a mapping are a document that holds the mapping and nothing else. -/
theorem ofOctets_mapping {text : String} {ps : List Pair} (lines : PairLines ps text.toList)
    (nonempty : ps ≠ []) :
    (Document.ofOctets (Text.encode text)).steps.map Step.kind = mappingSteps ps ∧
      (Document.ofOctets (Text.encode text)).fault = none ∧
      (Document.ofOctets (Text.encode text)).further = false := by
  have printable (c : Char) (mem : c ∈ text.toList) : isPrintable c := lines.isPrintable mem
  obtain ⟨tokens, m, read, kinds⟩ := tokens_of_pairLines lines nonempty
  have document : Document.ofOctets (Text.encode text) = Document.ofTokens ⟨tokens, .ok m⟩ := by
    rw [Document.ofOctets, ofOctets_encode fun c mem => (of_isPrintable (printable c mem)).1]
    dsimp only
    rw [unifyBreaks_eq fun c mem => (of_isPrintable (printable c mem)).2, read]
  rw [document]
  exact ofTokens_mapping kinds

end ValidatorGen.Yaml
