import ValidatorGen.Config.Writing
import ValidatorGen.Proofs.Except
import ValidatorGen.Proofs.Yaml.Scalar.Number
import ValidatorGen.Proofs.Yaml.Structure

/-!
# Configurations read back

A configuration is written as a list of settings. What is written, whatever the order of the
settings, is a mapping, and from it each setting is read as it was. The style of a text makes no
difference; only the depth has to be without quotes.

## Main definitions

* `Config.Setting` — a key with its value
* `Config.Draft.put` — the settings read so far, and one more

## Main results

* `Config.pairLines_settings` — settings are written as a mapping
* `Config.read_setting`, `Config.pairsOf_settings` — they are read as they were
* `Config.ofOctets_settings` — in any order, they are read from what is written of them
* `Config.ofOctets_text` — so is a configuration
-/

namespace ValidatorGen.Config

open Yaml

/-- A key with its value. -/
inductive Setting where
  /-- Where the module is written. -/
  | output (path : String)
  /-- The name of the union. -/
  | unionName (name : String)
  /-- How deep descriptors may stand inside one another. -/
  | maxDepth (depth : Nat)
  /-- The object types that are compiled. -/
  | included (names : List String)
  /-- The object types that are left out. -/
  | excluded (names : List String)

namespace Setting

/-- The key. -/
def field : Setting → Field
  | output _ => .output
  | unionName _ => .unionName
  | maxDepth _ => .maxDepth
  | included _ => .included
  | excluded _ => .excluded

/-- What follows the key. -/
def content : Setting → Content
  | output s | unionName s => .text (styleOf s.toList) s.toList
  | maxDepth n => .text .plain (Nat.toDigits 10 n)
  | included names | excluded names => .items (names.map String.toList)

/-- The key and what follows it. -/
def pair (x : Setting) : Pair := (x.field.name.toList, x.content)

/-- The lines of a setting. -/
def lines : Setting → List Char
  | output s => keyLine .output (writtenLine s.toList)
  | unionName s => keyLine .unionName (writtenLine s.toList)
  | maxDepth n => keyLine .maxDepth (Nat.toDigits 10 n ++ ['\n'])
  | included names => listLines .included names
  | excluded names => listLines .excluded names

/-- The value is one that can be read. -/
def Fits : Setting → Prop
  | maxDepth n => n < .pow 2 64
  | _ => True

end Setting

/-- The settings of a configuration, as they are written. -/
def settings (c : Config) : List Setting :=
  [.output c.output, .unionName c.unionName, .maxDepth c.maxDepth, .included c.included,
    .excluded c.excluded]

variable {x : Setting} {xs : List Setting}

/-! ### What is written -/

theorem text_eq (c : Config) : c.text = .ofList (c.settings.flatMap Setting.lines) := by
  simp [text, settings, Setting.lines]

theorem isKey_name (f : Field) : IsKey f.name.toList := by
  cases f
  all_goals exact ⟨by decide, by decide, by decide⟩

/-- Names are written as items, or as brackets if there are none. -/
theorem listLines_eq (f : Field) (names : List String) :
    ∃ lines, (Content.items (names.map String.toList)).Lines lines ∧
      listLines f names = f.name.toList ++ ':' :: lines := by
  cases names with
  | nil => exact ⟨_, .brackets, rfl⟩
  | cons s names =>
    refine ⟨_, .items s.toList (names.map String.toList), ?_⟩
    simp [listLines, itemLine, List.flatMap_map]

/-- A setting is written as a key and its content. -/
theorem Setting.lines_eq (x : Setting) :
    ∃ lines, x.content.Lines lines ∧ x.lines = x.field.name.toList ++ ':' :: lines := by
  have digits (n : Nat) : Written (Nat.toDigits 10 n) .plain (Nat.toDigits 10 n ++ ['\n']) :=
    .plain Nat.toDigits_ne_nil (allowsPlain_toDigits n)
  cases x with
  | output s => exact ⟨_, .text (written_line s.toList), rfl⟩
  | unionName s => exact ⟨_, .text (written_line s.toList), rfl⟩
  | maxDepth n => exact ⟨_, .text (digits n), rfl⟩
  | included names => exact listLines_eq .included names
  | excluded names => exact listLines_eq .excluded names

/-- Settings are written as a mapping. -/
theorem pairLines_settings (xs : List Setting) :
    PairLines (xs.map Setting.pair) (xs.flatMap Setting.lines) := by
  induction xs with
  | nil => exact .nil
  | cons x xs ih =>
    obtain ⟨lines, content, written⟩ := x.lines_eq
    rw [List.flatMap_cons, written]
    exact .cons (isKey_name x.field) content ih

/-! ### What is read -/

/-- The settings read so far, and one more. -/
def Draft.put (draft : Draft) : Setting → Draft
  | .output s => { draft with output := some s }
  | .unionName s => { draft with unionName := some s }
  | .maxDepth n => { draft with maxDepth := some n }
  | .included names => { draft with included := some names }
  | .excluded names => { draft with excluded := some names }

theorem Draft.has_put (draft : Draft) (x : Setting) (f : Field) :
    (draft.put x).has f = (f = x.field || draft.has f) := by
  cases x <;> cases f <;> rfl

theorem ofName?_name (f : Field) : Field.ofName? f.name = some f := by
  cases f <;> decide

variable (d : Document) {draft : Draft} {node : Steps}

/-- A text is read as it was, whatever its style. -/
theorem textOf_scalarStep (part : Part) (expected : Expected) (style : Style) (s : String)
    (m : Mark) (rest : Steps) :
    textOf d part expected (followed d ⟨scalarStep style s.toList, m⟩ rest) = .ok s :=
  congrArg Except.ok String.ofList_toList

/-- A depth is read as it was. -/
theorem numberOf_scalarStep (part : Part) {n : Nat} (fits : n < .pow 2 64) (m : Mark)
    (rest : Steps) :
    numberOf d part (followed d ⟨scalarStep .plain (Nat.toDigits 10 n), m⟩ rest) = .ok n := by
  have number : unsigned? (.pow 2 64) (String.ofList (Nat.toDigits 10 n)).toList = some n := by
    rw [String.toList_ofList]
    exact unsigned?_toDigits fits
  simp only [followed, scalarStep, numberOf, number, true_or, if_true]

/-- The items of a sequence are read as they were. -/
theorem itemsOf_texts (key : Option String) (after : Steps) {names : List String} (index : Nat)
    (kinds : node.map Step.kind =
      (names.map String.toList).map (fun s => scalarStep (styleOf s) s) ++ [.sequenceEnd]) :
    itemsOf d key index (node ++ after) = .ok (names, after) := by
  induction names generalizing node index with
  | nil =>
    obtain ⟨⟨_, m⟩, rfl, rfl⟩ := List.map_eq_singleton_iff.mp kinds
    rfl
  | cons s names ih =>
    obtain ⟨⟨_, m⟩, node, rfl, rfl, others⟩ := List.map_eq_cons_iff.mp kinds
    have first := textOf_scalarStep d (.item key index) .text (styleOf s.toList) s m
      (node ++ after)
    exact bind_eq_ok_iff.mpr ⟨s, first, bind_eq_ok_iff.mpr ⟨_, ih (index + 1) others, rfl⟩⟩

/-- A sequence is read as it was. -/
theorem textsOf_texts (key : Option String) (after : Steps) {names : List String}
    (kinds : node.map Step.kind = (Content.items (names.map String.toList)).steps) :
    textsOf d key (node ++ after) = .ok (names, after) := by
  obtain ⟨⟨_, m⟩, node, rfl, rfl, items⟩ := List.map_eq_cons_iff.mp kinds
  exact itemsOf_texts d key after 0 items

/-- A setting is read as it was. -/
theorem read_setting (draft : Draft) (fits : x.Fits) (key : Option String) (after : Steps)
    (kinds : node.map Step.kind = x.content.steps) :
    ∃ s rest, node = s :: rest ∧
      draft.read d x.field key s (rest ++ after) = .ok (draft.put x, after) := by
  -- A scalar is one step; a sequence takes the steps of its items and one more for its end.
  cases x with
  | output s =>
    obtain ⟨⟨_, m⟩, rfl, rfl⟩ := List.map_eq_singleton_iff.mp kinds
    have text := textOf_scalarStep d (.value key) .path (styleOf s.toList) s m after
    exact ⟨_, [], rfl, bind_eq_ok_iff.mpr ⟨s, text, rfl⟩⟩
  | unionName s =>
    obtain ⟨⟨_, m⟩, rfl, rfl⟩ := List.map_eq_singleton_iff.mp kinds
    have text := textOf_scalarStep d (.value key) .text (styleOf s.toList) s m after
    exact ⟨_, [], rfl, bind_eq_ok_iff.mpr ⟨s, text, rfl⟩⟩
  | maxDepth n =>
    obtain ⟨⟨_, m⟩, rfl, rfl⟩ := List.map_eq_singleton_iff.mp kinds
    have number := numberOf_scalarStep d (.value key) fits m after
    exact ⟨_, [], rfl, bind_eq_ok_iff.mpr ⟨n, number, rfl⟩⟩
  | included names =>
    have texts := textsOf_texts d key after kinds
    obtain ⟨⟨_, m⟩, node, rfl, rfl, -⟩ := List.map_eq_cons_iff.mp kinds
    exact ⟨_, node, rfl, bind_eq_ok_iff.mpr ⟨_, texts, rfl⟩⟩
  | excluded names =>
    have texts := textsOf_texts d key after kinds
    obtain ⟨⟨_, m⟩, node, rfl, rfl, -⟩ := List.map_eq_cons_iff.mp kinds
    exact ⟨_, node, rfl, bind_eq_ok_iff.mpr ⟨_, texts, rfl⟩⟩

/-- A key is read, and then its value. -/
theorem pairsOf_cons (mark m : Mark) (fuel : Nat) (s : Step Nat) (rest : Steps)
    (fresh : draft.has x.field = false) :
    pairsOf d mark (fuel + 1) draft (⟨scalarStep .plain x.field.name.toList, m⟩ :: s :: rest) =
      draft.read d x.field (some x.field.name) s rest >>= fun (draft, rest) =>
        pairsOf d mark fuel draft rest := by
  have key : textOf d .whole .key (followed d
      ⟨scalarStep .plain x.field.name.toList, m⟩ (s :: rest)) = .ok x.field.name :=
    textOf_scalarStep d .whole .key .plain x.field.name m _
  rw [pairsOf]
  simp only [scalarStep] at key ⊢
  rw [key]
  simp only [bind, Except.bind, ofName?_name, fresh]
  rfl

/-- Settings are read as they were, if no key comes twice. -/
theorem pairsOf_settings (mark : Mark) {fuel : Nat} (fits : ∀ x ∈ xs, x.Fits)
    (distinct : (xs.map Setting.field).Nodup) (fresh : ∀ x ∈ xs, draft.has x.field = false)
    (enough : node.length ≤ fuel)
    (kinds : node.map Step.kind = (xs.map Setting.pair).flatMap pairSteps ++ [.mappingEnd]) :
    pairsOf d mark fuel draft node = .ok (xs.foldl Draft.put draft) := by
  -- What is left fits the fuel, and no key of it is in the draft; reading one setting keeps both.
  induction xs generalizing fuel draft node with
  | nil =>
    obtain ⟨⟨_, m⟩, rfl, rfl⟩ := List.map_eq_singleton_iff.mp kinds
    obtain ⟨fuel, rfl⟩ : ∃ n, fuel = n + 1 := ⟨fuel - 1, by simp at enough; omega⟩
    rfl
  | cons x xs ih =>
    rw [List.map_cons, List.flatMap_cons, pairSteps, List.append_assoc, List.cons_append] at kinds
    obtain ⟨⟨_, m⟩, tail, rfl, rfl, pieces⟩ := List.map_eq_cons_iff.mp kinds
    obtain ⟨value, after, rfl, content, others⟩ := List.map_eq_append_iff.mp pieces
    obtain ⟨s, rest, rfl, read⟩ := read_setting d draft (fits x List.mem_cons_self)
      (some x.field.name) after content
    simp only [List.cons_append, List.length_cons, List.length_append] at enough
    obtain ⟨fuel, rfl⟩ : ∃ n, fuel = n + 1 := ⟨fuel - 1, by omega⟩
    obtain ⟨once, distinct⟩ := List.nodup_cons.mp distinct
    have still (y : Setting) (mem : y ∈ xs) : (draft.put x).has y.field = false := by
      rw [Draft.has_put, fresh y (List.mem_cons_of_mem x mem), Bool.or_false,
        decide_eq_false_iff_not]
      exact fun same => once (same ▸ List.mem_map_of_mem mem)
    have next : pairsOf d mark fuel (draft.put x) after = .ok (xs.foldl Draft.put (draft.put x)) :=
      ih (fun y mem => fits y (List.mem_cons_of_mem x mem)) distinct still (by omega) others
    exact (pairsOf_cons d mark m fuel s _ (fresh x List.mem_cons_self)).trans
      (bind_eq_ok_iff.mpr ⟨_, read, next⟩)

variable {d : Document}

/-- A document of settings is a configuration. -/
theorem ofDocument_settings (fits : ∀ x ∈ xs, x.Fits) (distinct : (xs.map Setting.field).Nodup)
    (kinds : d.steps.map Step.kind = mappingSteps (xs.map Setting.pair)) (fault : d.fault = none)
    (further : d.further = false) :
    ofDocument d = .ok (xs.foldl Draft.put {}).config := by
  obtain ⟨⟨_, m⟩, rest, steps, rfl, pairs⟩ := List.map_eq_cons_iff.mp kinds
  have fresh (x : Setting) : ({} : Draft).has x.field = false := by cases x <;> rfl
  have read := pairsOf_settings d m fits distinct (fun x _ => fresh x) le_rfl pairs
  have config : ofSteps d = .ok (xs.foldl Draft.put {}).config := by
    rw [ofSteps, steps]
    simp only [read]
    rfl
  refine bind_eq_ok_iff.mpr ⟨_, config, ?_⟩
  simp only [fault, further]
  rfl

/-- Settings are read from what is written of them. -/
theorem ofOctets_settings (nonempty : xs ≠ []) (fits : ∀ x ∈ xs, x.Fits)
    (distinct : (xs.map Setting.field).Nodup) :
    ofOctets (Text.encode (.ofList (xs.flatMap Setting.lines))) =
      .ok (xs.foldl Draft.put {}).config := by
  have written : PairLines (xs.map Setting.pair)
      (String.ofList (xs.flatMap Setting.lines)).toList := by
    rw [String.toList_ofList]
    exact pairLines_settings xs
  obtain ⟨steps, fault, further⟩ := ofOctets_mapping written (by simpa using nonempty)
  exact ofDocument_settings fits distinct steps fault further

/-- A configuration is read as it was. -/
theorem ofOctets_text {c : Config} (depth : c.maxDepth < .pow 2 64) :
    ofOctets (Text.encode c.text) = .ok c := by
  have fits : ∀ x ∈ c.settings, x.Fits := by
    simpa [settings, Setting.Fits] using depth
  have distinct : (c.settings.map Setting.field).Nodup := by simp [settings, Setting.field]
  rw [text_eq]
  exact ofOctets_settings (List.cons_ne_nil _ _) fits distinct

end ValidatorGen.Config
