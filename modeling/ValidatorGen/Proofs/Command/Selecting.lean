import Mathlib.Data.List.DropRight
import ValidatorGen.Proofs.Command.Compilation
import ValidatorGen.Proofs.Selection

/-!
# Which object types are compiled

Names to be included and names to be left out come from the configuration in a file and from lists
on the command line. A list to be included takes the place of the one in the file if there is a name
in it, and a list to be left out is added to the one in the file. What is left out is left out even
if it is included, and if nothing is to be included everything else is.

## Main definitions

* `Input.wanted` — the names to be included
* `Input.Selects` — whether an object type of a name is compiled

## Main results

* `items_eq` — the names in a list, by the pieces between commas
* `items_append`, `items_intercalate` — the names in lists that are put together
* `Input.allows_merge` — the names that the settings allow are those that are selected
* `selection_complete` — what is compiled from the command line on
-/

namespace ValidatorGen

open Files Schema Validator

/-! ### Lists with commas -/

theorem splitAtCommas_eq_splitOn (cs : List Char) : splitAtCommas cs = cs.splitOn ',' := by
  induction cs with
  | nil => rfl
  | cons c cs ih =>
    rw [splitAtCommas, List.splitOn_cons_eq_if_modifyHead, ih]
    simp only [beq_iff_eq]
    split
    · rfl
    · cases pieces : cs.splitOn ',' with
      | nil => exact absurd pieces (List.splitOn_ne_nil ',' cs)
      | cons piece pieces => rfl

/-- The names in a list: the pieces between commas without the white space around them, of which
those with nothing left are dropped. -/
theorem items_eq (list : String) :
    items list =
      (((list.toList.splitOn ',').map fun piece =>
        (piece.dropWhile Text.isBlank).rdropWhile Text.isBlank).filter (· ≠ [])).map
          String.ofList := by
  rw [items, splitAtCommas_eq_splitOn]
  congr 2
  funext piece
  cases piece <;> rfl

/-- The names in two lists with a comma between them are those in each. -/
theorem items_append (list others : String) :
    items (list ++ "," ++ others) = items list ++ items others := by
  have pieces : (list ++ "," ++ others).toList = list.toList ++ ',' :: others.toList := by simp
  rw [items_eq, items_eq, items_eq, pieces, List.splitOn_append_cons_self, List.map_append,
    List.filter_append, List.map_append]

/-- A name that can be given in a list with commas: there is something in it, no comma, and no white
space at its ends. -/
structure IsItem (name : String) : Prop where
  /-- There is something in it. -/
  nonempty : name ≠ ""
  /-- There is no white space before it. -/
  head : ∀ c ∈ name.toList.head?, ¬ Text.isBlank c
  /-- There is no white space after it. -/
  last : ∀ c ∈ name.toList.getLast?, ¬ Text.isBlank c
  /-- There is no comma in it. -/
  comma : ',' ∉ name.toList

/-- Such a name has no white space to be removed. -/
theorem IsItem.trimmed {name : String} (h : IsItem name) :
    (name.toList.dropWhile Text.isBlank).rdropWhile Text.isBlank = name.toList := by
  have head : name.toList.dropWhile Text.isBlank = name.toList := by
    cases cs : name.toList with
    | nil => rfl
    | cons c cs' => exact List.dropWhile_cons_of_neg (h.head c (by rw [cs]; rfl))
  rw [head, List.rdropWhile_eq_self_iff]
  intro nonempty
  exact h.last _ (List.getLast_mem_getLast? nonempty)

/-- Names with commas between them can be read back. -/
theorem items_intercalate {names : List String} (h : ∀ name ∈ names, IsItem name) :
    items (",".intercalate names) = names := by
  by_cases none : names = []
  · rw [none]
    rfl
  · have pieces : (",".intercalate names).toList.splitOn ',' = names.map String.toList := by
      rw [String.toList_intercalate]
      refine List.splitOn_intercalate ',' ?_ (by simpa using none)
      rw [List.forall_mem_map]
      exact fun name mem => (h name mem).comma
    have trimmed : (names.map String.toList).map (fun piece =>
        (piece.dropWhile Text.isBlank).rdropWhile Text.isBlank) = names.map String.toList := by
      rw [List.map_map]
      exact List.map_congr_left fun name mem => (h name mem).trimmed
    have kept : (names.map String.toList).filter (· ≠ []) = names.map String.toList := by
      rw [List.filter_eq_self, List.forall_mem_map]
      intro name mem
      simpa using (h name mem).nonempty
    rw [items_eq, pieces, trimmed, kept, List.map_map]
    simp

/-! ### What is selected -/

theorem Config.allows_iff {c : Config} {name : String} :
    c.allows name ↔ name ∉ c.excluded ∧ (c.included = [] ∨ name ∈ c.included) := by
  have excludes : c.excludes name ↔ name ∈ c.excluded := by simp [Config.excludes]
  rw [Config.allows, Bool.and_eq_true, Bool.not_eq_true', ← Bool.not_eq_true, excludes]
  simp

namespace Input

variable {input input' : Input} {c file file' : Config} {name : String}

/-- The names to be included: those of the command line if there is one, and else those of the
configuration. -/
def wanted (input : Input) (file : Config) : List String :=
  if optionalItems input.included = [] then file.included else optionalItems input.included

/-- An object type of the name is compiled. -/
def Selects (input : Input) (file : Config) (name : String) : Prop :=
  name ∉ file.excluded ∧ name ∉ optionalItems input.excluded ∧
    (input.wanted file = [] ∨ name ∈ input.wanted file)

instance : DecidablePred (input.Selects file) := fun name => by
  unfold Selects
  infer_instance

/-- The names that the settings allow are those that are selected. -/
theorem allows_merge (input : Input) (file : Config) (name : String) :
    (input.merge file).allows name = decide (input.Selects file name) := by
  have included : (input.merge file).included = input.wanted file := by
    simp only [merge, wanted, List.isEmpty_iff]
  have excluded : (input.merge file).excluded = file.excluded ++ optionalItems input.excluded := rfl
  rw [Bool.eq_iff_iff, Config.allows_iff, included, excluded, List.mem_append, not_or, and_assoc,
    decide_eq_true_iff, Selects]

theorem eq_nil_iff_of_mem_iff {names names' : List String}
    (same : ∀ name, name ∈ names ↔ name ∈ names') : names = [] ↔ names' = [] := by
  simp only [List.eq_nil_iff_forall_not_mem, same]

theorem mem_wanted_iff_of_mem_iff
    (included : ∀ name, name ∈ file.included ↔ name ∈ file'.included)
    (included' : ∀ name,
      name ∈ optionalItems input.included ↔ name ∈ optionalItems input'.included) (name : String) :
    name ∈ input.wanted file ↔ name ∈ input'.wanted file' := by
  have empty := eq_nil_iff_of_mem_iff included'
  rw [wanted, wanted]
  by_cases none : optionalItems input.included = []
  · rw [if_pos none, if_pos (empty.mp none)]
    exact included name
  · rw [if_neg none, if_neg (mt empty.mpr none)]
    exact included' name

/-- Neither the order of names nor how often they are given makes a difference. -/
theorem selects_congr (included : ∀ name, name ∈ file.included ↔ name ∈ file'.included)
    (excluded : ∀ name, name ∈ file.excluded ↔ name ∈ file'.excluded)
    (included' : ∀ name, name ∈ optionalItems input.included ↔ name ∈ optionalItems input'.included)
    (excluded' : ∀ name,
      name ∈ optionalItems input.excluded ↔ name ∈ optionalItems input'.excluded) :
    input.Selects file name ↔ input'.Selects file' name := by
  have wanted := mem_wanted_iff_of_mem_iff included included'
  rw [Selects, Selects, excluded, excluded', wanted, eq_nil_iff_of_mem_iff wanted]

/-- More names to be left out are just left out. -/
theorem selects_iff_of_excluded {others : List String}
    (more : ∀ name, name ∈ file'.excluded ++ optionalItems input'.excluded ↔
      name ∈ file.excluded ++ optionalItems input.excluded ∨ name ∈ others)
    (wanted : input'.wanted file' = input.wanted file) :
    input'.Selects file' name ↔ input.Selects file name ∧ name ∉ others := by
  have out := not_congr (more name)
  rw [List.mem_append, List.mem_append] at out
  simp only [Selects, wanted]
  tauto

/-! ### From the command line on -/

variable {d : Document} {s : Memory.State}

/-- The part of its document that is compiled for an input, from a state on. -/
def selectedFrom (input : Input) (file : Config) (s : Memory.State) : Except Obstacle Document :=
  ((input.loadSelected (input.merge file) : LoggedT Memory _ _).run s).1.outcome

/-- The part is made of the object types with names that are selected, whatever operations fail. -/
theorem selectedFrom_eq (input : Input) (file : Config) (s : Memory.State) :
    input.selectedFrom file s =
      ((input.loadDocument : LoggedT Memory _ _).run s).1.outcome.map fun d =>
        d.filter fun name => input.Selects file name := by
  have allows : (input.merge file).allows = fun name => decide (input.Selects file name) := by
    funext name
    exact allows_merge input file name
  rw [selectedFrom, loadSelected, LoggedT.outcome_run_bind, ← allows]
  cases ((input.loadDocument : LoggedT Memory _ _).run s).1.outcome <;> rfl

/-- Where the sources are the same, so is the document. -/
theorem loadDocument_congr (bundle : input'.bundle = input.bundle)
    (directory : input'.directory = input.directory) :
    (input'.loadDocument : LoggedT Memory _ _) = input.loadDocument := by
  rw [loadDocument, loadDocument, Input.sources, Input.sources, bundle, directory]

/-- Names to be left out that come on top of others only take object types away. -/
theorem selectedFrom_of_excluded {others : List String} (bundle : input'.bundle = input.bundle)
    (directory : input'.directory = input.directory)
    (more : ∀ name, name ∈ file'.excluded ++ optionalItems input'.excluded ↔
      name ∈ file.excluded ++ optionalItems input.excluded ∨ name ∈ others)
    (wanted : input'.wanted file' = input.wanted file) (s : Memory.State) :
    input'.selectedFrom file' s = (input.selectedFrom file s).map fun part =>
      part.filter fun name => name ∉ others := by
  rw [selectedFrom_eq, selectedFrom_eq, loadDocument_congr bundle directory]
  cases ((input.loadDocument : LoggedT Memory _ _).run s).1.outcome with
  | error e => rfl
  | ok d =>
    simp only [Except.map, Document.filter_filter, selects_iff_of_excluded more wanted]
    congr 2
    funext name
    simp [Bool.and_comm]

/-- The state after the configuration has been loaded. -/
def configured (input : Input) (s : Memory.State) : Memory.State := (input.fileConfig.run s).2

theorem state_run_loadConfig (input : Input) (s : Memory.State) :
    ((input.loadConfig : LoggedT Memory _ _).run s).2 = input.configured s := by
  rw [configured, loadConfig_eq]
  obtain ⟨⟨reported, outcome⟩, s₁, ran⟩ : ∃ first s₁, input.fileConfig.run s = (first, s₁) :=
    ⟨_, _, rfl⟩
  cases outcome with
  | ok c =>
    rw [LoggedT.run_bind_of_ok ran, ran]
    rfl
  | error e => rw [LoggedT.run_bind_of_error ran, ran]

/-- The settings are accepted if they can be worked with. -/
theorem outcome_run_loadConfig (file : (input.fileConfig.run s).1.outcome = .ok c)
    (accepted : (input.merge c).problem? = none) :
    ((input.loadConfig : LoggedT Memory _ _).run s).1.outcome = .ok (input.merge c) := by
  rw [loadConfig_eq, LoggedT.outcome_run_bind, file]
  change (input.merge c).checked.mapError _ = _
  rw [Config.checked, accepted]
  rfl

/-- What is selected is all that is compiled. -/
theorem outcome_run_loadModule (file : (input.fileConfig.run s).1.outcome = .ok c)
    (accepted : (input.merge c).problem? = none)
    (selected : input.selectedFrom c (input.configured s) = .ok d) :
    (input.loadModule.run s).1.outcome =
      ((emit (input.merge c).options d).outcome.mapError .compile).map fun m =>
        (input.merge c, m) := by
  rw [loadModule, LoggedT.outcome_run_bind_of_ok (outcome_run_loadConfig file accepted),
    state_run_loadConfig, LoggedT.outcome_run_bind_of_ok selected, LoggedT.outcome_run_bind]
  change (emit (input.merge c).options d).outcome.mapError Obstacle.compile >>= _ = _
  cases (emit (input.merge c).options d).outcome <;> rfl

end Input

/-! ### Commands -/

variable {input : Input} {c : Config} {d : Document} {s : Memory.State}

/-- The names of the object types and of their constants, a line for each. -/
def listing (names : List String) : String :=
  String.join (names.map fun name =>
    name ++ "\t" ++ Naming.safeIdentifier name ++ declarationSuffix ++ "\n")

/-- What is printed about a document that can be compiled. -/
def compiledLine (names : List String) : String :=
  "Compiled " ++ toString names.length ++ " object type(s): " ++ commas names ++ "\n"

theorem runValidate_eq (input : Input) :
    (runValidate input : LoggedT Memory _ _) =
      input.loadModule >>= fun loaded => pure (compiledLine loaded.2.typeNames) := by
  simp only [runValidate, Input.loadModule, bind_assoc, pure_bind]
  rfl

theorem outcome_runFrom_list (file : (input.fileConfig.run s).1.outcome = .ok c)
    (accepted : (input.merge c).problem? = none)
    (selected : input.selectedFrom c (input.configured s) = .ok d) :
    ((Command.list input).runFrom s).1.outcome = .ok (listing d.names) := by
  rw [Command.runFrom, Command.run, runList,
    LoggedT.outcome_run_bind_of_ok (Input.outcome_run_loadConfig file accepted),
    Input.state_run_loadConfig, LoggedT.outcome_run_bind_of_ok selected]
  rfl

theorem outcome_runFrom_validate (input : Input) (s : Memory.State) :
    ((Command.validate input).runFrom s).1.outcome =
      (input.loadModule.run s).1.outcome.map fun loaded => compiledLine loaded.2.typeNames := by
  rw [Command.runFrom, Command.run, runValidate_eq, LoggedT.outcome_run_bind]
  cases (input.loadModule.run s).1.outcome <;> rfl

theorem outcome_runFrom_generate (input : Input) (output : Option Path) (check json : Bool)
    (s : Memory.State) :
    ((Command.generate input output check json).runFrom s).1.outcome =
      (input.loadModule.run s).1.outcome >>= fun loaded =>
        ((deliver output check json loaded).run (input.loadModule.run s).2).1.outcome := by
  rw [Command.runFrom, Command.run, runGenerate_eq, LoggedT.outcome_run_bind]

/-- What is compiled from the command line on. If the settings are accepted and the document is
loaded, it is the part of the document with the names that are selected, in the order of the
document. Neither the order of names in a list nor how often they are given makes a difference, and
more names to be left out only take types away. The names in a list are the pieces between commas
without white space around them, and names with commas between them are read back. -/
theorem selection_complete (input : Input) (file : Config) :
    (∀ s d, (input.fileConfig.run s).1.outcome = .ok file → (input.merge file).problem? = none →
      ((input.loadDocument : LoggedT Memory _ _).run (input.configured s)).1.outcome = .ok d →
      ∃ part : Document,
        part.names = d.names.filter (fun name => input.Selects file name) ∧
        part.types = d.types.filter (fun t => input.Selects file t.name) ∧
        ((Command.list input).runFrom s).1.outcome = .ok (listing part.names) ∧
        (input.loadModule.run s).1.outcome =
          ((emit (input.merge file).options part).outcome.mapError .compile).map
            (fun m => (input.merge file, m)) ∧
        ((Command.validate input).runFrom s).1.outcome =
          (input.loadModule.run s).1.outcome.map (fun loaded => compiledLine loaded.2.typeNames) ∧
        (∀ output check json, ((Command.generate input output check json).runFrom s).1.outcome =
          (input.loadModule.run s).1.outcome >>= fun loaded =>
            ((deliver output check json loaded).run (input.loadModule.run s).2).1.outcome) ∧
        ∀ m, (emit (input.merge file).options part).outcome = .ok m →
          m.typeNames = part.names ∧ m.declarations = part.types.map ObjectType.declaration) ∧
    (∀ (input' : Input) (file' : Config),
      input'.bundle = input.bundle → input'.directory = input.directory →
      (∀ name, name ∈ file.included ↔ name ∈ file'.included) →
      (∀ name, name ∈ file.excluded ↔ name ∈ file'.excluded) →
      (∀ name, name ∈ optionalItems input.included ↔ name ∈ optionalItems input'.included) →
      (∀ name, name ∈ optionalItems input.excluded ↔ name ∈ optionalItems input'.excluded) →
      ∀ s, input'.selectedFrom file' s = input.selectedFrom file s) ∧
    (∀ others s, input.selectedFrom { file with excluded := file.excluded ++ others } s =
      (input.selectedFrom file s).map fun part => part.filter fun name => name ∉ others) ∧
    (∀ excluded others, optionalItems excluded = optionalItems input.excluded ++ others →
      ∀ s, { input with excluded := excluded }.selectedFrom file s =
        (input.selectedFrom file s).map fun part => part.filter fun name => name ∉ others) ∧
    (∀ list, items list =
      (((list.toList.splitOn ',').map fun piece =>
        (piece.dropWhile Text.isBlank).rdropWhile Text.isBlank).filter (· ≠ [])).map
          String.ofList) ∧
    (∀ list others, items (list ++ "," ++ others) = items list ++ items others) ∧
    ∀ names : List String, (∀ name ∈ names, IsItem name) →
      items (",".intercalate names) = names := by
  refine ⟨?_, ?_, ?_, ?_, items_eq, items_append, fun names => items_intercalate⟩
  · intro s d configured accepted loaded
    have selected : input.selectedFrom file (input.configured s) =
        .ok (d.filter fun name => input.Selects file name) := by
      rw [Input.selectedFrom_eq, loaded]
      rfl
    refine ⟨_, Document.names_filter d _, rfl, outcome_runFrom_list configured accepted selected,
      Input.outcome_run_loadModule configured accepted selected, outcome_runFrom_validate input s,
      fun output check json => outcome_runFrom_generate input output check json s, ?_⟩
    intro m emitted
    obtain ⟨-, -, -, rfl⟩ := emit_outcome_eq_ok_iff.mp emitted
    exact ⟨rfl, rfl⟩
  · intro input' file' bundle directory included excluded included' excluded' s
    have same (name : String) : input'.Selects file' name ↔ input.Selects file name :=
      (Input.selects_congr included excluded included' excluded').symm
    rw [Input.selectedFrom_eq, Input.selectedFrom_eq,
      Input.loadDocument_congr bundle directory]
    simp only [same]
  · intro others s
    apply Input.selectedFrom_of_excluded
    · rfl
    · rfl
    · intro name
      simp only [List.mem_append]
      tauto
    · rfl
  · intro excluded others more s
    apply Input.selectedFrom_of_excluded
    · rfl
    · rfl
    · intro name
      simp only [List.mem_append, more]
      tauto
    · rfl

/-- A bundle with three object types that have no fields. -/
def threeTypes : Json.Value :=
  .object (["contacts", "deals", "notes"].map fun name =>
    (name, .object [("properties", .object [])]))

/-- A tree with that bundle and a configuration. -/
def desk : Tree where
  entries :=
    [([Text.encode "b.json"], .file (Text.encode threeTypes.compact)),
      ([Text.encode "c.yml"], .file (Text.encode "include: [deals]\nexclude: [orders]\n"))]
  distinct := by decide

/-- What the configuration says. -/
def deskConfig : Config := { included := ["deals"], excluded := ["orders"] }

/-- An input with lists that take the place of the one in the configuration and add to the other. -/
def deskInput : Input where
  bundle := some (.ofString "b.json")
  config := some (.ofString "c.yml")
  included := some " notes, contacts ,"
  excluded := some "contacts"

theorem selection_complete_desk :
    ((Command.list deskInput).runFrom ⟨desk, []⟩).1.outcome = .ok "notes\tnotesSchema\n" ∧
    (∀ s, { deskInput with included := some "contacts,notes,notes" }.selectedFrom deskConfig s =
      deskInput.selectedFrom deskConfig s) ∧
    (∀ s, { deskInput with excluded := some "contacts,notes" }.selectedFrom deskConfig s =
      (deskInput.selectedFrom deskConfig s).map fun part => part.filter fun name =>
        name ∉ ["notes"]) ∧
    items (",".intercalate ["deals", "open deals"]) = ["deals", "open deals"] := by
  obtain ⟨run, same, -, more, -, -, read⟩ := selection_complete deskInput deskConfig
  have configured : (deskInput.fileConfig.run ⟨desk, []⟩).1.outcome = .ok deskConfig := by
    decide +kernel
  have names : ((deskInput.loadDocument : LoggedT Memory _ _).run
      (deskInput.configured ⟨desk, []⟩)).1.outcome.map Document.names =
        .ok ["contacts", "deals", "notes"] := by decide +kernel
  refine ⟨?_, ?_, ?_, ?_⟩
  · cases loaded : ((deskInput.loadDocument : LoggedT Memory _ _).run
        (deskInput.configured ⟨desk, []⟩)).1.outcome with
    | error e =>
      rw [loaded] at names
      cases names
    | ok d =>
      rw [loaded] at names
      obtain ⟨part, chosen, -, listed, -⟩ := run ⟨desk, []⟩ d configured (by decide) loaded
      rw [listed, chosen, Except.ok.inj names]
      decide +kernel
  · have before : items " notes, contacts ," = ["notes", "contacts"] := by decide
    have after : items "contacts,notes,notes" = ["contacts", "notes", "notes"] := by decide
    have lists (name : String) : name ∈ optionalItems deskInput.included ↔
        name ∈ optionalItems (some "contacts,notes,notes") := by
      change name ∈ items _ ↔ name ∈ items _
      rw [before, after]
      simp [or_comm]
    exact same { deskInput with included := some "contacts,notes,notes" } deskConfig rfl rfl
      (fun _ => .rfl) (fun _ => .rfl) lists fun _ => .rfl
  · exact more (some "contacts,notes") ["notes"] (by decide)
  · apply read
    intro name mem
    obtain rfl | rfl := List.mem_pair.mp mem
    all_goals
      refine ⟨by decide, ?_, ?_, by decide⟩
      · rintro c ⟨⟩
        decide
      · rintro c ⟨⟩
        decide

end ValidatorGen
