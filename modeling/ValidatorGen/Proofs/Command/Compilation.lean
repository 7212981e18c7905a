import ValidatorGen.Command.Run
import ValidatorGen.Proofs.Artifact
import ValidatorGen.Proofs.Loading

/-!
# From the command line to a module

Three commands load a configuration and a document and compile it. Until then they only read; what
they do afterwards depends on the module and the configuration alone.

## Main definitions

* `Input.fileConfig` — the configuration before the settings of an input are applied to it
* `Input.loadModule` — the configuration for an input, and the module of its document
* `deliver` — what is done with them to generate a file

## Main results

* `runGenerate_eq` — to generate a file is to load a module and to deliver it
* `Input.loadDocument_eq_ok_iff` — where a document comes from
* `Input.loadModule_eq_ok_iff` — when there is a module for an input, and which
* `Input.loadDocument_of_receives` — the document loads as before once a file elsewhere has been
  written
* `exitStatus_eq_zero_iff`, `treeAfter_of_command` — a command line does what its command does
-/

namespace ValidatorGen

open Files Files.Memory Schema Validator

variable {t t' : Tree}

/-- The configuration in the file of an input, or the one without a file. -/
def Input.fileConfig (input : Input) : LoggedT Memory Obstacle Config :=
  match input.config with
  | some path => (Config.load path).mapError (.config path)
  | none => pure {}

/-- The settings of an input are applied to the configuration in its file, and the result is
checked. -/
theorem Input.loadConfig_eq (input : Input) :
    (input.loadConfig : LoggedT Memory Obstacle Config) = input.fileConfig >>= fun c =>
      LoggedT.ofLogged (.ofExcept ((input.merge c).checked.mapError .settings)) := by
  rw [loadConfig, fileConfig]
  cases input.config <;> rfl

/-- The configuration for an input, and the module of its document. -/
def Input.loadModule (input : Input) : LoggedT Memory Obstacle (Config × Module) := do
  let c ← input.loadConfig
  let document ← input.loadSelected c
  let module ← compiled c.options document
  return (c, module)

/-- Where the module for an input is written. -/
def outputPath (output : Option Path) (c : Config) : Path := output.getD (.ofString c.output)

/-- Writes a module, or compares it with the file that is there. -/
def deliver (output : Option Path) (check json : Bool) (loaded : Config × Module) :
    LoggedT Memory Obstacle String := do
  let path := outputPath output loaded.1
  if check then
    if ← (loaded.2.isUpToDate path).mapError (.unread path) then
      return shown path ++ " is up to date (" ++ toString loaded.2.typeNames.length ++
        " object type(s)).\n"
    else LoggedT.fail (.outOfDate path)
  else
    let report ← (loaded.2.write path).mapError (.unwritten path)
    LoggedT.ofLogged (.ofExcept (report.lines json))

theorem runGenerate_eq (input : Input) (output : Option Path) (check json : Bool) :
    runGenerate input output check json = input.loadModule >>= deliver output check json := by
  rw [runGenerate, Input.loadModule, bind_assoc]
  refine bind_congr fun c => ?_
  rw [bind_assoc]
  refine bind_congr fun document => ?_
  rw [bind_assoc]
  refine bind_congr fun module => ?_
  rw [pure_bind, deliver]
  rfl

theorem reads_compiled (options : Options) (d : Document) :
    (compiled options d : LoggedT Memory _ _).Reads := LoggedT.reads_ofLogged _

theorem Config.reads_load (path : Path) : (Config.load path : LoggedT Memory _ _).Reads := by
  refine ((LoggedT.reads_ofAction (reads_read path)).mapError _).bind fun _ => ?_
  refine (LoggedT.reads_ofLogged _).bind fun _ => (LoggedT.reads_ofLogged _).bind fun _ => ?_
  exact LoggedT.reads_ofLogged _

namespace Input

theorem reads_loadConfig (input : Input) : (input.loadConfig : LoggedT Memory _ _).Reads := by
  rw [loadConfig]
  cases input.config with
  | none => exact (LoggedT.reads_pure _).bind fun _ => LoggedT.reads_ofLogged _
  | some path => exact ((Config.reads_load path).mapError _).bind fun _ => LoggedT.reads_ofLogged _

theorem reads_loadDocument (input : Input) : (input.loadDocument : LoggedT Memory _ _).Reads := by
  rw [loadDocument]
  split
  · exact LoggedT.reads_ofLogged _
  · exact (Source.reads_load _).mapError _
  · exact ((reads_loadFirst _).mapError _).bind fun _ => LoggedT.reads_pure _

theorem reads_loadSelected (input : Input) (c : Config) :
    (input.loadSelected c : LoggedT Memory _ _).Reads :=
  (reads_loadDocument input).bind fun _ => LoggedT.reads_ofLogged _

theorem reads_loadModule (input : Input) : input.loadModule.Reads := by
  refine (reads_loadConfig input).bind fun c => (reads_loadSelected input c).bind fun _ => ?_
  exact (reads_compiled _ _).bind fun _ => LoggedT.reads_pure _

/-- A document comes from the directory if there is one, and from the bundle if there is none or the
directory is not found. -/
theorem loadDocument_eq_ok_iff {input : Input} {d : Document} :
    (input.loadDocument.look t).outcome = .ok d ↔
      (∃ folder, input.directory = some folder ∧
        ((loadDirectory folder : LoggedT Memory _ _).look t).outcome = .ok d) ∨
      ∃ path, input.bundle = some path ∧
        ((loadBundle path : LoggedT Memory _ _).look t).outcome = .ok d ∧
          ∀ folder, input.directory = some folder → t.list folder = .error .notFound := by
  rw [loadDocument, sources]
  cases input.directory with
  | none =>
    cases input.bundle with
    | none =>
      change Except.error Obstacle.noSource = _ ↔ _
      simp
    | some path =>
      change (((loadBundle path).mapError Obstacle.document : LoggedT Memory _ _).look t).outcome =
        _ ↔ _
      rw [LoggedT.look_mapError (reads_loadBundle path), Logged.outcome_mapError,
        mapError_eq_ok_iff]
      simp
  | some folder =>
    cases input.bundle with
    | none =>
      change (((loadDirectory folder).mapError Obstacle.document :
        LoggedT Memory _ _).look t).outcome = _ ↔ _
      rw [LoggedT.look_mapError (reads_loadDirectory folder), Logged.outcome_mapError,
        mapError_eq_ok_iff]
      simp
    | some path =>
      have reads := reads_loadFirst [Source.directory folder, Source.bundle path]
      simp only [Option.map, Option.toList, List.cons_append, List.nil_append]
      rw [LoggedT.look_bind (reads.mapError _), LoggedT.look_mapError reads, Logged.outcome_bind,
        Logged.outcome_mapError, bind_eq_ok_iff]
      -- The sources are tried in turn, and after the bundle there is none.
      simp only [mapError_eq_ok_iff, loadFirst_cons_eq_ok_iff, Source.load,
        loadDirectory_eq_notFound_iff]
      constructor
      · rintro ⟨found, ⟨d', loaded, rfl⟩ | ⟨absent, ⟨d', loaded, rfl⟩ | ⟨-, none⟩⟩, same⟩
        · cases same
          exact .inl ⟨folder, rfl, loaded⟩
        · cases same
          refine .inr ⟨path, rfl, loaded, fun folder' given => ?_⟩
          rwa [← Option.some.inj given]
        · cases none
      · rintro (⟨_, ⟨⟩, loaded⟩ | ⟨_, ⟨⟩, loaded, absent⟩)
        · exact ⟨(d, .directory folder), .inl ⟨d, loaded, rfl⟩, rfl⟩
        · exact ⟨(d, .bundle path), .inr ⟨absent folder rfl, .inl ⟨d, loaded, rfl⟩⟩, rfl⟩

theorem loadSelected_outcome (input : Input) (c : Config) (t : Tree) :
    ((input.loadSelected c : LoggedT Memory _ _).look t).outcome =
      (input.loadDocument.look t).outcome.map fun d => d.filter c.allows := by
  rw [loadSelected, LoggedT.look_bind (reads_loadDocument input), Logged.outcome_bind]
  cases (input.loadDocument.look t).outcome <;> rfl

/-- The outcome of loading a module is that of its three steps. -/
theorem loadModule_outcome (input : Input) (t : Tree) :
    (input.loadModule.look t).outcome = (do
      let c ← (input.loadConfig.look t).outcome
      let d ← (input.loadDocument.look t).outcome
      let m ← (emit c.options (d.filter c.allows)).outcome.mapError .compile
      return (c, m)) := by
  -- Each step only reads, so the next one sees the same tree.
  rw [loadModule, LoggedT.look_bind (reads_loadConfig input), Logged.outcome_bind]
  congr 1
  funext c
  rw [LoggedT.look_bind (reads_loadSelected input c), Logged.outcome_bind, loadSelected_outcome]
  cases (input.loadDocument.look t).outcome with
  | error e => rfl
  | ok d =>
    change ((compiled c.options (d.filter c.allows) >>= _ : LoggedT Memory _ _).look t).outcome = _
    rw [LoggedT.look_bind (reads_compiled _ _), Logged.outcome_bind]
    rfl

/-- There is a module for an input if its configuration is accepted, its document is loaded, and
what is selected of it is compiled. -/
theorem loadModule_eq_ok_iff {input : Input} {c : Config} {m : Module} :
    (input.loadModule.look t).outcome = .ok (c, m) ↔
      (input.loadConfig.look t).outcome = .ok c ∧
        ∃ d, (input.loadDocument.look t).outcome = .ok d ∧
          (emit c.options (d.filter c.allows)).outcome = .ok m := by
  rw [loadModule_outcome, bind_eq_ok_iff]
  simp only [bind_eq_ok_iff, mapError_eq_ok_iff]
  constructor
  · rintro ⟨c', accepted, d, loaded, m', emitted, same⟩
    cases same
    exact ⟨accepted, d, loaded, emitted⟩
  · rintro ⟨accepted, d, loaded, emitted⟩
    exact ⟨c, accepted, d, loaded, m, emitted, rfl⟩

end Input

/-! ### After a file has been written -/

variable {around : Path → Prop} {written : Path} {content : List UInt8} {l : Files.Location}

/-- A configuration loads alike where its file is read alike. -/
theorem Config.look_load_of_read {path : Path} (same : t'.read path = t.read path) :
    (Config.load path : LoggedT Memory _ _).look t' =
      (Config.load path : LoggedT Memory _ _).look t := by
  rw [Config.load, LoggedT.look_ofAction_bind (reads_read path),
    LoggedT.look_ofAction_bind (reads_read path), look_read, look_read, same]
  -- What follows the reading of the file does not depend on the tree.
  simp only [LoggedT.look_bind (LoggedT.reads_ofLogged _), LoggedT.look_ofLogged]

/-- A configuration that has been loaded could be read. -/
theorem Config.exists_read_of_load {path : Path} {c : Config}
    (h : ((Config.load path : LoggedT Memory _ _).look t).outcome = .ok c) :
    ∃ octets, t.read path = .ok (.ok octets) := by
  rw [Config.load, LoggedT.look_ofAction_bind (reads_read path), look_read, Logged.outcome_bind,
    bind_eq_ok_iff] at h
  obtain ⟨opened, found, parsed⟩ := h
  cases opened with
  | error e => cases parsed
  | ok octets => exact ⟨octets, mapError_eq_ok_iff.mp found⟩

/-- A configuration loads as before if it is not in the file that has been written. -/
theorem Config.load_of_receives {path : Path} {c : Config}
    (received : Tree.Receives around written content l t t') (apart : t'.locate path ≠ .ok l)
    (loaded : ((Config.load path : LoggedT Memory _ _).look t).outcome = .ok c) :
    ((Config.load path : LoggedT Memory _ _).look t').outcome = .ok c := by
  obtain ⟨octets, read⟩ := Config.exists_read_of_load loaded
  have read' := received.read_of_ne apart read
  rw [Config.look_load_of_read (read'.trans read.symm), loaded]

namespace Input

/-- The location is none from which the input is read. -/
structure Avoids (input : Input) (t : Tree) (l : Files.Location) : Prop where
  /-- The configuration is elsewhere. -/
  config : ∀ path, input.config = some path → t.locate path ≠ .ok l
  /-- The bundle is elsewhere. -/
  bundle : ∀ path, input.bundle = some path → t.locate path ≠ .ok l
  /-- The location does not count for the directory. -/
  directory : ∀ path, input.directory = some path → ¬ IsTypeFile t path l

variable {input : Input} {c : Config} {d : Document}

theorem loadConfig_of_receives (received : Tree.Receives around written content l t t')
    (apart : input.Avoids t' l) (loaded : (input.loadConfig.look t).outcome = .ok c) :
    (input.loadConfig.look t').outcome = .ok c := by
  rw [loadConfig] at loaded ⊢
  cases config : input.config with
  | none =>
    -- The settings are those of the command line alone.
    rw [config] at loaded
    exact loaded
  | some path =>
    rw [config] at loaded
    have reads := (Config.reads_load path).mapError (Obstacle.config path)
    rw [LoggedT.look_bind reads, LoggedT.look_mapError (Config.reads_load path),
      Logged.outcome_bind, Logged.outcome_mapError, bind_eq_ok_iff] at loaded ⊢
    obtain ⟨c₀, found, merged⟩ := loaded
    rw [mapError_eq_ok_iff] at found
    refine ⟨c₀, ?_, merged⟩
    rw [Config.load_of_receives received (apart.config path config) found]
    rfl

/-- The document is loaded as before, if what has been written is none of what is read, and if a
directory that was not there is still not there. -/
theorem loadDocument_of_receives (wellFormed : t.WellFormed)
    (received : Tree.Receives around written content l t t') (apart : input.Avoids t' l)
    (missing : ∀ path, input.directory = some path →
      t.list path = .error .notFound → t'.list path = .error .notFound)
    (loaded : (input.loadDocument.look t).outcome = .ok d) :
    (input.loadDocument.look t').outcome = .ok d := by
  rw [loadDocument_eq_ok_iff] at loaded ⊢
  rcases loaded with ⟨folder, given, loaded⟩ | ⟨path, given, loaded, absent⟩
  · have apart' := apart.directory folder given
    exact .inl ⟨folder, given, loadDirectory_of_receives received wellFormed apart' loaded⟩
  · -- The directory was passed over, and is again since it is still missing.
    refine .inr ⟨path, given, loadBundle_of_receives received (apart.bundle path given) loaded, ?_⟩
    intro folder given'
    exact missing folder given' (absent folder given')

end Input

/-! ### Command lines -/

/-- What a command comes to, from a state on. -/
def Command.runFrom (command : Command) (s : Memory.State) :
    Logged Obstacle String × Memory.State :=
  (command.run : LoggedT Memory Obstacle String).run s

/-- The status with which a command line ends. -/
def exitStatus (arguments : List Argument) (s : Memory.State) : Nat :=
  ((runCommandLine arguments : Memory (List Event × Outcome)) s).1.2.status

/-- The tree after a command line has been run. -/
def treeAfter (arguments : List Argument) (s : Memory.State) : Tree :=
  ((runCommandLine arguments : Memory (List Event × Outcome)) s).2.tree

variable {arguments : List Argument} {command : Command}

theorem runCommandLine_of_command (asked : Command.ofArguments arguments = .ok command)
    (s : Memory.State) : (runCommandLine arguments : Memory (List Event × Outcome)) s =
      (((command.runFrom s).1.events, outcomeOf (command.runFrom s).1.outcome),
        (command.runFrom s).2) := by
  rw [runCommandLine, asked]
  rfl

theorem runCommandLine_of_refusal {refusal : Refusal}
    (refused : Command.ofArguments arguments = .error refusal) (s : Memory.State) :
    (runCommandLine arguments : Memory (List Event × Outcome)) s = (([], refusal.outcome), s) := by
  rw [runCommandLine, refused]
  rfl

theorem status_outcomeOf_eq_zero_iff {outcome : Except Obstacle String} :
    (outcomeOf outcome).status = 0 ↔ ∃ text, outcome = .ok text := by
  cases outcome <;> simp [outcomeOf]

theorem exitStatus_eq_zero_iff (asked : Command.ofArguments arguments = .ok command)
    (s : Memory.State) :
    exitStatus arguments s = 0 ↔ ∃ text, (command.runFrom s).1.outcome = .ok text := by
  rw [exitStatus, runCommandLine_of_command asked, status_outcomeOf_eq_zero_iff]

theorem treeAfter_of_command (asked : Command.ofArguments arguments = .ok command)
    (s : Memory.State) : treeAfter arguments s = (command.runFrom s).2.tree := by
  rw [treeAfter, runCommandLine_of_command asked]

end ValidatorGen
