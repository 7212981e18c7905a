import ValidatorGen.Proofs.Command.Runs
import ValidatorGen.Proofs.Command.Steps

/-!
# Settings that override a configuration

What is set on the command line takes the place of what the file of the configuration says, so two
files that differ in nothing else are as good as one, also where it depends on the workers that read
a directory what the command comes to. But each of them must be a configuration that can be worked
with by itself: a setting of the file that is overridden does not matter for what is compiled, and
still it is checked.

## Main definitions

* `Config.decoded` — the configuration in a file, whether or not it can be worked with
* `Command.withConfig` — a command with its configuration in another file
* `Overridden` — two configurations differ only in what the command line overrides

## Main results

* `Config.run_decoded` — to read a configuration is one operation, which changes nothing
* `Input.run_loadConfig_of_decoded` — the configuration of a file is checked, and so is what becomes
  of it
* `mayRun_withConfig_iff` — a command may come to the same for files that differ only in what is
  overridden
* `overriding_complete` — a command does the same for files that differ only in what is overridden,
  and what is wrong with the settings is that of the file or of the settings on top of it
-/

namespace ValidatorGen

open Files Files.Memory Schema Validator

variable {s : Memory.State} {path path' : Path} {c c' : Config} {input : Input}
  {output : Option Path}

/-! ### The file -/

/-- The configuration in a file, whether or not it can be worked with. -/
def Config.decoded (path : Path) : LoggedT Memory Failure Config := do
  let content ← (LoggedT.ofAction (Disk.read path)).mapError .file
  let octets ← LoggedT.ofLogged (.ofExcept (content.mapError .unreadableYaml))
  LoggedT.ofLogged (.ofExcept ((ofOctets octets).mapError .yaml))

theorem Config.load_eq (path : Path) :
    (load path : LoggedT Memory _ _) = decoded path >>= fun c =>
      LoggedT.ofLogged (.ofExcept (c.checked.mapError .config)) := by
  simp only [load, decoded, bind_assoc]

/-- To read a configuration is one operation. It changes nothing and reports nothing, and it does
not ask whether the configuration can be worked with. -/
theorem Config.run_decoded (path : Path) (s : Memory.State) :
    ∃ outcome, (decoded path).run s = (⟨[], outcome⟩, ⟨s.tree, s.faults.tail⟩) ∧
      ∀ problem, outcome ≠ .error (.config problem) := by
  obtain ⟨opened, s₁, read⟩ : ∃ opened s₁, (Disk.read path : Memory _) s = (opened, s₁) :=
    ⟨_, _, rfl⟩
  have state : s₁ = ⟨s.tree, s.faults.tail⟩ := by
    rw [← state_observe (fun t => t.read path) s]
    exact (congrArg Prod.snd read).symm
  have first := LoggedT.run_mapError (LoggedT.run_ofAction read) Failure.file
  rw [state] at first
  rw [decoded]
  cases opened with
  | error e => exact ⟨_, LoggedT.run_bind_of_error first _, by simp⟩
  | ok content =>
    -- What has been read is parsed without the tree.
    rw [LoggedT.run_bind_of_ok first]
    cases content with
    | error e => exact ⟨.error (.unreadableYaml e), rfl, by simp⟩
    | ok octets =>
      refine ⟨(ofOctets octets).mapError .yaml, rfl, fun problem failed => ?_⟩
      obtain ⟨e, -, same⟩ := mapError_eq_error_iff.mp failed
      cases same

theorem Config.run_decoded_of_ok (decodes : ((decoded path).run s).1.outcome = .ok c) :
    (decoded path).run s = (⟨[], .ok c⟩, ⟨s.tree, s.faults.tail⟩) := by
  obtain ⟨outcome, ran, -⟩ := run_decoded path s
  rw [ran] at decodes ⊢
  rw [← decodes]

/-- The configuration of a file is checked. -/
theorem Config.run_load_of_decoded (decodes : ((decoded path).run s).1.outcome = .ok c) :
    (load path : LoggedT Memory _ _).run s =
      (⟨[], c.checked.mapError .config⟩, ⟨s.tree, s.faults.tail⟩) := by
  rw [load_eq, LoggedT.run_bind_of_ok (run_decoded_of_ok decodes)]
  rfl

/-! ### The settings on top of it -/

/-- The same input with its configuration in another file. -/
def Input.withConfig (path : Path) (input : Input) : Input := { input with config := some path }

/-- The configuration of a file is checked, and so is what becomes of it. -/
theorem Input.run_loadConfig_of_decoded
    (decodes : ((Config.decoded path).run s).1.outcome = .ok c) (input : Input) :
    ((input.withConfig path).loadConfig : LoggedT Memory _ _).run s =
      (⟨[], (c.checked.mapError fun problem => .config path (.config problem)) >>= fun c =>
        (input.merge c).checked.mapError .settings⟩, ⟨s.tree, s.faults.tail⟩) := by
  have file := LoggedT.run_mapError (Config.run_load_of_decoded decodes) (Obstacle.config path)
  rw [loadConfig_eq]
  cases checked : c.checked with
  | error problem =>
    rw [checked] at file
    exact LoggedT.run_bind_of_error file _
  | ok c₀ =>
    rw [checked] at file
    exact LoggedT.run_bind_of_ok file _

theorem Config.checked_of_problem? {problem : ConfigProblem} (h : c.problem? = some problem) :
    c.checked = .error problem := by rw [checked, h]

theorem Config.checked_of_accepted (h : c.problem? = none) : c.checked = .ok c := by
  rw [checked, h]

theorem Input.run_loadConfig_of_accepted
    (decodes : ((Config.decoded path).run s).1.outcome = .ok c) (accepted : c.problem? = none)
    (input : Input) : ((input.withConfig path).loadConfig : LoggedT Memory _ _).run s =
      (⟨[], (input.merge c).checked.mapError .settings⟩, ⟨s.tree, s.faults.tail⟩) := by
  rw [run_loadConfig_of_decoded decodes, Config.checked_of_accepted accepted]
  rfl

/-- Two configurations differ only in what the command line overrides. -/
structure Overridden (input : Input) (output : Option Path) (c c' : Config) : Prop where
  /-- The path is the same unless another is given. -/
  output : output = none → c.output = c'.output
  /-- The name of the union is the same unless another is given. -/
  unionName : input.unionName = none → c.unionName = c'.unionName
  /-- The depth is the same unless another is given. -/
  maxDepth : input.maxDepth = none → c.maxDepth = c'.maxDepth
  /-- The names to be included are the same unless there are others. -/
  included : optionalItems input.included = [] → c.included = c'.included
  /-- The names to be left out are the same. -/
  excluded : c.excluded = c'.excluded

/-- What has been overridden is gone, but for the path. -/
theorem Overridden.merge_eq (h : Overridden input output c c') :
    input.merge c' = { input.merge c with output := c'.output } := by
  have unionName : input.unionName.getD c'.unionName = input.unionName.getD c.unionName := by
    cases given : input.unionName with
    | none => exact (h.unionName given).symm
    | some name => rfl
  have maxDepth : input.maxDepth.getD c'.maxDepth = input.maxDepth.getD c.maxDepth := by
    cases given : input.maxDepth with
    | none => exact (h.maxDepth given).symm
    | some depth => rfl
  have included : (if (optionalItems input.included).isEmpty then c'.included
      else optionalItems input.included) = if (optionalItems input.included).isEmpty then c.included
        else optionalItems input.included := by
    split
    · rename_i none
      exact (h.included (List.isEmpty_iff.mp none)).symm
    · rfl
  simp only [Input.merge, unionName, maxDepth, included, h.excluded]

theorem Overridden.outputPath_eq (h : Overridden input output c c') :
    outputPath output (input.merge c') = outputPath output (input.merge c) := by
  cases given : output with
  | none => exact congrArg Path.ofString (h.output given).symm
  | some path => rfl

/-! ### Commands -/

/-- The same command with its configuration in another file. -/
def Command.withConfig (path : Path) : Command → Command
  | .generate input output check json => .generate (input.withConfig path) output check json
  | .validate input => .validate (input.withConfig path)
  | .list input => .list (input.withConfig path)
  | .bundle directory output => .bundle directory output

/-- Two configurations differ only in what the command overrides. -/
def Command.Overrides (c c' : Config) : Command → Prop
  | .generate input output _ _ => Overridden input output c c'
  | .validate input | .list input => Overridden input none c c'
  | .bundle _ _ => True

/-- What a command does with its configuration does not depend on where it comes from. -/
theorem run_withConfig_congr {α : Type} {f : Config → LoggedT Memory Obstacle α}
    (decodes : ((Config.decoded path).run s).1.outcome = .ok c)
    (decodes' : ((Config.decoded path').run s).1.outcome = .ok c')
    (accepted : c.problem? = none) (accepted' : c'.problem? = none)
    (overridden : Overridden input output c c')
    (same : f (input.merge c') = f (input.merge c)) :
    ((input.withConfig path).loadConfig >>= f).run s =
      ((input.withConfig path').loadConfig >>= f).run s := by
  have loads := Input.run_loadConfig_of_accepted decodes accepted input
  have loads' := Input.run_loadConfig_of_accepted decodes' accepted' input
  -- Whether the settings can be worked with does not depend on the path.
  have problem : (input.merge c').problem? = (input.merge c).problem? := by
    rw [overridden.merge_eq]
    rfl
  cases h : (input.merge c).problem? with
  | some found =>
    rw [Config.checked_of_problem? h] at loads
    rw [Config.checked_of_problem? (problem.trans h)] at loads'
    rw [LoggedT.run_bind_of_error loads, LoggedT.run_bind_of_error loads']
  | none =>
    rw [Config.checked_of_accepted h] at loads
    rw [Config.checked_of_accepted (problem.trans h)] at loads'
    rw [LoggedT.run_bind_of_ok loads, LoggedT.run_bind_of_ok loads', same]

theorem Command.loadDocument_withConfig (command : Command) (path : Path) :
    (command.withConfig path).loadDocument = command.loadDocument := by cases command <;> rfl

theorem Command.mayLoad_withConfig (command : Command) (path : Path) (v : View) :
    (command.withConfig path).MayLoad v = command.MayLoad v := by cases command <;> rfl

theorem Command.finish_withConfig (command : Command) (path : Path) (c : Config) (d : Document) :
    (command.withConfig path).finish c d = command.finish c d := by cases command <;> rfl

/-- A command does the same for files that differ only in what it overrides, whatever loading its
document comes to. -/
theorem run_steps_congr {command : Command}
    (decodes : ((Config.decoded path).run s).1.outcome = .ok c)
    (decodes' : ((Config.decoded path').run s).1.outcome = .ok c')
    (accepted : c.problem? = none) (accepted' : c'.problem? = none)
    (overrides : command.Overrides c c') (loading : LoggedT Memory Obstacle Document) :
    ((command.withConfig path).loadConfig >>= fun c =>
        loading >>= fun d => command.finish c d).run s =
      ((command.withConfig path').loadConfig >>= fun c =>
        loading >>= fun d => command.finish c d).run s := by
  cases command with
  | generate input output check json =>
    refine run_withConfig_congr decodes decodes' accepted accepted' overrides ?_
    have paths := overrides.outputPath_eq
    simp only [Command.finish, deliver, paths]
    rw [overrides.merge_eq]
    rfl
  | validate input =>
    refine run_withConfig_congr decodes decodes' accepted accepted' overrides ?_
    rw [overrides.merge_eq]
    rfl
  | list input =>
    refine run_withConfig_congr decodes decodes' accepted accepted' overrides ?_
    rw [overrides.merge_eq]
    rfl
  | bundle directory output => rfl

theorem runFrom_withConfig_congr {command : Command}
    (decodes : ((Config.decoded path).run s).1.outcome = .ok c)
    (decodes' : ((Config.decoded path').run s).1.outcome = .ok c')
    (accepted : c.problem? = none) (accepted' : c'.problem? = none)
    (overrides : command.Overrides c c') :
    (command.withConfig path).runFrom s = (command.withConfig path').runFrom s := by
  have same := run_steps_congr decodes decodes' accepted accepted' overrides command.loadDocument
  simp only [Command.runFrom, Command.run_eq, Command.loadDocument_withConfig,
    Command.finish_withConfig]
  exact same

/-- A command may come to the same for files that differ only in what it overrides. -/
theorem mayRun_withConfig_iff {command : Command} {t : Tree}
    (decodes : ((Config.decoded path).run ⟨t, []⟩).1.outcome = .ok c)
    (decodes' : ((Config.decoded path').run ⟨t, []⟩).1.outcome = .ok c')
    (accepted : c.problem? = none) (accepted' : c'.problem? = none)
    (overrides : command.Overrides c c') (result : Logged Obstacle String × Memory.State) :
    (command.withConfig path).MayRun t result ↔ (command.withConfig path').MayRun t result := by
  have same (loaded : Logged Obstacle Document) :=
    run_steps_congr decodes decodes' accepted accepted' overrides (.ofLogged loaded)
  simp only [Command.MayRun, Command.runWith, Command.mayLoad_withConfig,
    Command.finish_withConfig, same]

/-- What is wrong with the settings is what is wrong with those of the file, or with what becomes of
them. -/
theorem outcome_loadConfig_of_decoded
    (decodes : ((Config.decoded path).run s).1.outcome = .ok c) (input : Input) :
    (((input.withConfig path).loadConfig : LoggedT Memory _ _).run s).1.outcome =
      match c.problem?, (input.merge c).problem? with
      | some problem, _ => .error (.config path (.config problem))
      | none, some problem => .error (.settings problem)
      | none, none => .ok (input.merge c) := by
  rw [Input.run_loadConfig_of_decoded decodes]
  cases problem : c.problem? with
  | some found =>
    rw [Config.checked_of_problem? problem]
    rfl
  | none =>
    rw [Config.checked_of_accepted problem]
    change (input.merge c).checked.mapError _ = _
    cases merged : (input.merge c).problem? with
    | some found =>
      rw [Config.checked_of_problem? merged]
      rfl
    | none =>
      rw [Config.checked_of_accepted merged]
      rfl

theorem outcome_loadConfig_of_error {e : Failure}
    (failed : ((Config.decoded path).run s).1.outcome = .error e) (input : Input) :
    (((input.withConfig path).loadConfig : LoggedT Memory _ _).run s).1.outcome =
      .error (.config path e) := by
  obtain ⟨outcome, ran, -⟩ := Config.run_decoded path s
  rw [ran] at failed
  obtain rfl : outcome = .error e := failed
  have load := LoggedT.run_bind_of_error ran fun c =>
    LoggedT.ofLogged (.ofExcept (c.checked.mapError Failure.config))
  rw [← Config.load_eq] at load
  have file : ((input.withConfig path).fileConfig.run s).1.outcome = .error (.config path e) :=
    congrArg (fun ran => ran.1.outcome) (LoggedT.run_mapError load (Obstacle.config path))
  rw [Input.loadConfig_eq, LoggedT.outcome_run_bind, file]
  rfl

/-- If two files hold configurations that can be worked with and differ only in what the command
line overrides, a command comes to the same with either, whatever operations fail: its outcome, what
it reports and the tree after it. If the order in which workers get to files leaves it open what the
command comes to, it may come to the same things. The settings are refused if those of the file
cannot be worked with or those that become of them cannot; otherwise these are the settings. -/
theorem overriding_complete :
    (∀ (command : Command) (path path' : Path) (c c' : Config) (s : Memory.State),
      ((Config.decoded path).run s).1.outcome = .ok c →
      ((Config.decoded path').run s).1.outcome = .ok c' →
      c.problem? = none → c'.problem? = none → command.Overrides c c' →
      ∀ arguments arguments',
        Command.ofArguments arguments = .ok (command.withConfig path) →
        Command.ofArguments arguments' = .ok (command.withConfig path') →
        (runCommandLine arguments : Memory (List Event × Outcome)) s =
          (runCommandLine arguments' : Memory (List Event × Outcome)) s) ∧
    (∀ (command : Command) (path path' : Path) (c c' : Config) (t : Tree),
      ((Config.decoded path).run ⟨t, []⟩).1.outcome = .ok c →
      ((Config.decoded path').run ⟨t, []⟩).1.outcome = .ok c' →
      c.problem? = none → c'.problem? = none → command.Overrides c c' →
      ∀ result, (command.withConfig path).MayRun t result ↔
        (command.withConfig path').MayRun t result) ∧
    ∀ (input : Input) (path : Path) (s : Memory.State) (outcome : Except Obstacle Config),
      (((input.withConfig path).loadConfig : LoggedT Memory _ _).run s).1.outcome = outcome →
      ((∃ problem, outcome = .error (.config path (.config problem)) ∨
          outcome = .error (.settings problem)) ↔
        ∃ c, ((Config.decoded path).run s).1.outcome = .ok c ∧
          (c.problem? ≠ none ∨ (input.merge c).problem? ≠ none)) ∧
      ∀ c', outcome = .ok c' ↔
        ∃ c, ((Config.decoded path).run s).1.outcome = .ok c ∧
          c.problem? = none ∧ (input.merge c).problem? = none ∧ c' = input.merge c := by
  refine ⟨?_, fun command path path' c c' t => mayRun_withConfig_iff, ?_⟩
  · intro command path path' c c' s decodes decodes' accepted accepted' overrides arguments
      arguments' asked asked'
    rw [runCommandLine_of_command asked, runCommandLine_of_command asked',
      runFrom_withConfig_congr decodes decodes' accepted accepted' overrides]
  · rintro input path s _ rfl
    cases decodes : ((Config.decoded path).run s).1.outcome with
    | error e =>
      have other (problem : ConfigProblem) : e ≠ .config problem := by
        obtain ⟨outcome, ran, other⟩ := Config.run_decoded path s
        rw [ran] at decodes
        rintro rfl
        exact other problem decodes
      rw [outcome_loadConfig_of_error decodes]
      simp [other]
    | ok c =>
      rw [outcome_loadConfig_of_decoded decodes]
      cases own : c.problem? <;> cases merged : (input.merge c).problem? <;>
        simp [own, merged, eq_comm]

/-- A tree with a bundle, three configurations and a directory of two files that are bad. -/
def drawer : Tree where
  entries :=
    [([Text.encode "b.json"], .file (Text.encode emptyType.compact)),
      ([Text.encode "none.yml"], .file (Text.encode "max_depth: 0\n")),
      ([Text.encode "one.yml"], .file (Text.encode "max_depth: 1\n")),
      ([Text.encode "nine.yml"], .file (Text.encode "max_depth: 9\n")),
      ([Text.encode "d"], .directory),
      ([Text.encode "d", Text.encode "a.json"], .file (Text.encode "[")),
      ([Text.encode "d", Text.encode "b.json"], .file (Text.encode "5"))]
  distinct := by decide

/-- A command that overrides the depth. -/
def toDepthFive : Command :=
  .validate { bundle := some (.ofString "b.json"), maxDepth := some 5 }

/-- A command line for it, with the configuration in a file. -/
def toDepthFiveWith (config : String) : List Argument :=
  ["validate", "--config", config, "--bundle", "b.json", "--max-depth", "5"].map Text.encode

/-- A command that overrides the depth, for the directory. -/
def folderToDepthFive : Command :=
  .validate { directory := some (.ofString "d"), maxDepth := some 5 }

theorem overrides_maxDepth {input : Input} (given : input.maxDepth ≠ none) (depth depth' : Nat) :
    (Command.validate input).Overrides { maxDepth := depth } { maxDepth := depth' } :=
  ⟨fun _ => rfl, fun _ => rfl, fun none => absurd none given, fun _ => rfl, rfl⟩

/-- What loading the settings on top of a configuration comes to. -/
def depthFiveLoaded (config : String) : Except Obstacle Config :=
  (((({ maxDepth := some 5 } : Input).withConfig (.ofString config)).loadConfig :
    LoggedT Memory _ _).run ⟨drawer, []⟩).1.outcome

theorem overriding_complete_toDepthFive :
    exitStatus (toDepthFiveWith "one.yml") ⟨drawer, []⟩ = 0 ∧
    (runCommandLine (toDepthFiveWith "one.yml") : Memory (List Event × Outcome)) ⟨drawer, []⟩ =
      (runCommandLine (toDepthFiveWith "nine.yml") : Memory (List Event × Outcome)) ⟨drawer, []⟩ ∧
    (∃ result, (folderToDepthFive.withConfig (.ofString "one.yml")).MayRun drawer result ∧
      (folderToDepthFive.withConfig (.ofString "nine.yml")).MayRun drawer result) ∧
    depthFiveLoaded "one.yml" = .ok { maxDepth := 5 } ∧
    ∃ problem,
      depthFiveLoaded "none.yml" = .error (.config (.ofString "none.yml") (.config problem)) ∨
        depthFiveLoaded "none.yml" = .error (.settings problem) := by
  have none : ((Config.decoded (.ofString "none.yml")).run ⟨drawer, []⟩).1.outcome =
      .ok { maxDepth := 0 } := by decide +kernel
  have one : ((Config.decoded (.ofString "one.yml")).run ⟨drawer, []⟩).1.outcome =
      .ok { maxDepth := 1 } := by decide +kernel
  have nine : ((Config.decoded (.ofString "nine.yml")).run ⟨drawer, []⟩).1.outcome =
      .ok { maxDepth := 9 } := by decide +kernel
  obtain ⟨same, alike, loaded⟩ := overriding_complete
  obtain ⟨refused, -⟩ := loaded { maxDepth := some 5 } (.ofString "none.yml") ⟨drawer, []⟩ _ rfl
  obtain ⟨-, accepted⟩ := loaded { maxDepth := some 5 } (.ofString "one.yml") ⟨drawer, []⟩ _ rfl
  refine ⟨by decide +kernel, ?_, ?_, ?_, ?_⟩
  · exact same toDepthFive (.ofString "one.yml") (.ofString "nine.yml") _ _ ⟨drawer, []⟩ one nine
      (by decide) (by decide) (overrides_maxDepth (by decide) 1 9) _ _ rfl rfl
  · obtain ⟨events, runs⟩ :=
      exists_mayRun (folderToDepthFive.withConfig (.ofString "one.yml")) drawer
    exact ⟨_, runs, (alike folderToDepthFive (.ofString "one.yml") (.ofString "nine.yml") _ _ drawer
      one nine (by decide) (by decide) (overrides_maxDepth (by decide) 1 9) _).mp runs⟩
  · exact (accepted _).mpr ⟨_, one, by decide, by decide, rfl⟩
  · exact refused.mpr ⟨_, none, .inl (by decide)⟩

/-- A depth of nothing in the file is not overridden: the command fails, though it does not with
another depth in the file, and though the settings on top of the file could be worked with. -/
theorem exitStatus_none_yml :
    ((Config.decoded (.ofString "none.yml")).run ⟨drawer, []⟩).1.outcome = .ok { maxDepth := 0 } ∧
    ((Config.decoded (.ofString "one.yml")).run ⟨drawer, []⟩).1.outcome = .ok { maxDepth := 1 } ∧
    toDepthFive.Overrides { maxDepth := 0 } { maxDepth := 1 } ∧
    Command.ofArguments (toDepthFiveWith "none.yml") =
      .ok (toDepthFive.withConfig (.ofString "none.yml")) ∧
    Command.ofArguments (toDepthFiveWith "one.yml") =
      .ok (toDepthFive.withConfig (.ofString "one.yml")) ∧
    (({ maxDepth := some 5 } : Input).merge { maxDepth := 0 }).problem? = none ∧
    exitStatus (toDepthFiveWith "none.yml") ⟨drawer, []⟩ = 1 ∧
    exitStatus (toDepthFiveWith "one.yml") ⟨drawer, []⟩ = 0 := by
  exact ⟨by decide +kernel, by decide +kernel, overrides_maxDepth (by decide) 0 1, rfl, rfl,
    by decide, by decide +kernel, by decide +kernel⟩

end ValidatorGen
