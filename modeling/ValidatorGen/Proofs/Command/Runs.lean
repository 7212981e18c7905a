import ValidatorGen.Proofs.Command.Arguments
import ValidatorGen.Proofs.Command.Compilation

/-!
# What command lines do to files

Commands that write nothing leave the tree alone. A command that is to generate a file and fails
leaves all files alone, but for one case: a report as JSON on a path that is no text cannot be
shown, and that is found out when the module is already in its file. If the command succeeds, the
file has the text of the module; comparing then finds nothing to be done, as long as the file is
none of those that are read, and generating once more changes nothing in it. This is not so where a
directory that was missing is made for the file: then the next run reads that directory.

## Main definitions

* `Command.writes` — whether a command is one that writes a file
* `Reportable` — whether the report on what is generated can be shown

## Main results

* `Command.reads_run` — the commands that write nothing only read
* `ends_runGenerate` — what becomes of the tree when a file is generated
* `failed_of_not_reportable` — what becomes of it if the report cannot be shown
* `check_eq_zero_iff` — when comparing finds that the file is up to date
* `loadModule_of_receives` — the module is loaded as before once a file elsewhere has been written
* `runs_and_files` — all of this for command lines
-/

namespace ValidatorGen

open Files Files.Tree Files.Memory Schema Validator Text

variable {t t' : Tree} {input : Input} {output : Option Path} {json : Bool} {c : Config}
  {m : Module} {arguments : List Argument}

/-! ### Commands that write nothing -/

/-- Whether a command is one that writes a file. -/
def Command.writes : Command → Bool
  | .generate _ _ check _ => !check
  | .validate _ => false
  | .list _ => false
  | .bundle _ _ => true

theorem reads_check (output : Option Path) (json : Bool) (loaded : Config × Module) :
    (deliver output true json loaded).Reads := by
  rw [deliver]
  refine ((reads_isUpToDate _ _).mapError _).bind fun upToDate => ?_
  split
  · exact LoggedT.reads_pure _
  · exact LoggedT.reads_ofLogged _

theorem Command.reads_run {command : Command} (h : command.writes = false) :
    (command.run : LoggedT Memory Obstacle String).Reads := by
  cases command with
  | generate input output check json =>
    obtain rfl : check = true := by simpa [Command.writes] using h
    rw [Command.run, runGenerate_eq]
    exact input.reads_loadModule.bind fun loaded => reads_check output json loaded
  | validate input =>
    refine (input.reads_loadConfig).bind fun c => (input.reads_loadSelected c).bind fun d => ?_
    exact (reads_compiled _ _).bind fun _ => LoggedT.reads_pure _
  | list input =>
    refine (input.reads_loadConfig).bind fun c => (input.reads_loadSelected c).bind fun d => ?_
    exact LoggedT.reads_pure _
  | bundle directory output => cases h

/-- A command line that asks for nothing to be written leaves the tree alone. -/
theorem treeAfter_of_reads (reading : ∀ command, Command.ofArguments arguments = .ok command →
    command.writes = false) (s : Memory.State) : treeAfter arguments s = s.tree := by
  cases asked : Command.ofArguments arguments with
  | error refusal => rw [treeAfter, runCommandLine_of_refusal asked]
  | ok command =>
    rw [treeAfter_of_command asked]
    exact (Command.reads_run (reading command asked) s).1

/-! ### Generating -/

/-- Whether the report on what is generated can be shown: as JSON only if the path is a text. -/
def Reportable (output : Option Path) (json : Bool) : Prop :=
  json = true → ∀ path, output = some path → (decode? path.bytes).isSome

/-- The path to which a module goes can be shown if the one that is asked for can. -/
theorem isSome_decode?_outputPath (reportable : Reportable output true) (c : Config) :
    (decode? (outputPath output c).bytes).isSome := by
  cases output with
  | none =>
    change (decode? (encode c.output)).isSome
    rw [decode?_encode]
    rfl
  | some path => exact reportable rfl path rfl

theorem exists_lines (reportable : Reportable output json) (c : Config) (m : Module) :
    ∃ text, (Report.ofModule (outputPath output c) m).lines json = .ok text := by
  cases json with
  | false => exact ⟨_, rfl⟩
  | true =>
    obtain ⟨path, shown⟩ := Option.isSome_iff_exists.mp (isSome_decode?_outputPath reportable c)
    simp only [Report.lines, Report.text?, Report.value?, Report.ofModule, shown, Option.map,
      if_true]
    exact ⟨_, rfl⟩

theorem lines_of_not_reportable (unshown : ¬ Reportable output json) (c : Config) (m : Module) :
    (Report.ofModule (outputPath output c) m).lines json = .error .noReport := by
  rw [Reportable] at unshown
  push Not at unshown
  obtain ⟨rfl, path, rfl, undecoded⟩ := unshown
  have undecoded : decode? (outputPath (some path) c).bytes = none := by
    simpa [outputPath] using undecoded
  simp [Report.lines, Report.text?, Report.value?, Report.ofModule, undecoded]

/-- What a step that is to write a module comes to: to its file, or to directories around it at
most. That the report cannot be shown is found out once the file is there. -/
def Delivered (path : Path) (m : Module) (reportable : Prop) (t : Tree) :
    Except Obstacle String → Memory.State → Prop
  | .ok _, s => reportable ∧ ∃ l, Receives path.Around path (encode m.text) l t s.tree
  | .error e, s => Alters ∅ path.Around t s.tree ∨
      ¬ reportable ∧ e = .noReport ∧ ∃ l, Receives path.Around path (encode m.text) l t s.tree

/-- What becomes of a tree when a module is delivered, whatever operations fail. -/
theorem ends_deliver (output : Option Path) (json : Bool) (c : Config) (m : Module)
    (s : Memory.State) : (deliver output false json (c, m)).Ends s
      (Delivered (outputPath output c) m (Reportable output json) s.tree) := by
  rw [deliver]
  have written : ((m.write (outputPath output c)).mapError
      (Obstacle.unwritten (outputPath output c)) : LoggedT Memory _ _).Ends s
        (Written m (outputPath output c) s.tree) := by
    refine LoggedT.Ends.mapError ((ends_write m (outputPath output c) s).mono ?_)
    rintro (e | report) s' ends
    · exact ends
    · exact ends
  refine written.bind (fun report s' ends => ?_) fun e s' ends => .inl ends
  obtain ⟨rfl, received⟩ := ends
  refine LoggedT.ends_ofLogged ?_
  change Delivered _ m _ s.tree ((Report.ofModule (outputPath output c) m).lines json) s'
  by_cases reportable : Reportable output json
  · obtain ⟨text, lines⟩ := exists_lines reportable c m
    rw [lines]
    exact ⟨reportable, received⟩
  · rw [lines_of_not_reportable reportable]
    exact .inr ⟨reportable, rfl, received⟩

/-- What becomes of a tree when a file is to be generated. After a failure there are new directories
at most; or the module that has been loaded is in its file, and it is the report that cannot be
shown. -/
theorem ends_runGenerate (input : Input) (output : Option Path) (json : Bool) (s : Memory.State) :
    (runGenerate input output false json).Ends s fun outcome s' =>
      (∀ text, outcome = .ok text → Reportable output json) ∧
      ∀ e, outcome = .error e → (∃ around, Alters ∅ around s.tree s'.tree) ∨
        ¬ Reportable output json ∧ e = .noReport ∧ ∃ c m l,
          (input.loadModule.run s).1.outcome = .ok (c, m) ∧
          Receives (outputPath output c).Around (outputPath output c) (encode m.text) l s.tree
            s'.tree := by
  rw [runGenerate_eq]
  have loading : input.loadModule.Ends s fun outcome s' =>
      outcome = (input.loadModule.run s).1.outcome ∧ s'.tree = s.tree :=
    ⟨rfl, LoggedT.ends_of_reads input.reads_loadModule⟩
  refine loading.bind (fun loaded s₁ found => ?_) fun e s₁ found => ?_
  · obtain ⟨found, same⟩ := found
    refine (ends_deliver output json loaded.1 loaded.2 s₁).mono fun outcome s' delivered => ?_
    rw [same] at delivered
    refine ⟨?_, ?_⟩
    · rintro text rfl
      exact delivered.1
    · rintro e rfl
      rcases delivered with altered | ⟨unshown, rfl, l, received⟩
      · exact .inl ⟨_, altered⟩
      · exact .inr ⟨unshown, rfl, loaded.1, loaded.2, l, found.symm, received⟩
  · -- Loading has changed nothing.
    rw [found.2]
    exact ⟨fun text ok => (by cases ok), fun _ _ => .inl ⟨fun _ => False, Alters.refl _ _ _⟩⟩

/-- A command line that is to generate a file and fails leaves all files alone, if a report can be
shown. -/
theorem file_iff_of_failed
    (asked : Command.ofArguments arguments = .ok (.generate input output false json))
    (reportable : Reportable output json) (s : Memory.State) (failed : exitStatus arguments s ≠ 0)
    (l : Files.Location) (content : List UInt8) :
    (treeAfter arguments s).node? l = some (.file content) ↔
      s.tree.node? l = some (.file content) := by
  have ends := ends_runGenerate input output json s
  rw [treeAfter_of_command asked]
  cases outcome : ((Command.generate input output false json).runFrom s).1.outcome with
  | ok text => exact absurd ((exitStatus_eq_zero_iff asked s).mpr ⟨text, outcome⟩) failed
  | error e =>
    rcases ends.2 e outcome with ⟨around, altered⟩ | ⟨unshown, -⟩
    · exact altered.file_iff (Set.notMem_empty l)
    · exact absurd reportable unshown

/-- A command line fails that is to generate a file and asks for a report that cannot be shown. It
leaves all files alone, or puts the module in its file and reports nothing. -/
theorem failed_of_not_reportable
    (asked : Command.ofArguments arguments = .ok (.generate input output false json))
    (unshown : ¬ Reportable output json) (s : Memory.State) :
    exitStatus arguments s ≠ 0 ∧
      ((∀ l content, (treeAfter arguments s).node? l = some (.file content) ↔
          s.tree.node? l = some (.file content)) ∨
        ∃ c m target, (input.loadModule.run s).1.outcome = .ok (c, m) ∧
          ((Command.generate input output false json).runFrom s).1.outcome = .error .noReport ∧
          (treeAfter arguments s).read (outputPath output c) = .ok (.ok (encode m.text)) ∧
          (treeAfter arguments s).locate (outputPath output c) = .ok target ∧
          ∀ l ≠ target, ∀ content, (treeAfter arguments s).node? l = some (.file content) ↔
            s.tree.node? l = some (.file content)) := by
  have ends := ends_runGenerate input output json s
  have failed : exitStatus arguments s ≠ 0 := by
    intro done
    obtain ⟨text, ok⟩ := (exitStatus_eq_zero_iff asked s).mp done
    exact unshown (ends.1 text ok)
  refine ⟨failed, ?_⟩
  rw [treeAfter_of_command asked]
  cases outcome : ((Command.generate input output false json).runFrom s).1.outcome with
  | ok text => exact absurd (ends.1 text outcome) unshown
  | error e =>
    rcases ends.2 e outcome with ⟨around, altered⟩ | ⟨-, rfl, c, m, target, loads, received⟩
    · exact .inl fun l content => altered.file_iff (Set.notMem_empty l)
    · refine .inr ⟨c, m, target, loads, rfl, received.read, received.located, ?_⟩
      exact fun l other content => received.alters.file_iff (by simpa using other)

/-- Where no operation fails, the module that is loaded is delivered. -/
theorem ends_runGenerate_look (input : Input) (output : Option Path) (json : Bool) (t : Tree) :
    (runGenerate input output false json).Ends ⟨t, []⟩ fun outcome s' =>
      (∀ e, (input.loadModule.look t).outcome = .error e → outcome = .error e) ∧
      ∀ c m, (input.loadModule.look t).outcome = .ok (c, m) →
        Delivered (outputPath output c) m (Reportable output json) t outcome s' := by
  rw [runGenerate_eq]
  refine (LoggedT.ends_look input.reads_loadModule t).bind (fun loaded s₁ found => ?_)
    fun e s₁ found => ?_
  · obtain ⟨found, rfl⟩ := found
    refine (ends_deliver output json loaded.1 loaded.2 ⟨t, []⟩).mono fun outcome s' delivered => ?_
    refine ⟨fun e failed => (by cases found.trans failed), fun c m loads => ?_⟩
    obtain rfl := Except.ok.inj (found.trans loads)
    exact delivered
  · refine ⟨fun e' failed => ?_, fun c m loads => (by cases found.1.trans loads)⟩
    rw [Except.error.inj (found.1.trans failed)]

theorem delivered_runFrom (output : Option Path) (json : Bool)
    (loads : (input.loadModule.look t).outcome = .ok (c, m)) :
    Delivered (outputPath output c) m (Reportable output json) t
      ((Command.generate input output false json).runFrom ⟨t, []⟩).1.outcome
      ((Command.generate input output false json).runFrom ⟨t, []⟩).2 :=
  (ends_runGenerate_look input output json t).2 c m loads

/-- To generate a file with success is to load a module and to put its text in the file. -/
theorem exists_receives_of_generated
    (asked : Command.ofArguments arguments = .ok (.generate input output false json))
    (done : exitStatus arguments ⟨t, []⟩ = 0) :
    ∃ c m l, (input.loadModule.look t).outcome = .ok (c, m) ∧
      Receives (outputPath output c).Around (outputPath output c) (encode m.text) l t
        (treeAfter arguments ⟨t, []⟩) := by
  obtain ⟨text, ok⟩ := (exitStatus_eq_zero_iff asked _).mp done
  rw [treeAfter_of_command asked]
  cases loads : (input.loadModule.look t).outcome with
  | error e =>
    have failed := (ends_runGenerate_look input output json t).1 e loads
    cases ok.symm.trans failed
  | ok loaded =>
    have delivered := delivered_runFrom output json loads
    rw [ok] at delivered
    obtain ⟨-, l, received⟩ := delivered
    exact ⟨loaded.1, loaded.2, l, rfl, received⟩

/-- To generate once more what is already in the file changes nothing in it. -/
theorem read_treeAfter_of_read
    (asked : Command.ofArguments arguments = .ok (.generate input output false json))
    (loads : (input.loadModule.look t).outcome = .ok (c, m))
    (read : t.read (outputPath output c) = .ok (.ok (encode m.text))) :
    (treeAfter arguments ⟨t, []⟩).read (outputPath output c) = .ok (.ok (encode m.text)) := by
  have delivered := delivered_runFrom output json loads
  rw [treeAfter_of_command asked]
  cases outcome : ((Command.generate input output false json).runFrom ⟨t, []⟩).1.outcome with
  | ok text =>
    rw [outcome] at delivered
    obtain ⟨-, l, received⟩ := delivered
    exact received.read
  | error e =>
    -- This run may fail, but then it has left the file alone or put the same text in it.
    rw [outcome] at delivered
    rcases delivered with altered | ⟨-, -, l, received⟩
    · exact altered.read (by simp) read
    · exact received.read

/-! ### Comparing -/

/-- Comparing a module with a file succeeds if the file has its text. -/
theorem exists_look_check_iff (output : Option Path) (json : Bool) (c : Config) (m : Module) :
    (∃ text, ((deliver output true json (c, m)).look t).outcome = .ok text) ↔
      t.read (outputPath output c) = .ok (.ok (encode m.text)) := by
  have reads := reads_isUpToDate m (outputPath output c)
  rw [deliver, ← comparison_eq_ok_true_iff]
  simp only [if_true]
  rw [LoggedT.look_bind (reads.mapError _), LoggedT.look_mapError reads, look_isUpToDate,
    Logged.outcome_bind]
  simp only [bind_eq_ok_iff, Logged.outcome_mapError, mapError_eq_ok_iff]
  -- A file that differs is found with success, and then reported as a failure.
  constructor
  · rintro ⟨text, upToDate, found, ok⟩
    cases upToDate with
    | false => cases ok
    | true => exact found
  · intro found
    exact ⟨_, true, found, rfl⟩

/-- A command line that is to compare succeeds if there is a module and the file has its text. -/
theorem check_eq_zero_iff
    (asked : Command.ofArguments arguments = .ok (.generate input output true json)) :
    exitStatus arguments ⟨t, []⟩ = 0 ↔ ∃ c m, (input.loadModule.look t).outcome = .ok (c, m) ∧
      t.read (outputPath output c) = .ok (.ok (encode m.text)) := by
  have ran : ((Command.generate input output true json).runFrom ⟨t, []⟩).1 =
      input.loadModule.look t >>= fun loaded => (deliver output true json loaded).look t := by
    rw [← LoggedT.look_bind input.reads_loadModule, ← runGenerate_eq]
    rfl
  rw [exitStatus_eq_zero_iff asked, ran, Logged.outcome_bind]
  simp only [bind_eq_ok_iff, ← exists_look_check_iff output json]
  constructor
  · rintro ⟨text, ⟨c, m⟩, loads, ok⟩
    exact ⟨c, m, loads, text, ok⟩
  · rintro ⟨c, m, loads, text, ok⟩
    exact ⟨text, (c, m), loads, ok⟩

/-! ### Two runs -/

/-- The module is loaded as before, if what has been written is none of what is read, and if a
directory that was not there is still not there. -/
theorem loadModule_of_receives {around : Path → Prop} {written : Path} {content : List UInt8}
    {l : Files.Location} (wellFormed : t.WellFormed)
    (received : Receives around written content l t t') (apart : input.Avoids t' l)
    (missing : ∀ path, input.directory = some path →
      t.list path = .error .notFound → t'.list path = .error .notFound)
    (loads : (input.loadModule.look t).outcome = .ok (c, m)) :
    (input.loadModule.look t').outcome = .ok (c, m) := by
  rw [Input.loadModule_eq_ok_iff] at loads ⊢
  obtain ⟨config, d, document, emitted⟩ := loads
  exact ⟨Input.loadConfig_of_receives received apart config, d,
    Input.loadDocument_of_receives wellFormed received apart missing document, emitted⟩

/-- What command lines do to files. If nothing is to be written the tree is left alone. If a file
cannot be generated all files are, unless the report is to be JSON and its path is no text: then the
command fails in any case, and the module may be in its file. Comparing succeeds if the
configuration is accepted, the document is loaded, what is selected of it is compiled, and the file
has the text. If a file has been generated, comparing it next succeeds and generating it once more
changes nothing in it, unless the file is among what is read or a directory to be read was missing
before and is there now. -/
theorem runs_and_files (arguments : List Argument) :
    ((∀ command, Command.ofArguments arguments = .ok command → command.writes = false) →
      ∀ s, treeAfter arguments s = s.tree) ∧
    (∀ input output json,
      Command.ofArguments arguments = .ok (.generate input output false json) →
      (Reportable output json → ∀ s, exitStatus arguments s ≠ 0 → ∀ l content,
        (treeAfter arguments s).node? l = some (.file content) ↔
          s.tree.node? l = some (.file content)) ∧
      (¬ Reportable output json → ∀ s, exitStatus arguments s ≠ 0 ∧
        ((∀ l content, (treeAfter arguments s).node? l = some (.file content) ↔
            s.tree.node? l = some (.file content)) ∨
          ∃ c m target, (input.loadModule.run s).1.outcome = .ok (c, m) ∧
            ((Command.generate input output false json).runFrom s).1.outcome = .error .noReport ∧
            (treeAfter arguments s).read (outputPath output c) = .ok (.ok (encode m.text)) ∧
            (treeAfter arguments s).locate (outputPath output c) = .ok target ∧
            ∀ l ≠ target, ∀ content, (treeAfter arguments s).node? l = some (.file content) ↔
              s.tree.node? l = some (.file content)))) ∧
    (∀ input output json,
      Command.ofArguments arguments = .ok (.generate input output true json) →
      ∀ t : Tree, exitStatus arguments ⟨t, []⟩ = 0 ↔
        ∃ c d m, (input.loadConfig.look t).outcome = .ok c ∧
          (input.loadDocument.look t).outcome = .ok d ∧
          (emit c.options (d.filter c.allows)).outcome = .ok m ∧
          t.read (outputPath output c) = .ok (.ok (encode m.text))) ∧
    ∀ input output json,
      Command.ofArguments arguments = .ok (.generate input output false json) →
      Command.ofArguments (withCheck arguments) = .ok (.generate input output true json) ∧
      ∀ t t' : Tree, t.WellFormed → exitStatus arguments ⟨t, []⟩ = 0 →
        treeAfter arguments ⟨t, []⟩ = t' →
        (∀ c l, (input.loadConfig.look t).outcome = .ok c →
          t'.locate (outputPath output c) = .ok l → input.Avoids t' l) →
        (∀ path, input.directory = some path →
          t.list path = .error .notFound → t'.list path = .error .notFound) →
        (∀ comparing, Command.ofArguments comparing = .ok (.generate input output true json) →
          exitStatus comparing ⟨t', []⟩ = 0) ∧
        ∃ c content, (input.loadConfig.look t).outcome = .ok c ∧
          t'.read (outputPath output c) = .ok (.ok content) ∧
          (treeAfter arguments ⟨t', []⟩).read (outputPath output c) = .ok (.ok content) := by
  refine ⟨treeAfter_of_reads, fun input output json asked =>
    ⟨file_iff_of_failed asked, failed_of_not_reportable asked⟩, ?_, ?_⟩
  · intro input output json asked t
    rw [check_eq_zero_iff asked]
    simp only [Input.loadModule_eq_ok_iff]
    constructor
    · rintro ⟨c, m, ⟨config, d, document, emitted⟩, read⟩
      exact ⟨c, d, m, config, document, emitted, read⟩
    · rintro ⟨c, d, m, config, document, emitted, read⟩
      exact ⟨c, m, ⟨config, d, document, emitted⟩, read⟩
  · intro input output json asked
    refine ⟨Command.ofArguments_withCheck asked, ?_⟩
    rintro t _ wellFormed done rfl avoids missing
    obtain ⟨c, m, l, loads, received⟩ := exists_receives_of_generated asked done
    have config := (Input.loadModule_eq_ok_iff.mp loads).1
    -- What has been loaded in the first run is loaded in every run after it.
    have again := loadModule_of_receives wellFormed received (avoids c l config received.located)
      missing loads
    constructor
    · intro comparing asked'
      exact (check_eq_zero_iff asked').mpr ⟨c, m, again, received.read⟩
    · exact ⟨c, encode m.text, config, received.read,
        read_treeAfter_of_read asked again received.read⟩

/-- A bundle with one object type that has no fields. -/
def emptyType : Json.Value := .object [("A", .object [("properties", .object [])])]

/-- A tree with that bundle. -/
def shelf : Tree := ⟨[([encode "b.json"], .file (encode emptyType.compact))], by decide⟩

/-- A command line that generates a file from the bundle. -/
def fromShelf : List Argument := ["generate", "--bundle", "b.json", "--output", "s.ts"].map encode

/-- What the tree becomes by it. -/
def shelfAfter : Tree := treeAfter fromShelf ⟨shelf, []⟩

/-- The file is not the bundle. -/
theorem avoids_shelfAfter {l : Files.Location}
    (located : shelfAfter.locate (.ofString "s.ts") = .ok l) :
    Input.Avoids { bundle := some (.ofString "b.json") } shelfAfter l := by
  have bundle : shelfAfter.locate (.ofString "b.json") = .ok [encode "b.json"] := by decide +kernel
  have target : shelfAfter.locate (.ofString "s.ts") = .ok [encode "s.ts"] := by decide +kernel
  obtain rfl := Except.ok.inj (target.symm.trans located)
  refine ⟨fun path given => (by cases given), fun path given => ?_,
    fun path given => (by cases given)⟩
  cases given
  rw [bundle]
  decide

/-- A path that is no text. -/
def unprintable : Path := ⟨[0x73, 0xff]⟩

/-- A tree with that bundle, and a file to which that path leads. -/
def shelfWithOld : Tree :=
  ⟨[([encode "b.json"], .file (encode emptyType.compact)), ([[0x73, 0xff]], .file [0x31])],
    by decide⟩

/-- A command line that generates that file, and asks for a report as JSON. -/
def unreported : List Argument :=
  ["generate", "--bundle", "b.json", "--json", "--output"].map encode ++ [unprintable.bytes]

theorem locate_unprintable :
    (treeAfter unreported ⟨shelfWithOld, []⟩).locate unprintable = .ok [[0x73, 0xff]] := by
  decide +kernel

/-- The file is no longer what it was. -/
theorem node?_unprintable_ne :
    (treeAfter unreported ⟨shelfWithOld, []⟩).node? [[0x73, 0xff]] ≠ some (.file [0x31]) := by
  decide +kernel

theorem runs_and_files_fromShelf :
    treeAfter (withCheck fromShelf) ⟨shelf, [none, some ⟨.notFound, 0⟩]⟩ = shelf ∧
    (∀ l content, (treeAfter fromShelf ⟨shelf, [none, none, some ⟨.notDirectory, 0⟩]⟩).node? l =
        some (.file content) ↔ shelf.node? l = some (.file content)) ∧
    exitStatus (withCheck fromShelf) ⟨shelf, []⟩ ≠ 0 ∧
    exitStatus (withCheck fromShelf) ⟨shelfAfter, []⟩ = 0 ∧
    (∃ content, shelfAfter.read (.ofString "s.ts") = .ok (.ok content) ∧
      (treeAfter fromShelf ⟨shelfAfter, []⟩).read (.ofString "s.ts") = .ok (.ok content)) ∧
    exitStatus unreported ⟨shelfWithOld, []⟩ ≠ 0 ∧
    ∃ m : Module, (treeAfter unreported ⟨shelfWithOld, []⟩).read unprintable =
        .ok (.ok (encode m.text)) ∧
      ∀ l ≠ [[0x73, 0xff]], ∀ content,
        (treeAfter unreported ⟨shelfWithOld, []⟩).node? l = some (.file content) ↔
          shelfWithOld.node? l = some (.file content) := by
  have asked : Command.ofArguments fromShelf = .ok
      (.generate { bundle := some (.ofString "b.json") } (some (.ofString "s.ts")) false false) :=
    rfl
  obtain ⟨-, failing, -, generating⟩ := runs_and_files fromShelf
  obtain ⟨reading, -, comparing, -⟩ := runs_and_files (withCheck fromShelf)
  obtain ⟨asked', twice⟩ := generating _ _ _ asked
  have writesNothing : ∀ command, Command.ofArguments (withCheck fromShelf) = .ok command →
      command.writes = false := by
    rintro command asks
    rw [asked'] at asks
    cases asks
    rfl
  have reportable : Reportable (some (.ofString "s.ts")) false := fun json => (by cases json)
  have failed : exitStatus fromShelf ⟨shelf, [none, none, some ⟨.notDirectory, 0⟩]⟩ ≠ 0 := by
    decide +kernel
  have done : exitStatus fromShelf ⟨shelf, []⟩ = 0 := by decide +kernel
  have missing : shelf.read (.ofString "s.ts") = .error .notFound := by decide +kernel
  obtain ⟨compares, c, content, -, read, again⟩ := twice shelf shelfAfter
    (wellFormed_of_entries (by decide)) done rfl (fun c l _ => avoids_shelfAfter)
    (fun path given => (by cases given))
  -- The report on the other file cannot be shown, but the file has been written.
  have unshown : ¬ Reportable (some unprintable) true := fun reportable =>
    absurd (reportable rfl unprintable rfl) (by decide)
  obtain ⟨-, unreporting, -, -⟩ := runs_and_files unreported
  obtain ⟨fails, same | ⟨c', m, l, -, -, written, located, others⟩⟩ :=
    (unreporting { bundle := some (.ofString "b.json") } (some unprintable) true rfl).2 unshown
      ⟨shelfWithOld, []⟩
  · exact absurd ((same [[0x73, 0xff]] [0x31]).mpr rfl) node?_unprintable_ne
  · cases Except.ok.inj (locate_unprintable.symm.trans located)
    refine ⟨reading writesNothing _, (failing _ _ _ asked).1 reportable _ failed,
      fun upToDate => ?_, compares _ asked', ⟨content, read, again⟩, fails, m, written, others⟩
    obtain ⟨c', d, m, -, -, -, read'⟩ := (comparing _ _ _ asked' shelf).mp upToDate
    rw [show outputPath (some (.ofString "s.ts")) c' = .ofString "s.ts" from rfl, missing] at read'
    cases read'

/-- A command line that generates a file from the bundle, since its directory is not there; but the
file goes into that directory. -/
def intoDirectory : List Argument :=
  ["generate", "--dir", "out", "--bundle", "b.json", "--output", "out/s.ts"].map encode

/-- The input of that command line. -/
def shelfOrDirectory : Input :=
  { bundle := some (.ofString "b.json"), directory := some (.ofString "out") }

/-- What the tree becomes by it. -/
def shelfWithDirectory : Tree := treeAfter intoDirectory ⟨shelf, []⟩

/-- The file is neither the bundle nor one that counts for the directory. -/
theorem avoids_shelfWithDirectory {l : Files.Location}
    (located : shelfWithDirectory.locate (.ofString "out/s.ts") = .ok l) :
    shelfOrDirectory.Avoids shelfWithDirectory l := by
  have bundle : shelfWithDirectory.locate (.ofString "b.json") = .ok [encode "b.json"] := by
    decide +kernel
  have directory : shelfWithDirectory.locate (.ofString "out") = .ok [encode "out"] := by
    decide +kernel
  have target : shelfWithDirectory.locate (.ofString "out/s.ts") =
      .ok [encode "out", encode "s.ts"] := by decide +kernel
  obtain rfl := Except.ok.inj (target.symm.trans located)
  refine ⟨fun path given => (by cases given), fun path given => ?_, fun path given => ?_⟩
  · cases given
    rw [bundle]
    decide
  · cases given
    rintro ⟨parent, name, around, ending, here⟩
    obtain rfl := Except.ok.inj (directory.symm.trans around)
    obtain rfl : name = encode "s.ts" := by simpa using here
    exact absurd ending (by decide)

/-- What was generated from the bundle is not up to date, once the directory is there; and a file
has changed although the command line that was to generate it has failed. -/
theorem check_intoDirectory_ne_zero_and_node?_unreported_ne :
    (shelf.WellFormed ∧
      Command.ofArguments intoDirectory =
        .ok (.generate shelfOrDirectory (some (.ofString "out/s.ts")) false false) ∧
      exitStatus intoDirectory ⟨shelf, []⟩ = 0 ∧
      (∀ l, shelfWithDirectory.locate (.ofString "out/s.ts") = .ok l →
        shelfOrDirectory.Avoids shelfWithDirectory l) ∧
      exitStatus (withCheck intoDirectory) ⟨shelfWithDirectory, []⟩ ≠ 0) ∧
    shelfWithOld.WellFormed ∧
    Command.ofArguments unreported =
      .ok (.generate { bundle := some (.ofString "b.json") } (some unprintable) false true) ∧
    exitStatus unreported ⟨shelfWithOld, []⟩ ≠ 0 ∧
    shelfWithOld.node? [[0x73, 0xff]] = some (.file [0x31]) ∧
    (treeAfter unreported ⟨shelfWithOld, []⟩).node? [[0x73, 0xff]] ≠ some (.file [0x31]) := by
  exact ⟨⟨wellFormed_of_entries (by decide), rfl, by decide +kernel,
      fun l => avoids_shelfWithDirectory, by decide +kernel⟩,
    wellFormed_of_entries (by decide), rfl, by decide +kernel, rfl, node?_unprintable_ne⟩

end ValidatorGen
