import ValidatorGen.Proofs.Command.Bundling
import ValidatorGen.Proofs.Command.Selecting
import ValidatorGen.Proofs.Sources

/-!
# The steps of a command

A command loads its configuration, then its document, and goes on from there. Only in the second
step may workers share the files of a directory, so a command may come to whatever it comes to with
a document, or a failure, that they may come to.

## Main definitions

* `Command.loadConfig`, `Command.loadDocument`, `Command.finish` — the steps
* `Command.MayRun` — what a command may come to, however workers get on

## Main results

* `Command.run_eq` — a command takes these steps
* `exists_mayRun` — to read the files one by one is one of the things that may happen
-/

namespace ValidatorGen

open Files Files.Memory Schema Validator

namespace Command

/-- The configuration with which a command works. -/
def loadConfig : Command → LoggedT Memory Obstacle Config
  | .generate input _ _ _ | .validate input | .list input => input.loadConfig
  | .bundle _ _ => pure {}

/-- The document with which a command works. -/
def loadDocument : Command → LoggedT Memory Obstacle Document
  | .generate input _ _ _ | .validate input | .list input => input.loadDocument
  | .bundle directory _ => (loadDirectory directory).mapError (.types directory)

/-- What a command does with its configuration and its document. -/
def finish (c : Config) (d : Document) : Command → LoggedT Memory Obstacle String
  | .generate _ output check json => do
    let document ← LoggedT.ofLogged (c.select d)
    let module ← compiled c.options document
    deliver output check json (c, module)
  | .validate _ => do
    let document ← LoggedT.ofLogged (c.select d)
    let module ← compiled c.options document
    return compiledLine module.typeNames
  | .list _ => do
    let document ← LoggedT.ofLogged (c.select d)
    return listing document.names
  | .bundle _ output => do
    let _ ← compiled {} d
    makeAround output
    writeBundle output d

/-- A command takes its steps one after the other. -/
theorem run_eq (command : Command) : (command.run : LoggedT Memory _ _) =
    command.loadConfig >>= fun c => command.loadDocument >>= fun d => command.finish c d := by
  cases command with
  | generate input output check json =>
    rw [run, runGenerate_eq, Input.loadModule]
    simp only [Input.loadSelected, bind_assoc, pure_bind]
    rfl
  | validate input =>
    rw [run, runValidate_eq, Input.loadModule]
    simp only [Input.loadSelected, bind_assoc, pure_bind]
    rfl
  | list input =>
    rw [run, runList]
    simp only [Input.loadSelected, bind_assoc]
    rfl
  | bundle directory output =>
    rw [run, runBundle_eq]
    rfl

/-- What the loading of the document may come to when workers share the files of directories. -/
def MayLoad (v : View) : Command → Logged Obstacle Document → Prop
  | .generate input _ _ _ | .validate input | .list input => v.MayLoadDocument input
  | .bundle directory _ => fun result =>
    ∃ loaded, v.MayReport directory loaded ∧ result = loaded.mapError (.types directory)

/-- The command goes on with what loading its document has come to. -/
def runWith (loaded : Logged Obstacle Document) (command : Command) :
    LoggedT Memory Obstacle String :=
  command.loadConfig >>= fun c => LoggedT.ofLogged loaded >>= fun d => command.finish c d

/-- What a command may come to when workers share the files of directories: its outcome, what it
reports and the state after it. -/
def MayRun (t : Tree) (command : Command) (result : Logged Obstacle String × Memory.State) : Prop :=
  ∃ loaded, command.MayLoad t.view loaded ∧ (command.runWith loaded).run ⟨t, []⟩ = result

end Command

/-- On a tree in memory a command finds the document that it finds on any file system. -/
theorem Input.look_loadDocument (input : Input) (t : Tree) :
    (input.loadDocument : LoggedT Memory _ _).look t = t.view.loadDocument input := by
  rw [View.loadDocument, loadDocument, loadDocument]
  rcases input.sources with _ | ⟨source, _ | ⟨source', others⟩⟩
  · rfl
  · change (source.load.mapError _ : LoggedT Memory _ _).look t = _
    rw [LoggedT.look_mapError source.reads_load, source.look_load]
    rfl
  · have reads := reads_loadFirst (source :: source' :: others)
    change ((loadFirst (source :: source' :: others)).mapError _ >>= _ :
      LoggedT Memory _ _).look t = _
    rw [LoggedT.look_bind (reads.mapError _), LoggedT.look_mapError reads, look_loadFirst,
      LoggedT.seen_bind, LoggedT.seen_mapError]
    rfl

namespace Command

theorem reads_loadConfig (command : Command) : command.loadConfig.Reads := by
  cases command with
  | generate input | validate input | list input => exact input.reads_loadConfig
  | bundle directory output => exact LoggedT.reads_pure _

theorem reads_loadDocument (command : Command) : command.loadDocument.Reads := by
  cases command with
  | generate input | validate input | list input => exact input.reads_loadDocument
  | bundle directory output => exact (reads_loadDirectory directory).mapError _

/-- What loading the document of a command comes to is one of the things that may happen. -/
theorem exists_mayLoad (command : Command) (t : Tree) :
    ∃ events, command.MayLoad t.view ⟨events, (command.loadDocument.look t).outcome⟩ := by
  cases command with
  | generate input | validate input | list input =>
    change ∃ events, t.view.MayLoadDocument input ⟨events, (input.loadDocument.look t).outcome⟩
    rw [input.look_loadDocument]
    exact exists_mayLoadDocument t.view input
  | bundle directory output =>
    have same : (loadDirectory directory : LoggedT Memory _ _).look t = _ :=
      Source.look_load (.directory directory) t
    obtain ⟨events, loads⟩ := mayLoad_loadDirectory t.view directory
    refine ⟨events, _, loads, ?_⟩
    rw [loadDocument, LoggedT.look_mapError (reads_loadDirectory directory), same]
    rfl

/-- The command goes on alike from the same outcome of loading its document. -/
theorem runWith_look (command : Command) (t : Tree) (events : List Event) :
    ((command.runWith ⟨events, (command.loadDocument.look t).outcome⟩).run ⟨t, []⟩).1.outcome =
        (command.runFrom ⟨t, []⟩).1.outcome ∧
      ((command.runWith ⟨events, (command.loadDocument.look t).outcome⟩).run ⟨t, []⟩).2 =
        (command.runFrom ⟨t, []⟩).2 := by
  have config := LoggedT.run_of_reads command.reads_loadConfig t
  have document := LoggedT.run_of_reads command.reads_loadDocument t
  rw [runFrom, run_eq, runWith]
  generalize command.loadConfig.look t = first at config
  obtain ⟨told, e | c⟩ := first
  · rw [LoggedT.run_bind_of_error config, LoggedT.run_bind_of_error config]
    exact ⟨rfl, rfl⟩
  · -- To load the document changes nothing, so both go on from the same state.
    rw [LoggedT.run_bind_of_ok config, LoggedT.run_bind_of_ok config]
    generalize command.loadDocument.look t = second at document
    obtain ⟨told', e | d⟩ := second
    · rw [LoggedT.run_bind_of_error document]
      exact ⟨rfl, rfl⟩
    · rw [LoggedT.run_bind_of_ok document]
      exact ⟨rfl, rfl⟩

end Command

/-- What a command comes to is one of the things that may happen. -/
theorem exists_mayRun (command : Command) (t : Tree) :
    ∃ events, command.MayRun t
      (⟨events, (command.runFrom ⟨t, []⟩).1.outcome⟩, (command.runFrom ⟨t, []⟩).2) := by
  obtain ⟨events, loads⟩ := command.exists_mayLoad t
  obtain ⟨outcome, state⟩ := command.runWith_look t events
  rw [← outcome, ← state]
  exact ⟨_, _, loads, rfl⟩

end ValidatorGen
