import ValidatorGen.Event
import ValidatorGen.Failure
import ValidatorGen.Files.Disk
import ValidatorGen.Report

/-!
# Modules in files

A module is written to a new file in the directory where it is to go, which then takes the place of
the old file. Readers see the old module or the new one, and a failure leaves the old one alone.

## Main definitions

* `Module.write` — write a module to a file
* `Module.isUpToDate` — whether a file holds just the module
-/

namespace ValidatorGen.Validator

open Files

variable {m : Type → Type} [Monad m] {σ : Type} [Disk m σ]

/-- The directory in which a file is staged before it is moved to a path. -/
def stagingDirectory (path : Path) : Path :=
  match path.parent? with
  | some parent => if parent.bytes.isEmpty then ⟨here⟩ else parent
  | none => ⟨here⟩

/-- Goes on after a step with a staged file, which is removed if the step has failed. -/
def orDiscard (staged : σ) (onError : Error → Failure) (step : m (Except Error Unit)) :
    LoggedT m Failure Unit :=
  LoggedT.ofAction do
    match ← step with
    | .ok () => return .ok ()
    | .error e =>
      Disk.discard staged
      return .error (onError e)

/-- Writes a module to a file, making the directories around it that are not there. -/
def Module.write (module : Module) (path : Path) : LoggedT m Failure Report := do
  let directory := stagingDirectory path
  (LoggedT.ofAction (createDirectories directory)).mapError .file
  let staged ← (LoggedT.ofAction (Disk.stage directory)).mapError .file
  orDiscard staged .file (Disk.write staged (Text.encode module.text))
  orDiscard staged .file (Disk.sync staged)
  orDiscard staged (.notMoved path) (Disk.move staged path)
  let report := Report.ofModule path module
  LoggedT.report (.wroteModule path report.bytes report.types.length)
  return report

/-- Whether a file holds the text of a module and nothing else. One that is not there does not. -/
def Module.isUpToDate (module : Module) (path : Path) : LoggedT m Failure Bool :=
  LoggedT.ofAction do
    match ← Disk.read path with
    | .ok (.ok content) => return .ok (content = Text.encode module.text)
    | .error .notFound | .ok (.error .notFound) => return .ok false
    | .error e | .ok (.error e) => return .error (.file e)

end ValidatorGen.Validator
