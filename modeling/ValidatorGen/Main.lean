import ValidatorGen.Command.Run

/-!
# The program

Runs a command line on the file system of the machine.

## Main definitions

* `main` — run the arguments, print what they come to, and end with its status
-/

namespace ValidatorGen.Machine

open Files

/-- The error of the file system for which the machine's error stands. -/
def fileError : IO.Error → Files.Error
  | .noFileOrDirectory .. => .notFound
  | .alreadyExists _ code text | .invalidArgument _ code text | .permissionDenied _ code text
  | .resourceExhausted _ code text | .inappropriateType _ code text | .noSuchThing _ code text
  | .otherError code text | .resourceBusy code text | .resourceVanished code text
  | .unsupportedOperation code text | .hardwareFault code text | .unsatisfiedConstraints code text
  | .illegalOperation code text | .protocolError code text | .timeExpired code text
  | .interrupted _ code text => .ofCode code.toNat text
  | .unexpectedEof => .other 0 "unexpected end of file"
  | .userError text => .other 0 text

/-- Does something with the text of a path, and says how it failed if it did. -/
def attempt {α : Type} (path : Path) (action : String → IO α) : IO (Except Files.Error α) := do
  match Text.decode? path.bytes with
  | none => return .error .invalidPath
  | some text =>
    if text.toList.any (· = '\x00') then return .error .invalidPath
    else
      match ← (action text).toBaseIO with
      | .ok a => return .ok a
      | .error e => return .error (fileError e)

/-- What kind of thing a path leads to. -/
def kindOf? (path : Path) : IO (Option IO.FS.FileType) := do
  let kind ← attempt path fun text => do return (← (← IO.FS.realPath text).metadata).type
  return kind.toOption

/-- A number that differs from one moment to the next. -/
def freshNumber : IO Nat := IO.monoNanosNow

instance : Disk IO String where
  read path := do
    match ← attempt path fun text => IO.FS.Handle.mk text .read with
    | .error e => return .error e
    | .ok handle =>
      let content ← attempt path fun _ => handle.readBinToEnd
      return .ok (content.map fun bytes => bytes.toList)
  list path := attempt path fun text => do
    let entries ← (← IO.FS.realPath text).readDir
    return entries.toList.map fun entry => Text.encode entry.fileName
  isFile path := do return (← kindOf? path) matches some .file
  isDirectory path := do return (← kindOf? path) matches some .dir
  makeDirectory path := attempt path fun text => IO.FS.createDir text
  create path := attempt path fun text => do
    IO.FS.writeBinFile text .empty
    return text
  stage path := do
    let staged := path.entry (Text.encode (".staged" ++ toString (← freshNumber)))
    attempt staged fun text => do
      let _ ← IO.FS.Handle.mk text .writeNew
      return text
  write file bytes := attempt (.ofString file) fun text => do
    (← IO.FS.Handle.mk text .append).write ⟨bytes.toArray⟩
  sync staged := attempt (.ofString staged) fun text => do (← IO.FS.Handle.mk text .append).flush
  move staged path := do
    let moved ← attempt path fun text => IO.FS.rename staged text
    return moved.mapError fun e => if e = .invalidPath then .invalidArgument else e
  discard staged := do
    let _ ← attempt (.ofString staged) fun text => IO.FS.removeFile text

/-- An event as a line. -/
def eventLine (e : Event) : String :=
  let details := e.details.map fun (name, detail) =>
    " " ++ name ++ "=" ++ match detail with | .text s => s | .count n => toString n
  e.level.name ++ " " ++ e.message ++ String.join details ++ "\n"

/-- Runs a command line. Warnings are printed with the errors, before them. -/
def run (arguments : List String) : IO UInt32 := do
  let (events, outcome) ← runArguments arguments
  let warnings := events.filter fun e => e.level = .warn
  IO.eprint (String.join (warnings.map eventLine))
  IO.print outcome.output
  IO.eprint outcome.errors
  return outcome.status.toUInt32

end ValidatorGen.Machine

/-- Runs the arguments, prints what they come to, and ends with its status. -/
def main (arguments : List String) : IO UInt32 := ValidatorGen.Machine.run arguments
