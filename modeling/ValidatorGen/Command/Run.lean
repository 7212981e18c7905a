import ValidatorGen.Artifact
import ValidatorGen.Command.Arguments
import ValidatorGen.Config.Storage
import ValidatorGen.Json.Printer
import ValidatorGen.Loading

/-!
# Running commands

A command prints lines on success; on failure it prints nothing but the reason.

## Main definitions

* `Obstacle` — why a command fails
* `Command.run` — run a command
* `Outcome` — what a command line comes to
* `runCommandLine` — run a command line
-/

namespace ValidatorGen

open Files Schema Validator

/-- Why a command fails. -/
inductive Obstacle where
  /-- A configuration cannot be loaded. -/
  | config (path : Path) (failure : Failure)
  /-- The settings cannot be worked with. -/
  | settings (problem : ConfigProblem)
  /-- There is no source. -/
  | noSource
  /-- A document cannot be loaded. -/
  | document (failure : Failure)
  /-- A document cannot be compiled. -/
  | compile (error : CompileError)
  /-- The file of a module cannot be read. -/
  | unread (path : Path) (failure : Failure)
  /-- The file of a module does not hold the module. -/
  | outOfDate (path : Path)
  /-- A module cannot be written. -/
  | unwritten (path : Path) (failure : Failure)
  /-- The report has no text. -/
  | noReport
  /-- The object types to be bundled cannot be loaded. -/
  | types (path : Path) (failure : Failure)
  /-- The directory for a bundle cannot be made. -/
  | noDirectory (path : Path) (error : Files.Error)
  /-- A bundle cannot be written. -/
  | noBundle (path : Path) (error : Files.Error)
deriving DecidableEq

/-- A path between apostrophes. -/
def shown (path : Path) : String := "'" ++ path.display ++ "'"

/-- The reason, in words. -/
def Obstacle.message : Obstacle → String
  | .config path failure => "Failed to load config " ++ shown path ++ ": " ++ failure.message
  | .settings problem => invalidConfig problem
  | .noSource => "Specify a schema source: --dir, --bundle, or both"
  | .document failure => failure.message
  | .compile e => e.message
  | .unread path failure => "Failed to read " ++ shown path ++ ": " ++ failure.message
  | .outOfDate path =>
    shown path ++ " is out of date; run \x60schema-codegen generate\x60 to refresh it"
  | .unwritten path failure => "Failed to write " ++ shown path ++ ": " ++ failure.message
  | .noReport => "Failed to serialize report: " ++ Report.problem
  | .types path failure => "Failed to load " ++ shown path ++ ": " ++ failure.message
  | .noDirectory path e =>
    "Failed to create output directory " ++ shown path ++ ": " ++ e.message
  | .noBundle path e => "Failed to write " ++ shown path ++ ": " ++ e.message

variable {m : Type → Type} [Monad m] {σ : Type} [Disk m σ]

/-- The configuration for an input: that of its file, changed by its settings. Both must be ones
that can be worked with. -/
def Input.loadConfig (input : Input) : LoggedT m Obstacle Config := do
  let c ←
    match input.config with
    | some path => (Config.load path).mapError (.config path)
    | none => pure {}
  LoggedT.ofLogged (.ofExcept ((input.merge c).checked.mapError .settings))

/-- The document of an input. A source that is alone must be there. -/
def Input.loadDocument (input : Input) : LoggedT m Obstacle Document :=
  match input.sources with
  | [] => LoggedT.fail .noSource
  | [source] => source.load.mapError .document
  | sources => do
    let (document, _) ← (loadFirst sources).mapError .document
    return document

/-- The part of the document of an input that is compiled. -/
def Input.loadSelected (input : Input) (c : Config) : LoggedT m Obstacle Document := do
  let document ← input.loadDocument
  LoggedT.ofLogged (c.select document)

/-- The module of a document. -/
def compiled (options : Options) (document : Document) : LoggedT m Obstacle Module :=
  LoggedT.ofLogged ((emit options document).mapError .compile)

/-- Names with commas between them. -/
def commas (names : List String) : String := ", ".intercalate names

/-- What is printed about a module that has been written. -/
def Report.lines (report : Report) (json : Bool) : Except Obstacle String :=
  if json then
    match report.text? with
    | some text => .ok (text ++ "\n")
    | none => .error .noReport
  else
    .ok <| "Wrote " ++ shown report.output ++ " (" ++ toString report.bytes ++ " bytes, sha256 " ++
      report.sha256 ++ ").\n" ++ "Generated validators for: " ++ commas report.types ++ "\n"

/-- Compiles a document and writes the module, or compares it with the file that is there. -/
def runGenerate (input : Input) (output : Option Path) (check json : Bool) :
    LoggedT m Obstacle String := do
  let c ← input.loadConfig
  let path := output.getD (.ofString c.output)
  let document ← input.loadSelected c
  let module ← compiled c.options document
  if check then
    if ← (module.isUpToDate path).mapError (.unread path) then
      return shown path ++ " is up to date (" ++ toString module.typeNames.length ++
        " object type(s)).\n"
    else LoggedT.fail (.outOfDate path)
  else
    let report ← (module.write path).mapError (.unwritten path)
    LoggedT.ofLogged (.ofExcept (report.lines json))

/-- Compiles a document. -/
def runValidate (input : Input) : LoggedT m Obstacle String := do
  let c ← input.loadConfig
  let document ← input.loadSelected c
  let module ← compiled c.options document
  return "Compiled " ++ toString module.typeNames.length ++ " object type(s): " ++
    commas module.typeNames ++ "\n"

/-- Shows the object types and the names of their constants, without compiling anything. -/
def runList (input : Input) : LoggedT m Obstacle String := do
  let c ← input.loadConfig
  let document ← input.loadSelected c
  return String.join <| document.names.map fun name =>
    name ++ "\t" ++ Naming.safeIdentifier name ++ declarationSuffix ++ "\n"

/-- Puts the object types of a directory into one file, if they can be compiled. -/
def runBundle (directory output : Path) : LoggedT m Obstacle String := do
  let document ← (loadDirectory directory).mapError (.types directory)
  let _ ← compiled {} document
  match output.parent? with
  | some parent =>
    if !parent.bytes.isEmpty then
      (LoggedT.ofAction (createDirectories parent)).mapError (.noDirectory parent)
  | none => pure ()
  let content := Text.encode document.toValue.indented
  (LoggedT.ofAction (writeFile output content)).mapError (.noBundle output)
  return "Bundled " ++ toString document.types.length ++ " object type(s) into " ++
    shown output ++ ".\n"

/-- Runs a command; the result is what it prints. -/
def Command.run : Command → LoggedT m Obstacle String
  | .generate input output check json => runGenerate input output check json
  | .validate input => runValidate input
  | .list input => runList input
  | .bundle directory output => runBundle directory output

/-- What a command line comes to. -/
structure Outcome where
  /-- The status with which the program ends. -/
  status : Nat
  /-- What it prints. -/
  output : String
  /-- What it prints about errors. -/
  errors : String
deriving DecidableEq

/-- The version of the program. -/
def versionText : String := "schema-codegen 0.1.0\n"

/-- How the program is used. -/
def helpText : String :=
  "Compile platform object-type schemas into a zod validator module\n\nUsage: schema-codegen " ++
    "<COMMAND>\n\nCommands: " ++ commas (Verb.all.map Verb.name) ++ "\n"

/-- What a refused command line comes to. -/
def Refusal.outcome : Refusal → Outcome
  | .version => ⟨0, versionText, ""⟩
  | .help => ⟨0, helpText, ""⟩
  | .unusable => ⟨2, "", helpText⟩

/-- What a command comes to. -/
def outcomeOf (outcome : Except Obstacle String) : Outcome :=
  match outcome with
  | .ok output => ⟨0, output, ""⟩
  | .error obstacle => ⟨1, "", "error: " ++ obstacle.message ++ "\n"⟩

/-- Runs a command line; the events reported on the way come with what it comes to. -/
def runCommandLine (arguments : List Argument) : m (List Event × Outcome) := do
  match Command.ofArguments arguments with
  | .error refusal => return ([], refusal.outcome)
  | .ok command =>
    let logged ← command.run.run
    return (logged.events, outcomeOf logged.outcome)

/-- Runs a command line whose arguments are texts. -/
def runArguments (arguments : List String) : m (List Event × Outcome) :=
  runCommandLine (arguments.map Text.encode)

end ValidatorGen
