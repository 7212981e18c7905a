import ValidatorGen.Event
import ValidatorGen.Failure
import ValidatorGen.Files.Disk
import ValidatorGen.Json.Reader
import ValidatorGen.Schema.Reading

/-!
# Loading documents

A bundle is one file with the whole document. A directory has one file for each object type, whose
name is that of the type followed by `.json`; other files are passed over, and the types come in the
order of the bytes of the file names. Of several sources the first that is there counts, even if it
cannot be loaded.

## Main definitions

* `loadBundle`, `loadDirectory` — the document of a bundle, or of a directory
* `loadTypes` — the object types in the files of a directory
* `Source.load` — the document of a source
* `loadFirst` — the document of the first source that is there
-/

namespace ValidatorGen

open Files Schema

variable {m : Type → Type} [Monad m] {σ : Type} [Disk m σ]

/-- The JSON value in a file. -/
def loadValue (path : Path) : LoggedT m Failure Json.Value := do
  let content ← (LoggedT.ofAction (Disk.read path)).mapError .file
  let bytes ← LoggedT.ofLogged (.ofExcept (content.mapError .unreadableJson))
  LoggedT.ofLogged (.ofExcept ((Json.Value.ofFile bytes).mapError .json))

/-- The document in a bundle. -/
def loadBundle (path : Path) : LoggedT m Failure Document := do
  let value ← loadValue path
  let document ← LoggedT.ofLogged (.ofExcept ((Document.ofValue value).mapError .compile))
  LoggedT.report (.loadedBundle path document.types.length)
  return document

/-- The object type for which a file is named. -/
def typeName (path : Path) : Except CompileError String :=
  match path.fileName?.bind fun name => Text.decode? (stem name) with
  | some name => .ok name
  | none => .error (.malformed none (.badFileName path))

/-- The object type in a file. -/
def loadType (path : Path) : LoggedT m Failure ObjectType := do
  let name ← LoggedT.ofLogged (.ofExcept ((typeName path).mapError .compile))
  let value ← loadValue path
  let type ← LoggedT.ofLogged (.ofExcept ((ObjectType.ofValue name value).mapError .compile))
  LoggedT.report (.loadedType path type.fields.length)
  return type

/-- The object types in files. One file is read on the spot. Several are read by workers, of which
each reports its own file. -/
def loadTypes (files : List Path) : LoggedT m Failure (List ObjectType) :=
  if files.length = 1 then files.mapM loadType
  else files.mapM fun file => (loadType file).apart

/-- The ending of the names of files with object types. -/
def typeExtension : Name := Text.encode "json"

/-- The files with object types in a directory, in order. -/
def typeFiles (path : Path) : LoggedT m Failure (List Path) := do
  let names ← (LoggedT.ofAction (Disk.list path)).mapError .file
  let named := names.filter fun name => extension? name = some typeExtension
  let sorted := named.mergeSort fun a b => decide (a ≤ b)
  let files := sorted.map path.entry
  LoggedT.ofAction do return .ok (← files.filterM fun file => Disk.isFile file)

/-- The document in a directory. -/
def loadDirectory (path : Path) : LoggedT m Failure Document := do
  let types ← loadTypes (← typeFiles path)
  LoggedT.report (.loadedDirectory path types.length)
  return .ofTypes types

/-- The document of a source. -/
def Source.load : Source → LoggedT m Failure Document
  | .bundle path => loadBundle path
  | .directory path => loadDirectory path

/-- The document of the first source that is there, and that source. -/
def loadFirst : List Source → LoggedT m Failure (Document × Source)
  | [] => LoggedT.fail .noSources
  | source :: others => do
    match ← (source.load).attempt with
    | .ok document => return (document, source)
    | .error (.file .notFound) =>
      LoggedT.report (.missingSource source .notFound)
      loadFirst others
    | .error e => LoggedT.fail e

end ValidatorGen
