import Mathlib.Data.List.Sort
import ValidatorGen.Loading
import ValidatorGen.Proofs.Files.Alteration
import ValidatorGen.Proofs.Files.Memory
import ValidatorGen.Proofs.Json.ReadBack
import ValidatorGen.Proofs.Schema.RoundTrip

/-!
# Loading documents, and files elsewhere

Loading only reads. What is loaded from a bundle depends on the content of one file alone; what is
loaded from a directory, on the files in it whose names end in the right way. So a document loads as
before when other files have changed, or when there are new directories. What is loaded is always
canonical.

## Main definitions

* `IsTypeFile` — a location is that of a file that counts for a directory
* `typeFilesIn` — the files that count for a directory, in order

## Main results

* `look_loadBundle_of_read` — a bundle loads alike where its file has the same content
* `look_loadDirectory_of_alters` — a directory loads alike where the files that count are the same
* `canonical_of_loadDirectory` — a document that has been loaded from a directory is canonical
-/

namespace ValidatorGen

open Files Files.Tree Files.Memory Schema

variable {path : Path} {t t' : Tree} {l : Files.Location}

/-! ### Loading only reads -/

theorem reads_loadValue (path : Path) : (loadValue path : LoggedT Memory _ _).Reads := by
  refine ((LoggedT.reads_ofAction (reads_read path)).mapError _).bind fun _ => ?_
  exact (LoggedT.reads_ofLogged _).bind fun _ => LoggedT.reads_ofLogged _

theorem reads_loadBundle (path : Path) : (loadBundle path : LoggedT Memory _ _).Reads := by
  refine (reads_loadValue path).bind fun _ => (LoggedT.reads_ofLogged _).bind fun _ => ?_
  exact (LoggedT.reads_ofLogged _).bind fun _ => LoggedT.reads_pure _

theorem reads_loadType (path : Path) : (loadType path : LoggedT Memory _ _).Reads := by
  refine (LoggedT.reads_ofLogged _).bind fun _ => (reads_loadValue path).bind fun _ => ?_
  refine (LoggedT.reads_ofLogged _).bind fun _ => (LoggedT.reads_ofLogged _).bind fun _ => ?_
  exact LoggedT.reads_pure _

theorem reads_loadTypes (files : List Path) : (loadTypes files : LoggedT Memory _ _).Reads := by
  rw [loadTypes]
  split
  · exact LoggedT.reads_mapM reads_loadType _
  · exact LoggedT.reads_mapM (fun file => (reads_loadType file).apart) _

theorem reads_typeFiles (path : Path) : (typeFiles path : LoggedT Memory _ _).Reads := by
  refine ((LoggedT.reads_ofAction (reads_list path)).mapError _).bind fun _ => ?_
  exact LoggedT.reads_ofAction ((reads_filterM reads_isFile _).bind fun _ => reads_pure _)

theorem reads_loadDirectory (path : Path) : (loadDirectory path : LoggedT Memory _ _).Reads := by
  refine (reads_typeFiles path).bind fun files => (reads_loadTypes files).bind fun _ => ?_
  exact (LoggedT.reads_ofLogged _).bind fun _ => LoggedT.reads_pure _

theorem Source.reads_load : ∀ source : Source, (source.load : LoggedT Memory _ _).Reads
  | .bundle path => reads_loadBundle path
  | .directory path => reads_loadDirectory path

theorem reads_loadFirst (sources : List Source) :
    (loadFirst sources : LoggedT Memory _ _).Reads := by
  induction sources with
  | nil => exact LoggedT.reads_ofLogged _
  | cons source others ih =>
    rw [loadFirst]
    refine source.reads_load.attempt.bind fun outcome => ?_
    split
    · exact LoggedT.reads_pure _
    · exact (LoggedT.reads_ofLogged _).bind fun _ => ih
    · exact LoggedT.reads_ofLogged _

/-! ### What is loaded -/

/-- The value that the content of a file stands for, or why there is none. -/
def valueOf (read : Except Files.Error (Except Files.Error (List UInt8))) :
    Except Failure Json.Value := do
  let content ← read.mapError .file
  let bytes ← content.mapError .unreadableJson
  (Json.Value.ofFile bytes).mapError .json

theorem look_loadValue (path : Path) (t : Tree) :
    ((loadValue path : LoggedT Memory _ _).look t) = .ofExcept (valueOf (t.read path)) := by
  rw [loadValue, LoggedT.look_ofAction_bind (reads_read path), look_read]
  cases t.read path with
  | error e => rfl
  | ok content =>
    cases content with
    | error e => rfl
    | ok bytes => rfl

/-- A file with a plain value comes to the value. -/
theorem valueOf_of_plain {value : Json.Value} (plain : value.Plain)
    (within : value.nesting ≤ Json.greatestNesting) :
    valueOf (.ok (.ok (Text.encode value.compact))) = .ok value := by
  have read : Json.Value.ofFile (Text.encode value.compact) = .ok value :=
    Json.Value.ofFile_of_spells (Json.spells_compact value plain) within
  change (Json.Value.ofFile (Text.encode value.compact)).mapError Failure.json = _
  rw [read]
  rfl

/-- What is reported of a bundle with a value, and its document. -/
def loadedBundle (path : Path) (value : Json.Value) : Logged Failure Document :=
  match Document.ofValue value with
  | .ok document => ⟨[.loadedBundle path document.types.length], .ok document⟩
  | .error e => .fail (.compile e)

theorem loadBundle_eq (path : Path) : (loadBundle path : LoggedT Memory _ _) =
    loadValue path >>= fun value => LoggedT.ofLogged (loadedBundle path value) := by
  rw [loadBundle]
  congr 1
  funext value
  rw [loadedBundle]
  cases Document.ofValue value <;> rfl

theorem look_loadBundle (path : Path) (t : Tree) :
    (loadBundle path : LoggedT Memory _ _).look t =
      Logged.ofExcept (valueOf (t.read path)) >>= loadedBundle path := by
  rw [loadBundle_eq, LoggedT.look_bind (reads_loadValue path), look_loadValue]
  rfl

/-- A bundle that has been loaded could be read. -/
theorem exists_read_of_loadBundle {d : Document}
    (h : ((loadBundle path : LoggedT Memory _ _).look t).outcome = .ok d) :
    ∃ content, t.read path = .ok (.ok content) := by
  rw [look_loadBundle, Logged.outcome_bind, bind_eq_ok_iff] at h
  obtain ⟨value, parsed, -⟩ := h
  obtain ⟨opened, found, parsed⟩ := bind_eq_ok_iff.mp parsed
  obtain ⟨content, read, -⟩ := bind_eq_ok_iff.mp parsed
  rw [mapError_eq_ok_iff] at found read
  exact ⟨content, by rw [found, read]⟩

/-- The object type for which a file is named, with the value in it. -/
def typeOf (path : Path) (read : Except Files.Error (Except Files.Error (List UInt8))) :
    Except Failure ObjectType := do
  let name ← (typeName path).mapError .compile
  let value ← valueOf read
  (ObjectType.ofValue name value).mapError .compile

/-- What is reported of a file, and the object type in it. -/
def readType (path : Path) (read : Except Files.Error (Except Files.Error (List UInt8))) :
    Logged Failure ObjectType :=
  Logged.ofExcept (typeOf path read) >>= fun type =>
    ⟨[.loadedType path type.fields.length], .ok type⟩

theorem outcome_readType (path : Path)
    (read : Except Files.Error (Except Files.Error (List UInt8))) :
    (readType path read).outcome = typeOf path read := by
  rw [readType]
  cases typeOf path read <;> rfl

theorem typeOf_of_named {path : Path} {name : String} {value : Json.Value}
    {read : Except Files.Error (Except Files.Error (List UInt8))} (named : typeName path = .ok name)
    (found : valueOf read = .ok value) :
    typeOf path read = (ObjectType.ofValue name value).mapError .compile := by
  rw [typeOf, named, found]
  rfl

theorem look_loadType (path : Path) (t : Tree) :
    (loadType path : LoggedT Memory _ _).look t = readType path (t.read path) := by
  rw [loadType, LoggedT.look_bind (LoggedT.reads_ofLogged _), LoggedT.look_ofLogged, readType]
  cases named : typeName path with
  | error e =>
    rw [typeOf, named]
    rfl
  | ok name =>
    change (loadValue path >>= _ : LoggedT Memory Failure ObjectType).look t = _
    rw [LoggedT.look_bind (reads_loadValue path), look_loadValue]
    cases found : valueOf (t.read path) with
    | error e =>
      rw [typeOf, named, found]
      rfl
    | ok value =>
      rw [typeOf_of_named named found]
      change (LoggedT.ofLogged (.ofExcept ((ObjectType.ofValue name value).mapError .compile)) >>= _
        : LoggedT Memory Failure ObjectType).look t = _
      cases ObjectType.ofValue name value <;> rfl

/-- What is reported of files, and the object types in them. -/
def readFiles (files : List Path)
    (read : Path → Except Files.Error (Except Files.Error (List UInt8))) :
    Logged Failure (List ObjectType) :=
  if files.length = 1 then files.mapM fun file => readType file (read file)
  else files.mapM fun file => .ofExcept (typeOf file (read file))

theorem look_loadTypes (files : List Path) (t : Tree) :
    (loadTypes files : LoggedT Memory _ _).look t = readFiles files t.read := by
  rw [loadTypes, readFiles]
  split
  · rw [LoggedT.look_mapM reads_loadType]
    simp only [look_loadType]
  · rw [LoggedT.look_mapM fun file => (reads_loadType file).apart]
    simp only [LoggedT.look_apart (reads_loadType _), look_loadType, outcome_readType]

theorem readFiles_congr {files : List Path}
    {read read' : Path → Except Files.Error (Except Files.Error (List UInt8))}
    (same : ∀ file ∈ files, read' file = read file) :
    readFiles files read' = readFiles files read := by
  have each : files.mapM (fun file => readType file (read' file)) =
      files.mapM fun file => readType file (read file) :=
    mapM_congr fun file mem => by rw [same file mem]
  have each' : (files.mapM fun file => (Logged.ofExcept (typeOf file (read' file)))) =
      files.mapM fun file => Logged.ofExcept (typeOf file (read file)) :=
    mapM_congr fun file mem => by rw [same file mem]
  rw [readFiles, readFiles, each, each']

/-- What is reported of a directory from which types have been loaded, and their document. -/
def loadedDirectory (path : Path) (types : List ObjectType) : Logged Failure Document :=
  ⟨[.loadedDirectory path types.length], .ok (.ofTypes types)⟩

/-- The workers report for themselves, but otherwise files come to what they come to one by one. -/
theorem outcome_readFiles (files : List Path)
    (read : Path → Except Files.Error (Except Files.Error (List UInt8))) :
    (readFiles files read).outcome = files.mapM fun file => typeOf file (read file) := by
  rw [readFiles]
  split
  · simp only [Logged.outcome_mapM, outcome_readType]
  · rw [Logged.outcome_mapM]
    rfl

/-- The order of names: that of their bytes. -/
def byBytes (a b : Name) : Bool := decide (a ≤ b)

/-- The names that are those of files with object types. -/
def typeNames (names : List Name) : List Name :=
  names.filter fun name => extension? name = some typeExtension

/-- The files that count for a directory with the given names, in order. -/
def typeFilesIn (t : Tree) (path : Path) (names : List Name) : List Path :=
  (((typeNames names).mergeSort byBytes).map path.entry).filter t.isFile

theorem look_typeFiles (path : Path) (t : Tree) :
    (typeFiles path : LoggedT Memory _ _).look t =
      .ofExcept (((t.list path).mapError .file).map (typeFilesIn t path)) := by
  rw [typeFiles, LoggedT.look_ofAction_bind (reads_list path), look_list]
  cases t.list path with
  | error e => rfl
  | ok names =>
    change (LoggedT.ofAction ((((typeNames names).mergeSort byBytes).map path.entry).filterM
      (fun file => Disk.isFile file) >>= fun files => pure (.ok files)) :
        LoggedT Memory Failure (List Path)).look t = _
    rw [LoggedT.look_ofAction ((reads_filterM reads_isFile _).bind fun _ => reads_pure _),
      look_bind (reads_filterM reads_isFile _), look_filterM reads_isFile]
    simp only [look_isFile]
    rfl

theorem look_loadDirectory (path : Path) (t : Tree) :
    (loadDirectory path : LoggedT Memory _ _).look t =
      Logged.ofExcept (((t.list path).mapError .file).map (typeFilesIn t path)) >>= fun files =>
        readFiles files t.read >>= loadedDirectory path := by
  rw [loadDirectory, LoggedT.look_bind (reads_typeFiles path), look_typeFiles]
  congr 1
  funext files
  rw [LoggedT.look_bind (reads_loadTypes files), look_loadTypes]
  rfl

/-- A document that is loaded from a directory has the types of the files that count. -/
theorem loadDirectory_eq_ok_iff {d : Document} :
    ((loadDirectory path : LoggedT Memory _ _).look t).outcome = .ok d ↔
      ∃ names types, t.list path = .ok names ∧
        ((typeFilesIn t path names).mapM fun file => typeOf file (t.read file)) = .ok types ∧
          Document.ofTypes types = d := by
  rw [look_loadDirectory, Logged.outcome_bind, bind_eq_ok_iff]
  simp only [Logged.outcome_bind, outcome_readFiles, bind_eq_ok_iff]
  constructor
  · rintro ⟨files, listed, types, read, same⟩
    cases list : t.list path with
    | error e =>
      rw [list] at listed
      cases listed
    | ok names =>
      rw [list] at listed
      cases listed
      cases same
      exact ⟨names, types, rfl, read, rfl⟩
  · rintro ⟨names, types, listed, read, rfl⟩
    rw [listed]
    exact ⟨_, rfl, types, read, rfl⟩

/-- The failure is met in what a file holds. -/
def Failure.Inside (e : Failure) : Prop :=
  (∃ cause, e = .unreadableJson cause) ∨ (∃ cause, e = .json cause) ∨ ∃ cause, e = .compile cause

/-- Where there is no value in a file, the file could not be opened or something is wrong in it. -/
theorem valueOf_eq_error {read : Except Files.Error (Except Files.Error (List UInt8))} {e : Failure}
    (h : valueOf read = .error e) :
    (∃ cause, read = .error cause ∧ .file cause = e) ∨ e.Inside := by
  rcases bind_eq_error_iff.mp h with unopened | ⟨content, -, h⟩
  · exact .inl (mapError_eq_error_iff.mp unopened)
  · apply Or.inr
    rcases bind_eq_error_iff.mp h with unread | ⟨bytes, -, invalid⟩
    · obtain ⟨cause, -, rfl⟩ := mapError_eq_error_iff.mp unread
      exact .inl ⟨cause, rfl⟩
    · obtain ⟨cause, -, rfl⟩ := mapError_eq_error_iff.mp invalid
      exact .inr (.inl ⟨cause, rfl⟩)

theorem typeOf_eq_error {path : Path} {read : Except Files.Error (Except Files.Error (List UInt8))}
    {e : Failure} (h : typeOf path read = .error e) :
    (∃ cause, read = .error cause ∧ .file cause = e) ∨ e.Inside := by
  rcases bind_eq_error_iff.mp h with unnamed | ⟨name, -, h⟩
  · obtain ⟨cause, -, rfl⟩ := mapError_eq_error_iff.mp unnamed
    exact .inr (.inr (.inr ⟨cause, rfl⟩))
  · rcases bind_eq_error_iff.mp h with invalid | ⟨value, -, malformed⟩
    · exact valueOf_eq_error invalid
    · obtain ⟨cause, -, rfl⟩ := mapError_eq_error_iff.mp malformed
      exact .inr (.inr (.inr ⟨cause, rfl⟩))

/-- What is missing when a directory is not found is the directory. -/
theorem loadDirectory_eq_notFound_iff :
    ((loadDirectory path : LoggedT Memory _ _).look t).outcome = .error (.file .notFound) ↔
      t.list path = .error .notFound := by
  rw [look_loadDirectory, Logged.outcome_bind]
  cases listed : t.list path with
  | error e =>
    change Except.error (Failure.file e) = _ ↔ _
    simp
  | ok names =>
    simp only [reduceCtorEq, iff_false]
    intro failed
    change (readFiles (typeFilesIn t path names) t.read >>= loadedDirectory path).outcome = _
      at failed
    rw [Logged.outcome_bind, outcome_readFiles, bind_eq_error_iff] at failed
    rcases failed with failed | ⟨types, -, done⟩
    · obtain ⟨file, mem, missing⟩ := exists_of_mapM_eq_error failed
      rcases typeOf_eq_error missing with ⟨cause, unopened, same⟩ | inside
      · cases same
        exact read_ne_notFound (List.mem_filter.mp mem).2 unopened
      · simp [Failure.Inside] at inside
    · cases done

/-! ### What is loaded is canonical -/

/-- A document that is loaded from a directory is canonical, and its fields are distinct. -/
theorem canonical_of_loadDirectory {d : Document}
    (h : ((loadDirectory path : LoggedT Memory _ _).look t).outcome = .ok d) :
    d.Canonical ∧ d.DistinctFields := by
  obtain ⟨names, types, -, read, rfl⟩ := loadDirectory_eq_ok_iff.mp h
  have sound : ∀ type ∈ types, FieldsSound type.fields := by
    intro type mem
    obtain ⟨file, -, found⟩ := exists_of_mem_mapM read mem
    rw [typeOf, bind_eq_ok_iff] at found
    obtain ⟨name, -, found⟩ := found
    rw [bind_eq_ok_iff] at found
    obtain ⟨value, -, found⟩ := found
    exact ObjectType.ofValue_sound (mapError_eq_ok_iff.mp found)
  exact ⟨fun type mem => ((sound type (Ordered.mem_of_mem_collect mem)).object true).canonical,
    fun type mem => ((sound type (Ordered.mem_of_mem_collect mem)).object true).distinct⟩

/-! ### Files elsewhere -/

variable {changed : Set Files.Location} {around : Path → Prop} {name : Name} {content : List UInt8}

/-- A bundle loads alike where its file is read alike. -/
theorem look_loadBundle_of_read (same : t'.read path = t.read path) :
    (loadBundle path : LoggedT Memory _ _).look t' =
      (loadBundle path : LoggedT Memory _ _).look t := by
  rw [look_loadBundle, look_loadBundle, same]

/-- The location is that of a file that counts for a directory, by its name. -/
def IsTypeFile (t : Tree) (path : Path) (l : Files.Location) : Prop :=
  ∃ parent name, t.locate path = .ok parent ∧ extension? name = some typeExtension ∧
    parent ++ [name] = l

theorem isName_of_extension (h : extension? name = some typeExtension) : IsName name := by
  refine ⟨?_, ?_, ?_⟩ <;> rintro rfl <;> exact absurd h (by decide)

/-- An entry of a directory that has a name is where its path leads. -/
theorem locate_entry_eq_ok_iff {parent : Files.Location} (located : t.locate path = .ok parent)
    (isName : IsName name) (proper : slash ∉ name) :
    t.locate (path.entry name) = .ok l ↔ usable (path.entry name) = .ok () ∧
      t.node? parent = some .directory ∧ parent ++ [name] = l ∧ name.length ≤ nameLimit ∧
        (t.node? l).isSome := by
  rw [locate_entry located proper, bind_eq_ok_iff]
  simp only [enter_eq_ok_iff, parent.towards_of_isName isName]
  constructor
  · rintro ⟨_, use, directory, same, there⟩
    exact ⟨use, directory, same, there isName⟩
  · rintro ⟨use, directory, same, there⟩
    exact ⟨(), use, directory, same, fun _ => there⟩

/-- A file that has not been changed is where the path of an entry leads in both trees or in
neither. -/
theorem isFile_entry_of_alters {parent : Files.Location} (h : Alters changed around t t')
    (located : t.locate path = .ok parent) (located' : t'.locate path = .ok parent)
    (directory : t.node? parent = some .directory) (isName : IsName name) (proper : slash ∉ name)
    (elsewhere : parent ++ [name] ∉ changed) :
    t'.isFile (path.entry name) ↔ t.isFile (path.entry name) := by
  have directory' := h.directories parent directory
  simp only [isFile_iff, locate_entry_eq_ok_iff located isName proper,
    locate_entry_eq_ok_iff located' isName proper, directory, directory']
  constructor
  · rintro ⟨l, content, ⟨use, -, rfl, short, -⟩, file⟩
    rw [h.file_iff elsewhere] at file
    exact ⟨_, content, ⟨use, trivial, rfl, short, by rw [file]; rfl⟩, file⟩
  · rintro ⟨l, content, ⟨use, -, rfl, short, -⟩, file⟩
    rw [← h.file_iff elsewhere] at file
    exact ⟨_, content, ⟨use, trivial, rfl, short, by rw [file]; rfl⟩, file⟩

/-- The files that count come in the order of their names, however the directory is listed. -/
theorem typeFilesIn_eq {names names' : List Name} (nodup : names.Nodup) (nodup' : names'.Nodup)
    (same : ∀ name, extension? name = some typeExtension →
      (name ∈ names' ∧ t'.isFile (path.entry name) ↔ name ∈ names ∧ t.isFile (path.entry name))) :
    typeFilesIn t' path names' = typeFilesIn t path names := by
  have sorted (t : Tree) (names : List Name) : (((typeNames names).mergeSort byBytes).filter
      fun name => t.isFile (path.entry name)).Pairwise fun a b => byBytes a b := by
    refine (List.pairwise_mergeSort ?_ ?_ _).sublist List.filter_sublist
    · intro a b c first second
      exact decide_eq_true (List.le_trans (of_decide_eq_true first) (of_decide_eq_true second))
    · intro a b
      simpa [byBytes] using List.le_total a b
  have distinct (t : Tree) {names : List Name} (nodup : names.Nodup) :
      (((typeNames names).mergeSort byBytes).filter fun name => t.isFile (path.entry name)).Nodup :=
    ((List.mergeSort_perm _ _).nodup_iff.mpr (nodup.filter _)).filter _
  have members (t : Tree) (names : List Name) (name : Name) :
      (name ∈ ((typeNames names).mergeSort byBytes).filter fun name => t.isFile (path.entry name)) ↔
        extension? name = some typeExtension ∧ name ∈ names ∧ t.isFile (path.entry name) := by
    rw [List.mem_filter, List.mem_mergeSort, typeNames, List.mem_filter]
    simp only [decide_eq_true_eq]
    tauto
  rw [typeFilesIn, typeFilesIn, List.filter_map, List.filter_map]
  -- Sorted lists without repetitions are the same if they have the same members.
  congr 1
  refine List.Perm.eq_of_pairwise (fun a b _ _ first second => ?_) (sorted t' names')
    (sorted t names) ?_
  · exact List.le_antisymm (of_decide_eq_true first) (of_decide_eq_true second)
  · refine (List.perm_ext_iff_of_nodup (distinct t' nodup') (distinct t nodup)).mpr fun name => ?_
    exact (members t' names' name).trans
      ((and_congr_right (same name)).trans (members t names name).symm)

/-- A directory loads alike where the files that count for it are the same: neither new directories
nor changes elsewhere matter. -/
theorem look_loadDirectory_of_alters {names : List Name} (h : Alters changed around t t')
    (wellFormed : t.WellFormed) (wellFormed' : t'.WellFormed) (listed : t.list path = .ok names)
    (apart : ∀ l ∈ changed, ¬ IsTypeFile t' path l) :
    (loadDirectory path : LoggedT Memory _ _).look t' =
      (loadDirectory path : LoggedT Memory _ _).look t := by
  obtain ⟨parent, located, directory, rfl⟩ := list_eq_ok_iff.mp listed
  have directory' := h.directories parent directory
  have located' : t'.locate path = .ok parent :=
    locate_of_directories h.directories located (by rw [directory']; rfl)
  have listed' : t'.list path = .ok (t'.names parent) :=
    list_eq_ok_iff.mpr ⟨parent, located', directory', rfl⟩
  have elsewhere {name : Name} (ending : extension? name = some typeExtension) :
      parent ++ [name] ∉ changed :=
    fun mem => apart _ mem ⟨parent, name, located', ending, rfl⟩
  have proper {t : Tree} (wellFormed : t.WellFormed) {name : Name} (mem : name ∈ t.names parent) :
      slash ∉ name :=
    (stands_concat_iff.mp (wellFormed _ (mem_names_iff.mp mem))).2.2.2
  -- A file in the directory is listed, so it is enough to compare what is a file.
  have inside {t : Tree} {name : Name} (located : t.locate path = .ok parent)
      (isName : IsName name) (proper : slash ∉ name) (file : t.isFile (path.entry name)) :
      name ∈ t.names parent := by
    obtain ⟨l, content, found, -⟩ := isFile_iff.mp file
    obtain ⟨-, -, rfl, -, there⟩ := (locate_entry_eq_ok_iff located isName proper).mp found
    exact mem_names_iff.mpr there
  have files : typeFilesIn t' path (t'.names parent) = typeFilesIn t path (t.names parent) := by
    refine typeFilesIn_eq (t.nodup_names parent) (t'.nodup_names parent) fun name ending => ?_
    have isName := isName_of_extension ending
    constructor
    · rintro ⟨mem, file⟩
      have file' := (isFile_entry_of_alters h located located' directory isName
        (proper wellFormed' mem) (elsewhere ending)).mp file
      exact ⟨inside located isName (proper wellFormed' mem) file', file'⟩
    · rintro ⟨mem, file⟩
      have file' := (isFile_entry_of_alters h located located' directory isName
        (proper wellFormed mem) (elsewhere ending)).mpr file
      exact ⟨inside located' isName (proper wellFormed mem) file', file'⟩
  have reads : ∀ file ∈ typeFilesIn t path (t.names parent), t'.read file = t.read file := by
    intro file mem
    obtain ⟨entry, isFile⟩ := List.mem_filter.mp mem
    obtain ⟨name, named, rfl⟩ := List.mem_map.mp entry
    rw [List.mem_mergeSort, typeNames, List.mem_filter, decide_eq_true_eq] at named
    obtain ⟨l, content, found, node⟩ := isFile_iff.mp isFile
    obtain ⟨-, -, rfl, -, -⟩ := (locate_entry_eq_ok_iff located (isName_of_extension named.2)
      (proper wellFormed named.1)).mp found
    have read : t.read (path.entry name) = .ok (.ok content) :=
      read_eq_ok_iff.mpr ⟨_, found, node⟩
    rw [read, h.read (fun l changed' same => ?_) read]
    obtain rfl := Except.ok.inj (found.symm.trans same)
    exact elsewhere named.2 changed'
  rw [look_loadDirectory, look_loadDirectory, listed, listed']
  change Logged.ofExcept (.ok (typeFilesIn t' path (t'.names parent))) >>= _ =
    Logged.ofExcept (.ok (typeFilesIn t path (t.names parent))) >>= _
  rw [files, Logged.ofExcept, Logged.ok_bind, Logged.ok_bind, readFiles_congr reads]

/-! ### After a file has been written -/

variable {written : Path} {d : Document}

/-- A bundle loads as before if it is not the file that has been written. -/
theorem loadBundle_of_receives (received : Receives around written content l t t')
    (apart : t'.locate path ≠ .ok l)
    (loaded : ((loadBundle path : LoggedT Memory _ _).look t).outcome = .ok d) :
    ((loadBundle path : LoggedT Memory _ _).look t').outcome = .ok d := by
  obtain ⟨bytes, read⟩ := exists_read_of_loadBundle loaded
  have read' := received.read_of_ne apart read
  rw [look_loadBundle_of_read (read'.trans read.symm), loaded]

/-- A directory loads as before if what has been written does not count for it. -/
theorem loadDirectory_of_receives (received : Receives around written content l t t')
    (wellFormed : t.WellFormed) (apart : ¬ IsTypeFile t' path l)
    (loaded : ((loadDirectory path : LoggedT Memory _ _).look t).outcome = .ok d) :
    ((loadDirectory path : LoggedT Memory _ _).look t').outcome = .ok d := by
  obtain ⟨names, -, listed, -⟩ := loadDirectory_eq_ok_iff.mp loaded
  rw [look_loadDirectory_of_alters received.alters wellFormed (received.wellFormed wellFormed)
    listed, loaded]
  rintro l' rfl
  exact apart

/-- What the first source that is there comes to. -/
theorem outcome_loadFirst_cons (source : Source) (others : List Source) (t : Tree) :
    ((loadFirst (source :: others) : LoggedT Memory _ _).look t).outcome =
      match ((source.load : LoggedT Memory _ _).look t).outcome with
      | .ok d => .ok (d, source)
      | .error (.file .notFound) => ((loadFirst others : LoggedT Memory _ _).look t).outcome
      | .error e => .error e := by
  rw [loadFirst, LoggedT.look_bind source.reads_load.attempt,
    LoggedT.look_attempt source.reads_load, Logged.ok_bind]
  cases ((source.load : LoggedT Memory _ _).look t).outcome with
  | ok d => rfl
  | error e =>
    -- Only a file that is not found is passed over.
    cases e with
    | file e => cases e <;> rfl
    | _ => rfl

/-- A document comes from the first source, or from the others if that is not found. -/
theorem loadFirst_cons_eq_ok_iff {source : Source} {others : List Source}
    {found : Document × Source} :
    ((loadFirst (source :: others) : LoggedT Memory _ _).look t).outcome = .ok found ↔
      (∃ d, ((source.load : LoggedT Memory _ _).look t).outcome = .ok d ∧ (d, source) = found) ∨
        ((source.load : LoggedT Memory _ _).look t).outcome = .error (.file .notFound) ∧
          ((loadFirst others : LoggedT Memory _ _).look t).outcome = .ok found := by
  rw [outcome_loadFirst_cons]
  cases ((source.load : LoggedT Memory _ _).look t).outcome with
  | ok d => simp
  | error e =>
    cases e with
    | file e => cases e <;> simp
    | _ => simp

end ValidatorGen
