import ValidatorGen.Proofs.Files.View
import ValidatorGen.Proofs.Loading
import ValidatorGen.Proofs.Workers

/-!
# Directories that are read by workers

The files of a directory are shared by workers, which report them as they get to them. So the order
of the reports is not determined, and if several files are bad it is not determined either which of
them the directory comes to. All else is: each file that counts is reported once, before the
directory is, and the document has the types in the order of the names of their files.

## Main definitions

* `Files.View.MayReport` — what loading a directory may come to, with what is reported
* `Files.View.MayLoad` — the same without what is reported
* `Files.View.Reports` — what is reported of a file

## Main results

* `mayReport_ok_iff` — if a directory is loaded, each of its files is reported once, in any order
* `mayLoad_iff` — a directory comes to what all files come to, or to the failure of one of them
* `mayLoad_loadDirectory` — to read the files one by one is one of the things that may happen
-/

namespace ValidatorGen

open Files Schema

variable {v : View} {path : Path} {names : List Name} {events : List Event}

/-! ### What is seen of files -/

theorem seen_loadValue (v : View) (path : Path) :
    (loadValue path : LoggedT Seeing _ _).seen v = .ofExcept (valueOf (v.read path)) := by
  rw [loadValue, LoggedT.seen_bind, LoggedT.seen_mapError, LoggedT.seen_ofAction]
  change Logged.ofExcept ((v.read path).mapError Failure.file) >>= _ = _
  rcases v.read path with e | e | bytes <;> rfl

theorem seen_loadBundle (v : View) (path : Path) :
    (loadBundle path : LoggedT Seeing _ _).seen v =
      Logged.ofExcept (valueOf (v.read path)) >>= loadedBundle path := by
  rw [loadBundle, LoggedT.seen_bind, seen_loadValue]
  congr 1
  funext value
  rw [LoggedT.seen_bind, LoggedT.seen_ofLogged, loadedBundle]
  cases Document.ofValue value <;> rfl

theorem seen_loadType (v : View) (path : Path) :
    (loadType path : LoggedT Seeing _ _).seen v = readType path (v.read path) := by
  rw [loadType, LoggedT.seen_bind, LoggedT.seen_ofLogged, readType]
  cases named : typeName path with
  | error e =>
    rw [typeOf, named]
    rfl
  | ok name =>
    change (loadValue path >>= _ : LoggedT Seeing Failure ObjectType).seen v = _
    rw [LoggedT.seen_bind, seen_loadValue]
    cases found : valueOf (v.read path) with
    | error e =>
      rw [typeOf, named, found]
      rfl
    | ok value =>
      rw [typeOf_of_named named found]
      change (LoggedT.ofLogged (.ofExcept ((ObjectType.ofValue name value).mapError .compile)) >>= _
        : LoggedT Seeing Failure ObjectType).seen v = _
      cases ObjectType.ofValue name value <;> rfl

theorem seen_loadTypes (v : View) (files : List Path) :
    (loadTypes files : LoggedT Seeing _ _).seen v = readFiles files v.read := by
  rw [loadTypes, readFiles]
  split
  · rw [LoggedT.seen_mapM]
    simp only [seen_loadType]
  · rw [LoggedT.seen_mapM]
    simp only [LoggedT.seen_apart, seen_loadType, outcome_readType]

/-- The files that count for a directory with the given names, in order. -/
def Files.View.typeFiles (v : View) (path : Path) (names : List Name) : List Path :=
  (((typeNames names).mergeSort byBytes).map path.entry).filter v.isFile

theorem seen_typeFiles (v : View) (path : Path) :
    (typeFiles path : LoggedT Seeing _ _).seen v =
      .ofExcept (((v.list path).mapError .file).map (v.typeFiles path)) := by
  rw [typeFiles, LoggedT.seen_bind, LoggedT.seen_mapError, LoggedT.seen_ofAction]
  change Logged.ofExcept ((v.list path).mapError Failure.file) >>= _ = _
  cases v.list path with
  | error e => rfl
  | ok names =>
    change (LoggedT.ofAction ((((typeNames names).mergeSort byBytes).map path.entry).filterM
      (fun file => Disk.isFile file) >>= fun files => pure (.ok files)) :
        LoggedT Seeing Failure (List Path)).seen v = _
    rw [LoggedT.seen_ofAction, ReaderT.run_bind, Seeing.run_filterM]
    rfl

theorem seen_loadDirectory (v : View) (path : Path) :
    (loadDirectory path : LoggedT Seeing _ _).seen v =
      Logged.ofExcept (((v.list path).mapError .file).map (v.typeFiles path)) >>= fun files =>
        readFiles files v.read >>= loadedDirectory path := by
  rw [loadDirectory, LoggedT.seen_bind, seen_typeFiles]
  congr 1
  funext files
  rw [LoggedT.seen_bind, seen_loadTypes]
  rfl

/-! ### What workers come to -/

namespace Files.View

/-- What loading a directory may come to when workers share its files. -/
def MayReport (v : View) (path : Path) (result : Logged Failure Document) : Prop :=
  match v.list path with
  | .error e => result = .fail (.file e)
  | .ok names =>
    ∃ types, ComesTo (fun file => readType file (v.read file)) (v.typeFiles path names) types ∧
      result = types >>= loadedDirectory path

/-- What loading a directory may come to when workers share its files, whatever is reported. -/
def MayLoad (v : View) (path : Path) (outcome : Except Failure Document) : Prop :=
  ∃ events, v.MayReport path ⟨events, outcome⟩

end Files.View

theorem mayReport_iff_of_error {e : Files.Error} (unlisted : v.list path = .error e)
    {result : Logged Failure Document} : v.MayReport path result ↔ result = .fail (.file e) := by
  rw [View.MayReport, unlisted]

theorem mayReport_iff (listed : v.list path = .ok names) {result : Logged Failure Document} :
    v.MayReport path result ↔
      ∃ types, ComesTo (fun file => readType file (v.read file)) (v.typeFiles path names) types ∧
        result = types >>= loadedDirectory path := by
  rw [View.MayReport, listed]

/-- The event is the one that tells of the object type in a file. -/
def Files.View.Reports (v : View) (file : Path) (event : Event) : Prop :=
  ∃ type, typeOf file (v.read file) = .ok type ∧ event = .loadedType file type.fields.length

theorem events_readType {type : ObjectType} (found : typeOf path (v.read path) = .ok type) :
    (readType path (v.read path)).events = [.loadedType path type.fields.length] := by
  rw [readType, found]
  rfl

/-- Files that hold object types are reported one by one. -/
theorem eq_flatMap_events_iff {order : List Path}
    (good : ∀ file ∈ order, ∃ type, typeOf file (v.read file) = .ok type) :
    events = order.flatMap (fun file => (readType file (v.read file)).events) ↔
      List.Forall₂ v.Reports order events := by
  induction order generalizing events with
  | nil => simp
  | cons file order ih =>
    obtain ⟨⟨type, found⟩, good⟩ := List.forall_mem_cons.mp good
    rw [List.flatMap_cons, events_readType found, List.singleton_append,
      List.forall₂_cons_left_iff]
    constructor
    · rintro rfl
      exact ⟨_, _, ⟨type, found, rfl⟩, (ih good).mp rfl, rfl⟩
    · rintro ⟨_, rest, ⟨type', found', rfl⟩, told, rfl⟩
      cases found.symm.trans found'
      rw [(ih good).mpr told]

/-- A directory is loaded exactly if all files that count hold object types. Then each of them is
reported once, in any order, and the directory after them. -/
theorem mayReport_ok_iff (listed : v.list path = .ok names) {d : Document} :
    v.MayReport path ⟨events, .ok d⟩ ↔ ∃ types,
      (v.typeFiles path names).mapM (fun file => typeOf file (v.read file)) = .ok types ∧
        .ofTypes types = d ∧ ∃ (order : List Path) (told : List Event),
          order.Perm (v.typeFiles path names) ∧ List.Forall₂ v.Reports order told ∧
            events = told ++ [.loadedDirectory path types.length] := by
  have good {types : List ObjectType} {order : List Path}
      (all : (v.typeFiles path names).mapM (fun file => typeOf file (v.read file)) = .ok types)
      (perm : order.Perm (v.typeFiles path names)) (file : Path) (mem : file ∈ order) :
      ∃ type, typeOf file (v.read file) = .ok type :=
    exists_of_mapM_eq_ok all (perm.mem_iff.mp mem)
  rw [mayReport_iff listed]
  constructor
  · rintro ⟨⟨told, types | types⟩, comes, same⟩
    · cases same
    · obtain ⟨all, order, perm, events⟩ := comesTo_ok_iff.mp comes
      simp only [outcome_readType] at all
      cases same
      exact ⟨types, all, rfl, order, told, perm,
        (eq_flatMap_events_iff (good all perm)).mp events, rfl⟩
  · rintro ⟨types, all, rfl, order, told, perm, reports, rfl⟩
    have events := (eq_flatMap_events_iff (good all perm)).mpr reports
    simp only [← outcome_readType] at all
    exact ⟨⟨told, .ok types⟩, comesTo_ok_iff.mpr ⟨all, order, perm, events⟩, rfl⟩

/-- In whatever order the workers get on, they come to what all files come to or to the failure of
one of them. -/
theorem mayLoad_iff (listed : v.list path = .ok names) {outcome : Except Failure Document} :
    v.MayLoad path outcome ↔
      (∃ types, (v.typeFiles path names).mapM (fun file => typeOf file (v.read file)) = .ok types ∧
        outcome = .ok (.ofTypes types)) ∨
      ∃ file ∈ v.typeFiles path names, ∃ e, typeOf file (v.read file) = .error e ∧
        outcome = .error e := by
  simp only [View.MayLoad, mayReport_iff listed]
  have comes := exists_comesTo_iff (fun file => readType file (v.read file))
    (v.typeFiles path names)
  simp only [outcome_readType] at comes
  constructor
  · rintro ⟨events, ⟨told, result⟩, work, same⟩
    rcases (comes result).mp ⟨told, work⟩ with ⟨types, all, rfl⟩ | ⟨file, mem, e, failed, rfl⟩
    · cases same
      exact .inl ⟨types, all, rfl⟩
    · cases same
      exact .inr ⟨file, mem, e, failed, rfl⟩
  · rintro (⟨types, all, rfl⟩ | ⟨file, mem, e, failed, rfl⟩)
    · obtain ⟨told, work⟩ := (comes (.ok types)).mpr (.inl ⟨types, all, rfl⟩)
      exact ⟨_, _, work, rfl⟩
    · obtain ⟨told, work⟩ := (comes (.error e)).mpr (.inr ⟨file, mem, e, failed, rfl⟩)
      exact ⟨_, _, work, rfl⟩

/-- One worker that reads all files in order comes to what several may come to. -/
theorem mayLoad_loadDirectory (v : View) (path : Path) :
    v.MayLoad path ((loadDirectory path : LoggedT Seeing _ _).seen v).outcome := by
  rw [seen_loadDirectory, Logged.outcome_bind]
  cases listed : v.list path with
  | error e => exact ⟨[], (mayReport_iff_of_error listed).mpr rfl⟩
  | ok names =>
    change v.MayLoad path (readFiles (v.typeFiles path names) v.read >>=
      loadedDirectory path).outcome
    rw [mayLoad_iff listed, Logged.outcome_bind, outcome_readFiles]
    cases read : (v.typeFiles path names).mapM fun file => typeOf file (v.read file) with
    | ok types => exact .inl ⟨types, rfl, rfl⟩
    | error e =>
      obtain ⟨file, mem, failed⟩ := exists_of_mapM_eq_error read
      exact .inr ⟨file, mem, e, failed, rfl⟩

end ValidatorGen
