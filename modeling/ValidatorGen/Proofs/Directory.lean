import ValidatorGen.Proofs.Files.Names
import ValidatorGen.Proofs.Json.Agreement
import ValidatorGen.Proofs.Json.ReadBack
import ValidatorGen.Proofs.Schema.Blame
import ValidatorGen.Proofs.Sources
import ValidatorGen.Proofs.Text.Lossless

/-!
# The same types from a directory, a bundle or a text

A directory is one object whose members have been put into files of their own: the name of a file
without its ending is that of the member, and the members stand in the order of the bytes of the
file names. The files may be listed in any order, and read by workers that finish in any order; what
comes out is the document of that object, or the failure of a file. A bundle with a text of the
object, and the text itself, come to the same document.

## Main definitions

* `TypeFile` — a file that counts for a directory, and what it holds
* `Files.View.Lists`, `Files.View.Holds` — what stands in a directory, and the files that count

## Main results

* `Files.View.Holds.nodup_types` — no two files are for types of one name
* `Files.View.Holds.mayLoad_iff` — good files come to the document of the object, in any order
* `mayLoad_iff_of_one_bad` — if one file is bad, then its failure is what the directory comes to
* `outcome_loadBundle_of_text` — a bundle comes to what its text comes to
* `loading_agrees` — all of this together
-/

namespace ValidatorGen

open Files Schema

/-- A file that counts for a directory, with the name and the body of its object type. -/
structure TypeFile where
  /-- The name of the file. -/
  file : Name
  /-- The name of the object type. -/
  type : String
  /-- The value in the file. -/
  body : Json.Value

/-- The member that the object type would be in a bundle. -/
def TypeFile.member (f : TypeFile) : String × Json.Value := (f.type, f.body)

namespace Files.View

/-- The names are those of what stands in a directory, in any order. -/
structure Lists (v : View) (path : Path) (names : List Name) : Prop where
  /-- They are listed. -/
  list : v.list path = .ok names
  /-- Nothing is listed twice. -/
  distinct : names.Nodup
  /-- Names contain no slashes. -/
  proper : ∀ name ∈ names, slash ∉ name

/-- There is a file of the name, and it is named for an object type. -/
def Counts (v : View) (path : Path) (name : Name) : Prop :=
  extension? name = some typeExtension ∧ v.isFile (path.entry name)

instance (v : View) (path : Path) (name : Name) : Decidable (v.Counts path name) :=
  inferInstanceAs (Decidable (_ ∧ _))

/-- What the file of the name comes to by itself. -/
def typeIn (v : View) (path : Path) (name : Name) : Except Failure ObjectType :=
  typeOf (path.entry name) (v.read (path.entry name))

/-- The files that count are the given ones, in the order of the bytes of their names. -/
structure Holds (v : View) (path : Path) (names : List Name) (files : List TypeFile) : Prop where
  /-- They come in order, each once. -/
  sorted : (files.map TypeFile.file).Pairwise (· < ·)
  /-- They are all the files that count, and nothing else. -/
  mem_iff : ∀ name, name ∈ files.map TypeFile.file ↔ name ∈ names ∧ v.Counts path name
  /-- Each is named for its object type. -/
  named : ∀ f ∈ files, Text.encode f.type ++ dot :: typeExtension = f.file
  /-- Each holds its value. -/
  read : ∀ f ∈ files, valueOf (v.read (path.entry f.file)) = .ok f.body

end Files.View

variable {v : View} {path : Path} {names : List Name} {files : List TypeFile}

/-! ### The files in order -/

theorem nodup_of_pairwise_lt {names : List Name} (sorted : names.Pairwise (· < ·)) :
    names.Nodup := by
  refine sorted.imp fun {a b} less => ?_
  rintro rfl
  exact List.lt_irrefl a less

/-- Names in strict order are told apart by what is among them. -/
theorem eq_of_pairwise_lt {names names' : List Name} (sorted : names.Pairwise (· < ·))
    (sorted' : names'.Pairwise (· < ·)) (same : ∀ name, name ∈ names ↔ name ∈ names') :
    names = names' := by
  have perm : names.Perm names' := (List.perm_ext_iff_of_nodup (nodup_of_pairwise_lt sorted)
    (nodup_of_pairwise_lt sorted')).mpr same
  refine perm.eq_of_pairwise (fun a b _ _ less more => ?_) sorted sorted'
  exact absurd (List.lt_trans less more) (List.lt_irrefl a)

/-- The names of the files that count, in order. -/
theorem exists_sorted_names (lists : v.Lists path names) :
    ∃ sorted : List Name, sorted.Pairwise (· < ·) ∧
      (∀ name, name ∈ sorted ↔ name ∈ names ∧ v.Counts path name) ∧
        v.typeFiles path names = sorted.map path.entry := by
  refine ⟨((typeNames names).mergeSort byBytes).filter fun name => v.isFile (path.entry name),
    ?_, fun name => ?_, ?_⟩
  · have ordered : ((typeNames names).mergeSort byBytes).Pairwise fun a b => byBytes a b := by
      refine List.pairwise_mergeSort ?_ ?_ _
      · intro a b c first second
        exact decide_eq_true (List.le_trans (of_decide_eq_true first) (of_decide_eq_true second))
      · intro a b
        simpa [byBytes] using List.le_total a b
    have distinct : ((typeNames names).mergeSort byBytes).Nodup :=
      (List.mergeSort_perm _ _).nodup_iff.mpr (lists.distinct.filter _)
    -- Sorting orders the names only weakly, but no name is listed twice.
    refine ((ordered.and distinct).imp fun {a b} both => ?_).filter _
    by_contra more
    exact both.2 (List.le_antisymm (of_decide_eq_true both.1) (List.not_lt.mp more))
  · rw [List.mem_filter, List.mem_mergeSort, typeNames, List.mem_filter, View.Counts,
      decide_eq_true_eq, and_assoc]
  · rw [View.typeFiles, List.filter_map]
    rfl

theorem Files.View.Holds.typeFiles_eq (holds : v.Holds path names files)
    (lists : v.Lists path names) :
    v.typeFiles path names = files.map fun f => path.entry f.file := by
  obtain ⟨sorted, ordered, members, same⟩ := exists_sorted_names lists
  have names_eq : sorted = files.map TypeFile.file :=
    eq_of_pairwise_lt ordered holds.sorted fun name =>
      (members name).trans (holds.mem_iff name).symm
  rw [same, names_eq, List.map_map]
  rfl

/-- Values can be found in files one by one. -/
theorem exists_map_file_eq {P : TypeFile → Prop} {sorted : List Name}
    (h : ∀ name ∈ sorted, ∃ f : TypeFile, f.file = name ∧ P f) :
    ∃ files : List TypeFile, files.map TypeFile.file = sorted ∧ ∀ f ∈ files, P f := by
  induction sorted with
  | nil => exact ⟨[], rfl, fun _ mem => absurd mem List.not_mem_nil⟩
  | cons name sorted ih =>
    obtain ⟨⟨f, rfl, first⟩, rest⟩ := List.forall_mem_cons.mp h
    obtain ⟨files, rfl, others⟩ := ih rest
    exact ⟨f :: files, rfl, List.forall_mem_cons.mpr ⟨first, others⟩⟩

/-- If the stem of each file that counts is a text, and each holds a value, then these are the
files. -/
theorem exists_holds {P : Json.Value → Prop} (lists : v.Lists path names)
    (each : ∀ name ∈ names, v.Counts path name → (Text.decode? (stem name)).isSome ∧
      ∃ body, valueOf (v.read (path.entry name)) = .ok body ∧ P body) :
    ∃ files, v.Holds path names files ∧ ∀ f ∈ files, P f.body := by
  obtain ⟨sorted, ordered, members, -⟩ := exists_sorted_names lists
  have found : ∀ name ∈ sorted, ∃ f : TypeFile, f.file = name ∧
      Text.encode f.type ++ dot :: typeExtension = f.file ∧
        valueOf (v.read (path.entry f.file)) = .ok f.body ∧ P f.body := by
    intro name mem
    obtain ⟨listed, counts⟩ := (members name).mp mem
    obtain ⟨text, body, read, holds⟩ := each name listed counts
    obtain ⟨type, decoded⟩ := Option.isSome_iff_exists.mp text
    refine ⟨⟨name, type, body⟩, rfl, ?_, read, holds⟩
    rw [Text.decode?_eq_some_iff.mp decoded]
    exact stem_append_extension counts.1
  obtain ⟨files, rfl, all⟩ := exists_map_file_eq found
  exact ⟨files, ⟨ordered, members, fun f mem => (all f mem).1, fun f mem => (all f mem).2.1⟩,
    fun f mem => (all f mem).2.2⟩

/-! ### What a file comes to -/

/-- The stem of a file for an object type is the name of the type. -/
theorem stem_eq_of_named {name : Name} {type : String}
    (counts : extension? name = some typeExtension)
    (named : Text.encode type ++ dot :: typeExtension = name) : stem name = Text.encode type :=
  List.append_cancel_right ((stem_append_extension counts).trans named.symm)

/-- A file with the name of an object type comes to the type that its value describes. -/
theorem typeIn_of_named (lists : v.Lists path names) {name : Name} {type : String}
    {body : Json.Value} (mem : name ∈ names) (counts : extension? name = some typeExtension)
    (named : Text.encode type ++ dot :: typeExtension = name)
    (read : valueOf (v.read (path.entry name)) = .ok body) :
    v.typeIn path name = (ObjectType.ofValue type body).mapError .compile := by
  have name_eq : typeName (path.entry name) = .ok type := by
    rw [typeName, fileName?_entry path (isName_of_extension counts) (lists.proper _ mem),
      Option.bind_some, stem_eq_of_named counts named, Text.decode?_encode]
  rw [View.typeIn, typeOf, name_eq, read]
  rfl

/-- What a file that counts comes to is the object type that its value describes. -/
theorem Files.View.Holds.typeIn_eq (holds : v.Holds path names files) (lists : v.Lists path names)
    {f : TypeFile} (mem : f ∈ files) :
    v.typeIn path f.file = (ObjectType.ofValue f.type f.body).mapError .compile := by
  obtain ⟨listed, counts, -⟩ := (holds.mem_iff f.file).mp (List.mem_map_of_mem mem)
  exact typeIn_of_named lists listed counts (holds.named f mem) (holds.read f mem)

/-- No two files are for types of one name. -/
theorem Files.View.Holds.nodup_types (holds : v.Holds path names files) :
    (files.map TypeFile.type).Nodup := by
  -- Two files for types of one name would have one name themselves.
  have distinct := nodup_of_pairwise_lt holds.sorted
  have same : files.map TypeFile.file =
      (files.map TypeFile.type).map fun type => Text.encode type ++ dot :: typeExtension := by
    rw [List.map_map]
    exact List.map_congr_left fun f mem => (holds.named f mem).symm
  rw [same] at distinct
  exact distinct.of_map _

/-- The files that count are determined by what stands in the directory. -/
theorem Files.View.Holds.unique {files' : List TypeFile} (holds : v.Holds path names files)
    (holds' : v.Holds path names files') : files = files' := by
  have files_eq : files.map TypeFile.file = files'.map TypeFile.file :=
    eq_of_pairwise_lt holds.sorted holds'.sorted fun name =>
      (holds.mem_iff name).trans (holds'.mem_iff name).symm
  -- The name of a file tells which type it is for, and it is read in just one way.
  have each : ∀ f ∈ files, ∀ f' ∈ files', f.file = f'.file → f = f' := by
    intro f mem f' mem' same
    have type_eq : f.type = f'.type := Text.encode_injective <| List.append_cancel_right <|
      ((holds.named f mem).trans same).trans (holds'.named f' mem').symm
    have body_eq : f.body = f'.body := by
      have read := holds.read f mem
      rw [same, holds'.read f' mem'] at read
      exact (Except.ok.inj read).symm
    cases f
    cases f'
    cases same
    cases type_eq
    cases body_eq
    rfl
  clear holds holds'
  induction files generalizing files' with
  | nil => exact (List.map_eq_nil_iff.mp files_eq.symm).symm
  | cons f files ih =>
    obtain ⟨f', files', rfl, same, rest⟩ := List.map_eq_cons_iff.mp files_eq.symm
    rw [each f List.mem_cons_self f' List.mem_cons_self same.symm,
      ih rest.symm fun g mem g' mem' =>
        each g (List.mem_cons_of_mem _ mem) g' (List.mem_cons_of_mem _ mem')]

/-- Each file that counts has a text for its stem and holds a value. -/
theorem Files.View.Holds.described {P : Json.Value → Prop} (holds : v.Holds path names files)
    (all : ∀ f ∈ files, P f.body) {name : Name} (mem : name ∈ names)
    (counts : v.Counts path name) : (Text.decode? (stem name)).isSome ∧
      ∃ body, valueOf (v.read (path.entry name)) = .ok body ∧ P body := by
  obtain ⟨f, listed, rfl⟩ := List.mem_map.mp ((holds.mem_iff name).mpr ⟨mem, counts⟩)
  rw [stem_eq_of_named counts.1 (holds.named f listed), Text.decode?_encode]
  exact ⟨rfl, f.body, holds.read f listed, all f listed⟩

/-- The files that count are the same if the directory is listed in another order. -/
theorem Files.View.Holds.of_perm {v' : View} {names' : List Name}
    (holds : v.Holds path names files) (perm : names'.Perm names)
    (same : ∀ name ∈ names, v'.isFile (path.entry name) = v.isFile (path.entry name) ∧
      v'.read (path.entry name) = v.read (path.entry name)) : v'.Holds path names' files where
  sorted := holds.sorted
  mem_iff name := by
    rw [holds.mem_iff, perm.mem_iff]
    refine and_congr_right fun mem => ?_
    rw [View.Counts, View.Counts, (same name mem).1]
  named := holds.named
  read f mem := by
    obtain ⟨listed, -⟩ := (holds.mem_iff f.file).mp (List.mem_map_of_mem mem)
    rw [(same f.file listed).2]
    exact holds.read f mem

/-! ### What the directory comes to -/

/-- Files that are read one after the other come to the types of the members that they would be. -/
theorem mapM_eq_readTypes (files : List TypeFile) :
    files.mapM (fun f => (ObjectType.ofValue f.type f.body).mapError Failure.compile) =
      (readTypes (files.map TypeFile.member)).mapError .compile := by
  induction files with
  | nil => rfl
  | cons f files ih =>
    rw [List.mapM_cons, ih, List.map_cons, TypeFile.member, readTypes]
    cases ObjectType.ofValue f.type f.body with
    | error e => rfl
    | ok t => cases readTypes (files.map TypeFile.member) <;> rfl

/-- The files that count come to the types of the object that they make up. -/
theorem Files.View.Holds.mapM_typeFiles (holds : v.Holds path names files)
    (lists : v.Lists path names) :
    (v.typeFiles path names).mapM (fun file => typeOf file (v.read file)) =
      (readTypes (files.map TypeFile.member)).mapError .compile := by
  rw [holds.typeFiles_eq lists, List.mapM_map, ← mapM_eq_readTypes]
  exact mapM_congr fun f mem => holds.typeIn_eq lists mem

/-- If no file is bad, then the directory comes to the document of the object that its files make
up, and each file to the object type that is its own. -/
theorem Files.View.Holds.mayLoad_iff (holds : v.Holds path names files)
    (lists : v.Lists path names) (formed : ∀ f ∈ files, BodyWellFormed f.body) :
    ∃ d, Document.ofValue (.object (files.map TypeFile.member)) = .ok d ∧
      d.names = files.map TypeFile.type ∧
      List.Forall₂ (fun f t => ObjectType.ofValue f.type f.body = .ok t) files d.types ∧
        ∀ outcome, v.MayLoad path outcome ↔ outcome = .ok d := by
  have members : ∀ m ∈ files.map TypeFile.member, BodyWellFormed m.2 := by
    intro m mem
    obtain ⟨f, listed, rfl⟩ := List.mem_map.mp mem
    exact formed f listed
  obtain ⟨types, read⟩ := exists_readTypes_eq_ok_iff.mpr members
  have all := holds.mapM_typeFiles lists
  rw [read] at all
  have named : types.map ObjectType.name = files.map TypeFile.type := by
    rw [map_name_of_readTypes read, List.map_map]
    rfl
  -- The names are distinct, so the document has the types just as they were read.
  have same : (Document.ofTypes types).types = types := by
    apply Document.types_ofTypes
    rw [named]
    exact holds.nodup_types
  refine ⟨.ofTypes types, ?_, ?_, ?_, fun outcome => ?_⟩
  · rw [Document.ofValue, read]
    rfl
  · rw [Document.names, same, named]
  · rw [same]
    exact List.forall₂_map_left_iff.mp (readTypes_eq_ok_iff.mp read)
  · rw [ValidatorGen.mayLoad_iff lists.list]
    constructor
    · rintro (⟨types', all', rfl⟩ | ⟨file, mem, e, failed, -⟩)
      · cases all.symm.trans all'
        rfl
      · obtain ⟨t, found⟩ := exists_of_mapM_eq_ok all mem
        cases failed.symm.trans found
    · rintro rfl
      exact .inl ⟨types, all, rfl⟩

/-- If just one file is bad, then its failure is what the directory comes to. -/
theorem mayLoad_iff_of_one_bad (lists : v.Lists path names) {bad : Name} {e : Failure}
    (mem : bad ∈ names) (counts : v.Counts path bad) (failed : v.typeIn path bad = .error e)
    (others : ∀ name ∈ names, v.Counts path name → name ≠ bad → ∃ t, v.typeIn path name = .ok t)
    (outcome : Except Failure Document) : v.MayLoad path outcome ↔ outcome = .error e := by
  obtain ⟨sorted, -, members, files_eq⟩ := exists_sorted_names lists
  have here : path.entry bad ∈ v.typeFiles path names := by
    rw [files_eq]
    exact List.mem_map_of_mem ((members bad).mpr ⟨mem, counts⟩)
  rw [mayLoad_iff lists.list]
  constructor
  · rintro (⟨types, all, -⟩ | ⟨file, mem', e', failed', rfl⟩)
    · obtain ⟨t, found⟩ := exists_of_mapM_eq_ok all here
      cases failed.symm.trans found
    · rw [files_eq] at mem'
      obtain ⟨name, among, rfl⟩ := List.mem_map.mp mem'
      obtain ⟨listed, counts'⟩ := (members name).mp among
      -- Whatever failure is reported is that of a file that counts, so it is this one's.
      by_cases same : name = bad
      · subst same
        cases failed'.symm.trans failed
        rfl
      · obtain ⟨t, found⟩ := others name listed counts' same
        cases failed'.symm.trans found
  · rintro rfl
    exact .inr ⟨_, here, e, failed, rfl⟩

/-! ### Bundles and texts -/

/-- How a bundle reports what its text reports. That a text is not JSON is no matter of the
document. -/
def bundleFailure : CompileError → Failure
  | .malformed none (.notJson cause) => .json cause
  | e => .compile e

/-- What is wrong with a value is not that it is no JSON. -/
theorem bundleFailure_of_ofValue {value : Json.Value} {e : CompileError}
    (h : Document.ofValue value = .error e) : bundleFailure e = .compile e := by
  cases value with
  | object members =>
    rw [Document.ofValue] at h
    rcases bind_eq_error_iff.mp h with failed | ⟨types, -, done⟩
    · obtain ⟨_, _, _, _, _, -, -, -, rfl⟩ := readTypes_eq_error_iff.mp failed
      rfl
    · cases done
  | null | bool | number | string | array =>
    cases h
    rfl

theorem outcome_loadBundle (v : View) (path : Path) :
    ((loadBundle path : LoggedT Seeing _ _).seen v).outcome =
      valueOf (v.read path) >>= fun value => (Document.ofValue value).mapError .compile := by
  rw [seen_loadBundle, Logged.outcome_bind]
  congr 1
  funext value
  rw [loadedBundle]
  cases Document.ofValue value <;> rfl

/-- A bundle comes to what its text comes to. Only a number that is out of range may be reported in
another place. -/
theorem outcome_loadBundle_of_text {text : String}
    (h : v.read path = .ok (.ok (Text.encode text))) :
    ((loadBundle path : LoggedT Seeing _ _).seen v).outcome =
        (Document.ofText text).mapError bundleFailure ∨
      ∃ p q, ((loadBundle path : LoggedT Seeing _ _).seen v).outcome =
          .error (.json ⟨.numberOutOfRange, p⟩) ∧
        Document.ofText text = .error (.malformed none (.notJson ⟨.numberOutOfRange, q⟩)) := by
  have value_eq : valueOf (v.read path) =
      (Json.Value.ofFile (Text.encode text)).mapError .json := by
    rw [h]
    rfl
  rw [outcome_loadBundle, value_eq, Document.ofText]
  rcases Json.Value.ofFile_or_ofText text with same | ⟨p, q, file, text⟩
  · apply Or.inl
    rw [same]
    cases Json.Value.ofText text with
    | error cause => rfl
    | ok value =>
      -- Once there is a value, what may be wrong with it is reported alike.
      change (Document.ofValue value).mapError Failure.compile =
        (Document.ofValue value).mapError bundleFailure
      cases decoded : Document.ofValue value with
      | ok d => rfl
      | error e =>
        change Except.error (Failure.compile e) = .error (bundleFailure e)
        rw [bundleFailure_of_ofValue decoded]
  · rw [file, text]
    exact .inr ⟨p, q, rfl, rfl⟩

/-- A text of an object, and a bundle with the text, come to the document of the object unless the
text goes too deep. -/
theorem ofText_of_denotes {text : String} {value : Json.Value} (h : Json.Value.Denotes text value)
    (shallow : ∀ p, Json.Value.ofText text ≠ .error ⟨.tooDeep, p⟩) :
    Document.ofText text = Document.ofValue value := by
  have read : Json.Value.ofText text = .ok value :=
    (Json.Value.ofText_of_denotes h).resolve_right fun ⟨p, deep⟩ => shallow p deep
  rw [Document.ofText, read]

/-- A bundle comes to a document exactly if its text does. -/
theorem outcome_loadBundle_eq_ok_iff {text : String} {d : Document}
    (h : v.read path = .ok (.ok (Text.encode text))) :
    ((loadBundle path : LoggedT Seeing _ _).seen v).outcome = .ok d ↔
      Document.ofText text = .ok d := by
  rcases outcome_loadBundle_of_text h with same | ⟨p, q, bundle, text⟩
  · rw [same, mapError_eq_ok_iff]
  · rw [bundle, text]
    simp

/-! ### All ways of loading -/

/-- However a directory is listed and in whatever order its files are read: if each file that counts
is named by a text and holds an object type, then the directory comes to the document of the object
that the files make up in the order of their names, with one type for each file. A text of this
object comes to the same document, and so does a bundle with the text, unless the text goes too
deep. If one file is bad, then the directory comes to its failure. A bundle comes to what its text
comes to, and only a number that is out of range may be reported in another place. -/
theorem loading_agrees (v : View) (path : Path) (names : List Name) (lists : v.Lists path names) :
    ((∀ name ∈ names, v.Counts path name → (Text.decode? (stem name)).isSome ∧
        ∃ body, valueOf (v.read (path.entry name)) = .ok body ∧ BodyWellFormed body) →
      ∃ (files : List TypeFile) (d : Document), v.Holds path names files ∧
        Document.ofValue (.object (files.map TypeFile.member)) = .ok d ∧
        (files.map TypeFile.type).Nodup ∧ d.names = files.map TypeFile.type ∧
        List.Forall₂ (fun f t => ObjectType.ofValue f.type f.body = .ok t) files d.types ∧
        (∀ outcome, v.MayLoad path outcome ↔ outcome = .ok d) ∧
        ((loadDirectory path : LoggedT Seeing _ _).seen v).outcome = .ok d ∧
        (∀ (v' : View) (names' : List Name), names'.Perm names → v'.Lists path names' →
          (∀ name ∈ names, v'.isFile (path.entry name) = v.isFile (path.entry name) ∧
            v'.read (path.entry name) = v.read (path.entry name)) →
          ∀ outcome, v'.MayLoad path outcome ↔ outcome = .ok d) ∧
        ∀ text, Json.Value.Denotes text (.object (files.map TypeFile.member)) →
          (∀ p, Json.Value.ofText text ≠ .error ⟨.tooDeep, p⟩) →
            Document.ofText text = .ok d ∧
            ∀ (w : View) (bundle : Path), w.read bundle = .ok (.ok (Text.encode text)) →
              ((loadBundle bundle : LoggedT Seeing _ _).seen w).outcome = .ok d) ∧
    (∀ bad e, bad ∈ names → v.Counts path bad → v.typeIn path bad = .error e →
      (∀ name ∈ names, v.Counts path name → name ≠ bad → ∃ t, v.typeIn path name = .ok t) →
        (∀ outcome, v.MayLoad path outcome ↔ outcome = .error e) ∧
        ((loadDirectory path : LoggedT Seeing _ _).seen v).outcome = .error e) ∧
    ∀ (w : View) (bundle : Path) (text : String), w.read bundle = .ok (.ok (Text.encode text)) →
      ((loadBundle bundle : LoggedT Seeing _ _).seen w).outcome =
          (Document.ofText text).mapError bundleFailure ∨
        ∃ p q, ((loadBundle bundle : LoggedT Seeing _ _).seen w).outcome =
            .error (.json ⟨.numberOutOfRange, p⟩) ∧
          Document.ofText text = .error (.malformed none (.notJson ⟨.numberOutOfRange, q⟩)) := by
  refine ⟨fun each => ?_, fun bad e mem counts failed others => ?_,
    fun w bundle text => outcome_loadBundle_of_text⟩
  · obtain ⟨files, holds, formed⟩ := exists_holds lists each
    obtain ⟨d, document, named, types, loads⟩ := holds.mayLoad_iff lists formed
    refine ⟨files, d, holds, document, holds.nodup_types, named, types, loads,
      (loads _).mp (mayLoad_loadDirectory v path), fun v' names' perm lists' same => ?_,
      fun text denotes shallow => ?_⟩
    · obtain ⟨d', document', -, -, loads'⟩ := (holds.of_perm perm same).mayLoad_iff lists' formed
      cases document.symm.trans document'
      exact loads'
    · have read : Document.ofText text = .ok d :=
        (ofText_of_denotes denotes shallow).trans document
      exact ⟨read, fun w bundle held => (outcome_loadBundle_eq_ok_iff held).mpr read⟩
  · have loads := mayLoad_iff_of_one_bad lists mem counts failed others
    exact ⟨loads, (loads _).mp (mayLoad_loadDirectory v path)⟩

/-- The body of an object type, with a field that is always there and one that may be missing. -/
def noteBody : Json.Value :=
  .object [("properties", .object
    [("text", .object [("type", .string "string"), ("isImplied", .bool true)]),
      ("at", .object [("type", .string "string"), ("format", .string "date-time")])])]

/-- The body of an object type under the other name for fields, with a member that says nothing. -/
def countBody : Json.Value :=
  .object [("note", .null), ("fields", .object [("n", .object [("type", .string "number")])])]

/-- The object types of the two bodies. -/
def cabinetTypes : List ObjectType :=
  [⟨"a-b", [("text", .mk (.string none) true), ("at", .mk (.string (some .dateTime)) false)]⟩,
    ⟨"a", [("n", .mk .number false)]⟩]

/-- The files that count in a directory. A dash comes before a dot. -/
def goodFiles : List TypeFile :=
  [⟨Text.encode "a-b.json", "a-b", noteBody⟩, ⟨Text.encode "a.json", "a", countBody⟩]

/-- The object that these files make up. -/
def goodObject : Json.Value := .object (goodFiles.map TypeFile.member)

/-- A bundle with the object and one that breaks off, a directory with the files, and one with a
file that is bad. -/
def cabinet : Tree where
  entries :=
    [([Text.encode "all.json"], .file (Text.encode goodObject.compact)),
      ([Text.encode "broken.json"], .file (Text.encode "[")),
      ([Text.encode "good"], .directory),
      ([Text.encode "good", Text.encode "a.json"], .file (Text.encode countBody.compact)),
      ([Text.encode "good", Text.encode "a-b.json"], .file (Text.encode noteBody.compact)),
      ([Text.encode "good", Text.encode "sub.json"], .directory),
      ([Text.encode "good", Text.encode "notes.txt"], .file []),
      ([Text.encode "bad"], .directory),
      ([Text.encode "bad", Text.encode "a.json"], .file (Text.encode countBody.compact)),
      ([Text.encode "bad", Text.encode "b.json"], .file (Text.encode Json.Value.null.compact))]
  distinct := by decide

/-- What stands in the first of the two directories. -/
def goodNames : List Name := ["a.json", "a-b.json", "sub.json", "notes.txt"].map Text.encode

theorem plain_goodObject : goodObject.Plain := by
  simp [goodObject, goodFiles, TypeFile.member, noteBody, countBody, Json.Value.Plain,
    Json.MembersPlain]

theorem valueOf_noteBody :
    valueOf (.ok (.ok (Text.encode noteBody.compact))) = .ok noteBody :=
  valueOf_of_plain plain_goodObject.2.1 (by decide)

theorem valueOf_countBody :
    valueOf (.ok (.ok (Text.encode countBody.compact))) = .ok countBody :=
  valueOf_of_plain plain_goodObject.2.2.1 (by decide)

theorem holds_goodFiles : cabinet.view.Holds (.ofString "good") goodNames goodFiles where
  sorted := by decide
  mem_iff name := by
    have listed : ∀ name ∈ goodFiles.map TypeFile.file,
        name ∈ goodNames ∧ cabinet.view.Counts (.ofString "good") name := by decide +kernel
    have counted : ∀ name ∈ goodNames, cabinet.view.Counts (.ofString "good") name →
        name ∈ goodFiles.map TypeFile.file := by decide +kernel
    exact ⟨listed name, fun h => counted name h.1 h.2⟩
  named := by decide
  read := by
    have notes : cabinet.view.read ((Path.ofString "good").entry (Text.encode "a-b.json")) =
        .ok (.ok (Text.encode noteBody.compact)) := rfl
    have counts : cabinet.view.read ((Path.ofString "good").entry (Text.encode "a.json")) =
        .ok (.ok (Text.encode countBody.compact)) := rfl
    simp only [goodFiles, List.forall_mem_cons, List.not_mem_nil, false_implies, implies_true,
      and_true]
    exact ⟨(congrArg valueOf notes).trans valueOf_noteBody,
      (congrArg valueOf counts).trans valueOf_countBody⟩

/-- The files that count come to the two object types. -/
theorem forall₂_cabinetTypes :
    List.Forall₂ (fun f t => ObjectType.ofValue f.type f.body = .ok t) goodFiles cabinetTypes :=
  .cons rfl (.cons rfl .nil)

/-- What stands in the second of the two directories. -/
def badNames : List Name := ["a.json", "b.json"].map Text.encode

theorem typeIn_good (lists : cabinet.view.Lists (.ofString "bad") badNames) :
    cabinet.view.typeIn (.ofString "bad") (Text.encode "a.json") =
      .ok ⟨"a", [("n", .mk .number false)]⟩ := by
  have read : cabinet.view.read ((Path.ofString "bad").entry (Text.encode "a.json")) =
      .ok (.ok (Text.encode countBody.compact)) := rfl
  have named : Text.encode "a" ++ dot :: typeExtension = Text.encode "a.json" := by decide
  exact typeIn_of_named lists (by decide) (by decide) named (read ▸ valueOf_countBody)

theorem typeIn_bad (lists : cabinet.view.Lists (.ofString "bad") badNames) :
    cabinet.view.typeIn (.ofString "bad") (Text.encode "b.json") =
      .error (.compile (.malformed (some "b") (.notObjectType "null"))) := by
  have read : cabinet.view.read ((Path.ofString "bad").entry (Text.encode "b.json")) =
      .ok (.ok (Text.encode Json.Value.null.compact)) := rfl
  have named : Text.encode "b" ++ dot :: typeExtension = Text.encode "b.json" := by decide
  have plain : Json.Value.null.Plain := trivial
  exact typeIn_of_named lists (by decide) (by decide) named
    (read ▸ valueOf_of_plain plain (by decide))

/-- The text of the object stands for it, and does not go too deep. -/
theorem ofText_goodObject : Json.Value.ofText goodObject.compact = .ok goodObject :=
  Json.Value.ofText_compact plain_goodObject (by decide)

/-- The good files, the text of their object and the bundle with the text come to the same two
types. The bad file is what its directory comes to, and the bundle that breaks off comes to what its
text comes to. -/
theorem loading_agrees_cabinet :
    (∃ d : Document, d.types = cabinetTypes ∧
      (∀ outcome, cabinet.view.MayLoad (.ofString "good") outcome ↔ outcome = .ok d) ∧
      Document.ofText goodObject.compact = .ok d ∧
      ((loadBundle (.ofString "all.json") : LoggedT Seeing _ _).seen cabinet.view).outcome =
        .ok d) ∧
    (∀ outcome, cabinet.view.MayLoad (.ofString "bad") outcome ↔
      outcome = .error (.compile (.malformed (some "b") (.notObjectType "null")))) ∧
    ((loadBundle (.ofString "broken.json") : LoggedT Seeing _ _).seen cabinet.view).outcome =
      .error (.json ⟨.endInArray, ⟨1, 1⟩⟩) := by
  refine ⟨?good, ?bad, ?broken⟩
  case good =>
    have lists : cabinet.view.Lists (.ofString "good") goodNames :=
      ⟨by decide +kernel, by decide, by decide⟩
    have formed : ∀ f ∈ goodFiles, BodyWellFormed f.body := by
      have notes : BodyWellFormed noteBody :=
        (exists_objectType_ofValue_eq_ok_iff "a-b").mp ⟨_, rfl⟩
      have counts : BodyWellFormed countBody :=
        (exists_objectType_ofValue_eq_ok_iff "a").mp ⟨_, rfl⟩
      exact List.forall_mem_cons.mpr ⟨notes, List.forall_mem_singleton.mpr counts⟩
    obtain ⟨good, -, -⟩ := loading_agrees cabinet.view (.ofString "good") goodNames lists
    obtain ⟨files, d, holds, -, -, -, types, loads, -, -, texts⟩ :=
      good fun name mem counts => holds_goodFiles.described formed mem counts
    obtain rfl := holds.unique holds_goodFiles
    have shallow : ∀ p, Json.Value.ofText goodObject.compact ≠ .error ⟨.tooDeep, p⟩ := by
      rw [ofText_goodObject]
      exact fun p deep => by cases deep
    have denotes : Json.Value.Denotes goodObject.compact goodObject :=
      ⟨Json.greatestNesting, ofText_goodObject⟩
    obtain ⟨text, bundles⟩ := texts goodObject.compact denotes shallow
    have types_eq : d.types = cabinetTypes :=
      List.right_unique_forall₂' (fun _ _ _ found found' => Except.ok.inj (found.symm.trans found'))
        types forall₂_cabinetTypes
    have bundle : cabinet.view.read (.ofString "all.json") =
        .ok (.ok (Text.encode goodObject.compact)) := rfl
    exact ⟨d, types_eq, loads, text, bundles cabinet.view _ bundle⟩
  case bad =>
    have lists : cabinet.view.Lists (.ofString "bad") badNames :=
      ⟨by decide +kernel, by decide, by decide⟩
    obtain ⟨-, bad, -⟩ := loading_agrees cabinet.view (.ofString "bad") badNames lists
    refine (bad (Text.encode "b.json") _ (by decide) (by decide +kernel) (typeIn_bad lists)
      fun name mem _ other => ?_).1
    have name_eq : name = Text.encode "a.json" := by
      simpa [badNames, other] using mem
    exact ⟨_, name_eq ▸ typeIn_good lists⟩
  case broken =>
    have lists : cabinet.view.Lists (.ofString "bad") badNames :=
      ⟨by decide +kernel, by decide, by decide⟩
    obtain ⟨-, -, bundles⟩ := loading_agrees cabinet.view (.ofString "bad") badNames lists
    have text : Document.ofText "[" = .error (.malformed none (.notJson ⟨.endInArray, ⟨1, 1⟩⟩)) :=
      rfl
    rcases bundles cabinet.view (.ofString "broken.json") "[" rfl with same | ⟨p, q, -, other⟩
    · rw [same, text]
      rfl
    · cases text.symm.trans other

end ValidatorGen
