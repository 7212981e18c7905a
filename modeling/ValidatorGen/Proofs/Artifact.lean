import ValidatorGen.Artifact
import ValidatorGen.Proofs.Files.Directories
import ValidatorGen.Proofs.Text.Utf8

/-!
# Writing modules to files

However the writing of a module fails, every file is as it was, and at most directories around the
target have been added. If it succeeds the target holds the module, and no other file has changed;
then the target is up to date for just the modules of the same text.

## Main definitions

* `Validator.Written` — what the writing of a module comes to

## Main results

* `Validator.ends_write` — the writing of a module comes to that, whatever operations fail
* `Validator.write_atomic` — in all detail what becomes of the files and directories
-/

namespace ValidatorGen.Validator

open Files Files.Tree Files.Memory Text

variable {m m' : Module} {path p : Path} {t t₁ t' : Tree} {s : Memory.State} {l : Location}

/-! ### Where files are staged -/

/-- The path of the current directory leads nowhere else, and neither does what is around it. -/
theorem root_of_around_here {q : Path} (leads : Relation.ReflTransGen Path.IsParent ⟨here⟩ q)
    (located : t.locate q = .ok l) : l = [] := by
  have one : q = ⟨here⟩ ∨ q = ⟨[]⟩ := by
    clear located
    induction leads with
    | refl => exact .inl rfl
    | tail _ isParent ih =>
      rcases ih with rfl | rfl
      · exact .inr (Option.some.inj isParent).symm
      · cases isParent
  obtain ⟨use, follow⟩ := locate_eq_ok_iff.mp located
  rcases one with rfl | rfl
  · have single : pieces here = [here] := by decide
    rw [single, List.foldlM_cons, bind_eq_ok_iff] at follow
    obtain ⟨l', entered, done⟩ := follow
    cases done
    exact (enter_eq_ok_iff.mp entered).2.1.symm.trans (if_pos (.inr rfl))
  · cases use

/-- The staging directory is around the target, or is the current one. -/
theorem alters_stagingDirectory
    (h : Alters ∅ (Relation.ReflTransGen Path.IsParent (stagingDirectory path)) t t') :
    Alters ∅ path.Around t t' := by
  have elsewhere (current : stagingDirectory path = ⟨here⟩) : Alters ∅ path.Around t t' := by
    rw [current] at h
    refine ⟨h.directories, h.kept, fun l mem absent node there => ?_⟩
    obtain ⟨-, q, leads, located⟩ := h.new l mem absent node there
    rw [root_of_around_here leads located, node?_root] at absent
    cases absent
  cases parent : path.parent? with
  | none => exact elsewhere (by rw [stagingDirectory, parent])
  | some directory =>
    by_cases empty : directory.bytes.isEmpty
    · exact elsewhere (by rw [stagingDirectory, parent]; exact if_pos empty)
    · have staging : stagingDirectory path = directory := by
        rw [stagingDirectory, parent]
        exact if_neg empty
      rw [staging] at h
      have isParent : path.IsParent directory := parent
      exact h.mono (Set.Subset.refl _) fun q leads => Relation.TransGen.head' isParent leads

/-! ### Staged files -/

/-- The tree has a new file, and is otherwise another tree. -/
structure Staged (t : Tree) (l : Location) (content : List UInt8) (t' : Tree) : Prop where
  /-- The file is below the root. -/
  below : l ≠ []
  /-- The other tree has nothing there. -/
  fresh : t.node? l = none
  /-- Nothing else is another. -/
  nodes : t'.node? = Function.update t.node? l (some (.file content))

variable {content content' : List UInt8}

theorem Staged.append (h : Staged t l content t') (bytes : List UInt8) :
    Staged t l (content ++ bytes) (t'.append l bytes) where
  below := h.below
  fresh := h.fresh
  nodes := by
    have file : t'.node? l = some (.file content) := by rw [h.nodes, Function.update_self]
    rw [Tree.append, file]
    change (t'.put l _).node? = _
    rw [node?_put _ h.below, h.nodes, Function.update_idem]

/-- Without the staged file the tree is what it was. -/
theorem Staged.erase (h : Staged t l content t') : (t'.erase l).node? = t.node? := by
  rw [node?_erase _ h.below, h.nodes, Function.update_idem, ← h.fresh, Function.update_eq_self]

/-- Where a computation stages a file, it is a new one. -/
theorem ends_stage (directory : Path) (s : Memory.State) :
    ((LoggedT.ofAction (Disk.stage directory)).mapError Failure.file : LoggedT Memory _ _).Ends s
      fun outcome s' =>
        match outcome with
        | .ok l => Staged s.tree l [] s'.tree
        | .error _ => s'.tree = s.tree := by
  refine LoggedT.Ends.mapError (LoggedT.ends_ofAction ?_)
  change match (Except.mapError Failure.file (perform (fun t => t.stage directory) (fun _ t => t)
      s).1) with
    | .ok l => Staged s.tree l [] (perform (fun t => t.stage directory) (fun _ t => t) s).2.tree
    | .error _ => (perform (fun t => t.stage directory) (fun _ t => t) s).2.tree = s.tree
  rcases perform_cases (fun t => t.stage directory) (fun _ t => t) s with
    ⟨l, t', staged, performed⟩ | ⟨e, t', performed, spoilt⟩
  · rw [performed]
    obtain ⟨below, fresh, nodes⟩ := node?_of_stage staged
    exact ⟨below, fresh, nodes⟩
  · rw [performed]
    exact spoilt.elim id fun ⟨_, same⟩ => same

/-- What follows a step with a staged file: the file is removed if the step has failed. -/
theorem ends_orDiscard {step : Memory (Except Error Unit)} {onError : Error → Failure}
    {post : Except Failure Unit → Memory.State → Prop}
    (done : ∀ s', step s = (.ok (), s') → post (.ok ()) s')
    (failed : ∀ e s', step s = (.error e, s') →
      post (.error (onError e)) { s' with tree := s'.tree.erase l }) :
    (orDiscard l onError step : LoggedT Memory _ _).Ends s post := by
  obtain ⟨outcome, s', performed⟩ : ∃ outcome s', step s = (outcome, s') := ⟨_, _, rfl⟩
  refine LoggedT.ends_ofAction ?_
  simp only [bind, StateT.bind, performed]
  cases outcome with
  | ok _ => exact done s' performed
  | error e => exact failed e s' performed

/-- A step with a staged file has done something; or it has failed, and the tree is what it was
before the file was staged. -/
def Settles {α : Type} (t : Tree) (done : Tree → Prop) :
    Except Failure α → Memory.State → Prop
  | .ok _, s => done s.tree
  | .error _, s => s.tree.node? = t.node?

theorem ends_append (h : Staged t l [] s.tree) :
    (orDiscard l .file (Disk.write l content) : LoggedT Memory _ _).Ends s
      (Settles t (Staged t l content)) := by
  refine ends_orDiscard (fun s' performed => ?_) fun e s' performed => ?_
  · rw [run_write] at performed
    split at performed
    · cases performed
    · cases performed
      exact h.append content
  · rw [run_write] at performed
    split at performed
    · -- Some of the bytes may be there, but the file is removed.
      cases performed
      exact (h.append _).erase
    · cases performed

theorem ends_sync (h : Staged t l content s.tree) :
    (orDiscard l .file (Disk.sync l) : LoggedT Memory _ _).Ends s
      (Settles t (Staged t l content)) := by
  have same : ((Disk.sync l : Memory _) s).2.tree = s.tree :=
    (reads_observe (fun _ => .ok ()) s).1
  refine ends_orDiscard (fun s' performed => ?_) fun e s' performed => ?_
  · rw [performed] at same
    change Staged t l content s'.tree
    rwa [same]
  · rw [performed] at same
    change (s'.tree.erase l).node? = t.node?
    rw [same]
    exact h.erase

theorem ends_move (around : Path → Prop) (onError : Error → Failure)
    (h : Staged t l content s.tree) :
    (orDiscard l onError (Disk.move l path) : LoggedT Memory _ _).Ends s
      (Settles t fun t' => ∃ l', Receives around path content l' t t') := by
  have moved := change_cases (fun t => t.move l path) s
  refine ends_orDiscard (fun s' performed => ?_) fun e s' performed => ?_
  · rcases moved with ⟨t', ok, done⟩ | ⟨e, failed⟩
    · obtain rfl := (Prod.mk.inj (performed.symm.trans done)).2
      exact receives_of_move around h.below h.fresh h.nodes ok
    · cases (Prod.mk.inj (performed.symm.trans failed)).1
  · rcases moved with ⟨t', ok, done⟩ | ⟨e', failed⟩
    · cases (Prod.mk.inj (performed.symm.trans done)).1
    · obtain rfl := (Prod.mk.inj (performed.symm.trans failed)).2
      exact h.erase

/-! ### Writing -/

/-- What the writing of a module to a file comes to. -/
def Written {ε : Type} (m : Module) (path : Path) (t : Tree) :
    Except ε Report → Memory.State → Prop
  | .ok report, s => report = .ofModule path m ∧
      ∃ l, Receives path.Around path (encode m.text) l t s.tree
  | .error _, s => Alters ∅ path.Around t s.tree

/-- The writing of a module comes to a file with its text, or to directories around it at most,
whatever operations fail. -/
theorem ends_write (m : Module) (path : Path) (s : Memory.State) :
    (m.write path : LoggedT Memory _ _).Ends s (Written m path s.tree) := by
  rw [Module.write]
  have directories : ((LoggedT.ofAction (createDirectories (stagingDirectory path))).mapError
      Failure.file : LoggedT Memory _ _).Ends s fun _ s' => Alters ∅ path.Around s.tree s'.tree :=
    LoggedT.Ends.mapError (LoggedT.ends_ofAction
      (alters_stagingDirectory (grows_createDirectories _ s)))
  refine directories.bind (fun _ s₁ grown => ?_) fun _ _ grown => grown
  -- From here on a failure leaves the tree as it is now.
  have undo {s' : Memory.State} (same : s'.tree.node? = s₁.tree.node?) :
      Alters ∅ path.Around s.tree s'.tree := grown.of_node?_eq same
  refine (ends_stage _ s₁).bind (fun l s₂ staged => ?_) fun _ s₂ same => undo (by rw [same])
  refine (ends_append staged).bind (fun _ s₃ filled => ?_) fun _ _ same => undo same
  refine (ends_sync filled).bind (fun _ s₄ synced => ?_) fun _ _ same => undo same
  refine (ends_move path.Around _ synced).bind (fun _ s₅ moved => ?_) fun _ _ same => undo same
  obtain ⟨l', received⟩ := moved
  exact ⟨rfl, l', received.after grown⟩

/-! ### Comparing -/

/-- What comparing a module with what is read comes to. -/
def comparison (m : Module) : Except Error (Except Error (List UInt8)) → Except Failure Bool
  | .ok (.ok content) => .ok (content = encode m.text)
  | .error .notFound | .ok (.error .notFound) => .ok false
  | .error e | .ok (.error e) => .error (.file e)

theorem comparison_eq_ok_true_iff {read : Except Error (Except Error (List UInt8))} :
    comparison m read = .ok true ↔ read = .ok (.ok (encode m.text)) := by
  cases read with
  | error e => cases e <;> simp [comparison]
  | ok opened =>
    cases opened with
    | error e => cases e <;> simp [comparison]
    | ok content => simp [comparison]

theorem reads_isUpToDate (m : Module) (path : Path) :
    (m.isUpToDate path : LoggedT Memory _ _).Reads := by
  refine LoggedT.reads_ofAction ((reads_read path).bind fun result => ?_)
  split <;> exact reads_pure _

theorem look_isUpToDate (m : Module) (path : Path) (t : Tree) :
    (m.isUpToDate path : LoggedT Memory _ _).look t = .ofExcept (comparison m (t.read path)) := by
  rw [Module.isUpToDate, LoggedT.look_ofAction, look_bind (reads_read path), look_read]
  · cases t.read path with
    | error e => cases e <;> rfl
    | ok opened =>
      cases opened with
      | error e => cases e <;> rfl
      | ok content => rfl
  · refine (reads_read path).bind fun result => ?_
    split <;> exact reads_pure _

/-- A file that has just been written is up to date for just the modules of the same text. -/
theorem isUpToDate_of_receives {around : Path → Prop}
    (h : Receives around path (encode m.text) l t t') (m' : Module) :
    ((m'.isUpToDate path : LoggedT Memory _ _).look t').outcome =
      .ok (decide (m'.text = m.text)) := by
  have same : encode m.text = encode m'.text ↔ m'.text = m.text :=
    ⟨fun bytes => (encode_injective bytes).symm, fun text => by rw [text]⟩
  rw [look_isUpToDate, h.read]
  change Except.ok (decide (encode m.text = encode m'.text)) = _
  rw [decide_eq_decide.mpr same]

/-! ### The writing of a module in all detail -/

/-- What becomes of the files and directories when a module is written, whatever operations fail.
If the writing succeeds the file to which the path leads has the text of the module, the report is
about that file, all other files are as they were, and the file is up to date for just the modules
of the same text. If it fails all files are as they were. Either way all directories are kept, and
new ones are around the target; after a failure they hold no files. -/
theorem write_atomic (m : Module) (path : Path) (s s' : Memory.State)
    (result : Logged Failure Report)
    (ran : (m.write path : LoggedT Memory _ _).run s = (result, s')) :
    (∀ report, result.outcome = .ok report →
      report.output = path ∧ report.types = m.typeNames ∧
      s'.tree.read path = .ok (.ok (encode m.text)) ∧
      (∀ content, s'.tree.read path = .ok (.ok content) →
        report.bytes = content.length ∧ report.sha256 = Digest.hexDigest content) ∧
      (∃ target, s'.tree.locate path = .ok target ∧ ∀ l ≠ target, ∀ content,
        s'.tree.node? l = some (.file content) ↔ s.tree.node? l = some (.file content)) ∧
      ∀ m' : Module, ((m'.isUpToDate path : LoggedT Memory _ _).run ⟨s'.tree, []⟩).1.outcome =
        .ok (decide (m'.text = m.text))) ∧
    (∀ failure, result.outcome = .error failure →
      (∀ l content,
        s'.tree.node? l = some (.file content) ↔ s.tree.node? l = some (.file content)) ∧
      (∀ p content, s.tree.read p = .ok (.ok content) → s'.tree.read p = .ok (.ok content)) ∧
      (s.tree.WellFormed → ∀ l, s.tree.node? l = none → ∀ l' content, l <+: l' →
        s'.tree.node? l' ≠ some (.file content))) ∧
    (∀ l, s.tree.node? l = some .directory → s'.tree.node? l = some .directory) ∧
    ∀ l, s.tree.node? l = none → s'.tree.node? l = some .directory →
      ∃ q, path.Around q ∧ s'.tree.locate q = .ok l := by
  have written := ends_write m path s
  rw [LoggedT.Ends, ran] at written
  dsimp only at written
  cases outcome : result.outcome with
  | ok report =>
    rw [outcome] at written
    obtain ⟨rfl, target, received⟩ := written
    refine ⟨?_, fun failure failed => (by cases failed), received.alters.directories, ?_⟩
    · intro report same
      obtain rfl := Except.ok.inj same
      refine ⟨rfl, rfl, received.read, ?_, ⟨target, received.located, ?_⟩,
        isUpToDate_of_receives received⟩
      · intro content read
        rw [received.read] at read
        cases read
        exact ⟨rfl, rfl⟩
      · exact fun l other content => received.alters.file_iff (by simpa using other)
    · intro l absent directory
      have other : l ∉ ({target} : Set Location) := by
        rintro rfl
        rw [received.file] at directory
        cases directory
      exact (received.alters.new l other absent _ directory).2
  | error failure =>
    rw [outcome] at written
    have altered : Alters ∅ path.Around s.tree s'.tree := written
    refine ⟨fun report ok => (by cases ok), ?_, altered.directories, ?_⟩
    · intro _ _
      refine ⟨fun l content => altered.file_iff (Set.notMem_empty l),
        fun p content => altered.read (by simp), ?_⟩
      intro wellFormed l absent l' content below file
      have before := (altered.file_iff (Set.notMem_empty l')).mp file
      rw [wellFormed.eq_none_of_prefix absent below] at before
      cases before
    · intro l absent directory
      exact (altered.new l (Set.notMem_empty l) absent _ directory).2

/-- A tree with one file. -/
def oneFile : Tree := ⟨[([encode "a"], .file [0x31])], by decide⟩

/-- A module with two object types. -/
def twoTypes : Module where
  typeNames := ["Orders", "order-items"]
  declarations :=
    [⟨"Orders", .object [("id", .string), ("placed-at", .optional .dateTime)]⟩,
      ⟨"orderitems", .object [("prices", .array .number)]⟩]
  union := ⟨"RecordType", ["orders", "order-items"]⟩

/-- The report on the module. -/
def twoTypesReport : Report where
  output := .ofString "b/c"
  bytes := 265
  sha256 := "351cf0826b3d25b64ec3510bda67046bc00b49c5eb93d167e0a67aede07e3dd3"
  types := ["Orders", "order-items"]

/-- A failure to write more than three bytes. -/
def full : Fault := ⟨.other 28 "No space left on device", 3⟩

/-- What becomes of a file system when the module is written, if operations fail as told. -/
def afterWriting (faults : List (Option Fault)) : Logged Failure Report × Memory.State :=
  (twoTypes.write (.ofString "b/c") : LoggedT Memory _ _).run ⟨oneFile, faults⟩

theorem write_atomic_twoTypes :
    (afterWriting []).1.outcome = .ok twoTypesReport ∧
      twoTypesReport.types = twoTypes.typeNames ∧
      twoTypesReport.bytes = (encode twoTypes.text).length ∧
      twoTypesReport.sha256 = Digest.hexDigest (encode twoTypes.text) ∧
      (afterWriting []).2.tree.read (.ofString "b/c") = .ok (.ok (encode twoTypes.text)) ∧
      ((twoTypes.isUpToDate (.ofString "b/c") : LoggedT Memory _ _).run
        ⟨(afterWriting []).2.tree, []⟩).1.outcome = .ok true ∧
      (afterWriting [none, none, some full]).1.outcome = .error (.file full.error) ∧
      (∀ l content, (afterWriting [none, none, some full]).2.tree.node? l = some (.file content) ↔
        oneFile.node? l = some (.file content)) ∧
      ∀ l content, [encode "b"] <+: l →
        (afterWriting [none, none, some full]).2.tree.node? l ≠ some (.file content) := by
  have reported : (afterWriting []).1.outcome = .ok twoTypesReport := by
    have summary : Report.ofModule (.ofString "b/c") twoTypes = twoTypesReport := by
      rw [Report.ofModule, encode_eq_toByteArray]
      decide +kernel
    rw [← summary]
    rfl
  have spoilt : (afterWriting [none, none, some full]).1.outcome = .error (.file full.error) := rfl
  obtain ⟨written, -⟩ := write_atomic twoTypes (.ofString "b/c") ⟨oneFile, []⟩ _ _ rfl
  obtain ⟨-, types, read, exact, -, upToDate⟩ := written twoTypesReport reported
  obtain ⟨bytes, sha256⟩ := exact _ read
  obtain ⟨-, failed, -⟩ :=
    write_atomic twoTypes (.ofString "b/c") ⟨oneFile, [none, none, some full]⟩ _ _ rfl
  obtain ⟨files, -, empty⟩ := failed (.file full.error) spoilt
  have wellFormed : oneFile.WellFormed := wellFormed_of_entries (by decide)
  exact ⟨reported, types, bytes, sha256, read, (upToDate twoTypes).trans (by simp), spoilt, files,
    empty wellFormed [encode "b"] (by decide)⟩

end ValidatorGen.Validator
