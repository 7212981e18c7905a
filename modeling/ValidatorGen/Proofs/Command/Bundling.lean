import ValidatorGen.Proofs.Command.Compilation
import ValidatorGen.Proofs.Files.Writing
import ValidatorGen.Proofs.Schema.Written

/-!
# Bundling

A bundle that has been written has the document of the directory it was made from, and can be read:
its containers do not stand too deep. So whatever is compiled from the one is compiled from the
other, as the same module or with the same error.

## Main results

* `ends_runBundle` — what bundling makes of a tree
* `loadBundle_of_read` — the document is loaded from the file to which it was written
* `bundle_preserves` — bundle and directory load and compile alike
-/

namespace ValidatorGen

open Files Files.Tree Files.Memory Schema Validator Text

variable {t t' : Tree} {directory output : Path} {d : Document} {m : Module} {l : Files.Location}

/-! ### Writing a bundle -/

/-- Makes the directories around a file that are not there. -/
def makeAround (output : Path) : LoggedT Memory Obstacle Unit :=
  match output.parent? with
  | some parent =>
    if parent.bytes.isEmpty then pure ()
    else (LoggedT.ofAction (createDirectories parent)).mapError (.noDirectory parent)
  | none => pure ()

/-- Writes a document to a file. -/
def writeBundle (output : Path) (d : Document) : LoggedT Memory Obstacle String := do
  (LoggedT.ofAction (writeFile output (encode d.toValue.indented))).mapError (.noBundle output)
  return "Bundled " ++ toString d.types.length ++ " object type(s) into " ++ shown output ++ ".\n"

theorem runBundle_eq (directory output : Path) :
    runBundle directory output = (loadDirectory directory).mapError (.types directory) >>= fun d =>
      compiled {} d >>= fun _ => makeAround output >>= fun _ => writeBundle output d := by
  rw [runBundle]
  refine bind_congr fun d => bind_congr fun _ => ?_
  rw [makeAround, writeBundle]
  cases output.parent? with
  | none => rfl
  | some parent =>
    by_cases empty : parent.bytes.isEmpty <;> simp [empty]

theorem ends_makeAround (output : Path) (s : Memory.State) :
    (makeAround output).Ends s fun _ s' => Alters ∅ output.Around s.tree s'.tree := by
  rw [makeAround]
  split
  · rename_i parent isParent
    split
    · exact Alters.refl _ _ _
    · refine LoggedT.Ends.mapError (LoggedT.ends_ofAction ?_)
      exact (grows_createDirectories parent s).mono (Set.Subset.refl _)
        fun q leads => Relation.TransGen.head' isParent leads
  · exact Alters.refl _ _ _

theorem ends_writeBundle (output : Path) (d : Document) (s : Memory.State) :
    (writeBundle output d).Ends s fun outcome s' => ∀ text, outcome = .ok text →
      ∃ l, Receives output.Around output (encode d.toValue.indented) l s.tree s'.tree := by
  rw [writeBundle]
  have written : ((LoggedT.ofAction (writeFile output (encode d.toValue.indented))).mapError
      (Obstacle.noBundle output) : LoggedT Memory _ _).Ends s fun outcome s' => outcome = .ok () →
        ∃ l, Receives output.Around output (encode d.toValue.indented) l s.tree s'.tree := by
    refine LoggedT.Ends.mapError (LoggedT.ends_ofAction fun ok => ?_)
    obtain ⟨l, received⟩ := receives_of_writeFile (Prod.ext (mapError_eq_ok_iff.mp ok) rfl)
    exact ⟨l, received.mono fun q none => none.elim⟩
  refine written.bind (fun _ s' done => ?_) fun e s' _ text ok => (by cases ok)
  exact fun text _ => done rfl

/-- What bundling makes of a tree on which no operation fails: the document of the directory is
compiled, and then written to the file. -/
theorem ends_runBundle (directory output : Path) (t : Tree) :
    (runBundle directory output : LoggedT Memory _ _).Ends ⟨t, []⟩ fun outcome s' =>
      ∀ text, outcome = .ok text →
        ∃ d m l, ((loadDirectory directory : LoggedT Memory _ _).look t).outcome = .ok d ∧
          (emit {} d).outcome = .ok m ∧
          Receives output.Around output (encode d.toValue.indented) l t s'.tree := by
  rw [runBundle_eq]
  -- Loading and compiling leave the tree alone; the directories and the file come after that.
  have loaded := (reads_loadDirectory directory).mapError (Obstacle.types directory)
  refine (LoggedT.ends_look loaded t).bind (fun d s₁ look => ?_) fun e s₁ _ text ok => (by cases ok)
  obtain ⟨look, rfl⟩ := look
  rw [LoggedT.look_mapError (reads_loadDirectory directory), Logged.outcome_mapError, eq_comm,
    mapError_eq_ok_iff] at look
  refine (LoggedT.ends_look (reads_compiled _ _) t).bind (fun m s₂ emitted => ?_)
    fun e s₂ _ text ok => (by cases ok)
  obtain ⟨emitted, rfl⟩ := emitted
  have emitted : (emit {} d).outcome = .ok m := mapError_eq_ok_iff.mp emitted.symm
  refine (ends_makeAround output _).bind (fun _ s₃ grown => ?_) fun e s₃ _ text ok => (by cases ok)
  refine (ends_writeBundle output d s₃).mono fun outcome s₄ written text ok => ?_
  obtain ⟨l, received⟩ := written text ok
  exact ⟨d, m, l, look, emitted, received.after grown⟩

/-- A directory that is loaded and compiled is bundled, if there is a directory for the bundle and
its file can be made. -/
theorem ends_runBundle_of_create
    (loaded : ((loadDirectory directory : LoggedT Memory _ _).look t).outcome = .ok d)
    (emitted : (emit {} d).outcome = .ok m) (around : makeAround output = pure ())
    (created : t.create output = .ok (l, t')) :
    (runBundle directory output : LoggedT Memory _ _).Ends ⟨t, []⟩ fun outcome s' =>
      (∃ text, outcome = .ok text) ∧ s' = ⟨t'.append l (encode d.toValue.indented), []⟩ := by
  have reads := reads_loadDirectory directory
  rw [runBundle_eq, around]
  refine LoggedT.ends_bind_of_look (a := d) (reads.mapError _) ?_ ?_
  · rw [LoggedT.look_mapError reads, Logged.outcome_mapError, loaded]
    rfl
  · refine LoggedT.ends_bind_of_look (a := m) (reads_compiled _ _) (mapError_eq_ok_iff.mpr emitted)
      ?_
    have ran : (writeFile output (encode d.toValue.indented) : Memory _) ⟨t, []⟩ =
        (.ok (), ⟨t'.append l (encode d.toValue.indented), []⟩) := by
      simp [writeFile, bind, StateT.bind, Disk.create, perform, created, Disk.write]
    have written := LoggedT.run_mapError (LoggedT.run_ofAction ran) (Obstacle.noBundle output)
    rw [pure_bind, writeBundle, LoggedT.Ends, LoggedT.run_bind_of_ok written]
    exact ⟨⟨_, rfl⟩, rfl⟩

/-! ### Reading it back -/

/-- A document that has been loaded and compiled is loaded from the file to which it was written. -/
theorem loadBundle_of_read {m : Module} (canonical : d.Canonical) (distinct : d.DistinctFields)
    (emitted : (emit {} d).outcome = .ok m)
    (read : t.read output = .ok (.ok (encode d.toValue.indented))) :
    ((loadBundle output : LoggedT Memory _ _).look t).outcome = .ok d := by
  have within := (emit_outcome_eq_ok_iff.mp emitted).2.2.1
  have value : Json.Value.ofFile (encode d.toValue.indented) = .ok d.toValue :=
    Document.ofFile_indented distinct within (by decide)
  have document : Document.ofValue d.toValue = .ok d :=
    (Document.ofValue_toValue_eq_self_iff distinct).mpr canonical
  rw [look_loadBundle, read, Logged.outcome_bind, bind_eq_ok_iff]
  refine ⟨d.toValue, ?_, ?_⟩
  · change (Json.Value.ofFile (encode d.toValue.indented)).mapError Failure.json = _
    rw [value]
    rfl
  · rw [loadedBundle, document]

/-- An object type is read from a file that is named for it and holds its description, if nothing
in it is given by a tag that is understood. -/
theorem typeOf_of_written {type : ObjectType} {path : Path} (named : typeName path = .ok type.name)
    (distinct : type.DistinctFields) (canonical : type.normalize = type)
    (within : type.toValue.nesting ≤ Json.greatestNesting) :
    typeOf path (.ok (.ok (encode type.toValue.compact))) = .ok type := by
  rw [typeOf_of_named named (valueOf_of_plain (ObjectType.plain_toValue distinct) within),
    ObjectType.ofValue_toValue distinct, canonical]
  rfl

/-! ### Compiling either -/

/-- The same input, with the document of a bundle. -/
def Input.fromBundle (input : Input) (path : Path) : Input :=
  { input with bundle := some path, directory := none }

/-- The same input, with the document of a directory. -/
def Input.fromDirectory (input : Input) (path : Path) : Input :=
  { input with bundle := none, directory := some path }

/-- Inputs with the same settings and documents have the same module, or fail alike. -/
theorem loadModule_congr {input input' : Input}
    (config : (input.loadConfig : LoggedT Memory _ _) = input'.loadConfig)
    (document : (input.loadDocument.look t).outcome = (input'.loadDocument.look t).outcome) :
    (input.loadModule.look t).outcome = (input'.loadModule.look t).outcome := by
  rw [Input.loadModule_outcome, Input.loadModule_outcome, config, document]

/-- What is generated depends on the module alone. -/
theorem runFrom_generate_congr {input input' : Input}
    (same : (input.loadModule.look t).outcome = (input'.loadModule.look t).outcome)
    (path : Option Path) (check json : Bool) :
    ((Command.generate input path check json).runFrom ⟨t, []⟩).1.outcome =
        ((Command.generate input' path check json).runFrom ⟨t, []⟩).1.outcome ∧
      ((Command.generate input path check json).runFrom ⟨t, []⟩).2 =
        ((Command.generate input' path check json).runFrom ⟨t, []⟩).2 := by
  simp only [Command.runFrom, Command.run, runGenerate_eq]
  -- Loading changes nothing, so the run is the delivery of what has been loaded.
  have whole (input : Input) :
      (input.loadModule >>= deliver path check json).Ends ⟨t, []⟩ fun outcome s' =>
        (outcome, s') = match (input.loadModule.look t).outcome with
          | .ok loaded => (((deliver path check json loaded).run ⟨t, []⟩).1.outcome,
              ((deliver path check json loaded).run ⟨t, []⟩).2)
          | .error e => (.error e, ⟨t, []⟩) := by
    refine (LoggedT.ends_look input.reads_loadModule t).bind (fun loaded s' look => ?_)
      fun e s' look => ?_
    · obtain ⟨look, rfl⟩ := look
      rw [← look]
      exact rfl
    · obtain ⟨look, rfl⟩ := look
      rw [← look]
  have first := whole input
  have second := whole input'
  rw [LoggedT.Ends] at first second
  rw [same, ← second, Prod.mk.injEq] at first
  exact first

/-! ### Bundling by command -/

/-- After a directory has been bundled, the bundle has the document that the directory has, before
and after. -/
theorem loads_of_receives {m : Module} (wellFormed : t.WellFormed)
    (loaded : ((loadDirectory directory : LoggedT Memory _ _).look t).outcome = .ok d)
    (emitted : (emit {} d).outcome = .ok m)
    (received : Receives output.Around output (encode d.toValue.indented) l t t')
    (apart : ¬ IsTypeFile t' directory l) :
    ((loadDirectory directory : LoggedT Memory _ _).look t').outcome = .ok d ∧
      ((loadBundle output : LoggedT Memory _ _).look t').outcome = .ok d := by
  constructor
  · exact loadDirectory_of_receives received wellFormed apart loaded
  · obtain ⟨canonical, distinct⟩ := canonical_of_loadDirectory loaded
    exact loadBundle_of_read canonical distinct emitted received.read

/-- If a directory is bundled and no operation fails, then the bundle has the document that the
directory has, before and after. Its containers do not stand too deep. Whatever the settings, a
module is then compiled and delivered alike from the one and from the other. The bundle may be
anywhere but among the files that count for the directory. -/
theorem bundle_preserves (t t' : Tree) (wellFormed : t.WellFormed) (arguments : List Argument)
    (directory output : Path)
    (asked : Command.ofArguments arguments = .ok (.bundle directory output))
    (done : exitStatus arguments ⟨t, []⟩ = 0) (after : treeAfter arguments ⟨t, []⟩ = t')
    (apart : ∀ l, t'.locate output = .ok l → ¬ IsTypeFile t' directory l) :
    (∃ d : Document, d.toValue.nesting ≤ Json.greatestNesting ∧
      t'.read output = .ok (.ok (encode d.toValue.indented)) ∧
      ((loadDirectory directory : LoggedT Memory _ _).look t).outcome = .ok d ∧
      ((loadDirectory directory : LoggedT Memory _ _).look t').outcome = .ok d ∧
      ((loadBundle output : LoggedT Memory _ _).look t').outcome = .ok d) ∧
    ∀ (input : Input) (path : Option Path) (check json : Bool),
      ((input.fromBundle output).loadModule.look t').outcome =
        ((input.fromDirectory directory).loadModule.look t').outcome ∧
      ((Command.generate (input.fromBundle output) path check json).runFrom ⟨t', []⟩).1.outcome =
        ((Command.generate (input.fromDirectory directory) path check json).runFrom
          ⟨t', []⟩).1.outcome ∧
      ((Command.generate (input.fromBundle output) path check json).runFrom ⟨t', []⟩).2 =
        ((Command.generate (input.fromDirectory directory) path check json).runFrom
          ⟨t', []⟩).2 := by
  obtain ⟨text, ok⟩ := (exitStatus_eq_zero_iff asked _).mp done
  obtain ⟨d, m, l, loaded, emitted, received⟩ := ends_runBundle directory output t text ok
  have same : ((runBundle directory output : LoggedT Memory _ _).run ⟨t, []⟩).2.tree = t' :=
    (treeAfter_of_command asked _).symm.trans after
  rw [same] at received
  obtain ⟨fromDirectory, fromBundle⟩ :=
    loads_of_receives wellFormed loaded emitted received (apart l received.located)
  constructor
  · -- The bound on descriptors, which are compiled first, is one on containers.
    have within := (emit_outcome_eq_ok_iff.mp emitted).2.2.1
    have shallow := Document.nesting_toValue_le within
    have enough : 3 + 2 * ({} : Options).maxDepth ≤ Json.greatestNesting := by decide
    exact ⟨d, shallow.trans enough, received.read, loaded, fromDirectory, fromBundle⟩
  · intro input path check json
    have bundled : ((input.fromBundle output).loadDocument.look t').outcome = .ok d :=
      Input.loadDocument_eq_ok_iff.mpr
        (.inr ⟨output, rfl, fromBundle, fun folder given => (by cases given)⟩)
    have listed : ((input.fromDirectory directory).loadDocument.look t').outcome = .ok d :=
      Input.loadDocument_eq_ok_iff.mpr (.inl ⟨directory, rfl, fromDirectory⟩)
    have module : ((input.fromBundle output).loadModule.look t').outcome =
        ((input.fromDirectory directory).loadModule.look t').outcome :=
      loadModule_congr rfl (bundled.trans listed.symm)
    exact ⟨module, runFrom_generate_congr module path check json⟩

/-- An object type whose fields are of several kinds. -/
def orders : ObjectType where
  name := "orders"
  fields :=
    [("lines", .mk (.array (.mk .number false)) true),
      ("at", .mk (.string (some .dateTime)) false),
      ("buyer", .mk (.object [("zip", .mk (.string none) true), ("extra", .mk .openObject false)])
        true)]

/-- An object type that comes after the other by its name, but whose file comes before. -/
def orderNotes : ObjectType where
  name := "orders-notes"
  fields := [("text", .mk (.unknown (some "rich")) true), ("pinned", .mk .boolean false)]

/-- A tree with a directory of two object types, and a file that does not count for it. -/
def inbox : Tree where
  entries :=
    [([encode "in"], .directory),
      ([encode "in", encode "orders.json"], .file (encode orders.toValue.compact)),
      ([encode "in", encode "notes.txt"], .file (encode "[")),
      ([encode "in", encode "orders-notes.json"], .file (encode orderNotes.toValue.compact))]
  distinct := by decide

/-- What stands in that directory. -/
def inboxNames : List Name := ["orders.json", "notes.txt", "orders-notes.json"].map encode

/-- The document of that directory, in the order of the names of its files. -/
def inboxDocument : Document := .ofTypes [orderNotes, orders]

theorem distinctFields_orders : orders.DistinctFields := by
  simp [orders, ObjectType.DistinctFields, Descriptor.DistinctFields, Kind.DistinctFields,
    FieldsDistinct]

theorem distinctFields_orderNotes : orderNotes.DistinctFields := by
  simp [orderNotes, ObjectType.DistinctFields, Descriptor.DistinctFields, Kind.DistinctFields,
    FieldsDistinct]

/-- Two names are sorted by comparing them. -/
theorem mergeSort_pair (le : Name → Name → Bool) (a b : Name) :
    [a, b].mergeSort le = if le a b then [a, b] else [b, a] := by
  simp [List.mergeSort, List.MergeSort.Internal.splitInTwo, List.merge]

theorem loadDirectory_inbox :
    ((loadDirectory (.ofString "in") : LoggedT Memory _ _).look inbox).outcome =
      .ok inboxDocument := by
  have named : typeNames inboxNames = [encode "orders.json", encode "orders-notes.json"] := by
    decide +kernel
  have files : typeFilesIn inbox (.ofString "in") inboxNames =
      [.ofString "in/orders-notes.json", .ofString "in/orders.json"] := by
    rw [typeFilesIn, named, mergeSort_pair]
    decide +kernel
  have first : typeOf (.ofString "in/orders-notes.json")
      (inbox.read (.ofString "in/orders-notes.json")) = .ok orderNotes :=
    typeOf_of_written (by decide +kernel) distinctFields_orderNotes (by decide) (by decide)
  have second : typeOf (.ofString "in/orders.json") (inbox.read (.ofString "in/orders.json")) =
      .ok orders :=
    typeOf_of_written (by decide +kernel) distinctFields_orders (by decide) (by decide)
  refine loadDirectory_eq_ok_iff.mpr ⟨inboxNames, [orderNotes, orders], by decide +kernel, ?_, rfl⟩
  rw [files, List.mapM_cons, List.mapM_cons, List.mapM_nil, first, second]
  rfl

/-- A command line that bundles the directory. -/
def bundleInbox : List Argument := ["bundle", "in", "--output", "b.json"].map encode

/-- What that tree becomes when the directory is bundled. -/
def inboxBundled : Tree := treeAfter bundleInbox ⟨inbox, []⟩

theorem ofArguments_bundleInbox :
    Command.ofArguments bundleInbox = .ok (.bundle (.ofString "in") (.ofString "b.json")) := rfl

/-- The bundle stands beside the directory. -/
theorem inboxBundled_eq : exitStatus bundleInbox ⟨inbox, []⟩ = 0 ∧
    inboxBundled = (inbox.put [encode "b.json"] (.file [])).append [encode "b.json"]
      (encode inboxDocument.toValue.indented) := by
  have named : WellNamed inboxDocument.names := namingProblem?_eq_none_iff.mp (by decide +kernel)
  have emitted : (emit {} inboxDocument).outcome = .ok (inboxDocument.module _) :=
    emit_outcome_eq_ok_iff.mpr ⟨by decide, named, by decide, rfl⟩
  have created : inbox.create (.ofString "b.json") =
      .ok ([encode "b.json"], inbox.put [encode "b.json"] (.file [])) := rfl
  obtain ⟨printed, state⟩ := ends_runBundle_of_create loadDirectory_inbox emitted rfl created
  exact ⟨(exitStatus_eq_zero_iff ofArguments_bundleInbox _).mpr printed,
    (treeAfter_of_command ofArguments_bundleInbox _).trans (congrArg Memory.State.tree state)⟩

theorem bundle_preserves_inbox :
    (∃ d : Document, d.types = [orderNotes, orders] ∧
      ((loadDirectory (.ofString "in") : LoggedT Memory _ _).look inbox).outcome = .ok d ∧
      ((loadBundle (.ofString "b.json") : LoggedT Memory _ _).look inboxBundled).outcome = .ok d) ∧
    ∀ depth, ((Input.fromBundle { maxDepth := some depth } (.ofString "b.json")).loadModule.look
        inboxBundled).outcome =
      ((Input.fromDirectory { maxDepth := some depth } (.ofString "in")).loadModule.look
        inboxBundled).outcome := by
  obtain ⟨done, tree⟩ := inboxBundled_eq
  have listing : inboxBundled.locate (.ofString "in") = .ok [encode "in"] := by
    rw [tree]
    decide +kernel
  have bundle : inboxBundled.locate (.ofString "b.json") = .ok [encode "b.json"] := by
    rw [tree]
    decide +kernel
  have apart : ∀ l, inboxBundled.locate (.ofString "b.json") = .ok l →
      ¬ IsTypeFile inboxBundled (.ofString "in") l := by
    rintro l located ⟨parent, name, around, -, inside⟩
    rw [bundle] at located
    rw [listing] at around
    cases located
    cases around
    exact absurd (congrArg List.length inside) (by simp)
  obtain ⟨⟨d, -, -, before, -, bundled⟩, alike⟩ :=
    bundle_preserves inbox inboxBundled (wellFormed_of_entries (by decide)) bundleInbox
      (.ofString "in") (.ofString "b.json") ofArguments_bundleInbox done rfl apart
  obtain rfl := Except.ok.inj (before.symm.trans loadDirectory_inbox)
  exact ⟨⟨_, Document.types_ofTypes (by decide), before, bundled⟩,
    fun depth => (alike { maxDepth := some depth } none true false).1⟩

end ValidatorGen
