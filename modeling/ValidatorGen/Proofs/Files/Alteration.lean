import Mathlib.Data.Set.Insert
import ValidatorGen.Proofs.Files.Tree

/-!
# Changes to a tree

Every operation keeps all directories. It changes at most one location, apart from new directories;
and where a new directory is, there leads a path that was to be made a directory. All other files
stay as they are, and a tree that was well-formed stays well-formed.

## Main definitions

* `Tree.Alters` — the change from one tree to another is of this kind

## Main results

* `Tree.Alters.file_iff` — away from the locations that are changed, the files are the same
* `Tree.Alters.wellFormed` — a well-formed tree stays well-formed
* `Tree.alters_of_makeDirectory`, `Tree.receives_of_create`, `Tree.Receives.append`,
  `Tree.receives_of_move` — what the operations change
* `Tree.node?_of_stage` — a staged file is new
-/

namespace ValidatorGen.Files.Tree

variable {changed : Set Location} {around : Path → Prop} {t t₁ t' : Tree} {l l' : Location}
  {p : Path}

/-- The trees differ at most at the locations that are changed, and by new directories to which some
of the paths lead. -/
structure Alters (changed : Set Location) (around : Path → Prop) (t t' : Tree) : Prop where
  /-- All directories are kept. -/
  directories : ∀ l, t.node? l = some .directory → t'.node? l = some .directory
  /-- Elsewhere what was there is there. -/
  kept : ∀ l ∉ changed, ∀ node, t.node? l = some node → t'.node? l = some node
  /-- Elsewhere what is new is a directory. -/
  new : ∀ l ∉ changed, t.node? l = none → ∀ node, t'.node? l = some node →
    node = .directory ∧ ∃ q, around q ∧ t'.locate q = .ok l

theorem Alters.refl (changed : Set Location) (around : Path → Prop) (t : Tree) :
    Alters changed around t t where
  directories _ directory := directory
  kept _ _ _ there := there
  new l _ absent node there := by simp [absent] at there

theorem Alters.trans (h : Alters changed around t t₁) (h' : Alters changed around t₁ t') :
    Alters changed around t t' where
  directories l directory := h'.directories l (h.directories l directory)
  kept l elsewhere node there := h'.kept l elsewhere node (h.kept l elsewhere node there)
  new l elsewhere absent node there := by
    cases between : t₁.node? l with
    | none => exact h'.new l elsewhere between node there
    | some node₁ =>
      -- What came with the first step is still there, and the path still leads to it.
      obtain ⟨rfl, q, mem, located⟩ := h.new l elsewhere absent node₁ between
      have still := h'.kept l elsewhere _ between
      obtain rfl : node = .directory := Option.some.inj (there.symm.trans still)
      exact ⟨rfl, q, mem, locate_of_directories h'.directories located (by rw [still]; rfl)⟩

theorem Alters.mono {changed' : Set Location} {around' : Path → Prop}
    (h : Alters changed around t t') (locations : changed ⊆ changed')
    (paths : ∀ q, around q → around' q) : Alters changed' around' t t' where
  directories := h.directories
  kept l elsewhere := h.kept l fun mem => elsewhere (locations mem)
  new l elsewhere absent node there := by
    obtain ⟨directory, q, mem, located⟩ :=
      h.new l (fun mem => elsewhere (locations mem)) absent node there
    exact ⟨directory, q, paths q mem, located⟩

/-- The change is the same to a tree with the same at each location. -/
theorem Alters.of_node?_eq (h : Alters changed around t t₁) (same : t'.node? = t₁.node?) :
    Alters changed around t t' where
  directories l directory := by
    rw [same]
    exact h.directories l directory
  kept l elsewhere node there := by
    rw [same]
    exact h.kept l elsewhere node there
  new l elsewhere absent node there := by
    rw [same] at there
    obtain ⟨directory, q, mem, located⟩ := h.new l elsewhere absent node there
    refine ⟨directory, q, mem, locate_of_directories (fun l directory => ?_) located ?_⟩
    · rw [same, directory]
    · rw [same, there]
      rfl

/-- A change at one location that is no directory. -/
theorem Alters.of_update {node : Node} (around : Path → Prop)
    (h : t'.node? = Function.update t.node? l (some node)) (free : t.node? l ≠ some .directory) :
    Alters {l} around t t' where
  directories l' directory := by
    have other : l' ≠ l := by
      rintro rfl
      exact free directory
    rw [h, Function.update_of_ne other, directory]
  kept l' elsewhere node' there := by
    rw [h, Function.update_of_ne (by simpa using elsewhere), there]
  new l' elsewhere absent node' there := by
    rw [h, Function.update_of_ne (by simpa using elsewhere), absent] at there
    cases there

/-- Away from the locations that are changed, the files are the same. -/
theorem Alters.file_iff (h : Alters changed around t t') (elsewhere : l ∉ changed)
    {content : List UInt8} :
    t'.node? l = some (.file content) ↔ t.node? l = some (.file content) := by
  constructor
  · intro file
    cases before : t.node? l with
    | none => cases (h.new l elsewhere before _ file).1
    | some node => exact (h.kept l elsewhere node before).symm.trans file
  · exact h.kept l elsewhere _

/-- A path still leads where it led, if that has not been changed. -/
theorem Alters.locate {node : Node} (h : Alters changed around t t') (located : t.locate p = .ok l)
    (there : t.node? l = some node) (elsewhere : l ∉ changed) : t'.locate p = .ok l :=
  locate_of_directories h.directories located (by rw [h.kept l elsewhere node there]; rfl)

/-- A file that has not been changed is read as before. -/
theorem Alters.read {content : List UInt8} (h : Alters changed around t t')
    (elsewhere : ∀ l ∈ changed, t.locate p ≠ .ok l) (read : t.read p = .ok (.ok content)) :
    t'.read p = .ok (.ok content) := by
  obtain ⟨l, located, file⟩ := read_eq_ok_iff.mp read
  have unchanged : l ∉ changed := fun mem => elsewhere l mem located
  exact read_eq_ok_iff.mpr
    ⟨l, h.locate located file unchanged, (h.file_iff unchanged).mpr file⟩

/-- A well-formed tree stays well-formed, if what is changed stands in directories. -/
theorem Alters.wellFormed (h : Alters changed around t t') (wellFormed : t.WellFormed)
    (stands : ∀ l ∈ changed, t'.Stands l) : t'.WellFormed := by
  intro l there
  by_cases mem : l ∈ changed
  · exact stands l mem
  · -- What was there stands as before, and what is new is where a path leads.
    cases before : t.node? l with
    | some node => exact (wellFormed l (by rw [before]; rfl)).of_directories h.directories
    | none =>
      obtain ⟨node, there⟩ := Option.isSome_iff_exists.mp there
      obtain ⟨-, q, -, located⟩ := h.new l mem before node there
      exact stands_of_locate located

/-- Below a location at which there is nothing there is nothing. -/
theorem WellFormed.eq_none_of_prefix (wellFormed : t.WellFormed) (absent : t.node? l = none)
    (below : l <+: l') : t.node? l' = none := by
  obtain ⟨names, rfl⟩ := below
  cases names with
  | nil => rwa [List.append_nil]
  | cons name names =>
    by_contra there
    -- Something below would stand in a directory at the location.
    have stands := wellFormed _ (Option.isSome_iff_ne_none.mpr there)
    have onTheWay : l ++ [name] <+: l ++ name :: names := ⟨names, by simp⟩
    have directory := (stands l name onTheWay).1
    rw [absent] at directory
    cases directory

/-! ### Operations -/

theorem location_ne_root (target : Target) : target.location ≠ [] := by simp [Target.location]

/-- Making a directory adds that directory. -/
theorem alters_of_makeDirectory (h : t.makeDirectory p = .ok t') : Alters ∅ (· = p) t t' := by
  rw [makeDirectory, bind_eq_ok_iff] at h
  obtain ⟨target, aimed, h⟩ := h
  split_ifs at h with name long there
  cases h
  have free : t.node? target.location = none := by simpa using there
  have isName : target.isName := by simpa using name
  have update := t.node?_put (location_ne_root target) .directory
  have made : (t.put target.location .directory).node? target.location = some .directory := by
    rw [update, Function.update_self]
  have one := Alters.of_update (· = p) update (by rw [free]; simp)
  -- What is new is a directory to which the path leads, so no location counts as changed.
  refine ⟨one.directories, fun l _ node there => ?_, fun l _ absent node there => ?_⟩
  · have other : l ≠ target.location := by
      rintro rfl
      rw [free] at there
      cases there
    exact one.kept l (by simpa using other) node there
  · by_cases here : l = target.location
    · subst here
      obtain rfl : node = .directory := Option.some.inj (there.symm.trans made)
      refine ⟨rfl, p, rfl, locate_of_aim aimed isName (Nat.le_of_not_lt long) one.directories ?_ ?_⟩
      · rw [made]
        rfl
      · exact fun _ => made
    · exact one.new l (by simpa using here) absent node there

/-- What a step that puts a file where a path leads makes of a tree. -/
structure Receives (around : Path → Prop) (p : Path) (content : List UInt8) (l : Location)
    (t t' : Tree) : Prop where
  /-- Nothing but the file is changed. -/
  alters : Alters {l} around t t'
  /-- The path leads to the file. -/
  located : t'.locate p = .ok l
  /-- The file has the content. -/
  file : t'.node? l = some (.file content)

theorem Receives.read {content : List UInt8} (h : Receives around p content l t t') :
    t'.read p = .ok (.ok content) := read_eq_ok_iff.mpr ⟨l, h.located, h.file⟩

/-- What is read elsewhere is read as before. -/
theorem Receives.read_of_ne {content content' : List UInt8} {q : Path}
    (h : Receives around p content l t t') (apart : t'.locate q ≠ .ok l)
    (read : t.read q = .ok (.ok content')) : t'.read q = .ok (.ok content') := by
  refine h.alters.read (fun l' mem located => apart ?_) read
  obtain rfl := Set.mem_singleton_iff.mp mem
  exact locate_of_directories h.alters.directories located (by rw [h.file]; rfl)

theorem Receives.mono {around' : Path → Prop} {content : List UInt8}
    (h : Receives around p content l t t') (paths : ∀ q, around q → around' q) :
    Receives around' p content l t t' where
  alters := h.alters.mono (Set.Subset.refl _) paths
  located := h.located
  file := h.file

/-- A file may be received after directories have been added. -/
theorem Receives.after {content : List UInt8} (h : Receives around p content l t₁ t')
    (grown : Alters ∅ around t t₁) : Receives around p content l t t' where
  alters := (grown.mono (Set.empty_subset _) fun _ mem => mem).trans h.alters
  located := h.located
  file := h.file

theorem Receives.wellFormed {content : List UInt8} (h : Receives around p content l t t')
    (wellFormed : t.WellFormed) : t'.WellFormed := by
  refine h.alters.wellFormed wellFormed fun l' mem => ?_
  obtain rfl := Set.mem_singleton_iff.mp mem
  exact stands_of_locate h.located

/-- A file is put where a path would create it. -/
theorem receives_of_aim {target : Target} {content : List UInt8} (around : Path → Prop)
    (aimed : t.aim p = .ok target) (name : target.isName) (short : target.piece.length ≤ nameLimit)
    (slash : target.slash = false) (free : t₁.node? target.location ≠ some .directory)
    (kept : ∀ l, t.node? l = some .directory → t'.node? l = some .directory)
    (update : t'.node? = Function.update t₁.node? target.location (some (.file content))) :
    Receives around p content target.location t₁ t' := by
  have file : t'.node? target.location = some (.file content) := by
    rw [update, Function.update_self]
  refine ⟨.of_update around update free, ?_, file⟩
  refine locate_of_aim aimed name short kept ?_ ?_
  · rw [file]
    rfl
  · intro trailing
    rw [slash] at trailing
    cases trailing

/-- Overwriting a file changes that file. -/
theorem receives_of_overwrite {content : List UInt8} (h : t.overwrite p content = .ok t') :
    ∃ l, Receives (fun _ => False) p content l t t' := by
  rw [overwrite, bind_eq_ok_iff] at h
  obtain ⟨target, aimed, h⟩ := h
  split_ifs at h with nameless long directory
  cases h
  have name : target.isName = true ∧ target.slash = false := by simpa using nameless
  have update := t.node?_put (location_ne_root target) (.file content)
  exact ⟨target.location, receives_of_aim _ aimed name.1 (Nat.le_of_not_lt long) name.2 directory
    (Alters.of_update (fun _ => False) update directory).directories update⟩

/-- A file that has been opened to be written is where its path leads, and nothing is in it. -/
theorem receives_of_create (h : t.create p = .ok (l, t')) :
    Receives (fun _ => False) p [] l t t' := by
  rw [create, bind_eq_ok_iff] at h
  obtain ⟨t₁, overwritten, h⟩ := h
  obtain ⟨l', received⟩ := receives_of_overwrite overwritten
  rw [received.located] at h
  cases h
  exact received

/-- Bytes are added to what a file has received. -/
theorem Receives.append {content : List UInt8} (h : Receives around p content l t t')
    (bytes : List UInt8) : Receives around p (content ++ bytes) l t (t'.append l bytes) := by
  have below : l ≠ [] := by
    rintro rfl
    cases (node?_root t').symm.trans h.file
  have appended : t'.append l bytes = t'.put l (.file (content ++ bytes)) := by
    rw [Tree.append, h.file]
  have update := t'.node?_put below (.file (content ++ bytes))
  have file : (t'.append l bytes).node? l = some (.file (content ++ bytes)) := by
    rw [appended, update, Function.update_self]
  have longer : Alters {l} around t' (t'.append l bytes) := by
    rw [appended]
    exact .of_update around update (by rw [h.file]; simp)
  exact ⟨h.alters.trans longer,
    locate_of_directories longer.directories h.located (by rw [file]; rfl), file⟩

/-! ### Staged files -/

theorem foldl_max_le_iff {ns : List Nat} {m bound : Nat} :
    ns.foldl max m ≤ bound ↔ m ≤ bound ∧ ∀ n ∈ ns, n ≤ bound := by
  induction ns generalizing m with
  | nil => simp
  | cons n ns ih => rw [List.foldl_cons, ih, Nat.max_le, List.forall_mem_cons, and_assoc]

/-- Nothing has the name of a new staged file: no name in the directory is that long. -/
theorem node?_freshName (t : Tree) (l : Location) : t.node? (l ++ [t.freshName l]) = none := by
  by_contra there
  have mem : t.freshName l ∈ t.names l := mem_names_iff.mpr (Option.isSome_iff_ne_none.mpr there)
  have bounds := foldl_max_le_iff.mp (Nat.le_refl (((t.names l).map List.length).foldl max 0))
  have short := bounds.2 _ (List.mem_map_of_mem mem)
  rw [freshName, List.length_replicate] at short
  omega

/-- A staged file is new. -/
theorem node?_of_stage (h : t.stage p = .ok (l, t')) :
    l ≠ [] ∧ t.node? l = none ∧ t'.node? = Function.update t.node? l (some (.file [])) := by
  rw [stage, bind_eq_ok_iff] at h
  obtain ⟨⟨directory, node⟩, resolved, h⟩ := h
  cases node with
  | file content => cases h
  | directory =>
    cases h
    exact ⟨by simp, t.node?_freshName directory, t.node?_put (by simp) _⟩

/-- Moving a staged file to where a path would create it puts it there, and leaves nothing where it
was staged. -/
theorem receives_of_move {content : List UInt8} (around : Path → Prop) (below : l ≠ [])
    (fresh : t₁.node? l = none)
    (staged : t.node? = Function.update t₁.node? l (some (.file content)))
    (h : t.move l p = .ok t') : ∃ l', Receives around p content l' t₁ t' := by
  have source : t.node? l = some (.file content) := by rw [staged, Function.update_self]
  rw [move, bind_eq_ok_iff] at h
  obtain ⟨target, aimed, h⟩ := h
  rw [mapError_eq_ok_iff] at aimed
  rw [source] at h
  split_ifs at h with name long slash
  have isName : target.isName := by simpa using name
  -- A directory is not replaced.
  have free : t.node? target.location ≠ some .directory := by
    intro directory
    rw [directory] at h
    cases h
  obtain rfl : (t.erase l).put target.location (.file content) = t' := by
    cases there : t.node? target.location with
    | none =>
      rw [there] at h
      exact Except.ok.inj h
    | some node =>
      rw [there] at h free
      cases node with
      | directory => exact absurd rfl free
      | file content' => exact Except.ok.inj h
  -- Seen from the tree before the staging, only the target is another.
  have update : ((t.erase l).put target.location (.file content)).node? =
      Function.update t₁.node? target.location (some (.file content)) := by
    rw [node?_put _ (location_ne_root target), node?_erase _ below, staged, Function.update_idem,
      ← fresh, Function.update_eq_self]
  have free₁ : t₁.node? target.location ≠ some .directory := by
    intro directory
    refine free ?_
    have other : target.location ≠ l := by
      rintro same
      rw [same, fresh] at directory
      cases directory
    rw [staged, Function.update_of_ne other, directory]
  refine ⟨target.location, receives_of_aim around aimed isName (Nat.le_of_not_lt long)
    (by simpa using slash) free₁ (fun l' directory => ?_) update⟩
  -- The staged file is no directory, so the directories are those there were before it.
  have directory₁ : t₁.node? l' = some .directory := by
    rw [staged] at directory
    by_cases same : l' = l
    · rw [same, Function.update_self] at directory
      cases directory
    · rwa [Function.update_of_ne same] at directory
  exact (Alters.of_update around update free₁).directories l' directory₁

end ValidatorGen.Files.Tree
