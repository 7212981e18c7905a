import Mathlib.Data.List.Induction
import Mathlib.Data.List.TakeWhile
import Mathlib.Logic.Function.Basic
import Mathlib.Tactic.SplitIfs
import ValidatorGen.Files.Tree
import ValidatorGen.Proofs.Except

/-!
# Following paths in a tree

What a path leads to is settled by what is at each location. A path that can be followed goes
through directories only, so it leads to the same location in every tree that has these directories
and something at the end.

## Main definitions

* `Location.towards` — where one more piece of a path leads, if there is anything
* `Tree.Stands` — a location is in a directory, which is in a directory, and so on, and the names on
  the way are names
* `Tree.WellFormed` — whatever is in the tree stands

## Main results

* `Tree.node?_put`, `Tree.node?_erase` — putting and erasing change one location
* `Tree.locate_of_directories` — a path leads to the same location in a tree with more directories
* `Tree.locate_of_aim` — once there is something where a path would create it, the path leads there
* `Tree.locate_entry` — the path of an entry leads from its directory to the entry
-/

namespace ValidatorGen.Files

variable {t t' : Tree} {l l' : Location} {p : Path} {piece : List UInt8}

namespace Tree

/-! ### Nodes -/

theorem node?_root (t : Tree) : t.node? [] = some .directory := if_pos rfl

theorem node?_put (t : Tree) (below : l ≠ []) (node : Node) :
    (t.put l node).node? = Function.update t.node? l (some node) := by
  funext l'
  rw [Function.update_apply, node?, node?, put]
  -- The root is there whatever is listed.
  by_cases root : l' = []
  · rw [if_pos root, if_pos root, if_neg fun same => below (same.symm.trans root)]
  · rw [if_neg root, if_neg root, Ordered.get?_put]
    by_cases here : l' = l
    · rw [if_pos here, if_pos here.symm, Option.map_some]
    · rw [if_neg here, if_neg fun same => here same.symm]

theorem node?_erase (t : Tree) (below : l ≠ []) :
    (t.erase l).node? = Function.update t.node? l none := by
  funext l'
  rw [Function.update_apply, node?, node?, erase]
  by_cases root : l' = []
  · rw [if_pos root, if_pos root, if_neg fun same => below (same.symm.trans root)]
  · rw [if_neg root, if_neg root, Ordered.get?_filter_ne]
    by_cases here : l' = l
    · rw [if_pos here, if_pos here, Option.map_none]
    · rw [if_neg here, if_neg here]

theorem isSome_node?_iff (below : l ≠ []) :
    (t.node? l).isSome ↔ ∃ node, (l, node) ∈ t.entries := by
  rw [node?, if_neg below, Option.isSome_map, Ordered.get?, List.find?_isSome]
  constructor
  · rintro ⟨⟨l', node⟩, mem, same⟩
    obtain rfl : l' = l := by simpa using same
    exact ⟨node, mem⟩
  · rintro ⟨node, mem⟩
    exact ⟨(l, node), mem, by simp⟩

theorem entry_mem_names_iff {e : Location × Node} {name : Name} :
    (if e.1.dropLast = l then e.1.getLast? else none) = some name ↔ e.1 = l ++ [name] := by
  constructor
  · intro h
    split at h
    · rename_i parent
      obtain ⟨before, whole⟩ := List.getLast?_eq_some_iff.mp h
      rw [whole, List.dropLast_concat] at parent
      rw [whole, parent]
    · cases h
  · intro h
    rw [h, List.dropLast_concat, if_pos rfl, List.getLast?_concat]

/-- The names in a directory are those under which there is something. -/
theorem mem_names_iff {name : Name} : name ∈ t.names l ↔ (t.node? (l ++ [name])).isSome := by
  rw [isSome_node?_iff (by simp), names, List.mem_filterMap]
  simp only [entry_mem_names_iff]
  constructor
  · rintro ⟨⟨l', node⟩, mem, rfl⟩
    exact ⟨node, mem⟩
  · rintro ⟨node, mem⟩
    exact ⟨_, mem, rfl⟩

/-- No name comes twice in a directory. -/
theorem nodup_names (t : Tree) (l : Location) : (t.names l).Nodup := by
  have distinct : t.entries.Pairwise fun e e' => e.1 ≠ e'.1 := List.pairwise_map.mp t.distinct
  refine List.Pairwise.filterMap _ ?_ distinct
  intro e e' other name found name' found'
  rintro rfl
  exact other ((entry_mem_names_iff.mp found).trans (entry_mem_names_iff.mp found').symm)

end Tree

/-! ### Where paths lead -/

/-- A piece of a path that is neither passed over nor leads upwards. -/
def IsName (piece : List UInt8) : Prop := piece ≠ [] ∧ piece ≠ here ∧ piece ≠ above

/-- Where one more piece of a path leads, if there is anything. -/
def Location.towards (l : Location) (piece : List UInt8) : Location :=
  if piece = [] ∨ piece = here then l else if piece = above then l.dropLast else l ++ [piece]

theorem Location.towards_of_isName (l : Location) (name : IsName piece) :
    l.towards piece = l ++ [piece] := by
  rw [towards, if_neg (not_or.mpr ⟨name.1, name.2.1⟩), if_neg name.2.2]

theorem Location.towards_nil (l : Location) : l.towards [] = l := if_pos (.inl rfl)

namespace Tree

/-- A piece is followed from a directory; if it is a name there must be something of that name. -/
theorem enter_eq_ok_iff :
    t.enter l piece = .ok l' ↔
      t.node? l = some .directory ∧ l.towards piece = l' ∧
        (IsName piece → piece.length ≤ nameLimit ∧ (t.node? l').isSome) := by
  rw [enter, Location.towards, IsName]
  -- The tests come in the order in which they are made.
  by_cases directory : t.node? l = some .directory
  · rw [if_neg (not_not.mpr directory)]
    simp only [List.isEmpty_iff]
    by_cases passed : piece = [] ∨ piece = here
    · rcases passed with rfl | rfl <;> simp [directory]
    · have both := not_or.mp passed
      rw [if_neg passed, if_neg passed]
      by_cases up : piece = above
      · simp [directory, up]
      · rw [if_neg up, if_neg up]
        by_cases long : nameLimit < piece.length
        · simp [long, directory, both, up, Nat.not_le.mpr long]
        · have short := Nat.le_of_not_lt long
          cases found : t.node? (l ++ [piece]) with
          | none =>
            simp only [if_neg long, Option.isNone_none, if_true, reduceCtorEq, false_iff]
            rintro ⟨-, rfl, there⟩
            simpa [found] using (there ⟨both.1, both.2, up⟩).2
          | some node =>
            simp only [if_neg long, Option.isNone_some, Bool.false_eq_true, if_false,
              Except.ok.injEq]
            constructor
            · rintro rfl
              exact ⟨directory, rfl, fun _ => ⟨short, by simp [found]⟩⟩
            · exact fun h => h.2.1
  · simp [directory]

/-- Pieces lead to the same location in a tree that has all directories of the other, and something
at the end. -/
theorem follow_of_directories
    (kept : ∀ l, t.node? l = some .directory → t'.node? l = some .directory)
    {pieces : List (List UInt8)} (h : pieces.foldlM t.enter l = .ok l')
    (there : (t'.node? l').isSome) : pieces.foldlM t'.enter l = .ok l' := by
  induction pieces generalizing l with
  | nil => exact h
  | cons piece pieces ih =>
    rw [List.foldlM_cons, bind_eq_ok_iff] at h ⊢
    obtain ⟨l₁, entered, rest⟩ := h
    obtain ⟨directory, towards, named⟩ := enter_eq_ok_iff.mp entered
    refine ⟨l₁, enter_eq_ok_iff.mpr ⟨kept l directory, towards, fun name => ?_⟩, ih rest⟩
    refine ⟨(named name).1, ?_⟩
    -- What comes before the last piece is a directory, since the path goes on from there.
    cases pieces with
    | nil =>
      cases rest
      exact there
    | cons next pieces =>
      rw [List.foldlM_cons, bind_eq_ok_iff] at rest
      obtain ⟨_, goesOn, -⟩ := rest
      rw [kept l₁ (enter_eq_ok_iff.mp goesOn).1]
      rfl

theorem locate_eq_ok_iff :
    t.locate p = .ok l ↔ usable p = .ok () ∧ (pieces p.bytes).foldlM t.enter [] = .ok l := by
  rw [locate, bind_eq_ok_iff]
  exact ⟨fun ⟨_, use, follow⟩ => ⟨use, follow⟩, fun ⟨use, follow⟩ => ⟨(), use, follow⟩⟩

/-- A path leads to the same location in a tree that has all directories of the other, and something
at the end. -/
theorem locate_of_directories
    (kept : ∀ l, t.node? l = some .directory → t'.node? l = some .directory)
    (h : t.locate p = .ok l) (there : (t'.node? l).isSome) : t'.locate p = .ok l := by
  rw [locate_eq_ok_iff] at h ⊢
  exact ⟨h.1, follow_of_directories kept h.2 there⟩

theorem resolve_eq_ok_iff {node : Node} :
    t.resolve p = .ok (l, node) ↔ t.locate p = .ok l ∧ t.node? l = some node := by
  rw [resolve, bind_eq_ok_iff]
  constructor
  · rintro ⟨l', located, found⟩
    cases node? : t.node? l' with
    | none => simp [node?] at found
    | some node' =>
      simp only [node?, pure, Except.pure, Except.ok.injEq, Prod.mk.injEq] at found
      obtain ⟨rfl, rfl⟩ := found
      exact ⟨located, node?⟩
  · rintro ⟨located, node?⟩
    exact ⟨l, located, by rw [node?]; rfl⟩

/-- A file is read if the path leads to it. -/
theorem read_eq_ok_iff {content : List UInt8} :
    t.read p = .ok (.ok content) ↔ ∃ l, t.locate p = .ok l ∧ t.node? l = some (.file content) := by
  rw [read, bind_eq_ok_iff]
  constructor
  · rintro ⟨⟨l, node⟩, resolved, opened⟩
    cases node with
    | directory => cases opened
    | file content' =>
      cases opened
      exact ⟨l, resolve_eq_ok_iff.mp resolved⟩
  · rintro ⟨l, located, node?⟩
    exact ⟨(l, .file content), resolve_eq_ok_iff.mpr ⟨located, node?⟩, rfl⟩

/-- A directory is listed if the path leads to it. -/
theorem list_eq_ok_iff {names : List Name} :
    t.list p = .ok names ↔
      ∃ l, t.locate p = .ok l ∧ t.node? l = some .directory ∧ t.names l = names := by
  rw [list, bind_eq_ok_iff]
  constructor
  · rintro ⟨⟨l, node⟩, resolved, opened⟩
    cases node with
    | file content => cases opened
    | directory =>
      cases opened
      obtain ⟨located, node?⟩ := resolve_eq_ok_iff.mp resolved
      exact ⟨l, located, node?, rfl⟩
  · rintro ⟨l, located, node?, rfl⟩
    exact ⟨(l, .directory), resolve_eq_ok_iff.mpr ⟨located, node?⟩, rfl⟩

theorem isFile_iff :
    t.isFile p ↔ ∃ l content, t.locate p = .ok l ∧ t.node? l = some (.file content) := by
  constructor
  · intro h
    rw [isFile] at h
    split at h
    · rename_i l content resolved
      exact ⟨l, content, resolve_eq_ok_iff.mp resolved⟩
    · cases h
  · rintro ⟨l, content, located, node?⟩
    rw [isFile, resolve_eq_ok_iff.mpr ⟨located, node?⟩]

/-- Where there is a file, there is something to open. -/
theorem read_ne_notFound (h : t.isFile p) : t.read p ≠ .error .notFound := by
  obtain ⟨l, content, located, node⟩ := isFile_iff.mp h
  rw [read_eq_ok_iff.mpr ⟨l, located, node⟩]
  intro missing
  cases missing

end Tree

/-! ### Pieces -/

theorem slash_not_mem_of_mem_pieces {bytes : List UInt8} (mem : piece ∈ pieces bytes) :
    slash ∉ piece := by
  induction bytes generalizing piece with
  | nil =>
    rw [pieces, List.mem_singleton] at mem
    rw [mem]
    exact List.not_mem_nil
  | cons b bytes ih =>
    rw [pieces] at mem
    -- A slash begins a new piece; any other byte goes to the piece after it.
    by_cases separator : b = slash
    · rw [if_pos separator, List.mem_cons] at mem
      rcases mem with rfl | mem
      · exact List.not_mem_nil
      · exact ih mem
    · rw [if_neg separator] at mem
      cases split : pieces bytes with
      | nil =>
        simp only [split, List.mem_singleton] at mem
        simp [mem, Ne.symm separator]
      | cons first rest =>
        rw [split] at ih
        simp only [split, List.mem_cons] at mem
        rcases mem with rfl | mem
        · rw [List.mem_cons, not_or]
          exact ⟨Ne.symm separator, ih List.mem_cons_self⟩
        · exact ih (List.mem_cons_of_mem first mem)

theorem pieces_ne_nil (bytes : List UInt8) : pieces bytes ≠ [] := by
  cases bytes with
  | nil => simp [pieces]
  | cons b bytes =>
    rw [pieces]
    split
    · simp
    · split <;> simp

theorem pieces_of_slash_not_mem {name : List UInt8} (h : slash ∉ name) : pieces name = [name] := by
  induction name with
  | nil => rfl
  | cons b name ih =>
    rw [List.mem_cons, not_or] at h
    rw [pieces, if_neg fun same => h.1 same.symm, ih h.2]

theorem pieces_append_slash (before after : List UInt8) :
    pieces (before ++ slash :: after) = pieces before ++ pieces after := by
  induction before with
  | nil =>
    change pieces (slash :: after) = [] :: pieces after
    rw [pieces, if_pos rfl]
  | cons b before ih =>
    rw [List.cons_append, pieces, pieces, ih]
    by_cases separator : b = slash
    · rw [if_pos separator, if_pos separator, List.cons_append]
    · rw [if_neg separator, if_neg separator]
      cases split : pieces before with
      | nil =>
        -- There is always a first piece.
        exact absurd split (pieces_ne_nil before)
      | cons first rest => rfl

namespace Tree

/-! ### Where paths would create something -/

theorem isName_iff {target : Target} : target.isName ↔ IsName target.piece := by
  simp [Target.isName, IsName, and_assoc]

theorem follow_slashes {slashes : List (List UInt8)} (h : ∀ s ∈ slashes, s = [])
    (directory : slashes ≠ [] → t.node? l = some .directory) :
    slashes.foldlM t.enter l = .ok l := by
  induction slashes with
  | nil => rfl
  | cons s slashes ih =>
    rw [List.forall_mem_cons] at h
    have here := directory (by simp)
    rw [List.foldlM_cons, bind_eq_ok_iff]
    refine ⟨l, enter_eq_ok_iff.mpr ⟨here, ?_, ?_⟩, ih h.2 fun _ => here⟩
    · rw [h.1, Location.towards_nil]
    · exact fun name => absurd h.1 name.1

/-- A path that would create something leads through directories to the one in which it would. -/
theorem pieces_of_aim {target : Target} (h : t.aim p = .ok target) (name : target.isName) :
    usable p = .ok () ∧ t.node? target.parent = some .directory ∧
      ∃ before slashes, pieces p.bytes = before ++ target.piece :: slashes ∧
        (∀ s ∈ slashes, s = []) ∧ (slashes ≠ [] → target.slash) ∧
        before.foldlM t.enter [] = .ok target.parent := by
  have split := List.takeWhile_append_dropWhile (p := List.isEmpty) (l := (pieces p.bytes).reverse)
  rw [aim, bind_eq_ok_iff] at h
  obtain ⟨_, use, h⟩ := h
  refine ⟨use, ?_⟩
  -- Read from the end, the target is the first piece that is not empty.
  cases last : (pieces p.bytes).reverse.dropWhile List.isEmpty with
  | nil =>
    simp only [last, pure, Except.pure, Except.ok.injEq] at h
    rw [← h] at name
    cases name
  | cons piece before =>
    simp only [last] at h
    rw [bind_eq_ok_iff] at h
    obtain ⟨parent, follow, h⟩ := h
    by_cases directory : t.node? parent = some .directory
    · rw [if_neg (not_not.mpr directory)] at h
      cases h
      refine ⟨directory, before.reverse, ((pieces p.bytes).reverse.takeWhile List.isEmpty).reverse,
        ?_, ?_, ?_, follow⟩
      · have whole := congrArg List.reverse split
        rw [last, List.reverse_append, List.reverse_reverse, List.reverse_cons, List.append_assoc,
          List.singleton_append] at whole
        exact whole.symm
      · intro s mem
        exact List.isEmpty_iff.mp (List.mem_takeWhile_imp (List.mem_reverse.mp mem))
      · intro slashes
        simpa using slashes
    · rw [if_pos directory] at h
      cases h

/-- Once there is something where a path would create it, the path leads there. -/
theorem locate_of_aim {target : Target} (h : t.aim p = .ok target) (name : target.isName)
    (short : target.piece.length ≤ nameLimit)
    (kept : ∀ l, t.node? l = some .directory → t'.node? l = some .directory)
    (there : (t'.node? target.location).isSome)
    (directory : target.slash → t'.node? target.location = some .directory) :
    t'.locate p = .ok target.location := by
  obtain ⟨use, parent, before, slashes, split, empty, trailing, follow⟩ := pieces_of_aim h name
  have parent' := kept _ parent
  have towards := target.parent.towards_of_isName (isName_iff.mp name)
  rw [locate_eq_ok_iff, split, List.foldlM_append, bind_eq_ok_iff]
  -- What comes before the target leads where it led, and the slashes after it lead nowhere else.
  refine ⟨use, target.parent, ?_, ?_⟩
  · exact follow_of_directories kept follow (by rw [parent']; rfl)
  · rw [List.foldlM_cons, bind_eq_ok_iff]
    refine ⟨target.location, enter_eq_ok_iff.mpr ⟨parent', towards, fun _ => ⟨short, there⟩⟩, ?_⟩
    exact follow_slashes empty fun some => directory (trailing some)

/-! ### Entries of directories -/

/-- The path of an entry leads to the directory and from there to the entry. -/
theorem locate_entry {name : Name} (h : t.locate p = .ok l) (proper : slash ∉ name) :
    t.locate (p.entry name) = usable (p.entry name) >>= fun _ => t.enter l name := by
  have nonempty : p.bytes ≠ [] := by
    intro empty
    have use := (locate_eq_ok_iff.mp h).1
    rw [usable, empty] at use
    cases use
  have follow := (locate_eq_ok_iff.mp h).2
  suffices whole : (pieces (p.entry name).bytes).foldlM t.enter [] = t.enter l name by
    rw [locate, whole]
  have single : [name].foldlM t.enter l = t.enter l name := by
    rw [List.foldlM_cons]
    cases t.enter l name <;> rfl
  rw [Path.entry]
  -- A slash is put between them only if the path does not end in one.
  split
  · rename_i last
    obtain ⟨before, split⟩ :=
      List.getLast?_eq_some_iff.mp (last.resolve_left (by simpa using nonempty))
    rw [split, pieces_append_slash, List.foldlM_append, bind_eq_ok_iff] at follow
    obtain ⟨l₁, before', stays⟩ := follow
    -- The slash at the end of the path leads nowhere else.
    obtain rfl : l₁ = l := by
      have one : t.enter l₁ [] = .ok l := by
        rw [pieces, List.foldlM_cons, bind_eq_ok_iff] at stays
        obtain ⟨l₂, entered, done⟩ := stays
        cases done
        exact entered
      exact (Location.towards_nil l₁).symm.trans (enter_eq_ok_iff.mp one).2.1
    rw [split]
    dsimp only
    rw [List.append_assoc, List.singleton_append, pieces_append_slash, List.foldlM_append, before',
      pieces_of_slash_not_mem proper]
    exact single
  · dsimp only
    rw [pieces_append_slash, List.foldlM_append, follow, pieces_of_slash_not_mem proper]
    exact single

/-! ### Well-formed trees -/

/-- Each name on the way to the location is the name of something in a directory. -/
def Stands (t : Tree) (l : Location) : Prop :=
  ∀ parent name, parent ++ [name] <+: l →
    t.node? parent = some .directory ∧ IsName name ∧ slash ∉ name

/-- Whatever is in the tree stands in directories, under names. -/
def WellFormed (t : Tree) : Prop := ∀ l, (t.node? l).isSome → t.Stands l

theorem stands_root (t : Tree) : t.Stands [] := by
  intro parent name isPrefix
  simp at isPrefix

theorem stands_concat_iff {name : Name} :
    t.Stands (l ++ [name]) ↔
      t.Stands l ∧ t.node? l = some .directory ∧ IsName name ∧ slash ∉ name := by
  constructor
  · intro stands
    refine ⟨fun parent name' isPrefix => ?_, stands l name List.prefix_rfl⟩
    exact stands parent name' (isPrefix.trans (List.prefix_append l [name]))
  · rintro ⟨stands, here⟩ parent name' isPrefix
    -- A name on the way is the last one, or is on the way to that.
    rcases List.prefix_concat_iff.mp isPrefix with same | before
    · obtain ⟨rfl, last⟩ := List.append_inj' same rfl
      obtain rfl : name' = name := List.singleton_inj.mp last
      exact here
    · exact stands parent name' before

instance (piece : List UInt8) : Decidable (IsName piece) :=
  inferInstanceAs (Decidable (_ ∧ _ ∧ _))

/-- A tree is well-formed if each of its entries is in a directory, under names. -/
theorem wellFormed_of_entries (h : ∀ e ∈ t.entries, t.node? e.1.dropLast = some .directory ∧
    ∀ name ∈ e.1, IsName name ∧ slash ∉ name) : t.WellFormed := by
  intro l
  -- By induction on the number of names: what is around an entry is there, so it stands.
  induction l using List.reverseRecOn with
  | nil => exact fun _ => stands_root t
  | append_singleton l name ih =>
    intro there
    obtain ⟨node, mem⟩ := (isSome_node?_iff (by simp)).mp there
    obtain ⟨directory, names⟩ := h _ mem
    rw [List.dropLast_concat] at directory
    have stands := ih (by rw [directory]; rfl)
    exact stands_concat_iff.mpr ⟨stands, directory, names name (by simp)⟩

theorem Stands.of_prefix (stands : t.Stands l) (isPrefix : l' <+: l) : t.Stands l' :=
  fun parent name before => stands parent name (before.trans isPrefix)

theorem Stands.of_directories (stands : t.Stands l)
    (kept : ∀ l, t.node? l = some .directory → t'.node? l = some .directory) : t'.Stands l :=
  fun parent name isPrefix =>
    ⟨kept parent (stands parent name isPrefix).1, (stands parent name isPrefix).2⟩

theorem stands_of_follow {pieces : List (List UInt8)} (proper : ∀ piece ∈ pieces, slash ∉ piece)
    (stands : t.Stands l) (h : pieces.foldlM t.enter l = .ok l') : t.Stands l' := by
  induction pieces generalizing l with
  | nil =>
    cases h
    exact stands
  | cons piece pieces ih =>
    rw [List.forall_mem_cons] at proper
    rw [List.foldlM_cons, bind_eq_ok_iff] at h
    obtain ⟨l₁, entered, rest⟩ := h
    refine ih proper.2 ?_ rest
    obtain ⟨directory, rfl, -⟩ := enter_eq_ok_iff.mp entered
    rw [Location.towards]
    -- Only a name leads on; the other pieces stay or lead back.
    split_ifs with passed up
    · exact stands
    · exact stands.of_prefix (List.dropLast_prefix l)
    · have both := not_or.mp passed
      exact stands_concat_iff.mpr ⟨stands, directory, ⟨both.1, both.2, up⟩, proper.1⟩

/-- Where a path leads, that stands. -/
theorem stands_of_locate (h : t.locate p = .ok l) : t.Stands l :=
  stands_of_follow (fun _ mem => slash_not_mem_of_mem_pieces mem) (stands_root t)
    (locate_eq_ok_iff.mp h).2

end Tree

end ValidatorGen.Files
