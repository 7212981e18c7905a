import ValidatorGen.Files.Error
import ValidatorGen.Files.Path
import ValidatorGen.Ordered

/-!
# Trees of files

A tree holds files and directories at locations, which are sequences of names from the root. A path
is followed piece by piece; everything on the way must be a directory. To create something, the path
is followed up to its last piece.

## Main definitions

* `Tree` — files and directories
* `Tree.locate` — the location to which a path leads
* `Tree.aim` — the place where a path would create something
* `Tree.makeDirectory`, `Tree.create`, `Tree.append`, `Tree.move` — the operations that change a
  tree
-/

namespace ValidatorGen.Files

/-- The names on the way from the root. -/
abbrev Location := List Name

/-- What is at a location. -/
inductive Node where
  /-- A file with its content. -/
  | file (content : List UInt8)
  /-- A directory. -/
  | directory
deriving DecidableEq

/-- Files and directories below a root directory. -/
structure Tree where
  /-- What is at each location other than the root. -/
  entries : List (Location × Node)
  /-- Nothing is listed twice. -/
  distinct : (entries.map Prod.fst).Nodup

namespace Tree

/-- The tree with nothing below its root. -/
def empty : Tree := ⟨[], by simp⟩

/-- What is at a location. -/
def node? (t : Tree) (l : Location) : Option Node :=
  if l = [] then some .directory else (Ordered.get? Prod.fst l t.entries).map Prod.snd

/-- The tree with a node at a location, whatever was there before. -/
def put (t : Tree) (l : Location) (node : Node) : Tree :=
  ⟨Ordered.put Prod.fst (l, node) t.entries, Ordered.nodup_put (l, node) t.distinct⟩

/-- The tree with nothing at a location. -/
def erase (t : Tree) (l : Location) : Tree :=
  ⟨t.entries.filter fun e => e.1 ≠ l, t.distinct.sublist (List.filter_sublist.map _)⟩

/-- The names in the directory at a location. -/
def names (t : Tree) (l : Location) : List Name :=
  t.entries.filterMap fun e => if e.1.dropLast = l then e.1.getLast? else none

/-- The byte `~`. -/
def tilde : UInt8 := 0x7e

/-- The greatest number of bytes in a name. -/
def nameLimit : Nat := 255

/-- The greatest number of bytes in a path. -/
def pathLimit : Nat := 4095

/-- The location to which one more piece of a path leads. -/
def enter (t : Tree) (l : Location) (piece : List UInt8) : Except Error Location :=
  if t.node? l ≠ some .directory then .error .notDirectory
  else if piece.isEmpty ∨ piece = here then .ok l
  else if piece = above then .ok l.dropLast
  else if nameLimit < piece.length then .error .nameTooLong
  else if (t.node? (l ++ [piece])).isNone then .error .notFound
  else .ok (l ++ [piece])

/-- Whether a path can be followed at all. -/
def usable (p : Path) : Except Error Unit :=
  if p.bytes.isEmpty then .error .notFound
  else if 0 ∈ p.bytes then .error .invalidPath
  else if pathLimit < p.bytes.length then .error .nameTooLong
  else .ok ()

/-- The location to which a path leads. -/
def locate (t : Tree) (p : Path) : Except Error Location := do
  usable p
  (pieces p.bytes).foldlM t.enter []

/-- What a path leads to. -/
def resolve (t : Tree) (p : Path) : Except Error (Location × Node) := do
  let l ← t.locate p
  match t.node? l with
  | some node => return (l, node)
  | none => .error .notFound

/-- Whether a path leads to a file. -/
def isFile (t : Tree) (p : Path) : Bool :=
  match t.resolve p with
  | .ok (_, .file _) => true
  | _ => false

/-- Whether a path leads to a directory. -/
def isDirectory (t : Tree) (p : Path) : Bool :=
  match t.resolve p with
  | .ok (_, .directory) => true
  | _ => false

/-- The content of the file to which a path leads. A directory can be opened but not read. -/
def read (t : Tree) (p : Path) : Except Error (Except Error (List UInt8)) := do
  match ← t.resolve p with
  | (_, .file content) => return .ok content
  | (_, .directory) => return .error .isDirectory

/-- The names in the directory to which a path leads. -/
def list (t : Tree) (p : Path) : Except Error (List Name) := do
  match ← t.resolve p with
  | (l, .directory) => return t.names l
  | (_, .file _) => .error .notDirectory

/-- The place where a path would create something. -/
structure Target where
  /-- The directory. -/
  parent : Location
  /-- The last piece of the path, which need not be a name. -/
  piece : List UInt8
  /-- Whether a slash follows that piece. -/
  slash : Bool

/-- The location of a new node. -/
def Target.location (target : Target) : Location := target.parent ++ [target.piece]

/-- Whether the last piece of the path is a name, and not one of the pieces that lead to a directory
which is there already. -/
def Target.isName (target : Target) : Bool :=
  !target.piece.isEmpty && target.piece ≠ here && target.piece ≠ above

/-- The place where a path would create something. The directory must be there. -/
def aim (t : Tree) (p : Path) : Except Error Target := do
  usable p
  let slashes := (pieces p.bytes).reverse.takeWhile List.isEmpty
  match (pieces p.bytes).reverse.dropWhile List.isEmpty with
  | [] => return ⟨[], [], true⟩
  | piece :: before =>
    let parent ← before.reverse.foldlM t.enter []
    if t.node? parent ≠ some .directory then .error .notDirectory
    else return ⟨parent, piece, !slashes.isEmpty⟩

/-- The tree with a new directory. -/
def makeDirectory (t : Tree) (p : Path) : Except Error Tree := do
  let target ← t.aim p
  if !target.isName then .error .alreadyExists
  else if nameLimit < target.piece.length then .error .nameTooLong
  else if (t.node? target.location).isSome then .error .alreadyExists
  else return t.put target.location .directory

/-- The tree with the content of a file replaced, or with a new file. -/
def overwrite (t : Tree) (p : Path) (content : List UInt8) : Except Error Tree := do
  let target ← t.aim p
  if !target.isName || target.slash then .error .isDirectory
  else if nameLimit < target.piece.length then .error .nameTooLong
  else if t.node? target.location = some .directory then .error .isDirectory
  else return t.put target.location (.file content)

/-- The location of a file to which nothing has been written yet, and the tree with it. -/
def create (t : Tree) (p : Path) : Except Error (Location × Tree) := do
  let t ← t.overwrite p []
  return (← t.locate p, t)

/-- The tree with bytes added at the end of the file at a location. -/
def append (t : Tree) (l : Location) (bytes : List UInt8) : Tree :=
  match t.node? l with
  | some (.file content) => t.put l (.file (content ++ bytes))
  | some .directory | none => t

/-- The tree with the file at a location moved to where a path leads. A path that no file can have
is an invalid argument. -/
def move (t : Tree) (source : Location) (p : Path) : Except Error Tree := do
  let target ← (t.aim p).mapError fun e => if e = .invalidPath then .invalidArgument else e
  if !target.isName then .error .busy
  else if nameLimit < target.piece.length then .error .nameTooLong
  else if target.slash then .error .notDirectory
  else
    match t.node? source, t.node? target.location with
    | some (.file _), some .directory => .error .isDirectory
    | some (.file content), _ => return (t.erase source).put target.location (.file content)
    | _, _ => .error .notFound

/-- A name that is longer than every name in the directory at a location. -/
def freshName (t : Tree) (l : Location) : Name :=
  List.replicate (((t.names l).map List.length).foldl max 0 + 1) tilde

/-- The location of a new empty file in the directory to which a path leads, with the new tree. -/
def stage (t : Tree) (p : Path) : Except Error (Location × Tree) := do
  match ← t.resolve p with
  | (l, .directory) =>
    let fresh := l ++ [t.freshName l]
    return (fresh, t.put fresh (.file []))
  | (_, .file _) => .error .notDirectory

end Tree

end ValidatorGen.Files
