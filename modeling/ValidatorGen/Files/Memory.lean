import ValidatorGen.Files.Disk
import ValidatorGen.Files.Tree

/-!
# File systems in memory

A file system in memory is a tree. Any operation may be made to fail: each takes the next of a list
of faults, if there is one.

## Main definitions

* `Fault` — a failure of an operation
* `Memory` — computations on a tree
-/

namespace ValidatorGen.Files

/-- A failure of an operation. -/
structure Fault where
  /-- How the operation fails. -/
  error : Error
  /-- How many bytes have been written by then, if the operation writes. -/
  written : Nat
deriving DecidableEq

/-- A tree, and the faults of the operations to come. -/
structure Memory.State where
  /-- The tree. -/
  tree : Tree
  /-- Whether, and how, each of the next operations fails. -/
  faults : List (Option Fault) := []

/-- Computations on a tree. -/
abbrev Memory := StateM Memory.State

namespace Memory

/-- Performs an operation that reads or changes the tree. If it is to fail, the tree becomes what
`spoil` makes of it. -/
def perform {α : Type} (operation : Tree → Except Error (α × Tree))
    (spoil : Nat → Tree → Tree) : Memory (Except Error α) := fun s =>
  match s.faults with
  | some fault :: faults => (.error fault.error, ⟨spoil fault.written s.tree, faults⟩)
  | faults =>
    match operation s.tree with
    | .ok (a, tree) => (.ok a, ⟨tree, faults.tail⟩)
    | .error e => (.error e, ⟨s.tree, faults.tail⟩)

/-- Performs an operation that only reads the tree. -/
def observe {α : Type} (operation : Tree → Except Error α) : Memory (Except Error α) :=
  perform (fun t => (operation t).map (·, t)) fun _ t => t

/-- Performs an operation that changes the tree at once or not at all. -/
def change (operation : Tree → Except Error Tree) : Memory (Except Error Unit) :=
  perform (fun t => (operation t).map ((), ·)) fun _ t => t

instance : Disk Memory Location where
  read p := observe fun t => t.read p
  list p := observe fun t => t.list p
  isFile p := do return (← observe fun t => .ok (t.isFile p)) matches .ok true
  isDirectory p := do return (← observe fun t => .ok (t.isDirectory p)) matches .ok true
  makeDirectory p := change fun t => t.makeDirectory p
  create p := perform (fun t => t.create p) fun _ t => t
  stage p := perform (fun t => t.stage p) fun _ t => t
  write l bytes :=
    perform (fun t => .ok ((), t.append l bytes)) fun written t => t.append l (bytes.take written)
  sync _ := observe fun _ => .ok ()
  move l p := change fun t => t.move l p
  discard l := modify fun s => { s with tree := s.tree.erase l }

end Memory

end ValidatorGen.Files
