import ValidatorGen.Files.Error
import ValidatorGen.Files.Path

/-!
# File systems

What the program needs of a file system, so that it can run on one in memory as well as on the
system's own. A file is written in two steps: it is opened, which leaves nothing in it, and then
bytes are added. To replace a file at once, a new file is staged in the same directory, written, and
moved over the old one.

## Main definitions

* `Disk` — the operations on a file system
* `writeFile` — write a file
* `createDirectories` — make a directory and the directories around it
-/

namespace ValidatorGen.Files

/-- The operations on a file system. Files that are open to be written are named by `σ`. -/
class Disk (m : Type → Type) (σ : outParam Type) where
  /-- The content of a file. The outer error is met in opening it, the inner one in reading it. -/
  read : Path → m (Except Error (Except Error (List UInt8)))
  /-- The names in a directory, in any order. -/
  list : Path → m (Except Error (List Name))
  /-- Whether there is a file. -/
  isFile : Path → m Bool
  /-- Whether there is a directory. -/
  isDirectory : Path → m Bool
  /-- Makes a directory. -/
  makeDirectory : Path → m (Except Error Unit)
  /-- Opens a file to be written. Its content is dropped, or it is made. -/
  create : Path → m (Except Error σ)
  /-- Stages a new empty file in a directory. -/
  stage : Path → m (Except Error σ)
  /-- Adds bytes at the end of an open file. -/
  write : σ → List UInt8 → m (Except Error Unit)
  /-- Makes sure that a staged file is stored. -/
  sync : σ → m (Except Error Unit)
  /-- Moves a staged file to a path. -/
  move : σ → Path → m (Except Error Unit)
  /-- Removes a staged file. -/
  discard : σ → m Unit

variable {m : Type → Type} [Monad m] {σ : Type} [Disk m σ]

/-- Writes a file: its content is replaced, or it is made. -/
def writeFile (p : Path) (content : List UInt8) : m (Except Error Unit) := do
  match ← Disk.create p with
  | .ok file => Disk.write file content
  | .error e => return .error e

/-- Makes a directory and at most `fuel` directories around it. -/
def createUpTo : Nat → Path → m (Except Error Unit)
  | 0, _ => return .error .notFound
  | fuel + 1, p => do
    if p.bytes.isEmpty then return .ok ()
    let settled (outcome : Except Error Unit) : m (Except Error Unit) := do
      match outcome with
      | .ok () => return .ok ()
      | .error e => if ← Disk.isDirectory p then return .ok () else return .error e
    match ← Disk.makeDirectory p with
    | .error .notFound =>
      match p.parent? with
      | none => return .error .notFound
      | some parent =>
        match ← createUpTo fuel parent with
        | .error e => return .error e
        | .ok () => settled (← Disk.makeDirectory p)
    | outcome => settled outcome

/-- Makes a directory and the directories around it that are not there. -/
def createDirectories (p : Path) : m (Except Error Unit) := createUpTo (p.bytes.length + 1) p

end ValidatorGen.Files
