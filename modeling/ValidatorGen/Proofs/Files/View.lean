import ValidatorGen.Files.Disk
import ValidatorGen.Proofs.Event
import ValidatorGen.Proofs.Files.Tree

/-!
# File systems that stay as they are

While nobody writes to a file system, all that matters of it is how its paths are read. Nothing is
assumed of what is found there, and opening may fail in any way; only where there is a file, opening
does not say that there is nothing. A computation on such a file system comes to one thing, and the
next computation sees what the first one saw.

## Main definitions

* `View` — how the paths of a file system are read
* `Tree.view` — how those of a tree are
* `Seeing` — computations on a file system that stays as it is
* `LoggedT.seen` — what such a computation comes to

## Main results

* `LoggedT.seen_bind` — two computations in a row see the same file system
-/

namespace ValidatorGen

namespace Files

/-- How the paths of a file system are read. -/
structure View where
  /-- The content of a file. The outer error is met in opening it, the inner one in reading it. -/
  read : Path → Except Error (Except Error (List UInt8))
  /-- The names in a directory, in any order. -/
  list : Path → Except Error (List Name)
  /-- Whether there is a file. -/
  isFile : Path → Bool
  /-- Whether there is a directory. -/
  isDirectory : Path → Bool
  /-- Where there is a file, there is something to open. -/
  read_ne_notFound : ∀ p, isFile p → read p ≠ .error .notFound

/-- How the paths of a tree are read. -/
def Tree.view (t : Tree) : View where
  read := t.read
  list := t.list
  isFile := t.isFile
  isDirectory := t.isDirectory
  read_ne_notFound _ := Tree.read_ne_notFound

/-- Computations on a file system that stays as it is. -/
abbrev Seeing := ReaderM View

/-- Why nothing is changed. -/
def readOnly : Error := .other 30 "Read-only file system"

instance : Disk Seeing Unit where
  read p := fun v => v.read p
  list p := fun v => v.list p
  isFile p := fun v => v.isFile p
  isDirectory p := fun v => v.isDirectory p
  makeDirectory _ := pure (.error readOnly)
  create _ := pure (.error readOnly)
  stage _ := pure (.error readOnly)
  write _ _ := pure (.error readOnly)
  sync _ := pure (.error readOnly)
  move _ _ := pure (.error readOnly)
  discard _ := pure ()

namespace Seeing

variable {α : Type}

theorem run_filterAuxM (f : α → Seeing Bool) (as kept : List α) (v : View) :
    (as.filterAuxM f kept).run v = (as.filter fun a => (f a).run v).reverse ++ kept := by
  -- What has been kept so far is in the reverse order.
  induction as generalizing kept with
  | nil => rfl
  | cons a as ih =>
    rw [List.filterAuxM, ReaderT.run_bind]
    change (as.filterAuxM f (cond ((f a).run v) (a :: kept) kept)).run v = _
    rw [ih]
    cases found : ((f a).run v : Bool) <;> simp [found]

theorem run_filterM (f : α → Seeing Bool) (as : List α) (v : View) :
    (as.filterM f).run v = as.filter fun a => (f a).run v := by
  change ((as.filterAuxM f []).run v : List α).reverse = _
  rw [run_filterAuxM, List.append_nil, List.reverse_reverse]

end Seeing

end Files

open Files

namespace LoggedT

variable {ε ε' α β : Type} (v : View)

/-- What a computation comes to. -/
def seen (x : LoggedT Seeing ε α) (v : View) : Logged ε α := ReaderT.run x.run v

theorem seen_ofLogged (x : Logged ε α) : (ofLogged x : LoggedT Seeing ε α).seen v = x := rfl

theorem seen_ofAction (action : Seeing (Except ε α)) :
    (ofAction action).seen v = .ofExcept (action.run v) := rfl

theorem seen_mapError (f : ε → ε') (x : LoggedT Seeing ε α) :
    (x.mapError f).seen v = (x.seen v).mapError f := rfl

theorem seen_apart (x : LoggedT Seeing ε α) :
    x.apart.seen v = .ofExcept (x.seen v).outcome := rfl

theorem seen_attempt (x : LoggedT Seeing ε α) :
    (x.attempt : LoggedT Seeing ε' (Except ε α)).seen v =
      ⟨(x.seen v).events, .ok (x.seen v).outcome⟩ := rfl

/-- Two computations in a row see the same file system. -/
theorem seen_bind (x : LoggedT Seeing ε α) (f : α → LoggedT Seeing ε β) :
    (x >>= f).seen v = x.seen v >>= fun a => (f a).seen v := by
  change ReaderT.run (x >>= f).run v = _
  -- What the first computation comes to is one thing, on the right as on the left.
  obtain ⟨first, same⟩ : ∃ first, x.seen v = first := ⟨_, rfl⟩
  have run : ReaderT.run x.run v = first := same
  rw [run_bind, ReaderT.run_bind, run, same]
  obtain ⟨events, _ | a⟩ := first
  · rfl
  · rfl

theorem seen_mapM (f : α → LoggedT Seeing ε β) (as : List α) :
    (as.mapM f).seen v = as.mapM fun a => (f a).seen v := by
  induction as with
  | nil => rfl
  | cons a as ih =>
    rw [List.mapM_cons, List.mapM_cons, seen_bind]
    congr 1
    funext b
    rw [seen_bind, ih]
    rfl

end LoggedT

end ValidatorGen
