import Mathlib.Logic.Relation
import ValidatorGen.Proofs.Files.Alteration
import ValidatorGen.Proofs.Files.Memory

/-!
# Making directories

To make a directory and the directories around it changes nothing but that directories are added,
and each of them is one to which the path leads once some of its last components are left out. This
is so whether or not an operation fails.

## Main definitions

* `Path.Around` — the path of a directory around what a path leads to
* `Memory.Grows` — a computation adds at most directories to which certain paths lead

## Main results

* `grows_createDirectories` — the directories that are made are the one asked for and those around
  it
-/

namespace ValidatorGen.Files

open Files.Tree

/-- The path `q` is `p` without its last component. -/
def Path.IsParent (p q : Path) : Prop := p.parent? = some q

/-- The path `q` is `p` without one or more of its last components. -/
def Path.Around (p : Path) : Path → Prop := Relation.TransGen Path.IsParent p

variable {α β : Type} {around : Path → Prop} {t t' : Tree}

namespace Memory

/-- The computation adds at most directories, to which some of the paths lead. -/
def Grows (around : Path → Prop) (x : Memory α) : Prop :=
  ∀ s, Alters ∅ around s.tree (x s).2.tree

theorem Grows.bind {x : Memory α} {f : α → Memory β} (h : Grows around x)
    (h' : ∀ a, Grows around (f a)) : Grows around (x >>= f) :=
  fun s => (h s).trans (h' (x s).1 (x s).2)

theorem Grows.mono {around' : Path → Prop} {x : Memory α} (h : Grows around x)
    (paths : ∀ q, around q → around' q) : Grows around' x :=
  fun s => (h s).mono (Set.Subset.refl _) paths

theorem grows_of_reads {x : Memory α} (h : Reads x) : Grows around x := by
  intro s
  rw [(h s).1]
  exact Alters.refl _ _ _

theorem grows_pure (a : α) : Grows around (pure a : Memory α) := grows_of_reads (reads_pure a)

theorem grows_makeDirectory (p : Path) : Grows (· = p) (Disk.makeDirectory p : Memory _) := by
  intro s
  change Alters ∅ (· = p) s.tree (change (fun t => t.makeDirectory p) s).2.tree
  rcases change_cases (fun t => t.makeDirectory p) s with ⟨t', made, performed⟩ | ⟨e, performed⟩
  · rw [performed]
    exact alters_of_makeDirectory made
  · rw [performed]
    exact Alters.refl _ _ _

end Memory

open Memory

/-- The directories that are made are those to which the path leads, once none or some of its last
components are left out. -/
theorem grows_createUpTo (fuel : Nat) (p : Path) :
    Grows (Relation.ReflTransGen Path.IsParent p) (createUpTo fuel p : Memory _) := by
  induction fuel generalizing p with
  | zero => exact grows_pure _
  | succ fuel ih =>
    have make : Grows (Relation.ReflTransGen Path.IsParent p) (Disk.makeDirectory p : Memory _) :=
      (grows_makeDirectory p).mono fun q same => same ▸ .refl
    have recover (e : Error) : Grows (Relation.ReflTransGen Path.IsParent p)
        (do if ← Disk.isDirectory p then return .ok () else return .error e :
          Memory (Except Error Unit)) := by
      refine (grows_of_reads (reads_isDirectory p)).bind fun found => ?_
      cases found <;> exact grows_pure _
    rw [createUpTo]
    split
    · exact grows_pure _
    · refine make.bind fun outcome => ?_
      cases outcome with
      | ok _ => exact grows_pure _
      | error e =>
        -- Only if what is around the directory is missing is it made first.
        by_cases missing : e = .notFound
        · subst missing
          dsimp only
          cases parent : p.parent? with
          | none => exact grows_pure _
          | some parent' =>
            have isParent : Path.IsParent p parent' := parent
            have outside := (ih parent').mono fun q leads =>
              Relation.ReflTransGen.head isParent leads
            refine outside.bind fun outcome => ?_
            cases outcome with
            | error e => exact grows_pure _
            | ok _ =>
              refine make.bind fun outcome => ?_
              cases outcome with
              | ok _ => exact grows_pure _
              | error e => exact recover e
        · cases e with
          | notFound => exact absurd rfl missing
          | _ => exact recover _

theorem grows_createDirectories (p : Path) :
    Grows (Relation.ReflTransGen Path.IsParent p) (createDirectories p : Memory _) :=
  grows_createUpTo _ p

end ValidatorGen.Files
