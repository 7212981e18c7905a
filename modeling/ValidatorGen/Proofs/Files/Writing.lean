import ValidatorGen.Proofs.Files.Alteration
import ValidatorGen.Proofs.Files.Memory

/-!
# Writing files

A file is opened, which leaves nothing in it, and then bytes are added at its end. If no operation
fails, the file has the bytes and nothing else has changed.

## Main results

* `Files.Memory.receives_of_writeFile` — a file that has been written has the content
-/

namespace ValidatorGen.Files.Memory

variable {s s' : Memory.State} {p : Path}

/-- A file that has been written has the content, and nothing else has changed. -/
theorem receives_of_writeFile {content : List UInt8}
    (ran : (writeFile p content : Memory _) s = (.ok (), s')) :
    ∃ l, Tree.Receives (fun _ => False) p content l s.tree s'.tree := by
  obtain ⟨opened, s₁, created⟩ : ∃ opened s₁, (Disk.create p : Memory _) s = (opened, s₁) :=
    ⟨_, _, rfl⟩
  simp only [writeFile, bind, StateT.bind, created] at ran
  cases opened with
  | error e => cases ran
  | ok l =>
    have received := Tree.receives_of_create (create_of_ok created).1
    change (Disk.write l content : Memory _) s₁ = _ at ran
    rw [run_write] at ran
    refine ⟨l, ?_⟩
    split at ran
    · cases ran
    · cases ran
      exact received.append content

end ValidatorGen.Files.Memory
