import ValidatorGen.Proofs.Command.Overriding
import ValidatorGen.Proofs.Config.Pieces
import ValidatorGen.Proofs.Config.RoundTrip

/-!
# Configurations saved and loaded

What has been saved is what is loaded, whatever the texts in it are. A configuration is saved
without asking whether it can be worked with, and loaded only if it can. Saving does not hear of a
failure to write the last piece of the text, if that is short: then the file has less than the text,
and what is loaded may be something else.

## Main definitions

* `Config.lastFault?` — whether, and how, the writing of the last piece fails
* `Config.stored` — what is in the file when a configuration has been saved

## Main results

* `Config.read_of_save` — what has been saved is in the file, but for what nobody has heard of
* `Config.load_save` — a configuration is loaded as it was saved, or refused for what is wrong with
  its settings, unless the writing of the last piece has failed
* `Config.load_of_lost` — if nothing of a short text has been written, then it is the configuration
  without settings that is loaded
-/

namespace ValidatorGen.Config

open Files Files.Tree Files.Memory

variable {s s' : Memory.State} {t t' : Tree} {path : Path} {l : Location} {c : Config}

/-! ### What is in the file -/

/-- Whether, and how, the writing of the last piece fails: it comes after the opening of the file
and the writing of all other pieces. -/
def lastFault? (c : Config) (s : Memory.State) : Option Fault := (s.faults[c.pieces.length]?).join

/-- What is in the file when a configuration has been saved: its text, or what has been written of
it before a failure of which nobody has heard. -/
def stored (c : Config) : Option Fault → List UInt8
  | none => Text.encode c.text
  | some fault =>
    c.pieces.dropLast.flatten ++ (c.pieces.getLast c.pieces_ne_nil).take fault.written

/-- What is in the file is the beginning of the text. -/
theorem stored_prefix (c : Config) (fault : Option Fault) :
    c.stored fault <+: Text.encode c.text := by
  cases fault with
  | none => exact List.prefix_refl _
  | some fault =>
    rw [← flatten_pieces]
    conv_rhs => rw [← List.dropLast_append_getLast c.pieces_ne_nil, List.flatten_append,
      List.flatten_singleton]
    exact (List.prefix_append_right_inj _).mpr (List.take_prefix _ _)

/-- Saving opens the file and then writes the pieces. -/
theorem exists_create_of_save {events : List Event}
    (saved : (c.save path : LoggedT Memory _ _).run s = (⟨events, .ok ()⟩, s')) :
    ∃ l s₁, (Disk.create path : Memory _) s = (.ok l, s₁) ∧
      ((writePieces l c.pieces : LoggedT Memory _ _).run s₁).1.outcome = .ok () ∧
      ((writePieces l c.pieces : LoggedT Memory _ _).run s₁).2 = s' := by
  obtain ⟨opened, s₁, created⟩ : ∃ opened s₁, (Disk.create path : Memory _) s = (opened, s₁) :=
    ⟨_, _, rfl⟩
  have first := LoggedT.run_mapError (LoggedT.run_ofAction created) Failure.file
  rw [save] at saved
  cases opened with
  | error e =>
    rw [LoggedT.run_bind_of_error first] at saved
    cases saved
  | ok l =>
    obtain ⟨⟨⟨told, outcome⟩, after⟩, ran⟩ : ∃ r, (writePieces l c.pieces :
        LoggedT Memory _ _).run s₁ = r := ⟨_, rfl⟩
    rw [LoggedT.run_bind_of_ok first, ran] at saved
    cases saved
    exact ⟨l, s₁, created, congrArg (·.1.outcome) ran, congrArg Prod.snd ran⟩

/-- What has been saved is in the file. -/
theorem read_of_save {events : List Event}
    (saved : (c.save path : LoggedT Memory _ _).run s = (⟨events, .ok ()⟩, s')) :
    s'.tree.read path = .ok (.ok (c.stored (c.lastFault? s))) := by
  obtain ⟨l, s₁, created, ok, after⟩ := exists_create_of_save saved
  obtain ⟨opened, faults⟩ := create_of_ok created
  have parts := List.dropLast_append_getLast c.pieces_ne_nil
  have count : c.pieces.dropLast.length + 1 = c.pieces.length := by
    rw [List.length_dropLast]
    exact Nat.sub_add_cancel (List.length_pos_iff.mpr c.pieces_ne_nil)
  rw [← parts] at ok after
  obtain ⟨-, quiet, lost⟩ := receives_of_writePieces (fun piece => long_of_mem_dropLast)
    (receives_of_create opened) ok after
  -- To open the file has taken one operation, so there is one fewer to come.
  have next : (s₁.faults[c.pieces.dropLast.length]?).join = c.lastFault? s := by
    rw [lastFault?, faults, List.getElem?_tail, count]
  rw [next] at quiet lost
  cases fault : c.lastFault? s with
  | none =>
    have whole := (quiet fault).read
    rwa [List.nil_append, ← List.flatten_concat, parts, flatten_pieces] at whole
  | some fault' =>
    have some := (lost fault' fault).2.read
    rwa [List.nil_append] at some

/-- A configuration is saved if its file can be opened and nothing fails. -/
theorem run_save_of_create (created : t.create path = .ok (l, t')) :
    ∃ t₁, (c.save path : LoggedT Memory _ _).run ⟨t, []⟩ = (⟨[], .ok ()⟩, ⟨t₁, []⟩) := by
  have opened : (Disk.create path : Memory _) ⟨t, []⟩ = (.ok l, ⟨t', []⟩) := by
    simp [Disk.create, perform, created]
  have first := LoggedT.run_mapError (LoggedT.run_ofAction opened) Failure.file
  obtain ⟨t₁, rest⟩ := run_writePieces_of_quiet l c.pieces t'
  refine ⟨t₁, ?_⟩
  rw [save, LoggedT.run_bind_of_ok first, rest]
  rfl

/-! ### What is loaded from it -/

/-- A configuration is checked if its file can be opened. -/
theorem run_load_of_opened {octets : List UInt8} (holds : ofOctets octets = .ok c)
    (opened : (Disk.read path : Memory _) s =
      (.ok (.ok octets), ⟨s.tree, s.faults.tail⟩)) :
    (load path : LoggedT Memory _ _).run s =
      (⟨[], c.checked.mapError .config⟩, ⟨s.tree, s.faults.tail⟩) := by
  have first := LoggedT.run_mapError (LoggedT.run_ofAction opened) Failure.file
  -- What has been read is parsed without the tree.
  have decodes : ((decoded path).run s).1.outcome = .ok c := by
    rw [decoded, LoggedT.run_bind_of_ok first]
    change (ofOctets octets).mapError _ = _
    rw [holds]
    rfl
  exact run_load_of_decoded decodes

/-- A configuration is loaded from a file that holds it, unless opening the file fails. -/
theorem run_load_of_read {octets : List UInt8} (holds : ofOctets octets = .ok c)
    (read : s.tree.read path = .ok (.ok octets)) :
    (load path : LoggedT Memory _ _).run s =
      (⟨[], match s.faults.head? with
        | some (some fault) => .error (.file fault.error)
        | _ => c.checked.mapError .config⟩, ⟨s.tree, s.faults.tail⟩) := by
  have opened := run_read path s
  rw [read] at opened
  rcases next : s.faults.head? with _ | _ | fault
  all_goals rw [next] at opened
  · exact run_load_of_opened holds opened
  · exact run_load_of_opened holds opened
  · have first := LoggedT.run_mapError (LoggedT.run_ofAction opened) Failure.file
    exact LoggedT.run_bind_of_error first _

/-- A configuration that has been saved is what its text says, whatever its texts are and whether or
not it can be worked with. The text is in the file, or so much of it as was written before a failure
of which nobody has heard. If there was none, and unless the file cannot be read, loading it comes
to the same configuration if it can be worked with, and otherwise to the first setting that is
wrong. -/
theorem load_save {events : List Event} (depth : c.maxDepth < .pow 2 64)
    (saved : (c.save path : LoggedT Memory _ _).run s = (⟨events, .ok ()⟩, s')) :
    ofOctets (Text.encode c.text) = .ok c ∧
      s'.tree.read path = .ok (.ok (c.stored (c.lastFault? s))) ∧
      (c.lastFault? s = none → (load path : LoggedT Memory _ _).run s' =
        (⟨[], match s'.faults.head? with
          | some (some fault) => .error (.file fault.error)
          | _ => match c.problem? with
            | some problem => .error (.config problem)
            | none => .ok c⟩, ⟨s'.tree, s'.faults.tail⟩)) := by
  have check : (c.checked.mapError .config : Except Failure Config) =
      match c.problem? with
      | some problem => .error (.config problem)
      | none => .ok c := by
    rw [checked]
    cases c.problem? <;> rfl
  rw [← check]
  refine ⟨ofOctets_text depth, read_of_save saved, fun heard => ?_⟩
  have read := read_of_save saved
  rw [heard] at read
  exact run_load_of_read (ofOctets_text depth) read

/-- A configuration with texts that look like something else. -/
def oddTexts (unionName : String) : Config where
  output := "# no comment"
  unionName := unionName
  maxDepth := 18446744073709551615
  included := ["", "null", "12", " blank ", "two\nlines\n", "\u0007"]
  excluded := ["- it's: \"so\"", "a\n\n b", "true"]

/-- A tree with an older configuration. -/
def filedConfig : Tree where
  entries := [([Text.encode "c.yml"], .file (Text.encode "max_depth: 0\n"))]
  distinct := by decide

theorem load_save_oddTexts :
    (∃ t' : Tree, ((oddTexts "Row").save (.ofString "c.yml") : LoggedT Memory _ _).run
        ⟨filedConfig, []⟩ = (⟨[], .ok ()⟩, ⟨t', []⟩) ∧
      ((load (.ofString "c.yml") : LoggedT Memory _ _).run ⟨t', []⟩).1.outcome =
        .ok (oddTexts "Row")) ∧
    ∃ t' : Tree, ((oddTexts "a: b").save (.ofString "c.yml") : LoggedT Memory _ _).run
        ⟨filedConfig, []⟩ = (⟨[], .ok ()⟩, ⟨t', []⟩) ∧
      ((load (.ofString "c.yml") : LoggedT Memory _ _).run ⟨t', []⟩).1.outcome =
        .error (.config (.badUnionName "a: b")) := by
  have created : ∃ l t', filedConfig.create (.ofString "c.yml") = .ok (l, t') := ⟨_, _, rfl⟩
  obtain ⟨l, t', created⟩ := created
  have accepted : (oddTexts "Row").problem? = none := by decide
  have refused : (oddTexts "a: b").problem? = some (.badUnionName "a: b") := by decide
  obtain ⟨t₁, saved₁⟩ := run_save_of_create (c := oddTexts "Row") created
  obtain ⟨t₂, saved₂⟩ := run_save_of_create (c := oddTexts "a: b") created
  refine ⟨⟨t₁, saved₁, ?_⟩, t₂, saved₂, ?_⟩
  · rw [(load_save (by decide) saved₁).2.2 rfl, accepted]
    rfl
  · rw [(load_save (by decide) saved₂).2.2 rfl, refused]
    rfl

/-! ### What is lost -/

/-- A short text is one piece. -/
theorem pieces_of_short (short : (Text.encode c.text).length < bufferSize) :
    c.pieces = [Text.encode c.text] := by
  have parts := List.dropLast_append_getLast c.pieces_ne_nil
  have whole := congrArg List.flatten parts
  rw [flatten_pieces] at whole
  have front : c.pieces.dropLast = [] := by
    cases front : c.pieces.dropLast with
    | nil => rfl
    | cons piece pieces =>
      have long : bufferSize ≤ piece.length :=
        long_of_mem_dropLast (c := c) (by rw [front]; exact List.mem_cons_self)
      rw [front] at whole
      rw [← whole] at short
      simp only [List.cons_append, List.flatten_cons, List.length_append] at short
      omega
  rw [front, List.nil_append, List.flatten_singleton] at whole
  rw [← parts, front, whole]
  rfl

/-- If nothing of a short text is written, the file is empty although saving has seemed to succeed,
and what is loaded is the configuration without settings. -/
theorem load_of_lost {e : Files.Error} (short : (Text.encode c.text).length < bufferSize)
    (created : t.create path = .ok (l, t')) :
    ∃ t₁ : Tree, (c.save path : LoggedT Memory _ _).run ⟨t, [none, some ⟨e, 0⟩]⟩ =
        (⟨[], .ok ()⟩, ⟨t₁, []⟩) ∧
      ((load path : LoggedT Memory _ _).run ⟨t₁, []⟩).1.outcome = .ok {} := by
  have opened : (Disk.create path : Memory _) ⟨t, [none, some ⟨e, 0⟩]⟩ =
      (.ok l, ⟨t', [some ⟨e, 0⟩]⟩) := by
    simp [Disk.create, perform, created]
  have first := LoggedT.run_mapError (LoggedT.run_ofAction opened) Failure.file
  have last : (writePieces l c.pieces : LoggedT Memory _ _).run ⟨t', [some ⟨e, 0⟩]⟩ =
      (⟨[], .ok ()⟩, ⟨t'.append l [], []⟩) := by
    have next : nextFault? ⟨t', [some ⟨e, 0⟩]⟩ = some ⟨e, 0⟩ := rfl
    rw [pieces_of_short short, writePieces_singleton, run_writePiece_of_fault next,
      if_neg (Nat.not_le.mpr short)]
    rfl
  have saved : (c.save path : LoggedT Memory _ _).run ⟨t, [none, some ⟨e, 0⟩]⟩ =
      (⟨[], .ok ()⟩, ⟨t'.append l [], []⟩) := by
    rw [save, LoggedT.run_bind_of_ok first, last]
    rfl
  have read : (t'.append l []).read path = .ok (.ok []) :=
    ((receives_of_create created).append []).read
  have empty : ofOctets [] = .ok {} := rfl
  refine ⟨t'.append l [], saved, ?_⟩
  rw [run_load_of_read (s := ⟨t'.append l [], []⟩) empty read]
  rfl

end ValidatorGen.Config
