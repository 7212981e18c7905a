import ValidatorGen.Config.Storage
import ValidatorGen.Proofs.Files.Alteration
import ValidatorGen.Proofs.Files.Memory

/-!
# Writing a text in pieces

A text is handed on in pieces, of which all but the last are long. Long pieces are written at once,
and so are heard of if that fails. A short one at the end is written when nobody listens any more.

## Main results

* `Config.flatten_pieces`, `Config.long_of_mem_dropLast` — the pieces make up the text, and all but
  the last are long
* `Config.receives_of_writePieces` — what is in the file if writing the pieces has seemed to succeed
* `Config.run_writePieces_of_quiet` — if no operation fails, all pieces are written
-/

namespace ValidatorGen.Config

open Files Files.Tree Files.Memory

variable {s s' : Memory.State} {t t' : Tree} {path : Path} {l : Location} {c : Config}

/-! ### The pieces -/

theorem flatten_startingWith (bytes : List UInt8) (pieces : List (List UInt8)) :
    (startingWith bytes pieces).flatten = bytes ++ pieces.flatten := by
  cases pieces with
  | nil => rfl
  | cons piece pieces => exact List.append_assoc ..

theorem startingWith_startingWith (bytes bytes' : List UInt8) (pieces : List (List UInt8)) :
    startingWith bytes (startingWith bytes' pieces) = startingWith (bytes ++ bytes') pieces := by
  cases pieces with
  | nil => rfl
  | cons piece pieces => simp [startingWith]

theorem startingWith_ne_nil (bytes : List UInt8) (pieces : List (List UInt8)) :
    startingWith bytes pieces ≠ [] := by
  cases pieces <;> exact List.cons_ne_nil _ _

theorem piecesAfter_ne_nil (used : Nat) (cs : List Char) : piecesAfter used cs ≠ [] := by
  cases cs with
  | nil => exact List.cons_ne_nil _ _
  | cons c cs =>
    rw [piecesAfter]
    split
    · exact startingWith_ne_nil _ _
    · exact List.cons_ne_nil _ _

/-- The pieces make up the text. -/
theorem flatten_piecesAfter (used : Nat) (cs : List Char) :
    (piecesAfter used cs).flatten = cs.flatMap String.utf8EncodeChar := by
  induction cs generalizing used with
  | nil => rfl
  | cons c cs ih =>
    rw [piecesAfter, List.flatMap_cons]
    split
    · rw [flatten_startingWith, ih]
    · rw [List.flatten_cons, List.nil_append, flatten_startingWith, ih]

/-- A piece is given up once it is long, so all but the last one are. -/
theorem pieceSize_le_of_mem_dropLast (cs : List Char) (bytes : List UInt8) :
    ∀ piece ∈ (startingWith bytes (piecesAfter bytes.length cs)).dropLast,
      pieceSize ≤ piece.length := by
  -- The bytes are those that the first piece has so far.
  induction cs generalizing bytes with
  | nil => exact fun piece mem => absurd mem List.not_mem_nil
  | cons c cs ih =>
    rw [piecesAfter]
    split
    · rw [startingWith_startingWith, ← List.length_append]
      exact ih (bytes ++ String.utf8EncodeChar c)
    · rename_i full
      intro piece mem
      rw [startingWith, List.append_nil, List.dropLast_cons_of_ne_nil (startingWith_ne_nil _ _)]
        at mem
      rcases List.mem_cons.mp mem with rfl | mem
      · exact Nat.le_of_not_lt full
      · exact ih (String.utf8EncodeChar c) piece mem

theorem startingWith_nil {pieces : List (List UInt8)} (h : pieces ≠ []) :
    startingWith [] pieces = pieces := by
  cases pieces with
  | nil => exact absurd rfl h
  | cons piece pieces => rfl

theorem pieces_ne_nil (c : Config) : c.pieces ≠ [] := piecesAfter_ne_nil _ _

theorem flatten_pieces (c : Config) : c.pieces.flatten = Text.encode c.text :=
  flatten_piecesAfter 0 _

/-- All pieces but the last are written at once. -/
theorem long_of_mem_dropLast {piece : List UInt8} (mem : piece ∈ c.pieces.dropLast) :
    bufferSize ≤ piece.length := by
  have long := pieceSize_le_of_mem_dropLast c.text.toList []
  rw [startingWith_nil (piecesAfter_ne_nil _ _)] at long
  exact Nat.le_trans (by decide) (long piece mem)

/-! ### Writing them -/

/-- How the next operation fails, if it does. -/
def nextFault? (s : Memory.State) : Option Fault := s.faults.head?.join

/-- A piece is written if nothing fails. -/
theorem run_writePiece_of_quiet (quiet : nextFault? s = none) (l : Location)
    (piece : List UInt8) : (writePiece l piece : LoggedT Memory _ _).run s =
      (⟨[], .ok ()⟩, ⟨s.tree.append l piece, s.faults.tail⟩) := by
  obtain ⟨t, faults⟩ := s
  rw [writePiece]
  rcases faults with _ | ⟨_ | fault, faults⟩
  · split <;> rfl
  · split <;> rfl
  · cases quiet

/-- If writing a piece fails, some of it may be in the file; of a short piece nobody hears. -/
theorem run_writePiece_of_fault {fault : Fault} (next : nextFault? s = some fault) (l : Location)
    (piece : List UInt8) : (writePiece l piece : LoggedT Memory _ _).run s =
      (⟨[], if bufferSize ≤ piece.length then .error (.unwrittenYaml fault.error) else .ok ()⟩,
        ⟨s.tree.append l (piece.take fault.written), s.faults.tail⟩) := by
  obtain ⟨t, faults⟩ := s
  rw [writePiece]
  rcases faults with _ | ⟨_ | fault, faults⟩
  · cases next
  · cases next
  · cases next
    split <;> rfl

theorem writePieces_cons (l : Location) (piece : List UInt8) (pieces : List (List UInt8)) :
    (writePieces l (piece :: pieces) : LoggedT Memory _ _) =
      writePiece l piece >>= fun _ => writePieces l pieces := rfl

theorem writePieces_singleton (l : Location) (piece : List UInt8) :
    (writePieces l [piece] : LoggedT Memory _ _) = writePiece l piece := bind_pure_unit

/-- If no operation fails, all pieces are written. -/
theorem run_writePieces_of_quiet (l : Location) (pieces : List (List UInt8)) (t : Tree) :
    ∃ t', (writePieces l pieces : LoggedT Memory _ _).run ⟨t, []⟩ =
      (⟨[], .ok ()⟩, ⟨t', []⟩) := by
  induction pieces generalizing t with
  | nil => exact ⟨t, rfl⟩
  | cons piece pieces ih =>
    have first : (writePiece l piece : LoggedT Memory _ _).run ⟨t, []⟩ =
        (⟨[], .ok ()⟩, ⟨t.append l piece, []⟩) := run_writePiece_of_quiet rfl l piece
    obtain ⟨t', rest⟩ := ih (t.append l piece)
    refine ⟨t', ?_⟩
    rw [writePieces_cons, LoggedT.run_bind_of_ok first, rest]
    rfl

/-- If writing a long piece has seemed to succeed, then it has. -/
theorem run_writePiece_of_long {piece : List UInt8} (long : bufferSize ≤ piece.length)
    (ok : ((writePiece l piece : LoggedT Memory _ _).run s).1.outcome = .ok ()) :
    (writePiece l piece : LoggedT Memory _ _).run s =
      (⟨[], .ok ()⟩, ⟨s.tree.append l piece, s.faults.tail⟩) := by
  cases next : nextFault? s with
  | none => exact run_writePiece_of_quiet next l piece
  | some fault =>
    rw [run_writePiece_of_fault next, if_pos long] at ok
    cases ok

/-- What is in the file if writing its pieces has seemed to succeed: all pieces but the last one,
and of that what has been written. -/
theorem receives_of_writePieces {around : Path → Prop} {content last : List UInt8}
    {front : List (List UInt8)} (long : ∀ piece ∈ front, bufferSize ≤ piece.length)
    (received : Receives around path content l t s.tree)
    (ok : ((writePieces l (front ++ [last]) : LoggedT Memory _ _).run s).1.outcome =
      .ok ())
    (after : ((writePieces l (front ++ [last]) : LoggedT Memory _ _).run s).2 = s') :
    s'.faults = s.faults.drop (front.length + 1) ∧
      ((s.faults[front.length]?).join = none →
        Receives around path (content ++ (front.flatten ++ last)) l t s'.tree) ∧
      ∀ fault, (s.faults[front.length]?).join = some fault → last.length < bufferSize ∧
        Receives around path (content ++ (front.flatten ++ last.take fault.written)) l t
          s'.tree := by
  -- The induction is on the pieces before the last one, and `content` is what they have left in the
  -- file so far.
  induction front generalizing s content with
  | nil =>
    have next : (s.faults[0]?).join = nextFault? s := by
      rw [nextFault?, List.head?_eq_getElem?]
    rw [List.nil_append, writePieces_singleton] at ok after
    rw [List.length_nil, next, List.drop_one]
    cases fails : nextFault? s with
    | none =>
      rw [run_writePiece_of_quiet fails] at after
      subst after
      exact ⟨rfl, fun _ => received.append last, fun fault some => (by cases some)⟩
    | some fault =>
      rw [run_writePiece_of_fault fails] at ok after
      subst after
      refine ⟨rfl, fun none => (by cases none), fun fault' same => ?_⟩
      obtain rfl := Option.some.inj same
      -- A long piece would have been heard of.
      refine ⟨Nat.lt_of_not_le fun long => ?_, received.append _⟩
      rw [if_pos long] at ok
      cases ok
  | cons piece front ih =>
    rw [List.forall_mem_cons] at long
    rw [List.cons_append, writePieces_cons] at ok after
    have first : ((writePiece l piece : LoggedT Memory _ _).run s).1.outcome = .ok () := by
      rw [LoggedT.outcome_run_bind, bind_eq_ok_iff] at ok
      obtain ⟨⟨⟩, first, -⟩ := ok
      exact first
    have ran := run_writePiece_of_long long.1 first
    rw [LoggedT.run_bind_of_ok ran] at ok after
    have later := ih long.2 (received.append piece) ok after
    rw [List.drop_tail, List.append_assoc] at later
    simpa only [List.length_cons, List.flatten_cons, List.append_assoc, List.getElem?_tail]
      using later

end ValidatorGen.Config
