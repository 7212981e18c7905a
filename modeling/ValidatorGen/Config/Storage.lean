import ValidatorGen.Config.Writing
import ValidatorGen.Event
import ValidatorGen.Failure
import ValidatorGen.Files.Disk

/-!
# Configurations in files

## Main definitions

* `Config.load` — the configuration in a file, which must be one that can be worked with
* `Config.pieces` — the pieces in which a configuration is written
* `Config.save` — write any configuration to a file
-/

namespace ValidatorGen.Config

open Files

variable {m : Type → Type} [Monad m] {σ : Type} [Disk m σ]

/-- The configuration, if it can be worked with. -/
def checked (c : Config) : Except ConfigProblem Config :=
  match c.problem? with
  | some problem => .error problem
  | none => .ok c

/-- The configuration in a file, which must be one that can be worked with. -/
def load (path : Path) : LoggedT m Failure Config := do
  let content ← (LoggedT.ofAction (Disk.read path)).mapError .file
  let octets ← LoggedT.ofLogged (.ofExcept (content.mapError .unreadableYaml))
  let config ← LoggedT.ofLogged (.ofExcept ((ofOctets octets).mapError .yaml))
  LoggedT.ofLogged (.ofExcept (config.checked.mapError .config))

/-! ### Writing -/

/-- A piece of a text is handed on once it has this many bytes, and ends with a character. -/
def pieceSize : Nat := 16379

/-- A piece with fewer bytes is kept back for what may come after it. -/
def bufferSize : Nat := 8192

/-- Pieces of a text, with more bytes at the beginning of the first one. -/
def startingWith (bytes : List UInt8) : List (List UInt8) → List (List UInt8)
  | [] => [bytes]
  | piece :: pieces => (bytes ++ piece) :: pieces

/-- The pieces in which characters are handed on after `used` bytes of the first one. -/
def piecesAfter (used : Nat) : List Char → List (List UInt8)
  | [] => [[]]
  | c :: cs =>
    let bytes := String.utf8EncodeChar c
    if used < pieceSize then startingWith bytes (piecesAfter (used + bytes.length) cs)
    else [] :: startingWith bytes (piecesAfter bytes.length cs)

/-- The pieces in which the text of a configuration is handed on to be written. -/
def pieces (c : Config) : List (List UInt8) := piecesAfter 0 c.text.toList

/-- Writes a piece of a text. One that has been kept back is written when the file is given up, and
then nobody hears of a failure; this can only be the last one, since any other is longer. -/
def writePiece (file : σ) (piece : List UInt8) : LoggedT m Failure Unit :=
  if bufferSize ≤ piece.length then
    (LoggedT.ofAction (Disk.write file piece)).mapError .unwrittenYaml
  else
    LoggedT.ofAction do
      let _ ← Disk.write file piece
      return .ok ()

/-- Writes the pieces of a text one after the other. -/
def writePieces (file : σ) (pieces : List (List UInt8)) : LoggedT m Failure Unit :=
  pieces.forM (writePiece file)

/-- Writes a configuration to a file. -/
def save (c : Config) (path : Path) : LoggedT m Failure Unit := do
  let file ← (LoggedT.ofAction (Disk.create path)).mapError .file
  writePieces file c.pieces

end ValidatorGen.Config
