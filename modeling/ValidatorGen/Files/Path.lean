import ValidatorGen.Text.Utf8

/-!
# Paths

A path is a sequence of bytes in which slashes separate components. Empty components and components
that consist of one dot are passed over, except for a dot at the very beginning.

## Main definitions

* `Path` — the bytes of a path
* `Path.parent?` — the path without its last component
* `Path.fileName?` — the last component, if it is a name
* `stem`, `extension?` — the parts of a name before and after its last dot
-/

namespace ValidatorGen.Files

open Text

/-- The name of a file or directory. -/
abbrev Name := List UInt8

/-- A path. -/
structure Path where
  /-- Its bytes. -/
  bytes : List UInt8
deriving DecidableEq

/-- The byte that separates components. -/
def slash : UInt8 := 0x2f

/-- The byte `.`. -/
def dot : UInt8 := 0x2e

/-- The component that stands for the directory itself. -/
def here : Name := [dot]

/-- The component that stands for the directory above. -/
def above : Name := [dot, dot]

/-- The pieces between slashes. -/
def pieces : List UInt8 → List (List UInt8)
  | [] => [[]]
  | b :: bytes =>
    if b = slash then [] :: pieces bytes
    else
      match pieces bytes with
      | [] => [[b]]
      | piece :: rest => (b :: piece) :: rest

namespace Path

/-- The path that a text spells. -/
def ofString (s : String) : Path := ⟨encode s⟩

/-- The path as a message shows it. -/
def display (p : Path) : String := lossy p.bytes

/-- Whether a piece counts as a component after the beginning of a path. -/
def isComponent (piece : List UInt8) : Bool := !piece.isEmpty && piece ≠ here

/-- The components that are names or lead upwards, in order. -/
def components (p : Path) : List Name := (pieces p.bytes).filter isComponent

/-- The number of bytes at the beginning that are not part of such a component: a slash, or a dot
that is a component of its own. -/
def leadSize (p : Path) : Nat :=
  match pieces p.bytes with
  | [] => 0
  | piece :: rest => if (piece.isEmpty && !rest.isEmpty) || piece = here then 1 else 0

/-- The body without the slashes, and the components passed over, that end it. -/
def trimmed : List (List UInt8) → List (List UInt8)
  | [] => []
  | piece :: rest => if isComponent piece then piece :: rest else trimmed rest

/-- The path without its last component, if it has one. What is passed over before that component
is left out too. -/
def parent? (p : Path) : Option Path :=
  let lead := p.bytes.take p.leadSize
  let body := p.bytes.drop p.leadSize
  match trimmed (pieces body).reverse with
  | [] => if lead = [dot] then some ⟨[]⟩ else none
  | _ :: before =>
    let kept := (trimmed before).reverse
    some ⟨lead ++ [slash].intercalate kept⟩

/-- The last component, if it is a name. -/
def fileName? (p : Path) : Option Name :=
  p.components.getLast?.filter (· ≠ above)

/-- The path of an entry of the directory at `p`. -/
def entry (p : Path) (name : Name) : Path :=
  if p.bytes.isEmpty ∨ p.bytes.getLast? = some slash then ⟨p.bytes ++ name⟩
  else ⟨p.bytes ++ slash :: name⟩

end Path

/-- The parts of a name before and after its last dot, if there is a dot that is not its first
byte. -/
def splitName? (name : Name) : Option (Name × Name) :=
  let after := name.reverse.takeWhile (· ≠ dot)
  let before := (name.reverse.drop (after.length + 1)).reverse
  if name = above ∨ after.length = name.length ∨ before.isEmpty then none
  else some (before, after.reverse)

/-- The part of a name before its last dot; the whole name if there is no such part. -/
def stem (name : Name) : Name :=
  match splitName? name with
  | some (before, _) => before
  | none => name

/-- The part of a name after its last dot. -/
def extension? (name : Name) : Option Name := (splitName? name).map Prod.snd

end ValidatorGen.Files
