import ValidatorGen.Config
import ValidatorGen.Source
import ValidatorGen.Text.Blank

/-!
# What a command line asks for

There are four commands. Three of them compile a document from a bundle, a directory or both, after
the settings on the command line have been put in the place of those in a configuration.

## Main definitions

* `Input` — where a document comes from, and settings for compiling it
* `Command` — a command
* `items` — the names in a list with commas
* `Input.merge` — a configuration changed by the settings on the command line
-/

namespace ValidatorGen

open Files

/-- Where a document comes from, and settings for compiling it. -/
structure Input where
  /-- A file with the whole document. -/
  bundle : Option Path := none
  /-- A directory with a file for each object type, which is tried first. -/
  directory : Option Path := none
  /-- The file of the configuration. -/
  config : Option Path := none
  /-- The object types to be compiled, with commas between them. -/
  included : Option String := none
  /-- The object types to be left out, with commas between them. -/
  excluded : Option String := none
  /-- How deep descriptors may stand inside one another. -/
  maxDepth : Option Nat := none
  /-- The name of the union. -/
  unionName : Option String := none
deriving DecidableEq

/-- A command. -/
inductive Command where
  /-- Compile a document and write the module, or only compare it with the file that is there. -/
  | generate (input : Input) (output : Option Path) (check json : Bool)
  /-- Compile a document and write nothing. -/
  | validate (input : Input)
  /-- Show the object types and the names of their constants. -/
  | list (input : Input)
  /-- Put the object types of a directory into one file. -/
  | bundle (directory output : Path)
deriving DecidableEq

/-- The pieces of a text between commas. -/
def splitAtCommas : List Char → List (List Char)
  | [] => [[]]
  | c :: rest =>
    if c = ',' then [] :: splitAtCommas rest
    else
      match splitAtCommas rest with
      | [] => [[c]]
      | piece :: pieces => (c :: piece) :: pieces

/-- The text without white space at its ends. -/
def trimmed (s : List Char) : List Char :=
  ((s.dropWhile Text.isBlank).reverse.dropWhile Text.isBlank).reverse

/-- The names in a list with commas: the pieces without white space around them, unless nothing is
left. -/
def items (list : String) : List String :=
  (((splitAtCommas list.toList).map trimmed).filter fun piece => !piece.isEmpty).map String.ofList

/-- The names in a list that may be missing. -/
def optionalItems (list : Option String) : List String := (list.map items).getD []

namespace Input

/-- A configuration changed by the settings on the command line. Names to be included take the place
of those in the configuration, if there are any; names to be left out are added to them. -/
def merge (input : Input) (c : Config) : Config :=
  let included := optionalItems input.included
  { c with
    included := if included.isEmpty then c.included else included
    excluded := c.excluded ++ optionalItems input.excluded
    maxDepth := input.maxDepth.getD c.maxDepth
    unionName := input.unionName.getD c.unionName }

/-- The sources in the order in which they are tried. -/
def sources (input : Input) : List Source :=
  (input.directory.map Source.directory).toList ++ (input.bundle.map Source.bundle).toList

end Input

end ValidatorGen
