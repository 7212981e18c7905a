import ValidatorGen.Config
import ValidatorGen.Yaml.Found

/-!
# Reading configurations

A configuration is a mapping with five known keys. Keys that are not known are passed over, missing
ones leave the setting at its default, and no key may come twice. Every scalar is a text if a text
is wanted, but only a plain one is a number.

## Main definitions

* `Field` — the known keys
* `ReadError` — why a file is not a configuration
* `Config.ofOctets` — the configuration in a file
-/

namespace ValidatorGen

open Yaml

namespace Config

/-- The known keys. -/
inductive Field where
  /-- Where the module is written. -/
  | output
  /-- The name of the union. -/
  | unionName
  /-- How deep descriptors may stand inside one another. -/
  | maxDepth
  /-- The object types that are compiled. -/
  | included
  /-- The object types that are left out. -/
  | excluded
deriving DecidableEq

/-- The key as it is written. -/
def Field.name : Field → String
  | .output => "output"
  | .unionName => "union_name"
  | .maxDepth => "max_depth"
  | .included => "include"
  | .excluded => "exclude"

/-- The known keys in order. -/
def Field.all : List Field := [.output, .unionName, .maxDepth, .included, .excluded]

/-- The known key that is so written. -/
def Field.ofName? (name : String) : Option Field := Field.all.find? fun f => f.name = name

/-- What should stand in a place. -/
inductive Expected where
  /-- A configuration. -/
  | config
  /-- A key. -/
  | key
  /-- A path. -/
  | path
  /-- A text. -/
  | text
  /-- A number that is not negative. -/
  | number
  /-- A sequence. -/
  | sequence
deriving DecidableEq

/-- What should stand in a place, in words. -/
def Expected.message : Expected → String
  | .config => "struct GeneratorConfig"
  | .key => "field identifier"
  | .path => "path string"
  | .text => "a string"
  | .number => "usize"
  | .sequence => "a sequence"

/-- A part of a configuration. -/
inductive Part where
  /-- The whole. -/
  | whole
  /-- The value of a key, which is not shown if it is given by a reference. -/
  | value (key : Option String)
  /-- An item of the value of a key. -/
  | item (key : Option String) (index : Nat)
deriving DecidableEq

/-- The part as a message begins with it. -/
def Part.message : Part → String
  | .whole => ""
  | .value key => key.getD "?" ++ ": "
  | .item key index => key.getD "?" ++ "[" ++ toString index ++ "]: "

/-- Why a part of a configuration cannot be read. -/
inductive Rejection where
  /-- Something stands where something else should. -/
  | mismatch (found : Found) (expected : Expected)
  /-- A scalar has not the form that its tag asks for. -/
  | malformed (text : String) (type : ScalarType)
  /-- A key comes twice. -/
  | repeated (field : Field)
deriving DecidableEq

/-- The reason, in words. -/
def Rejection.message : Rejection → String
  | .mismatch found expected =>
    "invalid type: " ++ found.message ++ ", expected " ++ expected.message
  | .malformed text type =>
    "invalid value: string " ++ Text.quoted text ++ ", expected " ++ type.message
  | .repeated field => "duplicate field `" ++ field.name ++ "`"

/-- Why a file is not a configuration. -/
inductive ReadError where
  /-- The file is not a document, or there is more in it. -/
  | fault (fault : Fault)
  /-- A part of the document cannot be read. -/
  | rejected (part : Part) (reason : Rejection) (mark : Mark)
deriving DecidableEq

/-- The reason, in words. -/
def ReadError.message : ReadError → String
  | .fault f => f.message
  | .rejected part reason mark => part.message ++ reason.message ++ mark.message

/-- The steps through a document. -/
abbrev Steps := List (Step Nat)

/-- The steps from a node on, a reference replaced by the node that it stands for. -/
def followed (d : Document) (s : Step Nat) (rest : Steps) : Steps :=
  match s.kind with
  | .reference number => d.target number
  | _ => s :: rest

/-- Rejects a node. -/
def reject {α : Type} (d : Document) (part : Part) (expected : Expected) (node : Steps) :
    Except ReadError α :=
  match node with
  | ⟨.scalar _ tag style text, mark⟩ :: _ =>
    match foundScalar tag style text with
    | .ok found => .error (.rejected part (.mismatch found expected) mark)
    | .error type => .error (.rejected part (.malformed text type) mark)
  | ⟨.sequence _, mark⟩ :: _ => .error (.rejected part (.mismatch .sequence expected) mark)
  | ⟨.mapping _, mark⟩ :: _ => .error (.rejected part (.mismatch .mapping expected) mark)
  | _ => .error (.fault d.ending)

/-- The text of a node that must be a scalar. -/
def textOf (d : Document) (part : Part) (expected : Expected) (node : Steps) :
    Except ReadError String :=
  match node with
  | ⟨.scalar _ _ _ text, _⟩ :: _ => .ok text
  | _ => reject d part expected node

/-- The number of 64 bits for which a node stands. The node must be a plain scalar, or one in lines
of its own with the tag of integers. -/
def numberOf (d : Document) (part : Part) (node : Steps) : Except ReadError Nat :=
  match node with
  | ⟨.scalar _ tag style text, _⟩ :: _ =>
    match unsigned? (.pow 2 64) text.toList with
    | some n =>
      if style = .plain ∨ (style = .literal ∧ tag = some ScalarType.integer.tag) then .ok n
      else reject d part .number node
    | none => reject d part .number node
  | _ => reject d part .number node

/-- The texts of the items from a place in a sequence on, and the steps after the sequence. -/
def itemsOf (d : Document) (key : Option String) :
    Nat → Steps → Except ReadError (List String × Steps)
  | _, [] => .error (.fault d.ending)
  | index, s :: rest =>
    match s.kind with
    | .sequenceEnd => .ok ([], rest)
    | _ => do
      let text ← textOf d (.item key index) .text (followed d s rest)
      let (texts, after) ← itemsOf d key (index + 1) rest
      return (text :: texts, after)

/-- Whether a step is a plain scalar without any text. -/
def isAbsent (s : Step Nat) : Bool :=
  match s.kind with
  | .scalar _ _ style text => style = .plain && text.isEmpty
  | _ => false

/-- The texts in a sequence, and the steps after it if it stands here itself. -/
def textsOf (d : Document) (key : Option String) (node : Steps) :
    Except ReadError (List String × Steps) :=
  match node with
  | ⟨.sequence _, _⟩ :: rest => itemsOf d key 0 rest
  | s :: rest => if isAbsent s then .ok ([], rest) else reject d (.value key) .sequence node
  | [] => .error (.fault d.ending)

/-- The steps after a node, when `depth` collections around it have begun inside the node. -/
def passOver (d : Document) : Nat → Steps → Except ReadError Steps
  | _, [] => .error (.fault d.ending)
  | depth, s :: rest =>
    match s.kind, depth with
    | .sequence _, _ | .mapping _, _ => passOver d (depth + 1) rest
    | .sequenceEnd, depth + 1 | .mappingEnd, depth + 1 =>
      if depth = 0 then .ok rest else passOver d depth rest
    | _, 0 => .ok rest
    | _, depth + 1 => passOver d (depth + 1) rest

/-- The settings read so far. -/
structure Draft where
  /-- Where the module is written. -/
  output : Option String := none
  /-- The name of the union. -/
  unionName : Option String := none
  /-- How deep descriptors may stand inside one another. -/
  maxDepth : Option Nat := none
  /-- The object types that are compiled. -/
  included : Option (List String) := none
  /-- The object types that are left out. -/
  excluded : Option (List String) := none

/-- Whether a setting has been read. -/
def Draft.has (draft : Draft) : Field → Bool
  | .output => draft.output.isSome
  | .unionName => draft.unionName.isSome
  | .maxDepth => draft.maxDepth.isSome
  | .included => draft.included.isSome
  | .excluded => draft.excluded.isSome

/-- The configuration with the settings read, and defaults for the others. -/
def Draft.config (draft : Draft) : Config :=
  let default : Config := {}
  { output := draft.output.getD default.output
    unionName := draft.unionName.getD default.unionName
    maxDepth := draft.maxDepth.getD default.maxDepth
    included := draft.included.getD default.included
    excluded := draft.excluded.getD default.excluded }

/-- The settings after the value of a known key, and the steps after that value. -/
def Draft.read (draft : Draft) (d : Document) (field : Field) (key : Option String) (s : Step Nat)
    (rest : Steps) : Except ReadError (Draft × Steps) := do
  let node := followed d s rest
  let next (after : Steps) : Steps := match s.kind with | .reference _ => rest | _ => after
  match field with
  | .output =>
    let text ← textOf d (.value key) .path node
    return ({ draft with output := some text }, rest)
  | .unionName =>
    let text ← textOf d (.value key) .text node
    return ({ draft with unionName := some text }, rest)
  | .maxDepth =>
    let n ← numberOf d (.value key) node
    return ({ draft with maxDepth := some n }, rest)
  | .included =>
    let (texts, after) ← textsOf d key node
    return ({ draft with included := some texts }, next after)
  | .excluded =>
    let (texts, after) ← textsOf d key node
    return ({ draft with excluded := some texts }, next after)

/-- The settings after the rest of the mapping that begins at `mark`, which has at most `fuel`
steps. -/
def pairsOf (d : Document) (mark : Mark) : Nat → Draft → Steps → Except ReadError Draft
  | fuel + 1, draft, s :: rest =>
    match s.kind with
    | .mappingEnd => .ok draft
    | kind => do
      let name ← textOf d .whole .key (followed d s rest)
      let key := match kind with | .scalar .. => some name | _ => none
      match Field.ofName? name with
      | none => pairsOf d mark fuel draft (← passOver d 0 rest)
      | some field =>
        if draft.has field then .error (.rejected .whole (.repeated field) mark)
        else
          match rest with
          | [] => .error (.fault d.ending)
          | value :: rest =>
            let (draft, rest) ← draft.read d field key value rest
            pairsOf d mark fuel draft rest
  | _, _, _ => .error (.fault d.ending)

/-- The configuration that a document describes, whatever follows it. A document with nothing in it
leaves all settings at their defaults. -/
def ofSteps (d : Document) : Except ReadError Config :=
  match d.steps with
  | ⟨.mapping _, mark⟩ :: rest => (pairsOf d mark rest.length {} rest).map Draft.config
  | s :: rest => if isAbsent s then .ok {} else reject d .whole .config (s :: rest)
  | [] => if d.isVoid then .ok {} else .error (.fault d.ending)

/-- The configuration that a document describes. Nothing may be wrong after it, and nothing may
follow it. -/
def ofDocument (d : Document) : Except ReadError Config := do
  let c ← ofSteps d
  match d.fault with
  | some f => .error (.fault f)
  | none => if d.further then .error (.fault .furtherDocument) else return c

/-- The configuration in a file. -/
def ofOctets (octets : List UInt8) : Except ReadError Config := ofDocument (.ofOctets octets)

end Config

end ValidatorGen
