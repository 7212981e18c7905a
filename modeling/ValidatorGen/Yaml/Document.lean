import ValidatorGen.Yaml.Structure

/-!
# YAML documents

A document is the sequence of steps through its structure, its references led back to the steps they
stand for. A text may hold only one document.

## Main definitions

* `Fault` — why a text is not a document
* `Document` — the steps of a document
* `Document.ofOctets` — the document in a file
-/

namespace ValidatorGen.Yaml

/-- Why a text is not a document. -/
inductive Fault where
  /-- The text is wrong. -/
  | malformed (error : Error)
  /-- A reference leads nowhere. -/
  | unknownAnchor (mark : Mark)
  /-- The document ends too early. -/
  | endOfDocument
  /-- There is more than one document. -/
  | furtherDocument
deriving DecidableEq

/-- The fault in words. -/
def Fault.message : Fault → String
  | .malformed e => e.message
  | .unknownAnchor m => "unknown anchor" ++ m.message
  | .endOfDocument => "EOF while parsing a value"
  | .furtherDocument =>
    "deserializing from YAML containing more than one document is not supported"

/-- A document. A reference gives a number, and `anchors` the step for each number. -/
structure Document where
  /-- The steps. -/
  steps : List (Step Nat)
  /-- The numbers of references, each with the number of steps before the step meant. What comes
  first counts. -/
  anchors : List (Nat × Nat)
  /-- What is wrong after the steps, if anything is. -/
  fault : Option Fault
  /-- Whether another document follows. -/
  further : Bool

/-- The anchor at a step. -/
def Step.Kind.anchor? {ρ : Type} : Step.Kind ρ → Option (List Char)
  | .scalar anchor _ _ _ | .sequence anchor | .mapping anchor => anchor
  | .reference _ | .sequenceEnd | .mappingEnd => none

/-- Names of anchors, and the numbers given to them. -/
structure Names where
  /-- The names, the last one first. A name that comes again takes a new number. -/
  list : List (List Char × Nat) := []
  /-- The number of different names. -/
  count : Nat := 0

/-- The number of a name. -/
def Names.number? (names : Names) (name : List Char) : Option Nat := names.list.lookup name

/-- The names after one more anchor. Its number is the number of different names before it. -/
def Names.add (names : Names) (name : List Char) : Names :=
  ⟨(name, names.count) :: names.list,
    if (names.number? name).isSome then names.count else names.count + 1⟩

/-- The steps with numbers for names, the anchors met, and the place of the first reference that
leads nowhere, when `count` steps come before. The numbers so far are `names` and `anchors`. -/
def numbered : List (Step (List Char)) → Nat → Names → List (Nat × Nat) →
    List (Step Nat) × List (Nat × Nat) × Option Mark
  | [], _, _, anchors => ([], anchors, none)
  | ⟨kind, mark⟩ :: rest, count, names, anchors =>
    let names' := match kind.anchor? with | some name => names.add name | none => names
    let anchors' :=
      match kind.anchor?.bind names'.number? with
      | some number => (number, count) :: anchors
      | none => anchors
    let go (kind : Step.Kind Nat) :=
      let (steps, anchors, fault) := numbered rest (count + 1) names' anchors'
      (⟨kind, mark⟩ :: steps, anchors, fault)
    match kind with
    | .reference name =>
      match names.number? name with
      | some number => go (.reference number)
      | none => ([], anchors, some mark)
    | .scalar anchor tag style text => go (.scalar anchor tag style text)
    | .sequence anchor => go (.sequence anchor)
    | .sequenceEnd => go .sequenceEnd
    | .mapping anchor => go (.mapping anchor)
    | .mappingEnd => go .mappingEnd

/-- The first document of a text that is given by its tokens. -/
def Document.ofTokens (tokens : Tokens) : Document :=
  let fuel := 4 * tokens.list.length + 4
  let (outcome, progress) := (firstDocument fuel).run.run { tokens }
  let (steps, anchors, lost) := numbered progress.steps.reverse 0 {} []
  match lost, outcome with
  | some mark, _ => ⟨steps, anchors, some (.unknownAnchor mark), false⟩
  | none, .error e => ⟨steps, anchors, some (.malformed e), false⟩
  | none, .ok _ =>
    let further := match ((hasFurther fuel).run.run progress).1 with | .ok b => b | .error _ => true
    ⟨steps, anchors, none, further⟩

/-- The document in a file. -/
def Document.ofOctets (octets : List UInt8) : Document :=
  let ⟨text, fault⟩ := Characters.ofOctets octets
  .ofTokens (.ofText (unifyBreaks text) fault)

namespace Document

/-- What is said when the steps come to an end too early. -/
def ending (d : Document) : Fault := d.fault.getD .endOfDocument

/-- The steps from the one on for which a number stands. -/
def target (d : Document) (number : Nat) : List (Step Nat) :=
  match d.anchors.lookup number with
  | some count => d.steps.drop count
  | none => []

/-- Whether there is nothing in the document, not even a scalar. -/
def isVoid (d : Document) : Bool := d.steps.isEmpty && d.fault.isNone

end Document

end ValidatorGen.Yaml
