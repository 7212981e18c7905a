import ValidatorGen.Command.Request

/-!
# Command lines

The first argument names the command. An option that takes a value stands before it, or is joined to
it by an equals sign; no option may come twice. A value that stands apart may not begin with a
hyphen unless it is nothing else. After two hyphens every argument is an operand. The arguments are
read from left to right, and the first that cannot be used decides, unless help is asked for before
it. Arguments are byte sequences: a path may be any of them, all other values are texts.

## Main definitions

* `Setting`, `Flag` — the options that take a value, and those that take none
* `Refusal` — why there is nothing to be done
* `Argument`, `Form` — an argument, and what it looks like
* `Given` — what has been given on the command line
* `Command.ofArguments` — the command that arguments ask for
-/

namespace ValidatorGen

open Files

/-- The options that take a value. -/
inductive Setting where
  /-- A file with the whole document. -/
  | bundle
  /-- A directory with a file for each object type. -/
  | dir
  /-- The file of the configuration. -/
  | config
  /-- The object types to be compiled. -/
  | included
  /-- The object types to be left out. -/
  | excluded
  /-- How deep descriptors may stand inside one another. -/
  | maxDepth
  /-- The name of the union. -/
  | unionName
  /-- Where the result is written. -/
  | output
deriving DecidableEq

/-- The name of the option, without the hyphens. -/
def Setting.name : Setting → String
  | .bundle => "bundle"
  | .dir => "dir"
  | .config => "config"
  | .included => "include"
  | .excluded => "exclude"
  | .maxDepth => "max-depth"
  | .unionName => "union-name"
  | .output => "output"

/-- The options that take no value. -/
inductive Flag where
  /-- Compare and do not write. -/
  | check
  /-- Report in JSON. -/
  | json
deriving DecidableEq

/-- The name of the option, without the hyphens. -/
def Flag.name : Flag → String
  | .check => "check"
  | .json => "json"

/-- The commands by their names. -/
inductive Verb where
  /-- Compile a document and write the module. -/
  | generate
  /-- Compile a document and write nothing. -/
  | validate
  /-- Show the object types. -/
  | list
  /-- Put the object types of a directory into one file. -/
  | bundle
deriving DecidableEq

/-- The name of the command. -/
def Verb.name : Verb → String
  | .generate => "generate"
  | .validate => "validate"
  | .list => "list"
  | .bundle => "bundle"

/-- The commands in the order in which they are explained. -/
def Verb.all : List Verb := [.generate, .validate, .list, .bundle]

/-- The options of every command that compiles a document. -/
def inputSettings : List Setting :=
  [.bundle, .dir, .config, .included, .excluded, .maxDepth, .unionName]

/-- The options with a value that a command has. -/
def Verb.settings : Verb → List Setting
  | .generate => inputSettings ++ [.output]
  | .validate | .list => inputSettings
  | .bundle => [.output]

/-- The options without a value that a command has. -/
def Verb.flags : Verb → List Flag
  | .generate => [.check, .json]
  | .validate | .list | .bundle => []

/-- Why there is nothing to be done. -/
inductive Refusal where
  /-- The arguments ask for the version. -/
  | version
  /-- The arguments ask for help. -/
  | help
  /-- The arguments make no command. -/
  | unusable
deriving DecidableEq

/-- An argument, which need not be a text. -/
abbrev Argument := List UInt8

/-- The byte `-`. -/
def hyphen : UInt8 := 0x2d

/-- The byte `=`. -/
def equalsSign : UInt8 := 0x3d

/-- The byte `h`. -/
def letterH : UInt8 := 0x68

/-- The byte `V`. -/
def letterV : UInt8 := 0x56

/-- What an argument looks like. -/
inductive Form where
  /-- Two hyphens and nothing else. -/
  | separator
  /-- The name of an option after two hyphens, with a value after an equals sign or without one. -/
  | long (name : Argument) (value : Option Argument)
  /-- Letters after one hyphen. -/
  | short (letter : UInt8) (others : Argument)
  /-- Anything else, also a hyphen that stands alone. -/
  | plain
deriving DecidableEq

/-- The name of an option and its value: they stand around the first equals sign, if there is
one. -/
def splitAtEquals (arg : Argument) : Argument × Option Argument :=
  match arg.dropWhile (· ≠ equalsSign) with
  | [] => (arg, none)
  | _ :: value => (arg.takeWhile (· ≠ equalsSign), some value)

/-- What an argument looks like. -/
def Form.of : Argument → Form
  | first :: second :: rest =>
    if first ≠ hyphen then .plain
    else if second ≠ hyphen then .short second rest
    else if rest.isEmpty then .separator
    else .long (splitAtEquals rest).1 (splitAtEquals rest).2
  | _ => .plain

/-- What has been given on the command line. -/
structure Given where
  /-- Where a document comes from, and settings for compiling it. -/
  input : Input := {}
  /-- Where the result is written. -/
  output : Option Path := none
  /-- Whether the result is only compared. -/
  check : Bool := false
  /-- Whether the report is in JSON. -/
  json : Bool := false
  /-- The directory that stands without an option. -/
  directory : Option Path := none

/-- The value of an option, which may be given once. -/
def once {α : Type} (earlier : Option α) (value : α) : Except Refusal (Option α) :=
  if earlier.isSome then .error .unusable else .ok (some value)

/-- The path that an argument spells, which may not be empty. -/
def pathOf (arg : Argument) : Except Refusal Path :=
  if arg.isEmpty then .error .unusable else .ok ⟨arg⟩

/-- The text that an argument spells, if it spells one. -/
def textOf (arg : Argument) : Except Refusal String :=
  match Text.decode? arg with
  | some text => .ok text
  | none => .error .unusable

/-- The greatest number that an argument may spell. -/
def greatestNumber : Nat := Nat.pow 2 64 - 1

/-- The number that a text spells with decimal digits, after a plus sign or none. -/
def numberOf (text : String) : Except Refusal Nat :=
  let digits := match text.toList with | '+' :: rest => rest | cs => cs
  let n := digits.foldl (fun n d => n * 10 + (d.toNat - '0'.toNat)) 0
  if digits.isEmpty || !digits.all Char.isDigit || greatestNumber < n then .error .unusable
  else .ok n

/-- What has been given, and one more option with its value. Only a path may be anything but a
text. -/
def Given.setting (g : Given) (s : Setting) (value : Argument) : Except Refusal Given :=
  match s with
  | .bundle => do return { g with input.bundle := ← once g.input.bundle (← pathOf value) }
  | .dir => do return { g with input.directory := ← once g.input.directory (← pathOf value) }
  | .config => do return { g with input.config := ← once g.input.config (← pathOf value) }
  | .included => do return { g with input.included := ← once g.input.included (← textOf value) }
  | .excluded => do return { g with input.excluded := ← once g.input.excluded (← textOf value) }
  | .maxDepth => do
    return { g with input.maxDepth := ← once g.input.maxDepth (← textOf value >>= numberOf) }
  | .unionName => do return { g with input.unionName := ← once g.input.unionName (← textOf value) }
  | .output => do return { g with output := ← once g.output (← pathOf value) }

/-- What has been given, and one more option without a value. -/
def Given.flag (g : Given) : Flag → Except Refusal Given
  | .check => if g.check then .error .unusable else .ok { g with check := true }
  | .json => if g.json then .error .unusable else .ok { g with json := true }

/-- What has been given for a command, and one more argument that is no option. -/
def Given.operand (verb : Verb) (g : Given) (arg : Argument) : Except Refusal Given :=
  match verb with
  | .bundle => do return { g with directory := ← once g.directory (← pathOf arg) }
  | .generate | .validate | .list => .error .unusable

/-- What arguments give a command, when `pending` is the option whose value comes next. -/
def Verb.read (verb : Verb) (pending : Option Setting) (g : Given) :
    List Argument → Except Refusal Given
  | [] => if pending.isSome then .error .unusable else .ok g
  | arg :: rest =>
    match pending, Form.of arg with
    | some s, .plain => do
      let g ← g.setting s arg
      verb.read none g rest
    | some _, _ => .error .unusable
    | none, .separator => rest.foldlM (Given.operand verb) g
    | none, .long name value =>
      let named (option : String) : Bool := Text.encode option = name
      match verb.settings.find? (named ·.name), verb.flags.find? (named ·.name), value with
      | some s, _, some value => do
        let g ← g.setting s value
        verb.read none g rest
      | some s, _, none => verb.read (some s) g rest
      | none, some f, none => do
        let g ← g.flag f
        verb.read none g rest
      | _, _, _ => if named "help" && value.isNone then .error .help else .error .unusable
    | none, .short letter _ => if letter = letterH then .error .help else .error .unusable
    | none, .plain => do
      let g ← g.operand verb arg
      verb.read none g rest

/-- The command with what has been given. -/
def Verb.command (verb : Verb) (g : Given) : Except Refusal Command :=
  match verb, g.directory, g.output with
  | .generate, _, output => .ok (.generate g.input output g.check g.json)
  | .validate, _, _ => .ok (.validate g.input)
  | .list, _, _ => .ok (.list g.input)
  | .bundle, some directory, some output => .ok (.bundle directory output)
  | .bundle, _, _ => .error .unusable

/-- The command of a name. -/
def Verb.ofName? (name : Argument) : Option Verb :=
  Verb.all.find? fun verb => Text.encode verb.name = name

/-- Whether there is an explanation of something: of a command, or of how to get help. -/
def isExplained (topic : Argument) : Bool :=
  topic = Text.encode "help" || (Verb.ofName? topic).isSome

/-- Why there is nothing to be done if the first argument does not name a command. -/
def Refusal.ofFirst (first : Argument) (rest : List Argument) : Refusal :=
  match Form.of first with
  | .short letter _ =>
    if letter = letterV then .version else if letter = letterH then .help else .unusable
  | .long name none =>
    if name = Text.encode "version" then .version
    else if name = Text.encode "help" then .help
    else .unusable
  | .plain =>
    if first = Text.encode "help" && rest.length ≤ 1 && rest.all isExplained then .help
    else .unusable
  | .separator | .long _ (some _) => .unusable

/-- The command that arguments ask for. -/
def Command.ofArguments : List Argument → Except Refusal Command
  | [] => .error .unusable
  | first :: rest =>
    match Verb.ofName? first with
    | some verb => do
      let g ← verb.read none {} rest
      verb.command g
    | none => .error (.ofFirst first rest)

end ValidatorGen
