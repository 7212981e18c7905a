import ValidatorGen.Command.Arguments
import ValidatorGen.Proofs.Except

/-!
# Asking for a comparison

Whatever else is given on the command line, the flag by which the result is only compared can be
given as well, once. Then the same command is asked for, but for that.

## Main definitions

* `Given.checked` — what has been given, and the flag
* `Given.Neutral` — a step in reading arguments for which the flag makes no difference
* `withCheck` — a command line, and the flag

## Main results

* `Verb.neutral_read` — the flag makes no difference to how arguments are read
* `Command.ofArguments_withCheck` — with the flag the same command is asked for, to be compared
-/

namespace ValidatorGen

open Files

namespace Given

variable {step step' : Given → Except Refusal Given}

/-- What has been given, and the flag by which the result is only compared. -/
def checked (g : Given) : Given := { g with check := true }

/-- A step in reading arguments for which the flag makes no difference, unless it gives the flag. -/
def Neutral (step : Given → Except Refusal Given) : Prop :=
  ∀ g g', step g = .ok g' → g'.check = false → g.check = false ∧ step g.checked = .ok g'.checked

theorem neutral_ok : Neutral .ok := by
  rintro g _ ⟨⟩ unchecked
  exact ⟨unchecked, rfl⟩

theorem neutral_error (refusal : Refusal) : Neutral fun _ => .error refusal := by
  rintro g _ ⟨⟩

theorem Neutral.bind (h : Neutral step) (h' : Neutral step') :
    Neutral fun g => step g >>= step' := by
  intro g g' given unchecked
  obtain ⟨between, first, second⟩ := bind_eq_ok_iff.mp given
  obtain ⟨unchecked', second'⟩ := h' between g' second unchecked
  obtain ⟨unchecked'', first'⟩ := h g between first unchecked'
  exact ⟨unchecked'', bind_eq_ok_iff.mpr ⟨between.checked, first', second'⟩⟩

theorem neutral_foldlM {step : Given → Argument → Except Refusal Given}
    (h : ∀ arg, Neutral fun g => step g arg) (args : List Argument) :
    Neutral fun g => args.foldlM step g := by
  induction args with
  | nil => exact neutral_ok
  | cons arg args ih =>
    simp only [List.foldlM_cons]
    exact (h arg).bind ih

/-- A step that gives a value once, in a place where the flag is not. -/
theorem neutral_of_once {α : Type} (value : Except Refusal α) (get : Given → Option α)
    (put : Given → Option α → Given) (get_checked : ∀ g, get g.checked = get g)
    (put_checked : ∀ g earlier, put g.checked earlier = (put g earlier).checked)
    (check_put : ∀ g earlier, (put g earlier).check = g.check) :
    Neutral fun g => do return put g (← once (get g) (← value)) := by
  intro g g' given unchecked
  obtain ⟨a, parsed, given⟩ := bind_eq_ok_iff.mp given
  obtain ⟨now, first, given⟩ := bind_eq_ok_iff.mp given
  cases given
  refine ⟨(check_put g now).symm.trans unchecked, bind_eq_ok_iff.mpr ⟨a, parsed, ?_⟩⟩
  rw [get_checked]
  exact bind_eq_ok_iff.mpr ⟨now, first, congrArg Except.ok (put_checked g now)⟩

theorem neutral_setting (s : Setting) (value : Argument) :
    Neutral fun g => g.setting s value := by
  cases s with
  | bundle =>
    exact neutral_of_once (pathOf value) (·.input.bundle) (fun g v => { g with input.bundle := v })
      (fun _ => rfl) (fun _ _ => rfl) fun _ _ => rfl
  | dir =>
    exact neutral_of_once (pathOf value) (·.input.directory)
      (fun g v => { g with input.directory := v }) (fun _ => rfl) (fun _ _ => rfl) fun _ _ => rfl
  | config =>
    exact neutral_of_once (pathOf value) (·.input.config) (fun g v => { g with input.config := v })
      (fun _ => rfl) (fun _ _ => rfl) fun _ _ => rfl
  | included =>
    exact neutral_of_once (textOf value) (·.input.included)
      (fun g v => { g with input.included := v }) (fun _ => rfl) (fun _ _ => rfl) fun _ _ => rfl
  | excluded =>
    exact neutral_of_once (textOf value) (·.input.excluded)
      (fun g v => { g with input.excluded := v }) (fun _ => rfl) (fun _ _ => rfl) fun _ _ => rfl
  | maxDepth =>
    exact neutral_of_once (textOf value >>= numberOf) (·.input.maxDepth)
      (fun g v => { g with input.maxDepth := v }) (fun _ => rfl) (fun _ _ => rfl) fun _ _ => rfl
  | unionName =>
    exact neutral_of_once (textOf value) (·.input.unionName)
      (fun g v => { g with input.unionName := v }) (fun _ => rfl) (fun _ _ => rfl) fun _ _ => rfl
  | output =>
    exact neutral_of_once (pathOf value) (·.output) (fun g v => { g with output := v })
      (fun _ => rfl) (fun _ _ => rfl) fun _ _ => rfl

theorem neutral_operand (verb : Verb) (arg : Argument) :
    Neutral fun g => operand verb g arg := by
  cases verb with
  | bundle =>
    exact neutral_of_once (pathOf arg) (·.directory) (fun g v => { g with directory := v })
      (fun _ => rfl) (fun _ _ => rfl) fun _ _ => rfl
  | generate => exact neutral_error _
  | validate => exact neutral_error _
  | list => exact neutral_error _

theorem neutral_flag (f : Flag) : Neutral fun g => g.flag f := by
  intro g g' given unchecked
  cases f with
  | check =>
    -- The flag itself is given, which is excluded.
    by_cases earlier : g.check <;> simp only [flag, earlier] at given <;> cases given
    cases unchecked
  | json =>
    by_cases earlier : g.json <;> simp only [flag, earlier] at given <;> cases given
    exact ⟨unchecked, by simp [flag, checked, earlier]⟩

end Given

open Given

/-- The flag makes no difference to how arguments are read. -/
theorem Verb.neutral_read (verb : Verb) (pending : Option Setting) (arguments : List Argument) :
    Neutral fun g => verb.read pending g arguments := by
  -- One argument may only say which option comes next, so the induction is for any such option.
  induction arguments generalizing pending with
  | nil =>
    cases pending with
    | none => exact neutral_ok
    | some s => exact neutral_error _
  | cons arg rest ih =>
    cases pending with
    | some s =>
      simp only [Verb.read]
      cases Form.of arg with
      | plain => exact (neutral_setting s arg).bind (ih none)
      | separator | long | short => exact neutral_error _
    | none =>
      simp only [Verb.read]
      cases Form.of arg with
      | separator => exact neutral_foldlM (neutral_operand verb) rest
      | long name value =>
        dsimp only
        split
        · exact (neutral_setting _ _).bind (ih none)
        · exact ih _
        · exact (neutral_flag _).bind (ih none)
        · split
          · exact neutral_error _
          · exact neutral_error _
      | short letter others =>
        dsimp only
        split
        · exact neutral_error _
        · exact neutral_error _
      | plain => exact (neutral_operand verb arg).bind (ih none)

/-- A command line, and after the name of the command the flag by which the result is only
compared. -/
def withCheck : List Argument → List Argument
  | [] => []
  | verb :: rest => verb :: Text.encode "--check" :: rest

theorem Verb.command_eq_generate_iff (verb : Verb) {g : Given} {input : Input}
    {output : Option Path} {check json : Bool} :
    verb.command g = .ok (.generate input output check json) ↔
      verb = .generate ∧ g.input = input ∧ g.output = output ∧ g.check = check ∧ g.json = json := by
  obtain ⟨input', output', check', json', directory'⟩ := g
  cases verb with
  | generate => simp [Verb.command]
  | validate => simp [Verb.command]
  | list => simp [Verb.command]
  | bundle => cases directory' <;> cases output' <;> simp [Verb.command]

/-- A command is asked for by the name of the command and by what is given for it. -/
theorem Command.ofArguments_eq_ok_iff {first : Argument} {rest : List Argument}
    {command : Command} :
    Command.ofArguments (first :: rest) = .ok command ↔
      ∃ verb g, Verb.ofName? first = some verb ∧ verb.read none {} rest = .ok g ∧
        verb.command g = .ok command := by
  rw [Command.ofArguments]
  cases Verb.ofName? first with
  | none => simp
  | some verb =>
    change (verb.read none {} rest >>= verb.command) = _ ↔ _
    rw [bind_eq_ok_iff]
    constructor
    · rintro ⟨g, read, made⟩
      exact ⟨verb, g, rfl, read, made⟩
    · rintro ⟨_, g, ⟨⟩, read, made⟩
      exact ⟨g, read, made⟩

/-- With the flag the same command is asked for, to be compared. -/
theorem Command.ofArguments_withCheck {arguments : List Argument} {input : Input}
    {output : Option Path} {json : Bool}
    (asked : Command.ofArguments arguments = .ok (.generate input output false json)) :
    Command.ofArguments (withCheck arguments) = .ok (.generate input output true json) := by
  cases arguments with
  | nil => cases asked
  | cons first rest =>
    obtain ⟨verb, g, named, read, made⟩ := Command.ofArguments_eq_ok_iff.mp asked
    obtain ⟨rfl, rfl, rfl, unchecked, rfl⟩ := verb.command_eq_generate_iff.mp made
    obtain ⟨-, read'⟩ := Verb.neutral_read .generate none rest {} g read unchecked
    refine Command.ofArguments_eq_ok_iff.mpr ⟨.generate, g.checked, named, ?_, rfl⟩
    rw [← read']
    rfl

end ValidatorGen
