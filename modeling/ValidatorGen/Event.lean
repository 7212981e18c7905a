import ValidatorGen.Files.Error
import ValidatorGen.Source
import ValidatorGen.Validator.Place

/-!
# Events

While it works the program reports events. A computation that reports events and may fail is a
`Logged`; the events before a failure are kept.

## Main definitions

* `Event` — what is reported
* `Event.level`, `Event.message`, `Event.details` — how an event is shown
* `Logged` — an outcome with the events reported on the way
* `LoggedT` — the same inside another monad

## Main results

* `Logged.outcome_bind` — the outcome of two computations in a row depends on their outcomes alone
-/

namespace ValidatorGen

open Validator

/-- What is reported. -/
inductive Event where
  /-- A descriptor of a kind that is not understood allows anything. -/
  | unknownKind (place : Place) (tag : Option String)
  /-- An object type has been compiled. -/
  | compiledType (name : String) (fields : Nat)
  /-- A name to be included is not in the document. -/
  | absentType (name : String)
  /-- A bundle has been read. -/
  | loadedBundle (path : Files.Path) (types : Nat)
  /-- A directory has been read. -/
  | loadedDirectory (path : Files.Path) (types : Nat)
  /-- The file of one object type has been read. -/
  | loadedType (path : Files.Path) (fields : Nat)
  /-- A source is not there. -/
  | missingSource (source : Source) (error : Files.Error)
  /-- A module has been written. -/
  | wroteModule (path : Files.Path) (bytes : Nat) (types : Nat)
deriving DecidableEq

/-- How much attention an event asks for. -/
inductive Level where
  /-- Of interest to those who look for an error. -/
  | debug
  /-- Of interest in general. -/
  | info
  /-- Something may be wrong. -/
  | warn
deriving DecidableEq

/-- The name of a level. -/
def Level.name : Level → String
  | .debug => "DEBUG"
  | .info => "INFO"
  | .warn => "WARN"

/-- The attention that an event asks for. -/
def Event.level : Event → Level
  | .unknownKind .. | .wroteModule .. => .info
  | .absentType .. | .missingSource .. => .warn
  | .compiledType .. | .loadedBundle .. | .loadedDirectory .. | .loadedType .. => .debug

/-- What has happened, in words. -/
def Event.message : Event → String
  | .unknownKind .. => "unrecognized property kind, using unconstrained validator"
  | .compiledType .. => "compiled object type"
  | .absentType .. => "included object type not present in document"
  | .loadedBundle .. => "loaded schema bundle"
  | .loadedDirectory .. => "loaded schema directory"
  | .loadedType .. => "loaded object type"
  | .missingSource .. => "schema source not found"
  | .wroteModule .. => "wrote validator module"

/-- A detail of an event. -/
inductive Detail where
  /-- A text. -/
  | text (s : String)
  /-- A number of things. -/
  | count (n : Nat)
deriving DecidableEq

/-- The named details of an event, in order. -/
def Event.details : Event → List (String × Detail)
  | .unknownKind place tag => [("path", .text place.text), ("kind", .text (tag.getD "<none>"))]
  | .compiledType name fields => [("object_type", .text name), ("fields", .count fields)]
  | .absentType name => [("object_type", .text name)]
  | .loadedBundle path types | .loadedDirectory path types =>
    [("path", .text path.display), ("object_types", .count types)]
  | .loadedType path fields => [("path", .text path.display), ("fields", .count fields)]
  | .missingSource source error =>
    [("source", .text source.text), ("error", .text error.message)]
  | .wroteModule path bytes types =>
    [("path", .text path.display), ("bytes", .count bytes), ("object_types", .count types)]

/-- An outcome, and the events reported on the way to it. -/
structure Logged (ε α : Type) where
  /-- The events, in order. -/
  events : List Event
  /-- The outcome. -/
  outcome : Except ε α

namespace Logged

variable {ε α β : Type}

/-- The events of a computation come before those of the one that follows it. -/
protected def bind (x : Logged ε α) (f : α → Logged ε β) : Logged ε β :=
  match x.outcome with
  | .ok a => ⟨x.events ++ (f a).events, (f a).outcome⟩
  | .error e => ⟨x.events, .error e⟩

instance : Monad (Logged ε) where
  pure a := ⟨[], .ok a⟩
  bind := Logged.bind

/-- A failure before which nothing is reported. -/
def fail (error : ε) : Logged ε α := ⟨[], .error error⟩

/-- Reports one event. -/
def report (event : Event) : Logged ε Unit := ⟨[event], .ok ()⟩

/-- An outcome on the way to which nothing is reported. -/
def ofExcept (x : Except ε α) : Logged ε α := ⟨[], x⟩

/-- The same computation with its failures renamed. -/
def mapError {ε' : Type} (f : ε → ε') (x : Logged ε α) : Logged ε' α :=
  ⟨x.events, x.outcome.mapError f⟩

theorem pure_def (a : α) : (pure a : Logged ε α) = ⟨[], .ok a⟩ := rfl

theorem ok_bind (events : List Event) (a : α) (f : α → Logged ε β) :
    (⟨events, .ok a⟩ : Logged ε α) >>= f = ⟨events ++ (f a).events, (f a).outcome⟩ := rfl

theorem error_bind (events : List Event) (error : ε) (f : α → Logged ε β) :
    (⟨events, .error error⟩ : Logged ε α) >>= f = ⟨events, .error error⟩ := rfl

theorem outcome_bind (x : Logged ε α) (f : α → Logged ε β) :
    (x >>= f).outcome = x.outcome >>= fun a => (f a).outcome := by
  obtain ⟨events, _ | _⟩ := x <;> rfl

instance : LawfulMonad (Logged ε) := by
  refine LawfulMonad.mk' _ ?_ ?_ ?_
  · rintro α ⟨events, _ | a⟩
    · rfl
    · change (⟨events ++ [], .ok a⟩ : Logged ε α) = _
      rw [List.append_nil]
  · intro α β a f
    rw [pure_def, ok_bind, List.nil_append]
  · rintro α β γ ⟨events, _ | a⟩ f g
    · rfl
    · rw [ok_bind, ok_bind]
      cases h : f a with
      | mk events' outcome =>
        cases outcome with
        | error e => simp [error_bind]
        | ok b => simp [ok_bind]

end Logged

/-- A computation in another monad that reports events and may fail. -/
def LoggedT (m : Type → Type) (ε α : Type) : Type := m (Logged ε α)

namespace LoggedT

variable {m : Type → Type} [Monad m] {ε α β : Type}

/-- The outcome and the events of the computation. -/
def run (x : LoggedT m ε α) : m (Logged ε α) := x

/-- The events of a computation come before those of the one that follows it. -/
protected def bind (x : LoggedT m ε α) (f : α → LoggedT m ε β) : LoggedT m ε β :=
  show m (Logged ε β) from do
    let first ← x.run
    match first.outcome with
    | .ok a =>
      let second ← (f a).run
      return ⟨first.events ++ second.events, second.outcome⟩
    | .error e => return ⟨first.events, .error e⟩

instance : Monad (LoggedT m ε) where
  pure a := (pure ⟨[], .ok a⟩ : m (Logged ε _))
  bind := LoggedT.bind

/-- A finished computation. -/
def ofLogged (x : Logged ε α) : LoggedT m ε α := (pure x : m (Logged ε α))

/-- Reports one event. -/
def report (event : Event) : LoggedT m ε Unit := ofLogged (Logged.report event)

/-- Fails. -/
def fail (error : ε) : LoggedT m ε α := ofLogged ⟨[], .error error⟩

/-- An action of the other monad that may fail. -/
def ofAction (x : m (Except ε α)) : LoggedT m ε α :=
  show m (Logged ε α) from do
    let outcome ← x
    return ⟨[], outcome⟩

/-- The same computation with its failures renamed. -/
def mapError {ε' : Type} (f : ε → ε') (x : LoggedT m ε α) : LoggedT m ε' α :=
  show m (Logged ε' α) from do
    let logged ← x.run
    return logged.mapError f

/-- The same computation by a worker, whose events do not come with those of this computation. -/
def apart (x : LoggedT m ε α) : LoggedT m ε α :=
  show m (Logged ε α) from do
    let logged ← x.run
    return .ofExcept logged.outcome

/-- The outcome of a computation, even if it is a failure. -/
def attempt {ε' : Type} (x : LoggedT m ε α) : LoggedT m ε' (Except ε α) :=
  show m (Logged ε' (Except ε α)) from do
    let logged ← x.run
    return ⟨logged.events, .ok logged.outcome⟩

end LoggedT

end ValidatorGen
