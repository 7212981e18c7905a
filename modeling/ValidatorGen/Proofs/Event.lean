import ValidatorGen.Event

/-!
# Laws of computations that report events

## Main results

* `LoggedT.instLawfulMonad` — computations that report events and may fail compose as they should
* `Logged.outcome_mapError`, `Logged.outcome_mapM` — outcomes without the events
* `Logged.events_bind_of_ok`, `Logged.events_bind_of_error` — what is reported before a failure and
  after a success
-/

namespace ValidatorGen

variable {ε ε' α β : Type}

namespace LoggedT

variable {m : Type → Type}

theorem ext {x y : LoggedT m ε α} (h : x.run = y.run) : x = y := h

variable [Monad m]

theorem run_bind (x : LoggedT m ε α) (f : α → LoggedT m ε β) :
    (x >>= f).run = x.run >>= fun first =>
      match first.outcome with
      | .ok a => (f a).run >>= fun second =>
          pure ⟨first.events ++ second.events, second.outcome⟩
      | .error e => pure ⟨first.events, .error e⟩ := rfl

theorem run_pure (a : α) : (pure a : LoggedT m ε α).run = pure ⟨[], .ok a⟩ := rfl

instance instLawfulMonad [LawfulMonad m] : LawfulMonad (LoggedT m ε) := by
  refine LawfulMonad.mk' _ ?_ ?_ ?_
  · intro α x
    apply ext
    change (x >>= fun a => pure a).run = x.run
    rw [run_bind]
    calc
      _ = x.run >>= pure := by
        congr 1
        funext first
        obtain ⟨events, _ | a⟩ := first
        · rfl
        · simp [run_pure]
      _ = x.run := bind_pure _
  · intro α β a f
    apply ext
    rw [run_bind, run_pure, pure_bind]
    simp
  · intro α β γ x f g
    apply ext
    rw [run_bind, run_bind, run_bind, bind_assoc]
    congr 1
    funext first
    obtain ⟨events, _ | a⟩ := first
    · simp
    · simp only [bind_assoc, run_bind]
      congr 1
      funext second
      obtain ⟨events', _ | b⟩ := second <;> simp

end LoggedT

namespace Logged

/-- After a success, what follows reports its own events. -/
theorem events_bind_of_ok {x : Logged ε α} {a : α} (h : x.outcome = .ok a) (f : α → Logged ε β) :
    (x >>= f).events = x.events ++ (f a).events := by
  obtain ⟨events, outcome⟩ := x
  obtain rfl : outcome = .ok a := h
  rfl

/-- After a failure, nothing more is reported. -/
theorem events_bind_of_error {x : Logged ε α} {e : ε} (h : x.outcome = .error e)
    (f : α → Logged ε β) : (x >>= f).events = x.events := by
  obtain ⟨events, outcome⟩ := x
  obtain rfl : outcome = .error e := h
  rfl

/-- What is made of the result reports nothing. -/
theorem events_bind_pure (x : Logged ε α) (f : α → β) :
    (x >>= fun a => pure (f a)).events = x.events := by
  cases h : x.outcome with
  | ok a =>
    rw [events_bind_of_ok h]
    exact List.append_nil _
  | error e => exact events_bind_of_error h _

theorem outcome_mapError (f : ε → ε') (x : Logged ε α) :
    (x.mapError f).outcome = x.outcome.mapError f := rfl

theorem outcome_mapM (f : α → Logged ε β) (as : List α) :
    (as.mapM f).outcome = as.mapM fun a => (f a).outcome := by
  induction as with
  | nil => rfl
  | cons a as ih =>
    rw [List.mapM_cons, List.mapM_cons, outcome_bind]
    congr 1
    funext b
    rw [outcome_bind, ih]
    rfl

end Logged

end ValidatorGen
