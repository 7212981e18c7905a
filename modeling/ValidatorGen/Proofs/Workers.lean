import Mathlib.Logic.Relation
import ValidatorGen.Event
import ValidatorGen.Proofs.Except

/-!
# Workers that share the tasks of a list

Several workers do the tasks of a list, each whenever it gets to one. The first failure that comes
up is kept, and once there is one, the tasks that still wait may be dropped. If nothing has failed
in the end, the results come in the order of the tasks. So the order in which the workers get to the
tasks cannot be told from the results, unless several tasks fail: then any one of them may be the
one that is reported. It can be told from the events, which come as the tasks are done.

## Main definitions

* `Task`, `Work` — what has become of one task, and of all of them
* `Work.Step`, `Work.Does` — a worker gets to a task, and does it
* `ComesTo` — what the work may come to

## Main results

* `Work.Sound.step`, `Work.Told.step` — what a step leaves of the tasks belongs to them, and so do
  the events
* `Work.exists_ended` — work can always be brought to an end
* `exists_comesTo_iff` — the work comes to the results of all tasks, or to the failure of one of
  them
* `comesTo_ok_iff` — if it comes to results, the tasks have been done in some order
-/

namespace ValidatorGen

variable {ε α β : Type}

/-- What has become of a task. -/
inductive Task (α β : Type) where
  /-- Nobody has got to it yet. -/
  | waiting (a : α)
  /-- It has a result. -/
  | done (b : β)
  /-- It has failed, or is not wanted any more. -/
  | dropped

/-- The result of a task, if it has one. -/
def Task.result? : Task α β → Option β
  | .done b => some b
  | .waiting _ | .dropped => none

/-- What is to be done, if nobody has got to a task yet. -/
def Task.waiting? : Task α β → Option α
  | .waiting a => some a
  | .done _ | .dropped => none

/-- The tasks of a list while they are worked on. -/
structure Work (ε α β : Type) where
  /-- What has become of each task. -/
  tasks : List (Task α β)
  /-- The failure that is kept, if anything has failed. -/
  failure : Option ε
  /-- What has been reported. -/
  events : List Event

namespace Work

/-- A worker gets to a task that is waiting. -/
inductive Step (f : α → Logged ε β) : Work ε α β → Work ε α β → Prop where
  /-- The task gets its result. -/
  | done {a : α} {b : β} {tasks : List (Task α β)} {failure : Option ε} {events : List Event}
    (h : (f a).outcome = .ok b) :
    Step f ⟨.waiting a :: tasks, failure, events⟩
      ⟨.done b :: tasks, failure, events ++ (f a).events⟩
  /-- The task fails, and its failure is kept if it is the first. -/
  | fail {a : α} {e : ε} {tasks : List (Task α β)} {failure : Option ε} {events : List Event}
    (h : (f a).outcome = .error e) :
    Step f ⟨.waiting a :: tasks, failure, events⟩
      ⟨.dropped :: tasks, failure.or (some e), events ++ (f a).events⟩
  /-- The task is dropped, since something has failed. -/
  | drop {a : α} {e : ε} {tasks : List (Task α β)} {events : List Event} :
    Step f ⟨.waiting a :: tasks, some e, events⟩ ⟨.dropped :: tasks, some e, events⟩
  /-- The task is not the first of the list. -/
  | later {t : Task α β} {tasks tasks' : List (Task α β)} {failure failure' : Option ε}
    {events events' : List Event}
    (h : Step f ⟨tasks, failure, events⟩ ⟨tasks', failure', events'⟩) :
    Step f ⟨t :: tasks, failure, events⟩ ⟨t :: tasks', failure', events'⟩

/-- Work that nobody has begun. -/
def ofList (as : List α) : Work ε α β := ⟨as.map .waiting, none, []⟩

/-- What nobody has got to yet. -/
def waiting (w : Work ε α β) : List α := w.tasks.filterMap Task.waiting?

/-- Nothing is left to be done. -/
def Ended (w : Work ε α β) : Prop := w.waiting = []

/-- What work that has ended comes to. -/
def result (w : Work ε α β) : Logged ε (List β) where
  events := w.events
  outcome :=
    match w.failure with
    | some e => .error e
    | none => .ok (w.tasks.filterMap Task.result?)

end Work

/-- The work on a list may come to the result. -/
def ComesTo (f : α → Logged ε β) (as : List α) (result : Logged ε (List β)) : Prop :=
  ∃ w : Work ε α β, Relation.ReflTransGen (Work.Step f) (.ofList as) w ∧ w.Ended ∧
    w.result = result

namespace Work

variable {f : α → Logged ε β} {as : List α} {w w' : Work ε α β}

theorem waiting_ofList (as : List α) : (ofList as : Work ε α β).waiting = as := by
  rw [ofList, waiting, List.filterMap_map]
  exact List.filterMap_some

/-! ### What a step does -/

/-- A step keeps the failure, or it is the first that fails. -/
theorem Step.failure_cases (h : Step f w w') : w'.failure = w.failure ∨
    ∃ a ∈ w.waiting, ∃ e, (f a).outcome = .error e ∧ w.failure = none ∧ w'.failure = some e := by
  induction h with
  | done | drop => exact .inl rfl
  | @fail a e _ failure _ failed =>
    cases failure with
    | none => exact .inr ⟨a, List.mem_cons_self, e, failed, rfl, rfl⟩
    | some e' => exact .inl rfl
  | @later t _ _ _ _ _ _ _ ih =>
    refine ih.imp_right ?_
    rintro ⟨a, mem, e, failed, none, some⟩
    refine ⟨a, ?_, e, failed, none, some⟩
    exact (List.sublist_cons_self t _).filterMap _ |>.mem mem

/-- A failure that is kept stays. -/
theorem Step.failure_eq_some {e : ε} (h : Step f w w') (kept : w.failure = some e) :
    w'.failure = some e := by
  rcases h.failure_cases with same | ⟨_, _, _, -, none, -⟩
  · rw [same, kept]
  · cases none.symm.trans kept

theorem Step.failure_eq_none (h : Step f w w') (good : w'.failure = none) : w.failure = none := by
  cases kept : w.failure with
  | none => rfl
  | some e => cases good.symm.trans (h.failure_eq_some kept)

/-- A task before the others makes no difference to which of them is no longer waiting. -/
theorem perm_waiting_cons {a : α} {tasks tasks' : List (Task α β)} (t : Task α β)
    (h : (a :: tasks'.filterMap Task.waiting?).Perm (tasks.filterMap Task.waiting?)) :
    (a :: (t :: tasks').filterMap Task.waiting?).Perm ((t :: tasks).filterMap Task.waiting?) := by
  cases t with
  | waiting a' => exact (List.Perm.swap a' a _).trans (h.cons a')
  | done | dropped => exact h

/-- Each step takes one of the tasks that wait. Its events are reported, unless it is dropped since
something has failed. -/
theorem Step.taken (h : Step f w w') : ∃ a, (a :: w'.waiting).Perm w.waiting ∧
    (w'.events = w.events ++ (f a).events ∨ w'.events = w.events ∧ w'.failure ≠ none) := by
  induction h with
  | @done a | @fail a => exact ⟨a, .refl _, .inl rfl⟩
  | @drop a => exact ⟨a, .refl _, .inr ⟨rfl, Option.some_ne_none _⟩⟩
  | @later t _ _ _ _ _ _ _ ih =>
    obtain ⟨a, perm, events⟩ := ih
    exact ⟨a, perm_waiting_cons t perm, events⟩

theorem Step.waiting_lt (h : Step f w w') : w'.waiting.length < w.waiting.length := by
  obtain ⟨a, perm, -⟩ := h.taken
  exact perm.length_eq ▸ Nat.lt_succ_self _

/-- A worker gets to the task and does it. -/
structure Does (f : α → Logged ε β) (a : α) (w w' : Work ε α β) : Prop where
  /-- It is a step of the work. -/
  step : Step f w w'
  /-- The task does not wait any more. -/
  waiting : (a :: w'.waiting).Perm w.waiting
  /-- Its events are reported. -/
  events : w'.events = w.events ++ (f a).events
  /-- If it gets its result, what has failed before stays as it was. -/
  done : ∀ b, (f a).outcome = .ok b → w'.failure = w.failure
  /-- If it fails, its failure is kept if it is the first. -/
  failed : ∀ e, (f a).outcome = .error e → w'.failure = w.failure.or (some e)

theorem Does.later {a : α} {tasks tasks' : List (Task α β)} {failure failure' : Option ε}
    {events events' : List Event} (t : Task α β)
    (h : Does f a ⟨tasks, failure, events⟩ ⟨tasks', failure', events'⟩) :
    Does f a ⟨t :: tasks, failure, events⟩ ⟨t :: tasks', failure', events'⟩ where
  step := .later h.step
  waiting := perm_waiting_cons t h.waiting
  events := h.events
  done := h.done
  failed := h.failed

/-- A worker can get to the first task, if it waits. -/
theorem exists_does_first (f : α → Logged ε β) (a : α) (tasks : List (Task α β))
    (failure : Option ε) (events : List Event) :
    ∃ w', Does f a ⟨.waiting a :: tasks, failure, events⟩ w' := by
  cases outcome : (f a).outcome with
  | ok b =>
    refine ⟨_, .done outcome, .refl _, rfl, fun _ _ => rfl, fun e failed => ?_⟩
    cases outcome.symm.trans failed
  | error e =>
    refine ⟨_, .fail outcome, .refl _, rfl, fun b done => ?_, fun e' failed => ?_⟩
    · cases outcome.symm.trans done
    · cases outcome.symm.trans failed
      rfl

/-- A worker can get to any task that waits. -/
theorem exists_does (f : α → Logged ε β) {a : α} (mem : a ∈ w.waiting) :
    ∃ w', Does f a w w' := by
  obtain ⟨tasks, failure, events⟩ := w
  induction tasks with
  | nil => cases mem
  | cons t tasks ih =>
    have later (mem : a ∈ (Work.mk tasks failure events).waiting) :
        ∃ w', Does f a ⟨t :: tasks, failure, events⟩ w' :=
      (ih mem).imp' (fun w' => ⟨t :: w'.tasks, w'.failure, w'.events⟩) fun _ does => does.later t
    cases t with
    | waiting a' =>
      rcases List.mem_cons.mp mem with rfl | mem
      · exact exists_does_first f a tasks failure events
      · exact later mem
    | done | dropped => exact later mem

/-- Work can always be brought to an end. -/
theorem exists_ended (f : α → Logged ε β) (w : Work ε α β) :
    ∃ w', Relation.ReflTransGen (Step f) w w' ∧ w'.Ended := by
  -- The number of tasks that wait gets smaller with each step.
  induction count : w.waiting.length using Nat.strongRecOn generalizing w with
  | _ n ih =>
    cases waiting : w.waiting with
    | nil => exact ⟨w, .refl, waiting⟩
    | cons a as =>
      obtain ⟨w₁, does⟩ := exists_does f (waiting ▸ List.mem_cons_self : a ∈ w.waiting)
      obtain ⟨w₂, run, ended⟩ := ih _ (count ▸ does.step.waiting_lt) w₁ rfl
      exact ⟨w₂, .head does.step run, ended⟩

/-- Tasks that all have results can be done in any order. -/
theorem exists_run_of_perm {order : List α} (good : ∀ a ∈ order, ∃ b, (f a).outcome = .ok b)
    (perm : w.waiting.Perm order) :
    ∃ w', Relation.ReflTransGen (Step f) w w' ∧ w'.Ended ∧ w'.failure = w.failure ∧
      w'.events = w.events ++ order.flatMap fun a => (f a).events := by
  -- The invariant is that just the tasks of the rest of the order wait.
  induction order generalizing w with
  | nil => exact ⟨w, .refl, perm.eq_nil, rfl, (List.append_nil _).symm⟩
  | cons a order ih =>
    obtain ⟨⟨b, done⟩, good⟩ := List.forall_mem_cons.mp good
    obtain ⟨w₁, does⟩ := exists_does f (perm.mem_iff.mpr List.mem_cons_self)
    obtain ⟨w₂, run, ended, failure, events⟩ := ih good (does.waiting.trans perm).cons_inv
    refine ⟨w₂, .head does.step run, ended, failure.trans (does.done b done), ?_⟩
    rw [events, does.events, List.flatMap_cons, List.append_assoc]

/-! ### What belongs to the tasks -/

/-- What has become of a task may have become of `a`, if it is known whether anything has failed. -/
def Fits (f : α → Logged ε β) (failed : Bool) (a : α) : Task α β → Prop
  | .waiting a' => a' = a
  | .done b => (f a).outcome = .ok b
  | .dropped => failed

/-- What has become of the tasks belongs to them, and the failure that is kept is that of one. -/
structure Sound (f : α → Logged ε β) (as : List α) (w : Work ε α β) : Prop where
  /-- Task by task, it has become of them what may become of them. -/
  fits : List.Forall₂ (Fits f w.failure.isSome) as w.tasks
  /-- A task has the failure that is kept. -/
  failure : ∀ e, w.failure = some e → ∃ a ∈ as, (f a).outcome = .error e

theorem Fits.mono {failed failed' : Bool} {a : α} {t : Task α β} (h : failed → failed')
    (fits : Fits f failed a t) : Fits f failed' a t := by
  cases t with
  | waiting | done => exact fits
  | dropped => exact h fits

theorem sound_ofList (f : α → Logged ε β) (as : List α) : Sound f as (.ofList as) where
  fits := List.forall₂_map_right_iff.mpr (List.forall₂_same.mpr fun _ _ => rfl)
  failure _ none := nomatch none

/-- A step leaves of each task what may become of it. -/
theorem Step.fits (h : Step f w w') (fits : List.Forall₂ (Fits f w.failure.isSome) as w.tasks) :
    List.Forall₂ (Fits f w'.failure.isSome) as w'.tasks := by
  induction h generalizing as with
  | done h =>
    obtain ⟨a, as, same, rest, rfl⟩ := List.forall₂_cons_right_iff.mp fits
    cases same
    exact .cons h rest
  | fail h =>
    obtain ⟨a, as, -, rest, rfl⟩ := List.forall₂_cons_right_iff.mp fits
    have failed (failure : Option ε) (e : ε) : (failure.or (some e)).isSome := by
      cases failure <;> rfl
    exact .cons (failed _ _) (rest.imp fun _ _ => Fits.mono fun _ => failed _ _)
  | drop =>
    obtain ⟨a, as, -, rest, rfl⟩ := List.forall₂_cons_right_iff.mp fits
    exact .cons rfl rest
  | later step ih =>
    obtain ⟨a, as, first, rest, rfl⟩ := List.forall₂_cons_right_iff.mp fits
    refine .cons (first.mono fun some => ?_) (ih rest)
    obtain ⟨e, kept⟩ := Option.isSome_iff_exists.mp some
    exact Option.isSome_iff_exists.mpr ⟨e, step.failure_eq_some kept⟩

/-- A task that waits is one of the list. -/
theorem mem_of_waiting {failed : Bool} {tasks : List (Task α β)} {a : α}
    (fits : List.Forall₂ (Fits f failed) as tasks) (mem : a ∈ tasks.filterMap Task.waiting?) :
    a ∈ as := by
  induction fits with
  | nil => cases mem
  | @cons _ t _ _ first _ ih =>
    cases t with
    | waiting =>
      cases first
      exact (List.mem_cons.mp mem).elim (fun same => same ▸ List.mem_cons_self)
        fun mem => List.mem_cons_of_mem _ (ih mem)
    | done | dropped => exact List.mem_cons_of_mem _ (ih mem)

/-- What a step leaves of the tasks belongs to them. -/
theorem Sound.step (h : Sound f as w) (step : Step f w w') : Sound f as w' where
  fits := step.fits h.fits
  failure e kept := by
    rcases step.failure_cases with same | ⟨a, mem, e', failed, -, first⟩
    · exact h.failure e (same ▸ kept)
    · cases first.symm.trans kept
      exact ⟨a, mem_of_waiting h.fits mem, failed⟩

/-- The events are those of tasks of the list, as workers have got to them. As long as nothing has
failed, all other tasks wait. -/
def Told (f : α → Logged ε β) (as : List α) (w : Work ε α β) : Prop :=
  ∃ got dropped : List α, (got ++ (dropped ++ w.waiting)).Perm as ∧
    w.events = got.flatMap (fun a => (f a).events) ∧ (w.failure = none → dropped = [])

theorem told_ofList (f : α → Logged ε β) (as : List α) : Told f as (.ofList as) :=
  ⟨[], [], .of_eq (waiting_ofList as), rfl, fun _ => rfl⟩

theorem Told.step (h : Told f as w) (step : Step f w w') : Told f as w' := by
  obtain ⟨got, dropped, perm, events, all⟩ := h
  have next (a : α) (taken : (a :: w'.waiting).Perm w.waiting) :
      (a :: (dropped ++ w'.waiting)).Perm (dropped ++ w.waiting) :=
    List.perm_middle.symm.trans (taken.append_left dropped)
  obtain ⟨a, taken, told | ⟨same, failed⟩⟩ := step.taken
  · refine ⟨got ++ [a], dropped, ?_, ?_, fun good => all (step.failure_eq_none good)⟩
    · rw [List.append_assoc]
      exact (List.Perm.append_left got (next a taken)).trans perm
    · rw [told, events, List.flatMap_append, List.flatMap_singleton]
  · refine ⟨got, a :: dropped, ?_, same.trans events, fun good => absurd good failed⟩
    exact (List.Perm.append_left got (next a taken)).trans perm

/-- What is left of the tasks after any number of steps belongs to them, and so do the events. -/
theorem sound_told_of_run (run : Relation.ReflTransGen (Step f) (.ofList as) w) :
    Sound f as w ∧ Told f as w := by
  induction run with
  | refl => exact ⟨sound_ofList f as, told_ofList f as⟩
  | tail _ step ih => exact ⟨ih.1.step step, ih.2.step step⟩

/-- If nothing has failed in the end, then every task has its result. -/
theorem Sound.results (h : Sound f as w) (ended : w.Ended) (none : w.failure = none) :
    List.Forall₂ (fun a b => (f a).outcome = .ok b) as (w.tasks.filterMap Task.result?) := by
  obtain ⟨fits, -⟩ := h
  rw [none] at fits
  rw [Work.Ended, waiting] at ended
  generalize w.tasks = tasks at fits ended
  induction fits with
  | nil => exact .nil
  | @cons a t _ _ first _ ih =>
    cases t with
    | waiting => cases ended
    | done => exact .cons first (ih ended)
    | dropped => cases first

end Work

/-! ### What the work comes to -/

variable {f : α → Logged ε β} {as : List α} {events : List Event} {outcome : Except ε (List β)}

/-- The work comes to the results of all tasks, or to the failure of one of them. -/
theorem ComesTo.cases (h : ComesTo f as ⟨events, outcome⟩) :
    (∃ bs, as.mapM (fun a => (f a).outcome) = .ok bs ∧ outcome = .ok bs) ∨
      ∃ a ∈ as, ∃ e, (f a).outcome = .error e ∧ outcome = .error e := by
  obtain ⟨w, run, ended, same⟩ := h
  obtain ⟨-, rfl⟩ := Logged.mk.inj same
  obtain ⟨sound, -⟩ := Work.sound_told_of_run run
  cases kept : w.failure with
  | none => exact .inl ⟨_, mapM_eq_ok_iff.mpr (sound.results ended kept), rfl⟩
  | some e =>
    obtain ⟨a, mem, failed⟩ := sound.failure e kept
    exact .inr ⟨a, mem, e, failed, rfl⟩

/-- A worker may get to any task first, so the work may come to the failure of any that fails. -/
theorem exists_comesTo_error {a : α} {e : ε} (mem : a ∈ as) (failed : (f a).outcome = .error e) :
    ∃ events, ComesTo f as ⟨events, .error e⟩ := by
  have waits : a ∈ (Work.ofList as : Work ε α β).waiting := by
    rwa [Work.waiting_ofList]
  obtain ⟨w₁, does⟩ := Work.exists_does f waits
  obtain ⟨w, run, ended⟩ := Work.exists_ended f w₁
  -- The first failure is kept, whatever happens after it.
  have kept : w.failure = some e := by
    clear ended
    induction run with
    | refl => exact does.failed e failed
    | tail _ step ih => exact step.failure_eq_some ih
  exact ⟨w.events, w, .head does.step run, ended, by rw [Work.result, kept]⟩

/-- The work comes to results exactly if all tasks have results, and then workers may have got to
the tasks in any order. -/
theorem comesTo_ok_iff {bs : List β} : ComesTo f as ⟨events, .ok bs⟩ ↔
    as.mapM (fun a => (f a).outcome) = .ok bs ∧
      ∃ order : List α, order.Perm as ∧ events = order.flatMap fun a => (f a).events := by
  constructor
  · rintro ⟨w, run, ended, same⟩
    obtain ⟨rfl, outcome⟩ := Logged.mk.inj same
    obtain ⟨sound, got, dropped, perm, events, all⟩ := Work.sound_told_of_run run
    cases kept : w.failure with
    | some e =>
      rw [kept] at outcome
      cases outcome
    | none =>
      rw [kept] at outcome
      cases outcome
      rw [all kept, ended, List.append_nil, List.append_nil] at perm
      exact ⟨mapM_eq_ok_iff.mpr (sound.results ended kept), got, perm, events⟩
  · rintro ⟨all, order, perm, rfl⟩
    have good : ∀ a ∈ order, ∃ b, (f a).outcome = .ok b := fun a mem =>
      exists_of_mapM_eq_ok all (perm.mem_iff.mp mem)
    have waits : (Work.ofList as : Work ε α β).waiting.Perm order := by
      rw [Work.waiting_ofList]
      exact perm.symm
    obtain ⟨w, run, ended, kept, told⟩ := Work.exists_run_of_perm good waits
    have results := mapM_eq_ok_iff.mpr ((Work.sound_told_of_run run).1.results ended kept)
    rw [all] at results
    refine ⟨w, run, ended, ?_⟩
    rw [Work.result, kept, told, ← Except.ok.inj results]
    rfl

/-- The work may come to the results of all tasks or to the failure of any one of them, and to
nothing else. -/
theorem exists_comesTo_iff (f : α → Logged ε β) (as : List α) (outcome : Except ε (List β)) :
    (∃ events, ComesTo f as ⟨events, outcome⟩) ↔
      (∃ bs, as.mapM (fun a => (f a).outcome) = .ok bs ∧ outcome = .ok bs) ∨
        ∃ a ∈ as, ∃ e, (f a).outcome = .error e ∧ outcome = .error e := by
  constructor
  · rintro ⟨events, comes⟩
    exact comes.cases
  · rintro (⟨bs, all, rfl⟩ | ⟨a, mem, e, failed, rfl⟩)
    · exact ⟨_, comesTo_ok_iff.mpr ⟨all, as, .refl as, rfl⟩⟩
    · exact exists_comesTo_error mem failed

end ValidatorGen
