import ValidatorGen.Event
import ValidatorGen.Files.Memory
import ValidatorGen.Proofs.Event

/-!
# Computations on a file system in memory

A computation that only reads leaves the tree alone, and is given by what it comes to on each tree.
Of any other computation it can be said how it ends: of its outcome and the state after it.

## Main definitions

* `Memory.Reads` — the computation only reads the tree
* `Memory.look` — what a computation comes to on a tree if no operation fails
* `LoggedT.Ends` — the outcome and the state after a computation have a property

## Main results

* `Memory.perform_cases`, `Memory.change_cases` — an operation is done, or fails
* `Memory.run_of_reads` — a computation that reads comes to what it looks like, and nothing changes
* `LoggedT.look_bind` — what two computations in a row come to if the first one only reads
* `LoggedT.Ends.bind` — how two computations in a row end
-/

namespace ValidatorGen

open Files

variable {ε ε' α β : Type} {s : Memory.State} {t : Tree} {p : Path}

namespace Files.Memory

/-! ### Operations -/

/-- An operation is done, or fails and leaves the tree as it is or spoilt. -/
theorem perform_cases (operation : Tree → Except Error (α × Tree)) (spoil : Nat → Tree → Tree)
    (s : State) :
    (∃ a t', operation s.tree = .ok (a, t') ∧
        perform operation spoil s = (.ok a, ⟨t', s.faults.tail⟩)) ∨
      ∃ e t', perform operation spoil s = (.error e, ⟨t', s.faults.tail⟩) ∧
        (t' = s.tree ∨ ∃ written, t' = spoil written s.tree) := by
  obtain ⟨t, faults⟩ := s
  have done (faults : List (Option Fault))
      (quiet : ∀ fault others, faults ≠ some fault :: others) :
      (∃ a t', operation t = .ok (a, t') ∧
          perform operation spoil ⟨t, faults⟩ = (.ok a, ⟨t', faults.tail⟩)) ∨
        ∃ e t', perform operation spoil ⟨t, faults⟩ = (.error e, ⟨t', faults.tail⟩) ∧
          (t' = t ∨ ∃ written, t' = spoil written t) := by
    cases outcome : operation t with
    | ok result => exact .inl ⟨result.1, result.2, rfl, by simp [perform, outcome]⟩
    | error e => exact .inr ⟨e, t, by simp [perform, outcome], .inl rfl⟩
  -- Only a fault at the head of the list keeps the operation from being done.
  rcases faults with _ | ⟨_ | fault, others⟩
  · exact done [] (by simp)
  · exact done (none :: others) (by simp)
  · exact .inr ⟨fault.error, _, rfl, .inr ⟨fault.written, rfl⟩⟩

/-- An operation that changes the tree is done, or fails and changes nothing. -/
theorem change_cases (operation : Tree → Except Error Tree) (s : State) :
    (∃ t', operation s.tree = .ok t' ∧ change operation s = (.ok (), ⟨t', s.faults.tail⟩)) ∨
      ∃ e, change operation s = (.error e, ⟨s.tree, s.faults.tail⟩) := by
  rcases perform_cases (fun t => (operation t).map ((), ·)) (fun _ t => t) s with
    ⟨_, t', ok, performed⟩ | ⟨e, t', performed, spoilt⟩
  · cases outcome : operation s.tree with
    | error e => simp [outcome, Except.map] at ok
    | ok t₁ =>
      simp only [outcome, Except.map, Except.ok.injEq, Prod.mk.injEq, true_and] at ok
      subst ok
      exact .inl ⟨t₁, rfl, performed⟩
  · have same : t' = s.tree := spoilt.elim id fun ⟨_, same⟩ => same
    subst same
    exact .inr ⟨e, performed⟩

/-- A file is opened if that can be done and does not fail. -/
theorem create_of_ok {l : Location} {s' : State}
    (ran : (Disk.create p : Memory _) s = (.ok l, s')) :
    s.tree.create p = .ok (l, s'.tree) ∧ s'.faults = s.faults.tail := by
  rcases perform_cases (fun t => t.create p) (fun _ t => t) s with
    ⟨l', t', done, performed⟩ | ⟨e, t', performed, -⟩
  · obtain ⟨same, rfl⟩ := Prod.mk.inj (performed.symm.trans ran)
    cases same
    exact ⟨done, rfl⟩
  · cases (Prod.mk.inj (performed.symm.trans ran)).1

/-- What writing to an open file comes to: all bytes are added, or those before a fault. -/
theorem run_write (l : Location) (bytes : List UInt8) (s : State) :
    (Disk.write l bytes : Memory _) s = match s.faults.head? with
      | some (some fault) =>
        (.error fault.error, ⟨s.tree.append l (bytes.take fault.written), s.faults.tail⟩)
      | _ => (.ok (), ⟨s.tree.append l bytes, s.faults.tail⟩) := by
  obtain ⟨t, faults⟩ := s
  rcases faults with _ | ⟨_ | fault, faults⟩ <;> rfl

theorem State.ext {s s' : State} (tree : s.tree = s'.tree) (faults : s.faults = s'.faults) :
    s = s' := by
  cases s
  cases s'
  simp_all

/-! ### Computations that read -/

/-- A computation that only reads the tree. It meets with no fault where there is none. -/
def Reads (x : Memory α) : Prop :=
  ∀ s, (x s).2.tree = s.tree ∧ (s.faults = [] → (x s).2.faults = [])

/-- What a computation comes to on a tree if no operation fails. -/
def look (x : Memory α) (t : Tree) : α := (x ⟨t, []⟩).1

/-- A computation that reads comes to what it looks like, and nothing changes. -/
theorem run_of_reads {x : Memory α} (h : Reads x) (t : Tree) : x ⟨t, []⟩ = (look x t, ⟨t, []⟩) := by
  obtain ⟨tree, faults⟩ := h ⟨t, []⟩
  exact Prod.ext rfl (State.ext tree (faults rfl))

theorem reads_pure (a : α) : Reads (pure a : Memory α) := fun _ => ⟨rfl, id⟩

theorem Reads.bind {x : Memory α} {f : α → Memory β} (h : Reads x) (h' : ∀ a, Reads (f a)) :
    Reads (x >>= f) := by
  intro s
  have first := h s
  have second := h' (x s).1 (x s).2
  exact ⟨second.1.trans first.1, fun none => second.2 (first.2 none)⟩

theorem look_pure (a : α) (t : Tree) : look (pure a : Memory α) t = a := rfl

theorem look_bind {x : Memory α} (h : Reads x) (f : α → Memory β) (t : Tree) :
    look (x >>= f) t = look (f (look x t)) t := by
  change ((f (x ⟨t, []⟩).1) (x ⟨t, []⟩).2).1 = _
  rw [run_of_reads h]
  rfl

/-- An operation that reads leaves the tree alone and takes one fault. -/
theorem state_observe (operation : Tree → Except Error α) (s : State) :
    (observe operation s).2 = ⟨s.tree, s.faults.tail⟩ := by
  rcases perform_cases (fun t => (operation t).map (·, t)) (fun _ t => t) s with
    ⟨a, t', ok, performed⟩ | ⟨e, t', performed, spoilt⟩
  · rw [observe, performed]
    cases outcome : operation s.tree with
    | error e => simp [outcome, Except.map] at ok
    | ok a' =>
      simp only [outcome, Except.map, Except.ok.injEq, Prod.mk.injEq] at ok
      rw [ok.2]
  · have same : t' = s.tree := spoilt.elim id fun ⟨_, same⟩ => same
    rw [observe, performed, same]

theorem reads_observe (operation : Tree → Except Error α) : Reads (observe operation) := by
  intro s
  rw [state_observe]
  exact ⟨rfl, fun none => by rw [none]; rfl⟩

theorem look_observe (operation : Tree → Except Error α) (t : Tree) :
    look (observe operation) t = operation t := by
  rw [look, observe, perform]
  cases operation t <;> rfl

/-- What reading a file comes to: it fails if the next operation is to fail. -/
theorem run_read (p : Path) (s : State) :
    (Disk.read p : Memory _) s =
      (match s.faults.head? with
        | some (some fault) => .error fault.error
        | _ => s.tree.read p, ⟨s.tree, s.faults.tail⟩) := by
  refine Prod.ext ?_ (state_observe _ s)
  obtain ⟨t, faults⟩ := s
  change (observe _ _).1 = _
  rcases faults with _ | ⟨_ | fault, faults⟩
  · exact look_observe _ t
  · rw [observe, perform]
    cases t.read p <;> rfl
  · rfl

theorem reads_read (p : Path) : Reads (Disk.read p) := reads_observe _

theorem reads_list (p : Path) : Reads (Disk.list p) := reads_observe _

theorem reads_isFile (p : Path) : Reads (Disk.isFile p) :=
  (reads_observe _).bind fun _ => reads_pure _

theorem reads_isDirectory (p : Path) : Reads (Disk.isDirectory p) :=
  (reads_observe _).bind fun _ => reads_pure _

theorem look_read (p : Path) (t : Tree) : look (Disk.read p) t = t.read p := look_observe _ t

theorem look_list (p : Path) (t : Tree) : look (Disk.list p) t = t.list p := look_observe _ t

theorem look_isFile (p : Path) (t : Tree) : look (Disk.isFile p) t = t.isFile p := by
  change look (observe (fun t => .ok (t.isFile p)) >>= fun found => pure _) t = _
  rw [look_bind (reads_observe _), look_observe, look_pure]
  cases t.isFile p <;> rfl

theorem filterAuxM_reads {f : α → Memory Bool} (h : ∀ a, Reads (f a)) (as kept : List α) :
    Reads (as.filterAuxM f kept) ∧
      ∀ t, look (as.filterAuxM f kept) t = (as.filter fun a => look (f a) t).reverse ++ kept := by
  -- What has been kept so far is in the reverse order.
  induction as generalizing kept with
  | nil => exact ⟨reads_pure kept, fun t => rfl⟩
  | cons a as ih =>
    refine ⟨(h a).bind fun b => (ih _).1, fun t => ?_⟩
    rw [List.filterAuxM, look_bind (h a), (ih _).2]
    cases found : look (f a) t <;> simp [found]

theorem reads_filterM {f : α → Memory Bool} (h : ∀ a, Reads (f a)) (as : List α) :
    Reads (as.filterM f) := (filterAuxM_reads h as []).1.bind fun _ => reads_pure _

theorem look_filterM {f : α → Memory Bool} (h : ∀ a, Reads (f a)) (as : List α) (t : Tree) :
    look (as.filterM f) t = as.filter fun a => look (f a) t := by
  rw [List.filterM, look_bind (filterAuxM_reads h as []).1, look_pure, (filterAuxM_reads h as []).2,
    List.append_nil, List.reverse_reverse]

end Files.Memory

/-! ### Computations that read and report -/

namespace LoggedT

variable {x : LoggedT Memory ε α} {f : α → LoggedT Memory ε β}

/-- A computation that only reads the tree. -/
def Reads (x : LoggedT Memory ε α) : Prop := Memory.Reads x.run

/-- What a computation comes to on a tree if no operation fails. -/
def look (x : LoggedT Memory ε α) (t : Tree) : Logged ε α := Memory.look x.run t

theorem run_of_reads (h : x.Reads) (t : Tree) : x.run ⟨t, []⟩ = (x.look t, ⟨t, []⟩) :=
  Memory.run_of_reads h t

theorem run_ofAction {action : Memory (Except ε α)} {outcome : Except ε α} {s s₁ : Memory.State}
    (h : action s = (outcome, s₁)) : (ofAction action).run s = (⟨[], outcome⟩, s₁) := by
  change (match action s with | (a, s') => (Logged.mk [] a, s')) = _
  rw [h]

theorem run_mapError {logged : Logged ε α} {s s₁ : Memory.State} (h : x.run s = (logged, s₁))
    (rename : ε → ε') : (x.mapError rename).run s = (logged.mapError rename, s₁) := by
  change (match x.run s with | (a, s') => (Logged.mapError rename a, s')) = _
  rw [h]

/-- What follows a success goes on in the state after it. -/
theorem run_bind_of_ok {reported : List Event} {a : α} {s s₁ : Memory.State}
    (h : x.run s = (⟨reported, .ok a⟩, s₁)) (f : α → LoggedT Memory ε β) :
    (x >>= f).run s =
      (⟨reported ++ ((f a).run s₁).1.events, ((f a).run s₁).1.outcome⟩, ((f a).run s₁).2) := by
  rw [run_bind]
  simp only [Bind.bind, StateT.bind, h]
  rfl

/-- After a failure nothing more is done. -/
theorem run_bind_of_error {reported : List Event} {e : ε} {s s₁ : Memory.State}
    (h : x.run s = (⟨reported, .error e⟩, s₁)) (f : α → LoggedT Memory ε β) :
    (x >>= f).run s = (⟨reported, .error e⟩, s₁) := by
  rw [run_bind]
  simp only [Bind.bind, StateT.bind, h]
  rfl

/-- The outcome of two computations in a row: the second goes on where the first has succeeded. -/
theorem outcome_run_bind (x : LoggedT Memory ε α) (f : α → LoggedT Memory ε β)
    (s : Memory.State) :
    ((x >>= f).run s).1.outcome =
      (x.run s).1.outcome >>= fun a => ((f a).run (x.run s).2).1.outcome := by
  obtain ⟨⟨reported, outcome⟩, s₁, ran⟩ : ∃ first s₁, x.run s = (first, s₁) := ⟨_, _, rfl⟩
  cases outcome with
  | ok a =>
    rw [run_bind_of_ok ran, ran]
    rfl
  | error e =>
    rw [run_bind_of_error ran, ran]
    rfl

theorem outcome_run_bind_of_ok {a : α} (h : (x.run s).1.outcome = .ok a)
    (f : α → LoggedT Memory ε β) :
    ((x >>= f).run s).1.outcome = ((f a).run (x.run s).2).1.outcome := by
  rw [outcome_run_bind, h]
  rfl

theorem reads_ofLogged (x : Logged ε α) : (ofLogged x : LoggedT Memory ε α).Reads :=
  Memory.reads_pure x

theorem look_ofLogged (x : Logged ε α) (t : Tree) : (ofLogged x : LoggedT Memory ε α).look t = x :=
  rfl

theorem reads_pure (a : α) : (pure a : LoggedT Memory ε α).Reads := Memory.reads_pure _

theorem look_pure (a : α) (t : Tree) : (pure a : LoggedT Memory ε α).look t = pure a := rfl

theorem reads_ofAction {action : Memory (Except ε α)} (h : Memory.Reads action) :
    (ofAction action).Reads := h.bind fun _ => Memory.reads_pure _

theorem look_ofAction {action : Memory (Except ε α)} (h : Memory.Reads action) (t : Tree) :
    (ofAction action).look t = .ofExcept (Memory.look action t) := Memory.look_bind h _ t

theorem Reads.bind (h : x.Reads) (h' : ∀ a, (f a).Reads) : (x >>= f).Reads := by
  rw [Reads, run_bind]
  refine Memory.Reads.bind h fun first => ?_
  cases first.outcome with
  | ok a => exact Memory.Reads.bind (h' a) fun _ => Memory.reads_pure _
  | error e => exact Memory.reads_pure _

/-- What two computations in a row come to if the first one only reads. -/
theorem look_bind (h : x.Reads) (f : α → LoggedT Memory ε β) (t : Tree) :
    (x >>= f).look t = x.look t >>= fun a => (f a).look t := by
  rw [look, run_bind, Memory.look_bind h, look]
  obtain ⟨events, _ | a⟩ := Memory.look x.run t
  · rfl
  · rfl

theorem Reads.mapError (h : x.Reads) (rename : ε → ε') : (x.mapError rename).Reads :=
  Memory.Reads.bind h fun _ => Memory.reads_pure _

theorem look_mapError (h : x.Reads) (rename : ε → ε') (t : Tree) :
    (x.mapError rename).look t = (x.look t).mapError rename := Memory.look_bind h _ t

/-- What follows an operation that reads, if its failures are renamed. -/
theorem look_ofAction_bind {action : Memory (Except ε α)} (h : Memory.Reads action)
    (rename : ε → ε') (f : α → LoggedT Memory ε' β) (t : Tree) :
    ((ofAction action).mapError rename >>= f).look t =
      .ofExcept ((Memory.look action t).mapError rename) >>= fun a => (f a).look t := by
  rw [look_bind ((reads_ofAction h).mapError rename), look_mapError (reads_ofAction h),
    look_ofAction h]
  rfl

theorem Reads.apart (h : x.Reads) : x.apart.Reads :=
  Memory.Reads.bind h fun _ => Memory.reads_pure _

theorem look_apart (h : x.Reads) (t : Tree) :
    x.apart.look t = .ofExcept (x.look t).outcome := Memory.look_bind h _ t

theorem Reads.attempt (h : x.Reads) : (x.attempt : LoggedT Memory ε' (Except ε α)).Reads :=
  Memory.Reads.bind h fun _ => Memory.reads_pure _

theorem look_attempt (h : x.Reads) (t : Tree) :
    (x.attempt : LoggedT Memory ε' (Except ε α)).look t =
      ⟨(x.look t).events, .ok (x.look t).outcome⟩ := Memory.look_bind h _ t

theorem reads_mapM {f : α → LoggedT Memory ε β} (h : ∀ a, (f a).Reads) (as : List α) :
    (as.mapM f).Reads := by
  induction as with
  | nil => exact reads_pure []
  | cons a as ih =>
    rw [List.mapM_cons]
    exact (h a).bind fun _ => ih.bind fun _ => reads_pure _

theorem look_mapM {f : α → LoggedT Memory ε β} (h : ∀ a, (f a).Reads) (as : List α) (t : Tree) :
    (as.mapM f).look t = as.mapM fun a => (f a).look t := by
  induction as with
  | nil => rfl
  | cons a as ih =>
    rw [List.mapM_cons, List.mapM_cons, look_bind (h a)]
    congr 1
    funext b
    rw [look_bind (reads_mapM h as), ih]
    rfl

/-! ### How computations end -/

/-- The outcome and the state after the computation have the property. -/
def Ends (x : LoggedT Memory ε α) (s : Memory.State)
    (post : Except ε α → Memory.State → Prop) : Prop := post (x.run s).1.outcome (x.run s).2

variable {post between : Except ε α → Memory.State → Prop}
  {after : Except ε β → Memory.State → Prop}

theorem Ends.mono (h : x.Ends s between)
    (weaker : ∀ outcome s', between outcome s' → post outcome s') : x.Ends s post := weaker _ _ h

theorem ends_ofLogged {x : Logged ε α} (h : post x.outcome s) :
    (ofLogged x : LoggedT Memory ε α).Ends s post := h

theorem ends_ofAction {action : Memory (Except ε α)} (h : post (action s).1 (action s).2) :
    (ofAction action).Ends s post := h

/-- How two computations in a row end: the second goes on where the first has succeeded. -/
theorem Ends.bind (h : x.Ends s between) (next : ∀ a s', between (.ok a) s' → (f a).Ends s' after)
    (stop : ∀ e s', between (.error e) s' → after (.error e) s') : (x >>= f).Ends s after := by
  obtain ⟨⟨events, outcome⟩, s₁, ran⟩ : ∃ first s₁, x.run s = (first, s₁) := ⟨_, _, rfl⟩
  rw [Ends, ran] at h
  rw [Ends, run_bind]
  simp only [Bind.bind, StateT.bind, ran]
  cases outcome with
  | ok a => exact next a s₁ h
  | error e => exact stop e s₁ h

theorem Ends.mapError {rename : ε → ε'} {post : Except ε' α → Memory.State → Prop}
    (h : x.Ends s fun outcome s' => post (outcome.mapError rename) s') :
    (x.mapError rename).Ends s post := h

/-- A computation that reads ends with what it looks like, and nothing changes. -/
theorem ends_look (h : x.Reads) (t : Tree) :
    x.Ends ⟨t, []⟩ fun outcome s' => outcome = (x.look t).outcome ∧ s' = ⟨t, []⟩ := by
  rw [Ends, run_of_reads h]
  exact ⟨rfl, rfl⟩

/-- How computations end that go on from what a computation looks like. -/
theorem ends_bind_of_look {a : α} (h : x.Reads) (ok : (x.look t).outcome = .ok a)
    (next : (f a).Ends ⟨t, []⟩ after) : (x >>= f).Ends ⟨t, []⟩ after := by
  refine (ends_look h t).bind (fun a' s' look => ?_) fun e s' look => ?_
  · obtain ⟨look, rfl⟩ := look
    obtain rfl := Except.ok.inj (ok.symm.trans look.symm)
    exact next
  · cases ok.symm.trans look.1.symm

theorem ends_of_reads (h : x.Reads) : x.Ends s fun _ s' => s'.tree = s.tree := (h s).1

end LoggedT

end ValidatorGen
