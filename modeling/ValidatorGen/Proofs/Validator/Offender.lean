import Mathlib.Data.List.Induction
import Mathlib.Data.List.Nodup
import ValidatorGen.Proofs.Validator.Naming

/-!
# The first name that is refused

Names are looked at one after the other. As long as they are in order they have become identifiers,
no two of which are the same; so a name that is refused because its identifier is taken meets
exactly one earlier name. What is reported is settled by the names up to the first that is refused,
and whatever comes after it does not matter.

## Main definitions

* `Refuses` — why a name is refused after other names
* `Document.part` — some of the object types of a document

## Main results

* `namingProblem?_of_refuses` — the first name that is refused is reported
* `exists_refuses_of_not_wellNamed` — if names are not in order, one of them is the first refused
* `namingProblem?_exact` — what is reported for a document and for its parts
-/

namespace ValidatorGen.Schema

/-- Some of the object types of a document, in order. -/
def Document.part (d : Document) (types : List ObjectType) (h : types.Sublist d.types) : Document :=
  ⟨types, d.distinct.sublist (h.map ObjectType.name)⟩

theorem Document.names_sublist {p d : Document} (h : p.types.Sublist d.types) :
    p.names.Sublist d.names := h.map ObjectType.name

theorem Document.names_prefix {p d : Document} (h : p.types <+: d.types) : p.names <+: d.names :=
  h.map ObjectType.name

end ValidatorGen.Schema

namespace ValidatorGen.Validator

open Naming Schema

variable {earlier later names : List String} {name : String} {problem : CompileError}

/-- Why a name is refused after the names `earlier`. Of several reasons the first one counts. -/
inductive Refuses (earlier : List String) (name : String) : CompileError → Prop where
  /-- Nothing is left of the name. -/
  | empty (h : safeIdentifier name = "") : Refuses earlier name (.emptyIdentifier name)
  /-- What is left of the name is not an identifier. -/
  | invalid (nonempty : safeIdentifier name ≠ "") (h : ¬ isIdentifier (safeIdentifier name)) :
      Refuses earlier name (.invalidIdentifier name (safeIdentifier name))
  /-- The identifier is that of one earlier name, and of no other. -/
  | taken {first : String} (identifier : isIdentifier (safeIdentifier name))
      (mem : first ∈ earlier) (same : safeIdentifier first = safeIdentifier name)
      (only : ∀ other ∈ earlier, safeIdentifier other = safeIdentifier name → other = first) :
      Refuses earlier name (.nameCollision (safeIdentifier name) first name)

/-- A name with its identifier, as it is remembered for the names after it. -/
def withIdentifier (name : String) : String × String := (safeIdentifier name, name)

/-- A further name keeps names in order iff it becomes an identifier that is not taken. -/
theorem wellNamed_concat_iff :
    WellNamed (earlier ++ [name]) ↔
      WellNamed earlier ∧ isIdentifier (safeIdentifier name) ∧
        safeIdentifier name ∉ earlier.map safeIdentifier := by
  constructor
  · intro h
    have distinct := h.distinct
    rw [List.map_append, List.nodup_append] at distinct
    refine ⟨h.sublist (List.sublist_append_left ..), h.identifiers name (by simp), ?_⟩
    intro taken
    exact distinct.2.2 _ taken (safeIdentifier name) (by simp) rfl
  · rintro ⟨before, identifier, free⟩
    refine ⟨?_, ?_, ?_⟩
    · rw [List.forall_mem_append, List.forall_mem_singleton]
      exact ⟨before.nonempty, safeIdentifier_ne_empty identifier⟩
    · rw [List.forall_mem_append, List.forall_mem_singleton]
      exact ⟨before.identifiers, identifier⟩
    · rw [List.map_append, List.map_singleton, List.nodup_append]
      refine ⟨before.distinct, by simp, ?_⟩
      rintro taken mem _ last rfl
      rw [List.mem_singleton.mp last] at mem
      exact free mem

/-- After names that are in order, a name keeps them so or is refused. -/
theorem wellNamed_concat_or_refuses (h : WellNamed earlier) (name : String) :
    WellNamed (earlier ++ [name]) ∨ ∃ problem, Refuses earlier name problem := by
  by_cases empty : safeIdentifier name = ""
  · exact .inr ⟨_, .empty empty⟩
  by_cases identifier : isIdentifier (safeIdentifier name)
  · by_cases taken : safeIdentifier name ∈ earlier.map safeIdentifier
    · obtain ⟨first, mem, same⟩ := List.mem_map.mp taken
      -- The identifiers of the earlier names are distinct, so no other name has this one.
      have only : ∀ other ∈ earlier,
          safeIdentifier other = safeIdentifier name → other = first := by
        intro other mem' same'
        exact List.inj_on_of_nodup_map h.distinct mem' mem (same'.trans same.symm)
      exact .inr ⟨_, .taken identifier mem same only⟩
    · exact .inl (wellNamed_concat_iff.mpr ⟨h, identifier, taken⟩)
  · exact .inr ⟨_, .invalid empty identifier⟩

/-! ### Going through the names -/

theorem find?_withIdentifier_eq_none (h : safeIdentifier name ∉ earlier.map safeIdentifier) :
    (earlier.map withIdentifier).find? (fun pair => pair.1 = safeIdentifier name) = none := by
  rw [List.find?_eq_none]
  intro pair mem same
  obtain ⟨other, mem', rfl⟩ := List.mem_map.mp mem
  exact h (List.mem_map.mpr ⟨other, mem', of_decide_eq_true same⟩)

/-- Among names that are in order, a name is found under its identifier. -/
theorem find?_withIdentifier_eq_some (named : WellNamed earlier) (mem : name ∈ earlier) :
    (earlier.map withIdentifier).find? (fun pair => pair.1 = safeIdentifier name) =
      some (withIdentifier name) := by
  have distinct : ((earlier.map withIdentifier).map Prod.fst).Nodup := by
    rw [List.map_map]
    exact named.distinct
  exact Ordered.get?_of_mem distinct (List.mem_map_of_mem mem)

/-- A name that is in order with those before it is remembered for those after it. -/
theorem namingProblemAfter?_of_wellNamed (h : WellNamed (earlier ++ [name])) :
    namingProblemAfter? (earlier.map withIdentifier) (name :: later) =
      namingProblemAfter? ((earlier ++ [name]).map withIdentifier) later := by
  obtain ⟨-, identifier, free⟩ := wellNamed_concat_iff.mp h
  rw [namingProblemAfter?_of_isIdentifier identifier, find?_withIdentifier_eq_none free,
    Option.elim_none, List.map_append, List.map_singleton, withIdentifier]

/-- A name that is refused is reported. -/
theorem namingProblemAfter?_of_refuses (named : WellNamed earlier)
    (h : Refuses earlier name problem) :
    namingProblemAfter? (earlier.map withIdentifier) (name :: later) = some problem := by
  cases h with
  | empty h => rw [namingProblemAfter?, if_pos (by simp [h])]
  | invalid nonempty h =>
    rw [namingProblemAfter?, if_neg (by simpa using nonempty), if_pos (by simp [h])]
  | taken identifier mem same _ =>
    have found := find?_withIdentifier_eq_some named mem
    rw [same] at found
    rw [namingProblemAfter?_of_isIdentifier identifier, found, Option.elim_some, withIdentifier]

/-- Names that are in order are remembered, and decide nothing by themselves. -/
theorem namingProblem?_append (h : WellNamed earlier) :
    namingProblem? (earlier ++ later) =
      namingProblemAfter? (earlier.map withIdentifier) later := by
  induction earlier using List.reverseRecOn generalizing later with
  | nil => rfl
  | append_singleton earlier name ih =>
    rw [List.append_assoc, ih (wellNamed_concat_iff.mp h).1, List.singleton_append,
      namingProblemAfter?_of_wellNamed h]

/-- The first name that is refused is reported. -/
theorem namingProblem?_of_refuses (named : WellNamed earlier) (h : Refuses earlier name problem)
    (later : List String) : namingProblem? (earlier ++ name :: later) = some problem := by
  rw [namingProblem?_append named, namingProblemAfter?_of_refuses named h]

/-- If names are not in order, one of them is the first that is refused. -/
theorem exists_refuses_of_not_wellNamed (h : ¬ WellNamed names) :
    ∃ earlier name later problem, names = earlier ++ name :: later ∧ WellNamed earlier ∧
      Refuses earlier name problem := by
  induction names using List.reverseRecOn with
  | nil => exact absurd wellNamed_nil h
  | append_singleton names last ih =>
    by_cases named : WellNamed names
    · obtain ⟨problem, refuses⟩ := (wellNamed_concat_or_refuses named last).resolve_left h
      exact ⟨names, last, [], problem, rfl, named, refuses⟩
    · obtain ⟨earlier, name, later, problem, rfl, before, refuses⟩ := ih named
      exact ⟨earlier, name, later ++ [last], problem, by simp, before, refuses⟩

/-- What is reported is the problem of the first name that is refused. -/
theorem namingProblem?_eq_some_iff :
    namingProblem? names = some problem ↔
      ∃ earlier name later, names = earlier ++ name :: later ∧ WellNamed earlier ∧
        Refuses earlier name problem := by
  constructor
  · intro reported
    have wrong : ¬ WellNamed names := by simp [← namingProblem?_eq_none_iff, reported]
    obtain ⟨earlier, name, later, problem', rfl, named, refuses⟩ :=
      exists_refuses_of_not_wellNamed wrong
    rw [namingProblem?_of_refuses named refuses, Option.some.injEq] at reported
    exact ⟨earlier, name, later, rfl, named, reported ▸ refuses⟩
  · rintro ⟨earlier, name, later, rfl, named, refuses⟩
    exact namingProblem?_of_refuses named refuses later

/-! ### Documents -/

/-- The two names of a collision in a document are different names. -/
theorem ne_of_nameCollision {d : Document} {identifier first second : String}
    (h : namingProblem? d.names = some (.nameCollision identifier first second)) :
    first ≠ second := by
  obtain ⟨earlier, name, later, split, -, refuses⟩ := namingProblem?_eq_some_iff.mp h
  have distinct : (earlier ++ name :: later).Nodup := split ▸ d.distinct
  cases refuses with
  | taken _ mem _ _ =>
    rw [List.nodup_append] at distinct
    exact distinct.2.2 first mem second List.mem_cons_self

/-- What is reported is settled by the names up to the first that is refused. -/
theorem exists_shortest_prefix {d : Document} (h : namingProblem? d.names = some problem) :
    ∃ p : Document, p.types <+: d.types ∧
      (∀ d' : Document, p.types <+: d'.types → namingProblem? d'.names = some problem) ∧
      ∀ q : Document, q.types <+: d.types → q.types.length < p.types.length →
        namingProblem? q.names = none := by
  obtain ⟨earlier, name, later, split, named, refuses⟩ := namingProblem?_eq_some_iff.mp h
  have upTo : (d.types.take (earlier.length + 1)).map ObjectType.name = earlier ++ [name] := by
    have names : d.types.map ObjectType.name = earlier ++ name :: later := split
    rw [List.map_take, names, List.take_length_add_append]
    rfl
  refine ⟨d.part (d.types.take (earlier.length + 1)) (List.take_sublist ..),
    List.take_prefix .., ?_, ?_⟩
  · intro d' start
    obtain ⟨more, names⟩ := Document.names_prefix start
    have names : (earlier ++ [name]) ++ more = d'.names := upTo ▸ names
    rw [← names, List.append_assoc]
    exact namingProblem?_of_refuses named refuses more
  · intro q start shorter
    -- A shorter part ends before the name that is refused.
    have within : q.names <+: earlier := by
      apply List.prefix_of_prefix_length_le (Document.names_prefix start)
      · exact ⟨name :: later, split.symm⟩
      · have : q.names.length = q.types.length := List.length_map ..
        have := List.length_take_le (earlier.length + 1) d.types
        simp only [Document.part] at shorter
        omega
    exact namingProblem?_eq_none_iff.mpr (named.sublist within.sublist)

/-- Nothing is reported for a document iff its names are in order. Otherwise the one problem that is
reported is that of the first name that is refused; a name that meets an earlier one is another
name. The problem is that of the shortest part up to a name for which anything is reported, and
nothing is reported for any part of a document that is in order. -/
theorem namingProblem?_exact (d : Document) :
    (namingProblem? d.names = none ↔ WellNamed d.names) ∧
    (∀ problem, namingProblem? d.names = some problem ↔
      ∃ earlier name later, d.names = earlier ++ name :: later ∧ WellNamed earlier ∧
        Refuses earlier name problem) ∧
    (∀ identifier first second,
      namingProblem? d.names = some (.nameCollision identifier first second) → first ≠ second) ∧
    (∀ problem, namingProblem? d.names = some problem →
      ∃ p : Document, p.types <+: d.types ∧
        (∀ d' : Document, p.types <+: d'.types → namingProblem? d'.names = some problem) ∧
        ∀ q : Document, q.types <+: d.types → q.types.length < p.types.length →
          namingProblem? q.names = none) ∧
    (namingProblem? d.names = none →
      ∀ p : Document, p.types.Sublist d.types → namingProblem? p.names = none) := by
  refine ⟨namingProblem?_eq_none_iff, fun _ => namingProblem?_eq_some_iff,
    fun _ _ _ => ne_of_nameCollision, fun _ => exists_shortest_prefix, ?_⟩
  intro none p part
  rw [namingProblem?_eq_none_iff] at none ⊢
  exact none.sublist (Document.names_sublist part)

/-- A document with two names that become one identifier, and a name of which nothing is left. -/
def applicationsTwice : Document :=
  .ofTypes
    [⟨"Job Applications", []⟩, ⟨"orders", []⟩, ⟨"JobApplications", []⟩, ⟨" - ", []⟩]

theorem namingProblem?_exact_applicationsTwice :
    namingProblem? applicationsTwice.names =
      some (.nameCollision "JobApplications" "Job Applications" "JobApplications") ∧
    "Job Applications" ≠ "JobApplications" ∧
    (∃ p : Document, p.types <+: applicationsTwice.types ∧
      namingProblem? p.names =
        some (.nameCollision "JobApplications" "Job Applications" "JobApplications")) ∧
    namingProblem? ["Job Applications", "orders"] = none ∧ namingProblem? ["orders"] = none := by
  have reported : namingProblem? applicationsTwice.names =
      some (.nameCollision "JobApplications" "Job Applications" "JobApplications") := by decide
  obtain ⟨-, -, different, shortest, -⟩ := namingProblem?_exact applicationsTwice
  obtain ⟨p, start, settled, -⟩ := shortest _ reported
  have inOrder : namingProblem? ["Job Applications", "orders"] = none := by decide
  obtain ⟨-, -, -, -, parts⟩ :=
    namingProblem?_exact (.ofTypes [⟨"Job Applications", []⟩, ⟨"orders", []⟩])
  exact ⟨reported, different _ _ _ reported, ⟨p, start, settled p List.prefix_rfl⟩, inOrder,
    parts inOrder (.ofTypes [⟨"orders", []⟩]) (by decide)⟩

end ValidatorGen.Validator
