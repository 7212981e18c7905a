import ValidatorGen.Validator.Module

/-!
# When the names of a document are in order

Nothing is wrong with names iff each of them becomes an identifier and no two become the same one.

## Main results

* `WellNamed.sublist` — names that are in order stay so when some of them are left out
* `namingProblem?_eq_none_iff` — the names with which nothing is wrong
-/

namespace ValidatorGen.Validator

open Naming

/-- What the names of a document should become: each an identifier, and no two the same one. -/
structure WellNamed (names : List String) : Prop where
  /-- Something is left of each name. -/
  nonempty : ∀ name ∈ names, safeIdentifier name ≠ ""
  /-- What is left of each name is an identifier. -/
  identifiers : ∀ name ∈ names, isIdentifier (safeIdentifier name)
  /-- No two names become one identifier. -/
  distinct : (names.map safeIdentifier).Nodup

theorem wellNamed_nil : WellNamed [] := ⟨by simp, by simp, by simp⟩

/-- Names that are in order stay so when some of them are left out. -/
theorem WellNamed.sublist {names names' : List String} (h : WellNamed names)
    (part : names'.Sublist names) : WellNamed names' where
  nonempty := fun name mem => h.nonempty name (part.subset mem)
  identifiers := fun name mem => h.identifiers name (part.subset mem)
  distinct := h.distinct.sublist (part.map safeIdentifier)

theorem wellNamed_cons_iff {name : String} {names : List String} :
    WellNamed (name :: names) ↔
      safeIdentifier name ≠ "" ∧ isIdentifier (safeIdentifier name) ∧
        safeIdentifier name ∉ names.map safeIdentifier ∧ WellNamed names := by
  constructor
  · rintro ⟨nonempty, identifiers, distinct⟩
    rw [List.forall_mem_cons] at nonempty identifiers
    rw [List.map_cons, List.nodup_cons] at distinct
    exact ⟨nonempty.1, identifiers.1, distinct.1, nonempty.2, identifiers.2, distinct.2⟩
  · rintro ⟨nonempty, identifier, fresh, rest⟩
    refine ⟨List.forall_mem_cons.mpr ⟨nonempty, rest.nonempty⟩,
      List.forall_mem_cons.mpr ⟨identifier, rest.identifiers⟩, ?_⟩
    rw [List.map_cons, List.nodup_cons]
    exact ⟨fresh, rest.distinct⟩

theorem safeIdentifier_ne_empty {name : String} (h : isIdentifier (safeIdentifier name)) :
    safeIdentifier name ≠ "" := by
  intro empty
  rw [empty] at h
  exact absurd h (by decide)

/-- A name that becomes an identifier is in order unless the identifier is taken. -/
theorem namingProblemAfter?_of_isIdentifier {name : String} {names : List String}
    (h : isIdentifier (safeIdentifier name)) (earlier : List (String × String)) :
    namingProblemAfter? earlier (name :: names) =
      (earlier.find? fun pair => pair.1 = safeIdentifier name).elim
        (namingProblemAfter? (earlier ++ [(safeIdentifier name, name)]) names)
        fun pair => some (.nameCollision (safeIdentifier name) pair.2 name) := by
  have nonempty : ¬ (safeIdentifier name).isEmpty := by simpa using safeIdentifier_ne_empty h
  rw [namingProblemAfter?, if_neg nonempty, if_neg (by simp [h])]
  cases earlier.find? fun pair => pair.1 = safeIdentifier name <;> rfl

/-- Nothing is wrong with names after `earlier` iff they are well named and none of them becomes an
identifier that was there before. -/
theorem namingProblemAfter?_eq_none_iff (names : List String) :
    ∀ earlier : List (String × String),
      namingProblemAfter? earlier names = none ↔
        WellNamed names ∧ ∀ name ∈ names, safeIdentifier name ∉ earlier.map Prod.fst := by
  induction names with
  | nil => simp [namingProblemAfter?, wellNamed_nil]
  | cons name names ih =>
    intro earlier
    rw [wellNamed_cons_iff, List.forall_mem_cons]
    by_cases identifier : isIdentifier (safeIdentifier name)
    · have nonempty := safeIdentifier_ne_empty identifier
      rw [namingProblemAfter?_of_isIdentifier identifier]
      cases found : earlier.find? fun pair => pair.1 = safeIdentifier name with
      | some pair =>
        have taken : safeIdentifier name ∈ earlier.map Prod.fst := by
          rw [List.mem_map]
          exact ⟨pair, List.mem_of_find?_eq_some found,
            by simpa using List.find?_some found⟩
        simp [taken]
      | none =>
        have free : safeIdentifier name ∉ earlier.map Prod.fst := by
          rw [List.mem_map]
          rintro ⟨pair, mem, same⟩
          exact absurd same (by simpa using List.find?_eq_none.mp found pair mem)
        -- The new name is in the way of the later ones, just as the earlier names are.
        have later : (∀ name' ∈ names, safeIdentifier name' ∉
              (earlier ++ [(safeIdentifier name, name)]).map Prod.fst) ↔
            safeIdentifier name ∉ names.map safeIdentifier ∧
              ∀ name' ∈ names, safeIdentifier name' ∉ earlier.map Prod.fst := by
          simp only [List.map_append, List.mem_append, List.map_cons, List.map_nil,
            List.mem_singleton, not_or, List.mem_map, not_exists, not_and]
          constructor
          · intro h
            exact ⟨fun name' mem => (h name' mem).2, fun name' mem => (h name' mem).1⟩
          · intro h name' mem
            exact ⟨h.2 name' mem, h.1 name' mem⟩
        rw [Option.elim_none, ih, later]
        simp only [nonempty, identifier, free, ne_eq, not_false_iff, true_and]
        exact ⟨fun ⟨rest, fresh, all⟩ => ⟨⟨fresh, rest⟩, all⟩,
          fun ⟨⟨fresh, rest⟩, all⟩ => ⟨rest, fresh, all⟩⟩
    · rw [namingProblemAfter?]
      by_cases empty : (safeIdentifier name).isEmpty <;> simp [empty, identifier]

/-- Nothing is wrong with names iff they are well named. -/
theorem namingProblem?_eq_none_iff {names : List String} :
    namingProblem? names = none ↔ WellNamed names := by
  simp [namingProblem?, namingProblemAfter?_eq_none_iff]

end ValidatorGen.Validator
