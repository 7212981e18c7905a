import Mathlib.Tactic.SplitIfs
import ValidatorGen.Config
import ValidatorGen.Proofs.Ordered
import ValidatorGen.Proofs.Schema.Members
import ValidatorGen.Proofs.Validator.Emission

/-!
# Compiling a part of a document

A configuration selects object types by their names. What is selected is compiled as if nothing else
were there: the declarations are those of the whole document, as they are written there, and of what
was left out nothing can go wrong. Selections can be made one after another in any order.

## Main definitions

* `CompileError.about` — the object types that an error is about

## Main results

* `mem_about_of_namingProblem?` — a problem with names is about names that are there
* `emit_outcome_eq_error` — what an emission can fail for
* `Union.members_ofNames` — the members of a union are the names in lower case, each once
* `Config.emit_select_modular` — what becomes of a document when a part of it is compiled
-/

namespace ValidatorGen

open Naming Schema Validator

/-- The object types that an error is about. -/
def CompileError.about : CompileError → List String
  | .nameCollision _ first second => [first, second]
  | .emptyIdentifier name | .invalidIdentifier name _ => [name]
  | .depthExceeded place _ => place.root.toList
  | .malformed objectType _ => objectType.toList

namespace Validator

variable {o : Options} {d : Document} {names : List String}

/-- A problem with names is about names that are there, or were there before. -/
theorem mem_about_of_namingProblemAfter? {problem : CompileError} :
    ∀ (names : List String) (earlier : List (String × String)),
      namingProblemAfter? earlier names = some problem →
        problem.about ≠ [] ∧
          ∀ name ∈ problem.about, name ∈ names ∨ name ∈ earlier.map Prod.snd := by
  intro names
  induction names with
  | nil =>
    intro earlier h
    cases h
  | cons name names ih =>
    intro earlier h
    simp only [namingProblemAfter?] at h
    split_ifs at h with empty invalid
    · cases h
      simp [CompileError.about]
    · cases h
      simp [CompileError.about]
    · cases found : earlier.find? fun pair => pair.1 = safeIdentifier name with
      | some pair =>
        -- The first name of a collision is one of those before.
        rw [found] at h
        cases h
        have before : pair.2 ∈ earlier.map Prod.snd :=
          List.mem_map_of_mem (List.mem_of_find?_eq_some found)
        simp only [CompileError.about]
        refine ⟨by simp, ?_⟩
        intro blamed mem
        rcases List.mem_pair.mp mem with same | same
        · exact .inr (same ▸ before)
        · exact .inl (same ▸ List.mem_cons_self)
      | none =>
        rw [found] at h
        obtain ⟨nonempty, each⟩ := ih _ h
        refine ⟨nonempty, ?_⟩
        intro blamed mem
        rcases each blamed mem with later | before
        · exact .inl (List.mem_cons_of_mem name later)
        · rw [List.map_append, List.mem_append] at before
          rcases before with before | here
          · exact .inr before
          · exact .inl (List.mem_singleton.mp here ▸ List.mem_cons_self)

/-- A problem with names is about names that are there. -/
theorem mem_about_of_namingProblem? {problem : CompileError}
    (h : namingProblem? names = some problem) :
    problem.about ≠ [] ∧ ∀ name ∈ problem.about, name ∈ names := by
  obtain ⟨nonempty, each⟩ := mem_about_of_namingProblemAfter? names [] h
  refine ⟨nonempty, ?_⟩
  intro name mem
  simpa using each name mem

/-- An emission fails for the name of the union, for a problem with the names of the types, or for a
type that goes too deep. -/
theorem emit_outcome_eq_error {e : CompileError} (union : isIdentifier o.unionName)
    (h : (emit o d).outcome = .error e) :
    namingProblem? d.names = some e ∨
      ∃ t ∈ d.types, ∃ v : Visit, v.place.root = some t.name ∧
        e = .depthExceeded v.place o.maxDepth := by
  cases problem : namingProblem? d.names with
  | some problem' =>
    rw [emit_outcome_of_namingProblem? union problem] at h
    cases h
    exact .inl rfl
  | none =>
    have named := namingProblem?_eq_none_iff.mp problem
    cases deep : d.types.find? (!·.isWithin o.maxDepth) with
    | none =>
      have within : ∀ t ∈ d.types, t.isWithin o.maxDepth := by
        simpa [List.find?_eq_none] using deep
      rw [emit_outcome_of_isWithin union named within] at h
      cases h
    | some t =>
      obtain ⟨v, -, root, outcome⟩ := emit_outcome_of_find?_eq_some union named deep
      rw [outcome] at h
      cases h
      exact .inr ⟨t, List.mem_of_find?_eq_some deep, v, root, rfl⟩

/-- The members of a union are the names in lower case, each once and where it first comes. -/
theorem Union.members_ofNames (name : String) (names : List String) :
    (Union.ofNames name names).members = (names.map Text.lowercase).eraseDups :=
  Ordered.collect_id _

end Validator

/-! ### Parts of documents -/

namespace Schema.Document

variable {d : Document} {keep : String → Bool}

theorem names_filter (d : Document) (keep : String → Bool) :
    (d.filter keep).names = d.names.filter keep := by
  rw [names, filter, names, List.filter_map]
  rfl

theorem mem_types_filter {t : ObjectType} :
    t ∈ (d.filter keep).types ↔ t ∈ d.types ∧ keep t.name := List.mem_filter

theorem filter_filter (d : Document) (keep keep' : String → Bool) :
    (d.filter keep).filter keep' = d.filter fun name => keep' name && keep name := by
  apply ext
  exact List.filter_filter ..

/-- A type that is left out leaves the rest as it is, wherever it is inserted. -/
theorem filter_insert_of_not {t : ObjectType} (h : keep t.name = false) (d : Document) :
    (d.insert t).filter keep = d.filter keep := by
  apply ext
  change (Ordered.put ObjectType.name t d.types).filter _ = d.types.filter _
  induction d.types with
  | nil => simp [Ordered.put, h]
  | cons first types ih =>
    rw [Ordered.put]
    by_cases same : first.name = t.name
    · rw [if_pos same, List.filter_cons_of_neg (by simp [h]),
        List.filter_cons_of_neg (by simp [same, h])]
    · rw [if_neg same, List.filter_cons, List.filter_cons, ih]

/-- The declarations of the types that are kept are those that belong to their names. -/
theorem map_declaration_filter (d : Document) (keep : String → Bool) (f : Declaration → String) :
    (d.filter keep).types.map (f ∘ ObjectType.declaration) =
      ((d.names.zip (d.types.map (f ∘ ObjectType.declaration))).filter fun b => keep b.1).map
        Prod.snd := by
  obtain ⟨types, distinct⟩ := d
  simp only [names, filter]
  clear distinct
  induction types with
  | nil => rfl
  | cons t types ih =>
    by_cases kept : keep t.name <;> simp [kept, ih]

end Schema.Document

namespace Config

variable {ε : Type} {c c' : Config} {d : Document}

theorem outcome_select (c : Config) (d : Document) :
    (c.select d : Logged ε Document).outcome = .ok (d.filter c.allows) := rfl

theorem outcome_select_bind {α : Type} (c : Config) (d : Document) (f : Document → Logged ε α) :
    (c.select d >>= f).outcome = (f (d.filter c.allows)).outcome := by
  rw [Logged.outcome_bind, outcome_select]
  rfl

theorem isIdentifier_of_problem? (accepted : c.problem? = none) : isIdentifier c.unionName := by
  rw [problem?] at accepted
  split_ifs at accepted with depth name
  simpa using name

/-- What is selected of a document is compiled as if there were nothing else. If the whole document
is compiled, so is what is selected of it: the names, the declarations and the members of the union
are those of the whole that belong to selected types. In any case it fails only for something that
is wrong with selected types, whatever else is inserted. Selecting again changes nothing, and the
order of two selections does not matter. -/
theorem emit_select_modular (accepted : c.problem? = none) (d : Document) :
    (∀ m, (emit c.options d).outcome = .ok m →
      m.declarations.length = d.names.length ∧
      ∃ m', (c.select d >>= emit c.options).outcome = .ok m' ∧
        m'.typeNames = d.names.filter c.allows ∧
        m'.declarations.map Declaration.text =
          ((d.names.zip (m.declarations.map Declaration.text)).filter fun b => c.allows b.1).map
            Prod.snd ∧
        m'.union = ⟨c.unionName, ((d.names.filter c.allows).map Text.lowercase).eraseDups⟩ ∧
        m'.text = "\n".intercalate
          (importText :: m'.declarations.map Declaration.text ++ [m'.union.text])) ∧
    ((∃ m', (c.select d >>= emit c.options).outcome = .ok m') ↔
      WellNamed (d.names.filter c.allows) ∧
        ∀ t ∈ d.types, c.allows t.name → t.isWithin c.maxDepth) ∧
    (∀ e, (c.select d >>= emit c.options).outcome = .error e →
      e.about ≠ [] ∧ ∀ name ∈ e.about, name ∈ d.names ∧ c.allows name) ∧
    (∀ t, ¬ c.allows t.name →
      (c.select (d.insert t) >>= emit c.options).outcome =
        (c.select d >>= emit c.options).outcome) ∧
    (c.select d >>= c.select : Logged CompileError Document).outcome =
      (c.select d : Logged CompileError Document).outcome ∧
    ∀ c' : Config, (c.select d >>= c'.select : Logged CompileError Document).outcome =
      (c'.select d >>= c.select : Logged CompileError Document).outcome := by
  have union : isIdentifier c.options.unionName := isIdentifier_of_problem? accepted
  have selected : (∃ m', (c.select d >>= emit c.options).outcome = .ok m') ↔
      WellNamed (d.names.filter c.allows) ∧
        ∀ t ∈ d.types, c.allows t.name → t.isWithin c.maxDepth := by
    simp only [outcome_select_bind, emit_outcome_eq_ok_iff, exists_and_left, exists_eq, and_true,
      Document.names_filter, Document.mem_types_filter, and_imp, union, true_and]
    rfl
  refine ⟨?_, selected, ?_, ?_, ?_, ?_⟩
  · intro m emitted
    obtain ⟨-, named, within, rfl⟩ := emit_outcome_eq_ok_iff.mp emitted
    have each : ∀ t ∈ (d.filter c.allows).types, t.isWithin c.options.maxDepth := fun t mem =>
      within t (Document.mem_types_filter.mp mem).1
    have names : WellNamed (d.filter c.allows).names := by
      rw [Document.names_filter]
      exact named.sublist List.filter_sublist
    refine ⟨by simp [Document.module, Document.names], (d.filter c.allows).module c.unionName, ?_,
      Document.names_filter d c.allows, ?_, ?_, rfl⟩
    · rw [outcome_select_bind, emit_outcome_of_isWithin union names each]
      rfl
    · simp only [Document.module, List.map_map]
      exact Document.map_declaration_filter d c.allows Declaration.text
    · have members := Union.members_ofNames c.unionName (d.filter c.allows).names
      rw [Document.names_filter] at members
      simp only [Document.module, ← members, Document.names_filter]
      rfl
  · intro e failed
    rw [outcome_select_bind] at failed
    -- What the error is about is in the part, and whatever is in the part has been selected.
    have inside {name : String} (mem : name ∈ (d.filter c.allows).names) :
        name ∈ d.names ∧ c.allows name := by
      rwa [Document.names_filter, List.mem_filter] at mem
    rcases emit_outcome_eq_error union failed with problem | ⟨t, mem, v, root, rfl⟩
    · obtain ⟨nonempty, each⟩ := mem_about_of_namingProblem? problem
      exact ⟨nonempty, fun name blamed => inside (each name blamed)⟩
    · simp only [CompileError.about, root]
      refine ⟨by simp, ?_⟩
      intro name blamed
      obtain rfl : name = t.name := by simpa using blamed
      exact inside (List.mem_map_of_mem mem)
  · intro t excluded
    rw [outcome_select_bind, outcome_select_bind,
      Document.filter_insert_of_not (by simpa using excluded)]
  · rw [outcome_select_bind, outcome_select, outcome_select, Document.filter_filter]
    simp only [Bool.and_self]
  · intro c'
    rw [outcome_select_bind, outcome_select_bind, outcome_select, outcome_select,
      Document.filter_filter, Document.filter_filter]
    simp only [Bool.and_comm]

/-- A document of which two names are the same in lower case. -/
def ordersTwice : Document := .ofTypes [⟨"Orders", []⟩, ⟨"contacts", []⟩, ⟨"orders", []⟩]

/-- A configuration that leaves out one of its types. -/
def noContacts : Config := { excluded := ["contacts"] }

theorem emit_select_modular_noContacts :
    noContacts.problem? = none ∧
    (∃ m, (emit noContacts.options ordersTwice).outcome = .ok m) ∧
    (∃ m', (noContacts.select ordersTwice >>= emit noContacts.options).outcome = .ok m' ∧
      m'.typeNames = ["Orders", "orders"] ∧ m'.union = ⟨"RecordType", ["orders"]⟩) ∧
    (¬ noContacts.allows "contacts" ∧
      (noContacts.select (ordersTwice.insert ⟨"contacts", [("a", .mk .number true)]⟩) >>=
          emit noContacts.options).outcome =
        (noContacts.select ordersTwice >>= emit noContacts.options).outcome) ∧
    (noContacts.select (ordersTwice.insert ⟨"2", []⟩) >>= emit noContacts.options).outcome =
        .error (.invalidIdentifier "2" "2") ∧
      noContacts.allows "2" := by
  have accepted : noContacts.problem? = none := by decide
  have union : isIdentifier noContacts.options.unionName := by decide
  have named : WellNamed ordersTwice.names := namingProblem?_eq_none_iff.mp (by decide)
  have emitted := emit_outcome_of_isWithin union named (by decide)
  have failed : (noContacts.select (ordersTwice.insert ⟨"2", []⟩) >>=
      emit noContacts.options).outcome = .error (.invalidIdentifier "2" "2") := by
    rw [outcome_select_bind]
    exact emit_outcome_of_namingProblem? union (by decide)
  obtain ⟨whole, -, -, insert, -⟩ := emit_select_modular accepted ordersTwice
  obtain ⟨-, m', part, names, -, members, -⟩ := whole _ emitted
  obtain ⟨-, -, blamed, -⟩ := emit_select_modular accepted (ordersTwice.insert ⟨"2", []⟩)
  refine ⟨accepted, ⟨_, emitted⟩, ⟨m', part, ?_, ?_⟩, ⟨by decide, insert _ (by decide)⟩, failed, ?_⟩
  · rw [names]
    decide
  · have lower : ((ordersTwice.names.filter noContacts.allows).map Text.lowercase).eraseDups =
        ["orders"] := by decide +kernel
    rw [members, lower]
    rfl
  · exact ((blamed _ failed).2 "2" (by simp [CompileError.about])).2

end Config

end ValidatorGen
