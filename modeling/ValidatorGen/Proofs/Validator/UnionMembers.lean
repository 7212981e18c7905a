import Mathlib.Data.List.Nodup
import ValidatorGen.Proofs.Ordered
import ValidatorGen.Proofs.Text.Lowercase
import ValidatorGen.Proofs.Validator.Unambiguous

/-!
# The members of a union

The module of a document ends with the union of its names in lower case. Read back, the union has
each of them once, in the order in which they first come, and nothing else. A name is put into lower
case as it stands, with its white space and hyphens, so its literal is not the identifier of its
declaration.

## Main results

* `Module.text_eq_append_union` — a module ends with its union
* `readLiterals_body` — the members are read back from the literals
* `union_complete` — what the union of an emitted module says
-/

namespace ValidatorGen.Validator

open Naming Schema Text

/-- A module ends with its union. -/
theorem Module.text_eq_append_union (m : Module) :
    m.text = "\n".intercalate (importText :: m.declarations.map Declaration.text) ++ "\n" ++
      m.union.text := by
  rw [Module.text, Module.blocks,
    String.intercalate_append_of_ne_nil (List.cons_ne_nil _ _) (List.cons_ne_nil _ _),
    String.intercalate_singleton]

/-- The members of a union, of which there is at least one, are read back from its literals. -/
theorem readLiterals_body {u : Union} (nonempty : u.members ≠ []) :
    readLiterals (u.body.toList.length + 1) u.body.toList = some (u.members, []) := by
  have body : u.body = " | ".intercalate (u.members.map Json.quoted) :=
    if_neg (by simpa using nonempty)
  rw [body]
  have nothing : ([] : List Char).head? ≠ some ' ' := by simp
  have read := readLiterals_intercalate nonempty nothing (Nat.lt_succ_self _)
  rwa [List.append_nil] at read

/-- A union has no members iff it is written as the type without values. -/
theorem Union.body_eq_never_iff (u : Union) : u.body = "never" ↔ u.members = [] := by
  constructor
  · intro never
    by_contra nonempty
    -- The word does not begin with a quote, so it is not read as literals.
    have read := readLiterals_body nonempty
    have word : readLiterals ("never".toList.length + 1) "never".toList = none := rfl
    rw [never, word] at read
    cases read
  · intro empty
    exact if_pos (by simp [empty])

theorem members_ofNames_eq_nil_iff {name : String} {names : List String} :
    (Union.ofNames name names).members = [] ↔ names = [] := by
  simp only [List.eq_nil_iff_forall_not_mem, Union.ofNames, Ordered.mem_collect_id, List.mem_map,
    not_exists, not_and]
  constructor
  · intro none name mem
    exact none _ name mem rfl
  · intro none _ name mem
    exact absurd mem (none name)

/-- There are as many members as names iff no two names are the same in lower case. -/
theorem length_members_ofNames_eq_iff {name : String} {names : List String} (h : names.Nodup) :
    (Union.ofNames name names).members.length = names.length ↔
      ∀ first ∈ names, ∀ second ∈ names, lowercase first = lowercase second → first = second := by
  have length : (names.map lowercase).length = names.length := List.length_map ..
  rw [Union.ofNames, ← length, Ordered.length_collect_eq_iff]
  constructor
  · intro distinct first mem second mem' same
    exact List.inj_on_of_nodup_map distinct mem mem' same
  · intro apart
    exact h.map_on fun first mem second mem' => apart first mem second mem'

/-- The module of a document ends with the union of its names in lower case. The union is written as
the type without values iff there are no types. Otherwise its literals are those names and nothing
else, each once and in the order in which they first come; there are as many as declarations iff no
two names are the same in lower case. White space and hyphens stay in them as they are, so the
literal of a name that has any is not the identifier of a declaration. -/
theorem union_complete {o : Options} {d : Document} {m : Module}
    (h : (emit o d).outcome = .ok m) :
    ∃ body literals,
      m.text = "\n".intercalate (importText :: m.declarations.map Declaration.text) ++ "\n" ++
        ("export type " ++ o.unionName ++ " = " ++ body ++ ";\n") ∧
      m.declarations.map Declaration.identifier = d.names.map safeIdentifier ∧
      (body = "never" ↔ d.types = []) ∧
      (d.types ≠ [] →
        readLiterals (body.toList.length + 1) body.toList = some (literals, [])) ∧
      literals.Nodup ∧
      (∀ literal, literal ∈ literals ↔ ∃ name ∈ d.names, lowercase name = literal) ∧
      literals.Pairwise (fun first second =>
        (d.names.map lowercase).idxOf first < (d.names.map lowercase).idxOf second) ∧
      (literals.length = m.declarations.length ↔
        ∀ first ∈ d.names, ∀ second ∈ d.names, lowercase first = lowercase second →
          first = second) ∧
      ∀ name ∈ d.names,
        (lowercase name).toList.filter isSeparator = name.toList.filter isSeparator ∧
        ((∃ c ∈ name.toList, isSeparator c) → ∀ declaration ∈ m.declarations,
          lowercase name ≠ declaration.identifier) := by
  obtain ⟨-, -, -, rfl⟩ := emit_outcome_eq_ok_iff.mp h
  have noTypes : d.types = [] ↔ (Union.ofNames o.unionName d.names).members = [] := by
    rw [members_ofNames_eq_nil_iff, Document.names, List.map_eq_nil_iff]
  have identifiers : (d.module o.unionName).declarations.map Declaration.identifier =
      d.names.map safeIdentifier := by
    simp only [Document.module, Document.names, List.map_map]
    rfl
  have length : (d.module o.unionName).declarations.length = d.names.length := by
    rw [← List.length_map Declaration.identifier, identifiers, List.length_map]
  refine ⟨(Union.ofNames o.unionName d.names).body, (Union.ofNames o.unionName d.names).members,
    Module.text_eq_append_union _, identifiers, ?_, ?_, ?_, ?_, ?_, ?_, ?_⟩
  · rw [Union.body_eq_never_iff, noTypes]
  · intro types
    exact readLiterals_body (mt noTypes.mpr types)
  · have distinct : ((Ordered.collect id (d.names.map lowercase)).map id).Nodup :=
      Ordered.nodup_collect _
    rwa [List.map_id] at distinct
  · intro literal
    rw [Union.ofNames, Ordered.mem_collect_id, List.mem_map]
  · exact Ordered.pairwise_idxOf_collect _
  · have distinct : d.names.Nodup := d.distinct
    rw [length, length_members_ofNames_eq_iff distinct]
  · intro name _
    refine ⟨filter_isSeparator_lowercase name, ?_⟩
    intro separator declaration mem
    have known : declaration.identifier ∈ d.names.map safeIdentifier :=
      identifiers ▸ List.mem_map_of_mem mem
    obtain ⟨other, -, same⟩ := List.mem_map.mp known
    rw [← same]
    exact lowercase_ne_safeIdentifier separator other

/-- A document of which two names are the same in lower case, and one has a hyphen. -/
def ordersAndGroups : Document :=
  .ofTypes [⟨"Orders", []⟩, ⟨"Contact-Groups", []⟩, ⟨"orders", []⟩]

theorem union_complete_ordersAndGroups :
    (emit ⟨1, "Record"⟩ ordersAndGroups).outcome = .ok (ordersAndGroups.module "Record") ∧
    ∃ body literals,
      body ≠ "never" ∧
      readLiterals (body.toList.length + 1) body.toList = some (literals, []) ∧
      "contact-groups" ∈ literals ∧ "Orders" ∉ literals ∧
      literals.length ≠ (ordersAndGroups.module "Record").declarations.length := by
  have emitted : (emit ⟨1, "Record"⟩ ordersAndGroups).outcome =
      .ok (ordersAndGroups.module "Record") :=
    emit_outcome_of_isWithin (by decide) (namingProblem?_eq_none_iff.mp (by decide)) (by decide)
  have lower : ordersAndGroups.names.map lowercase = ["orders", "contact-groups", "orders"] := by
    decide +kernel
  obtain ⟨body, literals, -, -, never, read, -, members, -, length, -⟩ := union_complete emitted
  refine ⟨emitted, body, literals, mt never.mp (by decide), read (by decide), ?_, ?_, ?_⟩
  · rw [members, ← List.mem_map, lower]
    decide
  · rw [members, ← List.mem_map, lower]
    decide
  · intro all
    have same : lowercase "Orders" = lowercase "orders" := by decide +kernel
    exact absurd (length.mp all "Orders" (by decide) "orders" (by decide) same) (by decide)

end ValidatorGen.Validator
