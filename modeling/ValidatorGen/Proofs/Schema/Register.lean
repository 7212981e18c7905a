import ValidatorGen.Proofs.Ordered
import ValidatorGen.Proofs.Selection

/-!
# Documents over whole runs

A register holds object types under keys: an entry is a key with a type, and a type has a name of
its own as well. A document is a register in which every type is entered under its own name, and it
stays one through any edits. So its types can be told by their names alone.

## Main definitions

* `Register` — object types under keys, in order
* `Register.enter` — replace what stands under a key, or add an entry at the end
* `Edit`, `Document.edit`, `Register.edit` — the ways to change a document, and a register
* `Document.after`, `Register.after` — what any edits make of the empty document and register

## Main results

* `Register.edit_entries` — one edit keeps the types under their own names
* `Document.entries_after` — so do any edits
* `documents_as_registers` — what is in a document after any edits, and what one more does to it
-/

namespace ValidatorGen.Schema

/-- Object types under keys, in order. -/
abbrev Register := List (String × ObjectType)

namespace Register

/-- Replaces what stands under a key and gives it back, or adds an entry at the end. -/
def enter (key : String) (t : ObjectType) : Register → Option ObjectType × Register
  | [] => (none, [(key, t)])
  | entry :: entries =>
    if entry.1 = key then (some entry.2, (entry.1, t) :: entries)
    else ((enter key t entries).1, entry :: (enter key t entries).2)

/-- The type under a key. -/
def find? (key : String) (r : Register) : Option ObjectType := Ordered.value? key r

/-- Types entered under their names one after the other, starting from nothing. -/
def ofTypes (types : List ObjectType) : Register :=
  types.foldl (fun r t => (enter t.name t r).2) []

/-- The types whose names are accepted, entered once more. -/
def filter (keep : String → Bool) (r : Register) : Register :=
  ofTypes ((r.map Prod.snd).filter fun t => keep t.name)

end Register

/-- A way to change a document. -/
inductive Edit where
  /-- Inserting a type. -/
  | insert (t : ObjectType)
  /-- Keeping the types whose names are accepted. -/
  | filter (keep : String → Bool)
  /-- Keeping what a configuration selects. -/
  | select (c : Config)
  /-- Collecting types anew. -/
  | collect (types : List ObjectType)

/-- The document after an edit. -/
def Document.edit (d : Document) : Edit → Document
  | .insert t => d.insert t
  | .filter keep => d.filter keep
  | .select c => d.filter c.allows
  | .collect types => .ofTypes types

/-- The register after an edit. -/
def Register.edit (r : Register) : Edit → Register
  | .insert t => (r.enter t.name t).2
  | .filter keep => r.filter keep
  | .select c => r.filter c.allows
  | .collect types => .ofTypes types

/-- What edits make of the empty document. -/
def Document.after (edits : List Edit) : Document := edits.foldl Document.edit .empty

/-- What edits make of the empty register. -/
def Register.after (edits : List Edit) : Register := edits.foldl Register.edit []

/-- The types of a document under their names. -/
def Document.entries (d : Document) : Register := d.types.map fun t => (t.name, t)

variable {d : Document}

/-! ### One edit -/

theorem Register.enter_map (t : ObjectType) (types : List ObjectType) :
    Register.enter t.name t (types.map fun t => (t.name, t)) =
      (Ordered.get? ObjectType.name t.name types,
        (Ordered.put ObjectType.name t types).map fun t => (t.name, t)) := by
  induction types with
  | nil => rfl
  | cons u types ih =>
    rw [List.map_cons, enter, Ordered.put, Ordered.get?, List.find?_cons]
    by_cases same : u.name = t.name
    · simp [same]
    · rw [Ordered.get?] at ih
      simp [same, ih]

/-- A type is entered as it is inserted. -/
theorem Register.enter_entries (d : Document) (t : ObjectType) :
    Register.enter t.name t d.entries = (d.get? t.name, (d.insert t).entries) :=
  Register.enter_map t d.types

theorem Register.ofTypes_eq (types : List ObjectType) :
    Register.ofTypes types = (Document.ofTypes types).entries := by
  have each (into : List ObjectType) :
      types.foldl (fun r t => (enter t.name t r).2) (into.map fun t => (t.name, t)) =
        (types.foldl (fun collected t => Ordered.put ObjectType.name t collected) into).map
          fun t => (t.name, t) := by
    induction types generalizing into with
    | nil => rfl
    | cons t types ih => rw [List.foldl_cons, enter_map, ih, List.foldl_cons]
  exact each []

theorem Register.filter_entries (d : Document) (keep : String → Bool) :
    Register.filter keep d.entries = (d.filter keep).entries := by
  have types : d.entries.map Prod.snd = d.types := by
    rw [Document.entries, List.map_map]
    exact List.map_id _
  rw [filter, types, ofTypes_eq]
  exact congrArg Document.entries (Document.ext (Document.types_ofTypes (d.filter keep).distinct))

/-- One edit keeps the types under their own names. -/
theorem Register.edit_entries (d : Document) (e : Edit) :
    d.entries.edit e = (d.edit e).entries := by
  cases e with
  | insert t => exact congrArg Prod.snd (enter_entries d t)
  | filter keep => exact filter_entries d keep
  | select c => exact filter_entries d c.allows
  | collect types => exact ofTypes_eq types

/-! ### Any edits -/

theorem Document.entries_foldl (edits : List Edit) (d : Document) :
    edits.foldl Register.edit d.entries = (edits.foldl Document.edit d).entries := by
  induction edits generalizing d with
  | nil => rfl
  | cons e edits ih => rw [List.foldl_cons, Register.edit_entries, ih, List.foldl_cons]

/-- Any edits keep the types under their own names. -/
theorem Document.entries_after (edits : List Edit) :
    Register.after edits = (Document.after edits).entries :=
  entries_foldl edits .empty

theorem Document.get?_eq_some_iff {name : String} {t : ObjectType} :
    d.get? name = some t ↔ t ∈ d.types ∧ t.name = name := by
  constructor
  · intro found
    exact ⟨List.mem_of_find?_eq_some found, Ordered.key_of_get? found⟩
  · rintro ⟨mem, rfl⟩
    exact Ordered.get?_of_mem d.distinct mem

theorem Document.contains_iff {name : String} : d.contains name ↔ name ∈ d.names := by
  simp only [contains, Option.isSome_iff_exists, get?_eq_some_iff, names, List.mem_map]

theorem Document.find?_entries (d : Document) (name : String) :
    Register.find? name d.entries = d.get? name := by
  obtain ⟨types, distinct⟩ := d
  change Ordered.value? name (types.map fun t => (t.name, t)) = Ordered.get? _ name types
  clear distinct
  induction types with
  | nil => rfl
  | cons t types ih =>
    rw [List.map_cons, Ordered.value?_cons, ih, Ordered.get?, Ordered.get?, List.find?_cons]
    by_cases here : t.name = name <;> simp [here]

/-- A type of a known name takes the place of the one before, and any other comes last. -/
theorem Document.types_insert (d : Document) (t : ObjectType) :
    (d.insert t).types =
      if d.contains t.name then d.types.map fun u => if u.name = t.name then t else u
      else d.types ++ [t] := by
  split
  · rename_i known
    exact Ordered.put_of_mem d.distinct (contains_iff.mp known)
  · rename_i fresh
    exact Ordered.put_of_not_mem fun mem => fresh (contains_iff.mpr mem)

theorem Document.names_insert (d : Document) (t : ObjectType) :
    (d.insert t).names = if d.contains t.name then d.names else d.names ++ [t.name] := by
  simp only [contains_iff]
  exact Ordered.map_key_put t d.types

theorem Document.filter_insert (d : Document) (keep : String → Bool) (t : ObjectType) :
    (d.insert t).filter keep =
      if keep t.name then (d.filter keep).insert t else d.filter keep := by
  split
  · rename_i kept
    exact Document.ext (Ordered.filter_put kept d.types)
  · rename_i left
    exact filter_insert_of_not (by simpa using left) d

/-- After any edits a document holds what a register holds that has gone through the same edits,
and every type stands there under its own name. The names are distinct, and a type is found under a
name iff it is there and has that name. Inserting a type gives back the type of its name, whose
place it takes while all else stays as it is; if there is none, it comes last. Leaving out types
keeps the others as they are, and it makes no difference whether a type whose name is accepted is
inserted before or after. Types that are collected come in the order in which their names first
come, each as it came last. -/
theorem documents_as_registers (edits : List Edit) :
    Register.after edits = (Document.after edits).entries ∧
    (∀ entry ∈ Register.after edits, entry.1 = entry.2.name) ∧
    ((Register.after edits).map Prod.fst).Nodup ∧
    (Register.after edits).map Prod.fst = (Document.after edits).names ∧
    (∀ name, Register.find? name (Register.after edits) = (Document.after edits).get? name) ∧
    (∀ name t, (Document.after edits).get? name = some t ↔
      t ∈ (Document.after edits).types ∧ t.name = name) ∧
    (∀ t, Register.enter t.name t (Register.after edits) =
      ((Document.after edits).get? t.name, ((Document.after edits).insert t).entries)) ∧
    (∀ t, ((Document.after edits).insert t).types =
      if (Document.after edits).contains t.name then
        (Document.after edits).types.map fun u => if u.name = t.name then t else u
      else (Document.after edits).types ++ [t]) ∧
    (∀ t, ((Document.after edits).insert t).names =
      if (Document.after edits).contains t.name then (Document.after edits).names
      else (Document.after edits).names ++ [t.name]) ∧
    (∀ keep, Register.filter keep (Register.after edits) =
      List.filter (fun entry => keep entry.1) (Register.after edits)) ∧
    (∀ (ε : Type) (c : Config), (c.select (Document.after edits) : Logged ε Document).outcome =
      .ok ((Document.after edits).edit (.select c))) ∧
    (∀ keep t, ((Document.after edits).insert t).filter keep =
      if keep t.name then ((Document.after edits).filter keep).insert t
      else (Document.after edits).filter keep) ∧
    ∀ types, (Document.ofTypes types).names = (types.map ObjectType.name).eraseDups ∧
      ∀ name, (Document.ofTypes types).get? name = types.reverse.find? (·.name = name) := by
  have same := Document.entries_after edits
  have distinct := (Document.after edits).distinct
  generalize Register.after edits = r at same ⊢
  generalize Document.after edits = d at same distinct ⊢
  subst same
  have keys : d.entries.map Prod.fst = d.names := List.map_map
  refine ⟨rfl, ?_, keys ▸ distinct, keys, d.find?_entries, fun _ _ => Document.get?_eq_some_iff,
    Register.enter_entries d, d.types_insert, d.names_insert, ?_, ?_, d.filter_insert, ?_⟩
  · intro entry mem
    obtain ⟨t, -, rfl⟩ := List.mem_map.mp mem
    rfl
  · intro keep
    rw [Register.filter_entries, Document.entries, Document.entries, List.filter_map]
    rfl
  · exact fun _ c => c.outcome_select d
  · exact fun types => ⟨Ordered.map_key_collect types, fun name => Ordered.get?_collect name types⟩

/-- Orders and contacts, and then orders with a field. -/
def ordersReplaced : List Edit :=
  [.insert ⟨"orders", []⟩, .insert ⟨"contacts", []⟩,
    .insert ⟨"orders", [("id", .mk (.string none) false)]⟩]

/-- The orders that come later stand where those before have stood. -/
theorem documents_as_registers_ordersReplaced :
    (∀ entry ∈ Register.after ordersReplaced, entry.1 = entry.2.name) ∧
    (Document.after ordersReplaced).names = ["orders", "contacts"] ∧
    (Document.after ordersReplaced).get? "orders" =
      some ⟨"orders", [("id", .mk (.string none) false)]⟩ := by
  obtain ⟨-, named, -, keys, -, found, -⟩ := documents_as_registers ordersReplaced
  refine ⟨named, keys ▸ by decide, (found _ _).mpr ⟨by decide, rfl⟩⟩

end ValidatorGen.Schema
