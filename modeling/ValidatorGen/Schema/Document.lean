import ValidatorGen.Schema.Descriptor

/-!
# Schema documents

A schema document is a collection of object types with distinct names, in order.

## Main definitions

* `Document` — object types with distinct names
* `Document.insert` — replace the type of the same name where it stands, or add the type at the end
* `Document.get?` — the type of a given name
* `Document.filter` — the types whose names are accepted
* `Document.ofTypes` — types inserted one after the other
-/

namespace ValidatorGen.Schema

/-- Object types with distinct names, in order. -/
structure Document where
  /-- The object types. -/
  types : List ObjectType
  /-- No two of them have one name. -/
  distinct : (types.map ObjectType.name).Nodup

namespace Document

/-- The document without object types. -/
def empty : Document := ⟨[], by simp⟩

/-- The names of the object types, in order. -/
def names (d : Document) : List String := d.types.map ObjectType.name

/-- Replaces the type of the same name where it stands, or adds the type at the end. -/
def insert (d : Document) (t : ObjectType) : Document :=
  ⟨Ordered.put ObjectType.name t d.types, Ordered.nodup_put t d.distinct⟩

/-- The type with the given name. -/
def get? (d : Document) (name : String) : Option ObjectType :=
  Ordered.get? ObjectType.name name d.types

/-- Whether there is a type with the given name. -/
def contains (d : Document) (name : String) : Bool := (d.get? name).isSome

/-- The types whose names are accepted, in order. -/
def filter (d : Document) (keep : String → Bool) : Document :=
  ⟨d.types.filter fun t => keep t.name,
    d.distinct.sublist (List.filter_sublist.map _)⟩

/-- Types inserted one after the other into the empty document. -/
def ofTypes (types : List ObjectType) : Document :=
  ⟨Ordered.collect ObjectType.name types, Ordered.nodup_collect types⟩

end Document

end ValidatorGen.Schema
