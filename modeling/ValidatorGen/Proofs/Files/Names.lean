import ValidatorGen.Proofs.Files.Tree

/-!
# The parts of names

A name with an extension is put together from its stem, a dot and the extension. The path of an
entry of a directory ends in its name.

## Main results

* `stem_append_extension` — a name is its stem, a dot and its extension
* `fileName?_entry` — the last component of the path of an entry is its name
-/

namespace ValidatorGen.Files

variable {name extension : Name}

theorem append_of_splitName? {before after : Name} (h : splitName? name = some (before, after)) :
    before ++ dot :: after = name := by
  rw [splitName?] at h
  generalize ending : name.reverse.takeWhile (· ≠ dot) = taken at h
  split at h
  · cases h
  · rename_i proper
    cases h
    rw [not_or, not_or] at proper
    obtain ⟨-, shorter, -⟩ := proper
    have split := List.takeWhile_append_dropWhile (p := (· ≠ dot)) (l := name.reverse)
    rw [ending] at split
    -- What is taken from the end stops at a dot, since it is not the whole name.
    obtain ⟨rest, stops⟩ : ∃ rest, name.reverse.dropWhile (· ≠ dot) = dot :: rest := by
      cases left : name.reverse.dropWhile (· ≠ dot) with
      | nil =>
        rw [left, List.append_nil] at split
        exact absurd (by rw [split, List.length_reverse]) shorter
      | cons b rest =>
        have stop := List.head?_dropWhile_not (· ≠ dot) name.reverse
        rw [left] at stop
        exact ⟨rest, by simpa using stop⟩
    rw [stops] at split
    have whole : name = rest.reverse ++ dot :: taken.reverse := by
      rw [← List.reverse_reverse name, ← split]
      simp
    rw [← split]
    simp [whole]

/-- A name is its stem, a dot and its extension. -/
theorem stem_append_extension (h : extension? name = some extension) :
    stem name ++ dot :: extension = name := by
  obtain ⟨⟨before, after⟩, split, rfl⟩ := Option.map_eq_some_iff.mp h
  rw [stem, split]
  exact append_of_splitName? split

/-- The last component of the path of an entry is its name. -/
theorem fileName?_entry (path : Path) (isName : IsName name) (proper : slash ∉ name) :
    (path.entry name).fileName? = some name := by
  have ends (before : List (List UInt8)) :
      (((before ++ [name]).filter Path.isComponent).getLast?).filter (· ≠ above) = some name := by
    have component : Path.isComponent name := by
      simp [Path.isComponent, isName.1, isName.2.1]
    rw [List.filter_append, List.filter_cons_of_pos component, List.filter_nil,
      List.getLast?_concat]
    simp [isName.2.2]
  rw [Path.fileName?, Path.components, Path.entry]
  split
  · rename_i last
    rcases last with empty | slashed
    · rw [List.isEmpty_iff.mp empty, List.nil_append, pieces_of_slash_not_mem proper]
      exact ends []
    · obtain ⟨before, split⟩ := List.getLast?_eq_some_iff.mp slashed
      rw [split]
      dsimp only
      rw [List.append_assoc, List.singleton_append, pieces_append_slash,
        pieces_of_slash_not_mem proper]
      exact ends _
  · dsimp only
    rw [pieces_append_slash, pieces_of_slash_not_mem proper]
    exact ends _

end ValidatorGen.Files
