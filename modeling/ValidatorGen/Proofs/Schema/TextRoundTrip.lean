import ValidatorGen.Proofs.Json.Nesting
import ValidatorGen.Proofs.Schema.Streaming

/-!
# Writing and reading texts

A document that has been read from a text and is written again, in either layout, is read as the
same document: it goes no deeper than the text did, and the text was not too deep. A descriptor that
was never read may be too deep to be read once it is written; it is exactly if its description takes
more containers than may stand inside one another.

## Main results

* `Document.ofText_eq_ok_iff` — a text describes a document if it stands for a value that does
* `text_roundTrip` — what is read again once it is written
-/

namespace ValidatorGen.Schema

open Json

variable {text : String} {d : Document}

theorem Document.ofText_eq_ok_iff :
    Document.ofText text = .ok d ↔
      ∃ value, Value.ofText text = .ok value ∧ Document.ofValue value = .ok d := by
  rw [Document.ofText]
  cases Value.ofText text with
  | error e => simp
  | ok value => simp

/-- A document that was decoded is read from whatever stands for its description. -/
theorem Document.ofText_of_ofValue {value : Value} (decoded : Document.ofValue value = .ok d)
    (same : Value.ofText text = .ok d.toValue) : Document.ofText text = .ok d := by
  obtain ⟨canonical, distinct⟩ := Document.canonical_of_ofValue decoded
  rw [Document.ofText_eq_ok_iff]
  exact ⟨d.toValue, same, (Document.ofValue_toValue_eq_self_iff distinct).mpr canonical⟩

/-- A document that is read from a text is read again from either layout of its description, which
goes no deeper than the text. A descriptor is read from its description without blanks if and only
if at most 127 containers stand inside one another in it, and then as the descriptor that the value
describes. -/
theorem text_roundTrip :
    (∀ (text : String) (d : Document), Document.ofText text = .ok d →
      Document.ofText d.toValue.compact = .ok d ∧ Document.ofText d.toValue.indented = .ok d ∧
        ∃ value, Value.ofText text = .ok value ∧ d.toValue.nesting ≤ value.nesting ∧
          value.nesting ≤ 127) ∧
    ∀ d : Descriptor, d.DistinctFields →
      ((∃ d', Descriptor.ofText d.toValue.compact = .ok d') ↔ d.containers ≤ 127) ∧
      ∀ d', Descriptor.ofText d.toValue.compact = .ok d' →
        Descriptor.ofValue d.toValue = .ok d' := by
  constructor
  · intro text d read
    obtain ⟨value, parsed, decoded⟩ := Document.ofText_eq_ok_iff.mp read
    -- The text was read, so it is not too deep, and what is written again goes no deeper.
    have shallow : value.nesting ≤ 127 := Value.nesting_le_of_ofText parsed
    have noDeeper := Document.nesting_toValue_le_of_ofValue decoded
    have within : d.toValue.nesting ≤ greatestNesting := Nat.le_trans noDeeper shallow
    have plain := Document.plain_toValue (Document.canonical_of_ofValue decoded).2
    have compact := Value.ofText_compact plain within
    have indented := Value.ofText_indented plain within
    exact ⟨Document.ofText_of_ofValue decoded compact, Document.ofText_of_ofValue decoded indented,
      value, parsed, noDeeper, shallow⟩
  · intro d distinct
    have spells := spells_compact d.toValue (d.plain_toValue distinct)
    -- Only the number of containers decides whether the text is read.
    have read := Descriptor.ofText_of_spells distinct spells
    by_cases fits : d.containers ≤ 127
    · have ok := read.ok fits
      refine ⟨iff_of_true ⟨_, ok⟩ fits, fun d' same => ?_⟩
      obtain rfl := Except.ok.inj (ok.symm.trans same)
      exact ofValue_toValue d distinct
    · obtain ⟨p, failed⟩ := read.tooDeep fits
      have none (d' : Descriptor) : Descriptor.ofText d.toValue.compact ≠ .ok d' := by
        rw [failed]
        intro same
        cases same
      exact ⟨iff_of_false (fun ⟨d', same⟩ => none d' same) fits,
        fun d' same => absurd same (none d')⟩

/-- Arrays inside one another around numbers. -/
def arraysOfNumbers : Nat → Descriptor
  | 0 => .mk .number false
  | n + 1 => .mk (.array (arraysOfNumbers n)) false

theorem distinctFields_arraysOfNumbers (n : Nat) : (arraysOfNumbers n).DistinctFields := by
  induction n with
  | zero => exact trivial
  | succ n ih => exact ih

theorem containers_arraysOfNumbers (n : Nat) : (arraysOfNumbers n).containers = n + 1 := by
  induction n with
  | zero => rfl
  | succ n ih =>
    rw [arraysOfNumbers, Descriptor.containers, Kind.containers, ih]
    omega

/-- A document in which a field is described without names, and another one has a note. -/
def unnamed : Value :=
  .object [("a", .object [("fields", .object [
    ("x", .array [.string "array", .null, .bool false, .object []]),
    ("y", .object [("note", .array [.array []]), ("type", .string "string")])])])]

theorem text_roundTrip_unnamed :
    (∃ d, Document.ofText unnamed.compact = .ok d ∧ Document.ofText d.toValue.compact = .ok d ∧
      Document.ofText d.toValue.indented = .ok d ∧ d.toValue.nesting < unnamed.nesting) ∧
    (∃ d', Descriptor.ofText (arraysOfNumbers 126).toValue.compact = .ok d') ∧
    ¬∃ d', Descriptor.ofText (arraysOfNumbers 127).toValue.compact = .ok d' := by
  obtain ⟨documents, descriptors⟩ := text_roundTrip
  have fits := (descriptors (arraysOfNumbers 126) (distinctFields_arraysOfNumbers 126)).1
  have deep := (descriptors (arraysOfNumbers 127) (distinctFields_arraysOfNumbers 127)).1
  rw [containers_arraysOfNumbers] at fits deep
  refine ⟨?_, fits.mpr (by decide), fun read => absurd (deep.mp read) (by decide)⟩
  let d : Document := .ofTypes [⟨"a", [("x", .mk (.array (.mk (.unknown none) false)) false),
    ("y", .mk (.string none) false)]⟩]
  have plain : unnamed.Plain := by
    simp [unnamed, Value.Plain, MembersPlain, ItemsPlain]
  have parsed := Value.ofText_compact plain (by decide)
  have read : Document.ofText unnamed.compact = .ok d :=
    Document.ofText_eq_ok_iff.mpr ⟨unnamed, parsed, rfl⟩
  obtain ⟨compact, indented, -⟩ := documents _ d read
  exact ⟨d, read, compact, indented, by decide⟩

end ValidatorGen.Schema
