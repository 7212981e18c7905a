import ValidatorGen.Proofs.Validator.Surroundings

/-!
# Fields that may be missing

The validator of a field that may be missing is that of the field when it is always there, followed
by one call. Nothing else makes a validator end in that call: an array and an object end in a
bracket of their own, whatever the descriptors inside them say.

## Main results

* `Kind.not_suffix_text` — the validator of a kind does not end in the call
* `Surroundings.suffix_text_fill_iff` — what is inside does not matter for how a validator ends
* `resolve_optionality` — whether a field may be missing is said at the end, once, and nowhere else
-/

namespace ValidatorGen.Schema

open Naming Validator

/-- The call that makes a validator accept that there is nothing, as it is written. -/
def optionalCall : List Char := ".optional()".toList

/-- A text that ends in the call has its opening bracket before the closing one. -/
theorem not_suffix_of_bracket {c : Char} (h : c ≠ '(') (text : List Char) :
    ¬ optionalCall <:+ text ++ [c, ')'] := by
  rintro ⟨front, same⟩
  have call : optionalCall = ".optional".toList ++ ['(', ')'] := rfl
  rw [call, ← List.append_assoc] at same
  obtain ⟨-, brackets⟩ := List.append_inj' same rfl
  exact h (List.cons.inj brackets).1.symm

/-- The validator of a kind does not end in the call. -/
theorem Kind.not_suffix_text (kind : Kind) :
    ¬ optionalCall <:+ kind.validator.text.toList := by
  cases kind with
  | string format =>
    have either : (Kind.string format).validator = .dateTime ∨
        (Kind.string format).validator = .string := by
      rcases format with _ | _ | _
      · exact .inr rfl
      · exact .inl rfl
      · exact .inr rfl
    rcases either with text | text <;> rw [text] <;> decide
  | number | boolean | untypedArray | openObject => decide
  | unknown tag =>
    change ¬ optionalCall <:+ "z.unknown()".toList
    decide
  | array item =>
    -- Before the bracket of the array stands the bracket that ends the validator of its items.
    obtain ⟨front, text⟩ := item.validator.exists_toList_text_eq_concat
    have brackets : (Kind.array item).validator.text.toList =
        "z.array(".toList ++ front ++ [')', ')'] := by
      rw [validator, Expr.text_array, String.toList_append, String.toList_append, text,
        List.append_assoc, List.append_assoc, List.append_assoc]
      rfl
    rw [brackets]
    exact not_suffix_of_bracket (by decide) _
  | object fields =>
    cases fields with
    | nil => decide
    | cons field fields =>
      have close : "\n\x7d)".toList = ['\n'] ++ ['\x7d', ')'] := rfl
      rw [validator, fieldValidators, Expr.text_object_cons, String.toList_append, close,
        ← List.append_assoc]
      exact not_suffix_of_bracket (by decide) _

/-- A validator ends in the call iff the descriptor may be missing. -/
theorem Descriptor.suffix_text_iff (d : Descriptor) :
    optionalCall <:+ d.validator.text.toList ↔ d.required = false := by
  obtain ⟨kind, required⟩ := d
  rw [text_validator, String.toList_append]
  cases required with
  | true =>
    have same : kind.validator.text.toList ++ (optionalMark true).toList =
        kind.validator.text.toList := List.append_nil _
    rw [same]
    exact iff_of_false kind.not_suffix_text (by simp [Descriptor.required])
  | false => exact iff_of_true ⟨_, rfl⟩ rfl

/-- What is inside does not matter for how a validator ends. -/
theorem Surroundings.suffix_text_fill_iff {frame : Frame} {required : Bool}
    (frames : Surroundings) (d : Descriptor) :
    optionalCall <:+ (Surroundings.fill d ((frame, required) :: frames)).validator.text.toList ↔
      required = false :=
  Descriptor.suffix_text_iff _

end ValidatorGen.Schema

namespace ValidatorGen.Validator

open Schema

/-- Whether a field may be missing is said at the end of its validator, once, and nowhere else. If a
descriptor is resolved, so it is with the other choice, to the same text but for one call at the
end; the text ends in the call iff the descriptor may be missing. The same choice for a descriptor
inside it is said where that descriptor stands, and what is before it, what is after it and the end
of the whole stay as they are. -/
theorem resolve_optionality {limit : Nat} {d : Descriptor} {hint : String} {e : Expr}
    (resolved : (resolve limit d hint).outcome = .ok e) :
    (optionalCall <:+ e.text.toList ↔ d.required = false) ∧
    (∃ always sometimes, (resolve limit (.mk d.kind true) hint).outcome = .ok always ∧
      (resolve limit (.mk d.kind false) hint).outcome = .ok sometimes ∧
      sometimes.text = always.text ++ ".optional()" ∧
      ¬ optionalCall <:+ always.text.toList) ∧
    ∀ (frame : Frame) (frames : Surroundings) (kind : Kind) (inner required : Bool),
      d = Surroundings.fill (.mk kind inner) ((frame, required) :: frames) →
        ∃ before after, ∀ inner', ∃ e',
          (resolve limit (Surroundings.fill (.mk kind inner') ((frame, required) :: frames))
            hint).outcome = .ok e' ∧
          e'.text = before ++ (kind.validator.text ++ optionalMark inner') ++ after ∧
          (optionalCall <:+ e'.text.toList ↔ required = false) := by
  obtain ⟨within, rfl⟩ := resolve_outcome_eq_ok_iff.mp resolved
  refine ⟨d.suffix_text_iff, ?_, ?_⟩
  · obtain ⟨kind, required⟩ := d
    exact ⟨_, _, resolve_outcome_eq_ok_iff.mpr ⟨within, rfl⟩,
      resolve_outcome_eq_ok_iff.mpr ⟨within, rfl⟩, rfl, kind.not_suffix_text⟩
  · rintro frame frames kind inner required rfl
    refine ⟨Surroundings.opening ((frame, required) :: frames),
      Surroundings.closing ((frame, required) :: frames), fun inner' => ?_⟩
    have same : (Descriptor.mk kind inner').nesting = (Descriptor.mk kind inner).nesting := rfl
    have nesting : (Surroundings.fill (.mk kind inner') ((frame, required) :: frames)).nesting =
        (Surroundings.fill (.mk kind inner) ((frame, required) :: frames)).nesting :=
      Surroundings.nesting_fill_congr same _
    refine ⟨_, resolve_outcome_eq_ok_iff.mpr ⟨nesting ▸ within, rfl⟩, ?_,
      Surroundings.suffix_text_fill_iff frames _⟩
    rw [Surroundings.text_fill, Descriptor.text_validator]

/-- A list of notes with texts that may be missing. -/
def noteTexts : Surroundings := [(.items, true), (.field [] "text" [], true)]

/-- The list ends in brackets of its own, though the field that comes last may be missing. -/
theorem resolve_optionality_noteTexts :
    ∃ e, (resolve 3 (noteTexts.fill (.mk (.string none) false)) "notes").outcome = .ok e ∧
      e.text = "z.array(z.object(\x7b\n  text: z.string().optional()\n\x7d))" ∧
      ¬ optionalCall <:+ e.text.toList ∧
      ∃ e', (resolve 3 (noteTexts.fill (.mk (.string none) true)) "notes").outcome = .ok e' ∧
        ¬ optionalCall <:+ e'.text.toList := by
  have resolved : (resolve 3 (noteTexts.fill (.mk (.string none) false)) "notes").outcome =
    .ok _ := rfl
  obtain ⟨ends, -, inside⟩ := resolve_optionality resolved
  obtain ⟨_, _, each⟩ := inside .items [(.field [] "text" [], true)] (.string none) false true rfl
  obtain ⟨e', resolved', -, ends'⟩ := each true
  exact ⟨_, resolved, by decide +kernel, mt ends.mp (by decide), e', resolved',
    mt ends'.mp (by decide)⟩

end ValidatorGen.Validator
