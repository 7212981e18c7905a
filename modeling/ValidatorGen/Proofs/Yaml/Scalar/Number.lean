import ValidatorGen.Proofs.Yaml.Scalar.Plain
import ValidatorGen.Yaml.Scalar.Meaning

/-!
# Numbers are read as they are written

A number is written in decimal digits without a zero in front, so its digits are read as that number
and not as a text, and they can stand without quotes.

## Main results

* `unsigned?_toDigits` — a number is read back from its digits
* `allowsPlain_toDigits` — its digits can be written without quotes
-/

namespace ValidatorGen.Yaml

variable {c : Char} {cs : List Char}

theorem isDigit_toDigits {n : Nat} (mem : c ∈ Nat.toDigits 10 n) : c.isDigit :=
  Nat.isDigit_of_mem_toDigits (by decide) (by decide) mem

/-- Only the digits of zero begin with a zero. -/
theorem head?_toDigits {n : Nat} (pos : 0 < n) : (Nat.toDigits 10 n).head? ≠ some '0' := by
  induction n using Nat.strongRecOn with
  | ind n ih =>
    rw [Nat.toDigits_eq_if (by decide)]
    split
    · simp
      omega
    · have before := ih (n / 10) (by omega) (by omega)
      obtain ⟨d, ds, digits⟩ := List.exists_cons_of_ne_nil (Nat.toDigits_ne_nil (n := n / 10))
      rw [digits] at before ⊢
      simpa using before

theorem toNat_of_isDigit (h : c.isDigit) : 48 ≤ c.toNat ∧ c.toNat ≤ 57 := by
  simp only [Char.isDigit, Bool.and_eq_true, decide_eq_true_eq] at h
  exact ⟨UInt32.le_iff_toNat_le.mp h.1, UInt32.le_iff_toNat_le.mp h.2⟩

theorem hexValue?_of_isDigit (h : c.isDigit) :
    (Text.hexValue? c).filter (· < 10) = some (c.toNat - '0'.toNat) := by
  have upper := (toNat_of_isDigit h).2
  have within : '0' ≤ c ∧ c ≤ '9' := by
    simp only [Char.isDigit, Bool.and_eq_true, decide_eq_true_eq] at h
    exact h
  rw [Text.hexValue?, if_pos within, Option.filter_some, if_pos (by simp; omega)]
  rfl

/-- Digits stand for the number that they are the digits of. -/
theorem natural?_of_isDigit (nonempty : cs ≠ []) (digits : ∀ c ∈ cs, c.isDigit) :
    natural? 10 cs = some (Nat.ofDigitChars 10 cs 0) := by
  have each (cs : List Char) (digits : ∀ c ∈ cs, c.isDigit) (n : Nat) :
      cs.foldlM (fun n c => ((Text.hexValue? c).filter (· < 10)).map (n * 10 + ·)) n =
        some (Nat.ofDigitChars 10 cs n) := by
    induction cs generalizing n with
    | nil => rfl
    | cons c cs ih =>
      rw [List.foldlM_cons, hexValue?_of_isDigit (digits c List.mem_cons_self),
        Nat.ofDigitChars_cons, Nat.mul_comm 10]
      exact ih (fun d mem => digits d (List.mem_cons_of_mem c mem)) _
  rw [natural?, if_neg (by simpa using nonempty), each cs digits]

theorem hasLeadingZero_toDigits (n : Nat) : hasLeadingZero (Nat.toDigits 10 n) = false := by
  have noSign : withoutSign (Nat.toDigits 10 n) = Nat.toDigits 10 n := by
    rw [withoutSign.eq_def]
    split
    · rename_i sign
      exact absurd (isDigit_toDigits (sign ▸ List.mem_cons_self)) (by decide)
    · rename_i sign
      exact absurd (isDigit_toDigits (sign ▸ List.mem_cons_self)) (by decide)
    · rfl
  rw [hasLeadingZero, noSign]
  split
  · rename_i zero
    cases n with
    | zero => cases zero
    | succ n => exact absurd (congrArg List.head? zero) (head?_toDigits (Nat.succ_pos n))
  · rfl

/-- A number is read back from its digits. -/
theorem unsigned?_toDigits {bound n : Nat} (h : n < bound) :
    unsigned? bound (Nat.toDigits 10 n) = some n := by
  have noPlus : withoutPlus (Nat.toDigits 10 n) = Nat.toDigits 10 n := by
    rw [withoutPlus.eq_def]
    split
    · rename_i plus
      exact absurd (isDigit_toDigits (plus ▸ List.mem_cons_self)) (by decide)
    · rfl
  have letter {d : Char} {ds : List Char} (digits : Nat.toDigits 10 n = '0' :: d :: ds) :
      d.isDigit := isDigit_toDigits (digits ▸ List.mem_cons_of_mem _ List.mem_cons_self)
  have magnitude : magnitude? (Nat.toDigits 10 n) = some n := by
    rw [magnitude?.eq_def]
    split
    · rename_i digits
      exact absurd (letter digits) (by decide)
    · rename_i digits
      exact absurd (letter digits) (by decide)
    · rename_i digits
      exact absurd (letter digits) (by decide)
    · rw [hasLeadingZero_toDigits, if_neg Bool.false_ne_true,
        natural?_of_isDigit Nat.toDigits_ne_nil fun c => isDigit_toDigits,
        Nat.ofDigitChars_ten_toDigits]
  rw [unsigned?, noPlus, magnitude, Option.filter_some, if_pos (by simpa using h)]

/-! ### Without quotes -/

theorem mem_of_isDigit (h : c.isDigit) :
    c ∈ ['0', '1', '2', '3', '4', '5', '6', '7', '8', '9'] := by
  obtain ⟨lower, upper⟩ := toNat_of_isDigit h
  have each : ∀ k < 10, Char.ofNat (48 + k) ∈
      ['0', '1', '2', '3', '4', '5', '6', '7', '8', '9'] := by decide
  have digit := each (c.toNat - 48) (by omega)
  rwa [show 48 + (c.toNat - 48) = c.toNat by omega, Char.ofNat_toNat] at digit

/-- A digit has no meaning of its own where it stands in a text. -/
theorem plain_of_isDigit (h : c.isDigit) :
    isPrintable c ∧ isBreak c = false ∧ isIndicator c = false ∧
      c ≠ ' ' ∧ c ≠ ':' ∧ c ≠ '#' ∧ c ≠ '?' ∧ c ≠ '-' := by
  have each : ['0', '1', '2', '3', '4', '5', '6', '7', '8', '9'].all fun d =>
      isPrintable d && !isBreak d && !isIndicator d &&
        d ≠ ' ' && d ≠ ':' && d ≠ '#' && d ≠ '?' && d ≠ '-' := by decide
  simpa [and_assoc] using List.all_eq_true.mp each c (mem_of_isDigit h)

theorem holdsIndicator_of_isDigit (digits : ∀ c ∈ cs, c.isDigit) (after : Bool) :
    holdsIndicator after cs = false := by
  induction cs generalizing after with
  | nil => rfl
  | cons c cs ih =>
    have other := plain_of_isDigit (digits c List.mem_cons_self)
    simp [holdsIndicator, other, ih fun d mem => digits d (List.mem_cons_of_mem c mem)]

theorem beginsOddly_of_isDigit (digits : ∀ c ∈ cs, c.isDigit) : beginsOddly cs = false := by
  rw [beginsOddly.eq_def]
  split
  · exact absurd (digits _ List.mem_cons_self) (by decide)
  · exact absurd (digits _ List.mem_cons_self) (by decide)
  · simp [plain_of_isDigit (digits _ List.mem_cons_self)]
  · rfl

/-- The digits of a number can be written without quotes. -/
theorem allowsPlain_toDigits (n : Nat) : allowsPlain (Nat.toDigits 10 n) := by
  have digits : ∀ c ∈ Nat.toDigits 10 n, c.isDigit := fun c => isDigit_toDigits
  have tight : hasLooseEnd (Nat.toDigits 10 n) = false := by
    have inside {c : Char} (mem : c ∈ Nat.toDigits 10 n) : (c = ' ' || isBreak c) = false := by
      simp [plain_of_isDigit (digits c mem)]
    rw [hasLooseEnd, Bool.or_eq_false_iff]
    constructor
    · cases first : (Nat.toDigits 10 n).head? with
      | none => rfl
      | some d => exact inside (List.mem_of_mem_head? first)
    · cases last : (Nat.toDigits 10 n).getLast? with
      | none => rfl
      | some d => exact inside (List.mem_of_getLast? last)
  rw [allowsPlain, tight, beginsOddly_of_isDigit digits, holdsIndicator_of_isDigit digits]
  have printable : (Nat.toDigits 10 n).all isPrintable :=
    List.all_eq_true.mpr fun c mem => (plain_of_isDigit (digits c mem)).1
  have noBreak : (Nat.toDigits 10 n).any isBreak = false :=
    List.any_eq_false.mpr fun c mem => by simp [plain_of_isDigit (digits c mem)]
  rw [printable, noBreak]
  rfl

end ValidatorGen.Yaml
