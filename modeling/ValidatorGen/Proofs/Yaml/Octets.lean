import Mathlib.Data.List.TakeWhile
import Mathlib.Tactic.SplitIfs
import ValidatorGen.Proofs.Text.Utf8
import ValidatorGen.Yaml.Octets
import ValidatorGen.Yaml.Scalar.Written

/-!
# The characters of written text

A text of which every character is allowed is read back from its octets, wherever the blocks begin
and end.

## Main results

* `charactersFrom_utf8EncodeChar` — a character is read back from its octets
* `ofOctets_encode` — so is a text
* `unifyBreaks_eq` — a text without carriage returns and U+0085 stays as it is
-/

namespace ValidatorGen.Yaml

open Text

variable {c : Char}

theorem width_ofNat {n : Nat} (h : n < 0x100) :
    width (UInt8.ofNat n) =
      if n < 0x80 then 1 else if n < 0xc0 then 0 else if n < 0xe0 then 2 else if n < 0xf0 then 3
      else if n < 0xf8 then 4 else 0 := by
  simp only [width, UInt8.lt_iff_toNat_lt, toNat_ofNat_of_lt h]
  rfl

theorem isTrailing_ofNat (n : Nat) : isTrailing (UInt8.ofNat (n % 0x40 + 0x80)) := by
  simp only [isTrailing, UInt8.lt_iff_toNat_lt, UInt8.le_iff_toNat_le,
    toNat_ofNat_of_lt (n := n % 0x40 + 0x80) (by omega), Bool.and_eq_true, decide_eq_true_eq]
  have low : (0x80 : UInt8).toNat = 0x80 := rfl
  have high : (0xc0 : UInt8).toNat = 0xc0 := rfl
  omega

/-- Octets stand for a character if they hold its bits. -/
theorem character_of_bits {b : UInt8} {trailing : List UInt8}
    (size : width b = trailing.length + 1) (each : ∀ t ∈ trailing, isTrailing t)
    (bits : trailing.foldl (fun n t => n * 0x40 + t.toNat % 0x40) (leadingBits b) = c.toNat)
    (least : leastOfWidth (width b) ≤ c.toNat) (allowed : isAllowed c.toNat) (offset : Nat)
    (more : List UInt8) : character offset b (trailing ++ more) = .ok c := by
  have valid := char_toNat_valid c
  have taken : (trailing ++ more).take (width b - 1) = trailing :=
    List.take_left' (by rw [size, Nat.add_sub_cancel])
  have all : trailing.takeWhile isTrailing = trailing := List.takeWhile_eq_self_iff.mpr each
  rw [character, taken, all, bits]
  simp only [Char.ofNat_toNat, allowed]
  rw [if_neg (by omega), if_neg (by omega), if_neg (by omega), if_neg (by omega),
    if_neg (by omega), if_neg (by simp)]

/-- A character that is allowed is read back from its octets. -/
theorem character_utf8EncodeChar (allowed : isAllowed c.toNat) :
    ∃ b trailing, String.utf8EncodeChar c = b :: trailing ∧ width b = trailing.length + 1 ∧
      ∀ offset more, character offset b (trailing ++ more) = .ok c := by
  have valid := char_toNat_valid c
  have code : c.val.toNat = c.toNat := rfl
  rw [String.utf8EncodeChar, code]
  -- One case for each number of octets; the bits of the character are spread over the octets.
  split_ifs with one two three
  · have size : width (UInt8.ofNat c.toNat) = 1 := by
      rw [width_ofNat (by omega), if_pos (by omega)]
    refine ⟨_, _, rfl, size, character_of_bits size nofun ?_ ?_ allowed⟩
    · rw [leadingBits, size]
      exact toNat_ofNat_of_lt (by omega)
    · rw [size]
      exact Nat.zero_le _
  · have size : width (UInt8.ofNat (c.toNat / 64 % 32 + 192)) = 2 := by
      rw [width_ofNat (by omega), if_neg (by omega), if_neg (by omega), if_pos (by omega)]
    refine ⟨_, _, rfl, size, character_of_bits size ?_ ?_ ?_ allowed⟩
    · simp only [List.forall_mem_cons, isTrailing_ofNat, true_and]
      exact nofun
    · simp only [leadingBits, size, List.foldl_cons, List.foldl_nil,
        toNat_ofNat_of_lt (n := c.toNat / 64 % 32 + 192) (by omega),
        toNat_ofNat_of_lt (n := c.toNat % 64 + 128) (by omega)]
      omega
    · rw [size, leastOfWidth]
      omega
  · have size : width (UInt8.ofNat (c.toNat / 4096 % 16 + 224)) = 3 := by
      rw [width_ofNat (by omega), if_neg (by omega), if_neg (by omega), if_neg (by omega),
        if_pos (by omega)]
    refine ⟨_, _, rfl, size, character_of_bits size ?_ ?_ ?_ allowed⟩
    · simp only [List.forall_mem_cons, isTrailing_ofNat, true_and]
      exact nofun
    · simp only [leadingBits, size, List.foldl_cons, List.foldl_nil,
        toNat_ofNat_of_lt (n := c.toNat / 4096 % 16 + 224) (by omega),
        toNat_ofNat_of_lt (n := c.toNat / 64 % 64 + 128) (by omega),
        toNat_ofNat_of_lt (n := c.toNat % 64 + 128) (by omega)]
      omega
    · rw [size, leastOfWidth]
      omega
  · have size : width (UInt8.ofNat (c.toNat / 262144 % 8 + 240)) = 4 := by
      rw [width_ofNat (by omega), if_neg (by omega), if_neg (by omega), if_neg (by omega),
        if_neg (by omega), if_pos (by omega)]
    refine ⟨_, _, rfl, size, character_of_bits size ?_ ?_ ?_ allowed⟩
    · simp only [List.forall_mem_cons, isTrailing_ofNat, true_and]
      exact nofun
    · simp only [leadingBits, size, List.foldl_cons, List.foldl_nil,
        toNat_ofNat_of_lt (n := c.toNat / 262144 % 8 + 240) (by omega),
        toNat_ofNat_of_lt (n := c.toNat / 4096 % 64 + 128) (by omega),
        toNat_ofNat_of_lt (n := c.toNat / 64 % 64 + 128) (by omega),
        toNat_ofNat_of_lt (n := c.toNat % 64 + 128) (by omega)]
      omega
    · rw [size, leastOfWidth]
      omega

/-- The characters read so far, the last one first. -/
def BlockProgress.characters (p : BlockProgress) : List Char := p.read ++ p.earlier

theorem BlockProgress.characters_enter (p : BlockProgress) (count : Nat) :
    (p.enter count).characters = p.characters := by
  rw [enter]
  split_ifs
  · rfl
  · rfl

theorem charactersFrom_skip (octets more : List UInt8) (p : BlockProgress) :
    charactersFrom octets.length p (octets ++ more) = charactersFrom 0 p more := by
  induction octets with
  | nil => rfl
  | cons b octets ih => rw [List.length_cons, List.cons_append, charactersFrom, ih]

/-- A character is read back from its octets, in whichever block they are. -/
theorem charactersFrom_utf8EncodeChar (allowed : isAllowed c.toNat) (p : BlockProgress)
    (more : List UInt8) :
    ∃ p' : BlockProgress, p'.characters = c :: p.characters ∧
      charactersFrom 0 p (String.utf8EncodeChar c ++ more) = charactersFrom 0 p' more := by
  obtain ⟨b, trailing, octets, size, read⟩ := character_utf8EncodeChar allowed
  rw [octets, List.cons_append, charactersFrom, read, size, Nat.add_sub_cancel]
  refine ⟨_, ?_, charactersFrom_skip trailing more _⟩
  rw [← p.characters_enter (max 1 (trailing.length + 1))]
  rfl

/-- A text is read back from its octets if every character is allowed. -/
theorem ofOctets_encode {s : String} (allowed : ∀ c ∈ s.toList, isAllowed c.toNat) :
    Characters.ofOctets (encode s) = ⟨s.toList, none⟩ := by
  have each (cs : List Char) (allowed : ∀ c ∈ cs, isAllowed c.toNat) (p : BlockProgress) :
      charactersFrom 0 p (cs.flatMap String.utf8EncodeChar) =
        ⟨p.characters.reverse ++ cs, none⟩ := by
    induction cs generalizing p with
    | nil =>
      rw [List.flatMap_nil, charactersFrom, List.append_nil]
      rfl
    | cons c cs ih =>
      obtain ⟨p', characters, read⟩ := charactersFrom_utf8EncodeChar
        (allowed c List.mem_cons_self) p (cs.flatMap String.utf8EncodeChar)
      rw [List.flatMap_cons, read, ih (fun d mem => allowed d (List.mem_cons_of_mem c mem)),
        characters, List.reverse_cons, List.append_assoc]
      rfl
  exact each s.toList allowed {}

/-- What can be written by itself is allowed, and it ends lines only in a way that is kept. -/
theorem of_isPrintable (printable : isPrintable c) :
    isAllowed c.toNat ∧ c ≠ '\r' ∧ c ≠ '\u0085' := by
  have apart {d : Char} (h : c.toNat ≠ d.toNat) : c ≠ d := fun equal => h (equal ▸ rfl)
  simp only [isPrintable, Bool.or_eq_true, Bool.and_eq_true, decide_eq_true_eq] at printable
  rcases printable with (rfl | ⟨low, high⟩) | ⟨low, other⟩
  · decide
  · have low : 0x20 ≤ c.toNat := UInt32.le_iff_toNat_le.mp low
    have high : c.toNat ≤ 0x7e := UInt32.le_iff_toNat_le.mp high
    have allowed : isAllowed c.toNat := by
      simp [isAllowed]
      omega
    refine ⟨allowed, apart ?_, apart ?_⟩
    · change c.toNat ≠ 0x0d
      omega
    · change c.toNat ≠ 0x85
      omega
  · have low : 0xa0 ≤ c.toNat := UInt32.le_iff_toNat_le.mp low
    have others : c.toNat ≠ 0xfffe ∧ c.toNat ≠ 0xffff := by
      constructor
      all_goals
        intro equal
        simp [← char_ofNat_eq equal.symm] at other
    have allowed : isAllowed c.toNat := by
      simp [isAllowed]
      omega
    refine ⟨allowed, apart ?_, apart ?_⟩
    · change c.toNat ≠ 0x0d
      omega
    · change c.toNat ≠ 0x85
      omega

/-- A text stays as it is if all its lines end in one of the three ways that are kept. -/
theorem unifyBreaks_eq {cs : List Char} (h : ∀ c ∈ cs, c ≠ '\r' ∧ c ≠ '\u0085') :
    unifyBreaks cs = cs := by
  induction cs with
  | nil => rfl
  | cons c cs ih =>
    obtain ⟨carriage, next⟩ := h c List.mem_cons_self
    rw [unifyBreaks, ih fun d mem => h d (List.mem_cons_of_mem c mem),
      if_neg (by simp [carriage, next])]
    intro rest pair
    exact absurd pair carriage

end ValidatorGen.Yaml
