import Mathlib.Tactic.SplitIfs
import ValidatorGen.Text.Utf8

/-!
# UTF-8 is read back as it was written

The bytes of a text are the symbols of its characters and nothing else. So a text comes back from
its bytes, and different texts have different bytes.

## Main results

* `decodeAfter_utf8EncodeChar` — the bytes of a character are one symbol, whatever follows them
* `decode_encode` — the bytes of a text are the symbols of its characters
* `decode?_encode` — a text comes back from its bytes
* `encode_injective` — different texts have different bytes
* `encode_eq_toByteArray` — the bytes of a text are those by which it is represented
-/

namespace ValidatorGen.Text

theorem toNat_ofNat_of_lt {n : Nat} (h : n < 0x100) : (UInt8.ofNat n).toNat = n :=
  Nat.mod_eq_of_lt h

/-! ### One byte -/

section

variable {n : Nat} (bytes : List UInt8)

theorem decodeAfter_one (h : n < 0x80) :
    decodeAfter none (UInt8.ofNat n :: bytes) = .char (Char.ofNat n) :: decodeAfter none bytes := by
  have byte := toNat_ofNat_of_lt (n := n) (by omega)
  rw [decodeAfter, begin, byte, if_pos h]
  rfl

theorem decodeAfter_two (h : 0xc2 ≤ n) (h' : n ≤ 0xdf) :
    decodeAfter none (UInt8.ofNat n :: bytes) =
      decodeAfter (some ⟨[UInt8.ofNat n], n - 0xc0, 0, 0x80, 0xbf⟩) bytes := by
  have byte := toNat_ofNat_of_lt (n := n) (by omega)
  rw [decodeAfter, begin, byte, if_neg (by omega), if_pos ⟨h, h'⟩]
  rfl

/-- The bounds on the second of three bytes keep out code points that are too small, and
surrogates. -/
theorem decodeAfter_three (h : 0xe0 ≤ n) (h' : n ≤ 0xef) :
    decodeAfter none (UInt8.ofNat n :: bytes) =
      decodeAfter (some ⟨[UInt8.ofNat n], n - 0xe0, 1,
        if n = 0xe0 then 0xa0 else 0x80, if n = 0xed then 0x9f else 0xbf⟩) bytes := by
  have byte := toNat_ofNat_of_lt (n := n) (by omega)
  rw [decodeAfter, begin, byte, if_neg (by omega), if_neg (by omega)]
  by_cases first : n = 0xe0
  · simp [first]
  by_cases surrogates : n = 0xed
  · simp [surrogates]
  rw [if_neg first, if_neg surrogates, if_neg first, if_neg surrogates, if_pos (by omega)]
  rfl

/-- The bounds on the second of four bytes keep out code points that are too small or too large. -/
theorem decodeAfter_four (h : 0xf0 ≤ n) (h' : n ≤ 0xf4) :
    decodeAfter none (UInt8.ofNat n :: bytes) =
      decodeAfter (some ⟨[UInt8.ofNat n], n - 0xf0, 2,
        if n = 0xf0 then 0x90 else 0x80, if n = 0xf4 then 0x8f else 0xbf⟩) bytes := by
  have byte := toNat_ofNat_of_lt (n := n) (by omega)
  rw [decodeAfter, begin, byte, if_neg (by omega), if_neg (by omega), if_neg (by omega),
    if_neg (by omega), if_neg (by omega)]
  by_cases first : n = 0xf0
  · simp [first]
  by_cases last : n = 0xf4
  · simp [last]
  rw [if_neg first, if_neg last, if_neg first, if_neg last, if_pos (by omega)]
  rfl

variable {u : Unfinished} (byte : n < 0x100) (low : u.low.toNat ≤ n) (high : n ≤ u.high.toNat)

include byte low high

theorem within_bounds : u.low ≤ UInt8.ofNat n ∧ UInt8.ofNat n ≤ u.high := by
  rw [UInt8.le_iff_toNat_le, UInt8.le_iff_toNat_le, toNat_ofNat_of_lt byte]
  exact ⟨low, high⟩

/-- The last byte of a character, if it is within the bounds, completes it. -/
theorem decodeAfter_last (later : u.later = 0) :
    decodeAfter (some u) (UInt8.ofNat n :: bytes) =
      .char (Char.ofNat (u.bits * 0x40 + (n - 0x80))) :: decodeAfter none bytes := by
  have within := within_bounds byte low high
  rw [decodeAfter, Unfinished.next, if_pos within, toNat_ofNat_of_lt byte]
  dsimp only
  rw [later]
  rfl

/-- Any other byte within the bounds brings the character one byte further. -/
theorem decodeAfter_more {later : Nat} (more : u.later = later + 1) :
    decodeAfter (some u) (UInt8.ofNat n :: bytes) =
      decodeAfter (some ⟨u.bytes ++ [UInt8.ofNat n], u.bits * 0x40 + (n - 0x80), later, 0x80, 0xbf⟩)
        bytes := by
  have within := within_bounds byte low high
  rw [decodeAfter, Unfinished.next, if_pos within, toNat_ofNat_of_lt byte]
  dsimp only
  rw [more]
  rfl

end

/-! ### Characters and texts -/

theorem char_toNat_valid (c : Char) : c.toNat < 0xd800 ∨ 0xdfff < c.toNat ∧ c.toNat < 0x110000 :=
  c.valid

/-- A code point put together again from its bits is the character. -/
theorem char_ofNat_eq {c : Char} {n : Nat} (h : n = c.toNat) : Char.ofNat n = c := by
  rw [h, Char.ofNat_toNat]

/-- The bytes of a character are one symbol, whatever follows them. -/
theorem decodeAfter_utf8EncodeChar (c : Char) (bytes : List UInt8) :
    decodeAfter none (String.utf8EncodeChar c ++ bytes) = .char c :: decodeAfter none bytes := by
  have valid := char_toNat_valid c
  have code : c.val.toNat = c.toNat := rfl
  -- The bounds on later bytes as numbers.
  have lowest : (0x80 : UInt8).toNat = 0x80 := rfl
  have highest : (0xbf : UInt8).toNat = 0xbf := rfl
  have lowestOfThree : (0xa0 : UInt8).toNat = 0xa0 := rfl
  have highestOfThree : (0x9f : UInt8).toNat = 0x9f := rfl
  have lowestOfFour : (0x90 : UInt8).toNat = 0x90 := rfl
  have highestOfFour : (0x8f : UInt8).toNat = 0x8f := rfl
  rw [String.utf8EncodeChar, code]
  -- One case for each number of bytes; the bits of the code point are spread over the bytes.
  split_ifs with one two three
  · rw [List.singleton_append, decodeAfter_one _ (by omega), Char.ofNat_toNat]
  · rw [List.cons_append, List.singleton_append, decodeAfter_two _ (by omega) (by omega),
      decodeAfter_last _ (by omega) (by dsimp only; omega) (by dsimp only; omega) rfl]
    dsimp only
    rw [char_ofNat_eq (c := c) (by omega)]
  · rw [List.cons_append, List.cons_append, List.singleton_append,
      decodeAfter_three _ (by omega) (by omega),
      decodeAfter_more _ (by omega) ?low ?high rfl,
      decodeAfter_last _ (by omega) (by dsimp only; omega) (by dsimp only; omega) rfl]
    · dsimp only
      rw [char_ofNat_eq (c := c) (by omega)]
    case low =>
      dsimp only
      split_ifs <;> omega
    case high =>
      dsimp only
      split_ifs <;> omega
  · rw [List.cons_append, List.cons_append, List.cons_append, List.singleton_append,
      decodeAfter_four _ (by omega) (by omega),
      decodeAfter_more _ (by omega) ?low ?high rfl,
      decodeAfter_more _ (by omega) (by dsimp only; omega) (by dsimp only; omega) rfl,
      decodeAfter_last _ (by omega) (by dsimp only; omega) (by dsimp only; omega) rfl]
    · dsimp only
      rw [char_ofNat_eq (c := c) (by omega)]
    case low =>
      dsimp only
      split_ifs <;> omega
    case high =>
      dsimp only
      split_ifs <;> omega

/-- The bytes of a text are the symbols of its characters. -/
theorem decode_encode (s : String) : decode (encode s) = symbols s := by
  rw [decode, encode, symbols]
  induction s.toList with
  | nil => rfl
  | cons c cs ih => rw [List.flatMap_cons, decodeAfter_utf8EncodeChar, ih, List.map_cons]

/-- A text comes back from its bytes. -/
theorem decode?_encode (s : String) : decode? (encode s) = some s := by
  have chars (cs : List Char) : (cs.map Symbol.char).mapM Symbol.char? = some cs := by
    induction cs with
    | nil => rfl
    | cons c cs ih => simp [Symbol.char?, ih]
  rw [decode?, decode_encode, symbols, chars]
  simp

/-- Different texts have different bytes. -/
theorem encode_injective {s t : String} (h : encode s = encode t) : s = t := by
  have read := decode?_encode s
  rw [h, decode?_encode t] at read
  exact (Option.some.inj read).symm

/-- The bytes of a text are those by which it is represented. -/
theorem encode_eq_toByteArray (s : String) : encode s = s.toByteArray.data.toList := by
  have whole := String.toByteArray_ofList (l := s.toList)
  rw [String.ofList_toList, List.utf8Encode] at whole
  rw [whole, List.data_toByteArray, encode]

end ValidatorGen.Text
