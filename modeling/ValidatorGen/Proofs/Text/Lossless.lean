import ValidatorGen.Proofs.Text.Utf8

/-!
# Decoding loses nothing

The symbols of a byte sequence are spelled by its bytes, whether they are characters or stray bytes.
So bytes that are a text are the bytes of that text, and different bytes are not the same text.

## Main definitions

* `Symbol.bytes` — the bytes of a symbol
* `Unfinished.Leads` — the bytes that may follow complete the bytes of a character

## Main results

* `flatMap_bytes_decode` — the bytes of the symbols are the bytes that were decoded
* `decode_eq_symbols_iff`, `decode?_eq_some_iff` — exactly the bytes of a text are that text
-/

namespace ValidatorGen.Text

/-- The bytes of a symbol. -/
def Symbol.bytes : Symbol → List UInt8
  | .char c => String.utf8EncodeChar c
  | .stray bytes => bytes

/-- Whatever bytes follow within the bounds, the bytes of a character come out in the end. -/
inductive Unfinished.Leads : Unfinished → Prop where
  /-- The next byte is the last one. -/
  | last {bytes : List UInt8} {bits : Nat} {low high : UInt8}
    (h : ∀ b, low ≤ b → b ≤ high →
      String.utf8EncodeChar (Char.ofNat (bits * 0x40 + (b.toNat - 0x80))) = bytes ++ [b]) :
    Leads ⟨bytes, bits, 0, low, high⟩
  /-- More bytes come after the next one. -/
  | more {bytes : List UInt8} {bits later : Nat} {low high : UInt8}
    (h : ∀ b, low ≤ b → b ≤ high →
      Leads ⟨bytes ++ [b], bits * 0x40 + (b.toNat - 0x80), later, 0x80, 0xbf⟩) :
    Leads ⟨bytes, bits, later + 1, low, high⟩

/-! ### Code points that are put together -/

theorem toNat_ofNat {n : Nat} (h : n < 0xd800 ∨ 0xdfff < n ∧ n < 0x110000) :
    (Char.ofNat n).val.toNat = n := by
  have valid : n.isValidChar := h
  rw [Char.ofNat, dif_pos valid]
  rfl

theorem ofNat_eq {n : Nat} {b : UInt8} (h : n = b.toNat) : UInt8.ofNat n = b := by
  rw [h, UInt8.ofNat_toNat]

section

variable {first second low high : UInt8} {bits : Nat}

/-- After the first of two bytes. -/
theorem leads_two (h : first.toNat = bits + 0xc0) (least : 2 ≤ bits) (most : bits < 0x20) :
    Unfinished.Leads ⟨[first], bits, 0, 0x80, 0xbf⟩ := by
  refine .last fun b above below => ?_
  rw [UInt8.le_iff_toNat_le] at above below
  change 0x80 ≤ b.toNat at above
  change b.toNat ≤ 0xbf at below
  rw [String.utf8EncodeChar, toNat_ofNat (by omega)]
  rw [if_neg (by omega), if_pos (by omega), ofNat_eq (b := first) (by omega),
    ofNat_eq (b := b) (by omega)]
  rfl

/-- After the second of three bytes. -/
theorem leads_three (h : first.toNat = bits / 0x40 + 0xe0) (h' : second.toNat = bits % 0x40 + 0x80)
    (least : 0x20 ≤ bits) (most : bits < 0x400) (surrogate : bits / 0x20 ≠ 0x1b) :
    Unfinished.Leads ⟨[first, second], bits, 0, 0x80, 0xbf⟩ := by
  refine .last fun b above below => ?_
  rw [UInt8.le_iff_toNat_le] at above below
  change 0x80 ≤ b.toNat at above
  change b.toNat ≤ 0xbf at below
  rw [String.utf8EncodeChar, toNat_ofNat (by omega)]
  rw [if_neg (by omega), if_neg (by omega), if_pos (by omega), ofNat_eq (b := first) (by omega),
    ofNat_eq (b := second) (by omega), ofNat_eq (b := b) (by omega)]
  rfl

/-- After the second of four bytes. -/
theorem leads_four (h : first.toNat = bits / 0x40 + 0xf0) (h' : second.toNat = bits % 0x40 + 0x80)
    (least : 0x10 ≤ bits) (most : bits < 0x110) :
    Unfinished.Leads ⟨[first, second], bits, 1, 0x80, 0xbf⟩ := by
  refine .more fun b above below => .last fun b' above' below' => ?_
  rw [UInt8.le_iff_toNat_le] at above below above' below'
  change 0x80 ≤ b.toNat at above
  change b.toNat ≤ 0xbf at below
  change 0x80 ≤ b'.toNat at above'
  change b'.toNat ≤ 0xbf at below'
  rw [String.utf8EncodeChar, toNat_ofNat (by omega)]
  rw [if_neg (by omega), if_neg (by omega), if_neg (by omega), ofNat_eq (b := first) (by omega),
    ofNat_eq (b := second) (by omega), ofNat_eq (b := b) (by omega), ofNat_eq (b := b') (by omega)]
  rfl

/-- After the first of three bytes, with bounds on the second that keep out code points that are too
small, and surrogates. -/
theorem leads_of_three (h : first.toNat = bits + 0xe0) (most : bits < 0x10)
    (lowest : 0x80 ≤ low.toNat) (highest : high.toNat ≤ 0xbf) (small : bits = 0 → 0xa0 ≤ low.toNat)
    (surrogate : bits = 0xd → high.toNat ≤ 0x9f) :
    Unfinished.Leads ⟨[first], bits, 1, low, high⟩ := by
  refine .more fun b above below => ?_
  rw [UInt8.le_iff_toNat_le] at above below
  exact leads_three (by omega) (by omega) (by omega) (by omega) (by omega)

/-- After the first of four bytes, with bounds on the second that keep out code points that are too
small or too large. -/
theorem leads_of_four (h : first.toNat = bits + 0xf0) (most : bits ≤ 4)
    (lowest : 0x80 ≤ low.toNat) (highest : high.toNat ≤ 0xbf) (small : bits = 0 → 0x90 ≤ low.toNat)
    (large : bits = 4 → high.toNat ≤ 0x8f) : Unfinished.Leads ⟨[first], bits, 2, low, high⟩ := by
  refine .more fun b above below => ?_
  rw [UInt8.le_iff_toNat_le] at above below
  exact leads_four (by omega) (by omega) (by omega) (by omega)

end

/-! ### Bytes that are read -/

/-- A byte where a character may begin is a symbol of its own or the first byte of a character. -/
theorem begin_cases (b : UInt8) :
    (∃ symbol, begin b = ([symbol], none) ∧ symbol.bytes = [b]) ∨
      ∃ u, begin b = ([], some u) ∧ u.bytes = [b] ∧ u.Leads := by
  rw [begin]
  -- The ranges of the first byte, one after the other.
  by_cases one : b.toNat < 0x80
  · rw [if_pos one]
    refine .inl ⟨_, rfl, ?_⟩
    rw [Symbol.bytes, String.utf8EncodeChar, toNat_ofNat (by omega), if_pos (by omega),
      UInt8.ofNat_toNat]
  rw [if_neg one]
  by_cases two : 0xc2 ≤ b.toNat ∧ b.toNat ≤ 0xdf
  · rw [if_pos two]
    exact .inr ⟨_, rfl, rfl, leads_two (by omega) (by omega) (by omega)⟩
  rw [if_neg two]
  by_cases least : b.toNat = 0xe0
  · rw [if_pos least]
    exact .inr ⟨_, rfl, rfl, leads_of_three least (by decide) (by decide) (by decide)
      (fun _ => by decide) (fun _ => by omega)⟩
  rw [if_neg least]
  by_cases surrogates : b.toNat = 0xed
  · rw [if_pos surrogates]
    exact .inr ⟨_, rfl, rfl, leads_of_three surrogates (by decide) (by decide) (by decide)
      (fun _ => by omega) (fun _ => by decide)⟩
  rw [if_neg surrogates]
  by_cases three : 0xe1 ≤ b.toNat ∧ b.toNat ≤ 0xef
  · rw [if_pos three]
    exact .inr ⟨_, rfl, rfl, leads_of_three (by omega) (by omega) (by decide) (by decide)
      (fun _ => by omega) (fun _ => by omega)⟩
  rw [if_neg three]
  by_cases first : b.toNat = 0xf0
  · rw [if_pos first]
    exact .inr ⟨_, rfl, rfl, leads_of_four first (by decide) (by decide) (by decide)
      (fun _ => by decide) (fun _ => by omega)⟩
  rw [if_neg first]
  by_cases last : b.toNat = 0xf4
  · rw [if_pos last]
    exact .inr ⟨_, rfl, rfl, leads_of_four last (by decide) (by decide) (by decide)
      (fun _ => by omega) (fun _ => by decide)⟩
  rw [if_neg last]
  by_cases four : 0xf1 ≤ b.toNat ∧ b.toNat ≤ 0xf3
  · rw [if_pos four]
    exact .inr ⟨_, rfl, rfl, leads_of_four (by omega) (by omega) (by decide) (by decide)
      (fun _ => by omega) (fun _ => by omega)⟩
  rw [if_neg four]
  exact .inl ⟨_, rfl, rfl⟩

/-- The bytes of the symbols are the bytes that were decoded, those of an unfinished character
included. -/
theorem flatMap_bytes_decodeAfter (bytes : List UInt8) :
    (decodeAfter none bytes).flatMap Symbol.bytes = bytes ∧
      ∀ u : Unfinished, u.Leads →
        (decodeAfter (some u) bytes).flatMap Symbol.bytes = u.bytes ++ bytes := by
  induction bytes with
  | nil =>
    refine ⟨rfl, fun u _ => ?_⟩
    rw [decodeAfter, List.flatMap_singleton, Symbol.bytes, List.append_nil]
  | cons b bytes ih =>
    -- A byte that begins something new, whatever came before it.
    have first : ((begin b).1 ++ decodeAfter (begin b).2 bytes).flatMap Symbol.bytes =
        b :: bytes := by
      rcases begin_cases b with ⟨symbol, found, spelled⟩ | ⟨u, found, spelled, leads⟩
      · rw [found, List.singleton_append, List.flatMap_cons, spelled, ih.1, List.singleton_append]
      · rw [found, List.nil_append, ih.2 u leads, spelled, List.singleton_append]
    refine ⟨first, fun u leads => ?_⟩
    rw [decodeAfter, Unfinished.next]
    by_cases within : u.low ≤ b ∧ b ≤ u.high
    · rw [if_pos within]
      cases leads with
      | last h =>
        have spelled := h b within.1 within.2
        dsimp only
        rw [List.singleton_append, List.flatMap_cons, Symbol.bytes, spelled, ih.1,
          List.append_assoc, List.singleton_append]
      | more h =>
        have rest := ih.2 _ (h b within.1 within.2)
        dsimp only
        rw [List.nil_append, rest, List.append_assoc, List.singleton_append]
    · rw [if_neg within]
      dsimp only
      rw [List.cons_append, List.flatMap_cons, Symbol.bytes, first]

/-- The bytes of the symbols are the bytes that were decoded. -/
theorem flatMap_bytes_decode (bytes : List UInt8) :
    (decode bytes).flatMap Symbol.bytes = bytes := (flatMap_bytes_decodeAfter bytes).1

/-! ### Texts -/

/-- Exactly the bytes of a text have its characters as their symbols. -/
theorem decode_eq_symbols_iff {bytes : List UInt8} {s : String} :
    decode bytes = symbols s ↔ encode s = bytes := by
  constructor
  · intro decoded
    rw [← flatMap_bytes_decode bytes, decoded, symbols, List.flatMap_map, encode]
    rfl
  · rintro rfl
    exact decode_encode s

/-- Symbols that are all characters. -/
theorem eq_map_char_of_mapM {found : List Symbol} {cs : List Char}
    (h : found.mapM Symbol.char? = some cs) : found = cs.map .char := by
  induction found generalizing cs with
  | nil =>
    rw [List.mapM_nil] at h
    cases h
    rfl
  | cons symbol rest ih =>
    simp only [List.mapM_cons, Option.bind_eq_bind, Option.bind_eq_some_iff, Option.pure_def,
      Option.some.injEq] at h
    obtain ⟨c, first, cs, others, rfl⟩ := h
    rw [ih others, List.map_cons]
    cases symbol with
    | char => rw [Option.some.inj first]
    | stray => cases first

/-- Exactly the bytes of a text are that text. -/
theorem decode?_eq_some_iff {bytes : List UInt8} {s : String} :
    decode? bytes = some s ↔ encode s = bytes := by
  constructor
  · intro read
    obtain ⟨cs, chars, rfl⟩ := Option.map_eq_some_iff.mp read
    apply decode_eq_symbols_iff.mp
    rw [symbols, String.toList_ofList, eq_map_char_of_mapM chars]
  · rintro rfl
    exact decode?_encode s

end ValidatorGen.Text
