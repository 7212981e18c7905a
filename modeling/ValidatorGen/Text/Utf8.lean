/-!
# UTF-8

Bytes are read as a sequence of symbols: a symbol is a character or a run of bytes that belongs to
no character. A run is the longest beginning of a character that breaks off, or a single byte that
begins none.

## Main definitions

* `Symbol` — a character, or stray bytes
* `decode` — the symbols of a byte sequence
* `encode` — the bytes of a text
* `lossy` — the text of a byte sequence, with a replacement character for each stray run
-/

namespace ValidatorGen.Text

/-- A character, or a run of bytes that belongs to no character. -/
inductive Symbol where
  /-- A character. -/
  | char (c : Char)
  /-- Bytes that belong to no character. -/
  | stray (bytes : List UInt8)
deriving DecidableEq

/-- The number of bytes that a symbol takes. -/
def Symbol.size : Symbol → Nat
  | .char c => c.utf8Size
  | .stray bytes => bytes.length

/-- The character that a symbol is, if it is one. -/
def Symbol.char? : Symbol → Option Char
  | .char c => some c
  | .stray _ => none

/-- The symbols of a text: its characters. -/
def symbols (s : String) : List Symbol := s.toList.map .char

/-- A character of which at least one byte is missing. -/
structure Unfinished where
  /-- The bytes seen. -/
  bytes : List UInt8
  /-- The bits seen. -/
  bits : Nat
  /-- The number of bytes after the next one. -/
  later : Nat
  /-- The least value that the next byte may have. -/
  low : UInt8
  /-- The greatest value that the next byte may have. -/
  high : UInt8

/-- What a byte means where a character may begin. The bounds on the second byte keep out code
points written with too many bytes, surrogates, and numbers beyond the last code point. -/
def begin (b : UInt8) : List Symbol × Option Unfinished :=
  let bits := b.toNat
  if bits < 0x80 then ([.char (Char.ofNat bits)], none)
  else if 0xc2 ≤ bits ∧ bits ≤ 0xdf then ([], some ⟨[b], bits - 0xc0, 0, 0x80, 0xbf⟩)
  else if bits = 0xe0 then ([], some ⟨[b], 0, 1, 0xa0, 0xbf⟩)
  else if bits = 0xed then ([], some ⟨[b], 0xd, 1, 0x80, 0x9f⟩)
  else if 0xe1 ≤ bits ∧ bits ≤ 0xef then ([], some ⟨[b], bits - 0xe0, 1, 0x80, 0xbf⟩)
  else if bits = 0xf0 then ([], some ⟨[b], 0, 2, 0x90, 0xbf⟩)
  else if bits = 0xf4 then ([], some ⟨[b], 4, 2, 0x80, 0x8f⟩)
  else if 0xf1 ≤ bits ∧ bits ≤ 0xf3 then ([], some ⟨[b], bits - 0xf0, 2, 0x80, 0xbf⟩)
  else ([.stray [b]], none)

/-- What a byte means after the beginning of a character. -/
def Unfinished.next (u : Unfinished) (b : UInt8) : List Symbol × Option Unfinished :=
  if u.low ≤ b ∧ b ≤ u.high then
    let bits := u.bits * 0x40 + (b.toNat - 0x80)
    match u.later with
    | 0 => ([.char (Char.ofNat bits)], none)
    | later + 1 => ([], some ⟨u.bytes ++ [b], bits, later, 0x80, 0xbf⟩)
  else
    let (found, unfinished) := begin b
    (.stray u.bytes :: found, unfinished)

/-- The symbols of the bytes that follow an unfinished character, if there is one. -/
def decodeAfter : Option Unfinished → List UInt8 → List Symbol
  | none, [] => []
  | some u, [] => [.stray u.bytes]
  | none, b :: bytes =>
    let (found, unfinished) := begin b
    found ++ decodeAfter unfinished bytes
  | some u, b :: bytes =>
    let (found, unfinished) := u.next b
    found ++ decodeAfter unfinished bytes

/-- The symbols of a byte sequence. -/
def decode (bytes : List UInt8) : List Symbol := decodeAfter none bytes

/-- The bytes of a text. -/
def encode (s : String) : List UInt8 := s.toList.flatMap String.utf8EncodeChar

/-- The text of a byte sequence, if it has no stray bytes. -/
def decode? (bytes : List UInt8) : Option String :=
  ((decode bytes).mapM Symbol.char?).map String.ofList

/-- The text of a byte sequence, with a replacement character for each stray run. -/
def lossy (bytes : List UInt8) : String :=
  String.ofList ((decode bytes).map fun symbol => symbol.char?.getD (Char.ofNat 0xfffd))

end ValidatorGen.Text
