import ValidatorGen.Text.Utf8

/-!
# SHA-256

The digest of a byte sequence. The message is filled up to whole blocks of 64 bytes with a one bit,
zeros and its length in bits; each block is mixed into eight words of 32 bits in 64 rounds.

## Main definitions

* `digest` — the 32 bytes of the digest
* `hexDigest` — the digest in hexadecimal digits
-/

namespace ValidatorGen.Digest

/-- The eight words of a digest. -/
structure State where
  a : UInt32
  b : UInt32
  c : UInt32
  d : UInt32
  e : UInt32
  f : UInt32
  g : UInt32
  h : UInt32

/-- The words before the first block: the leading bits of the fractional parts of the square roots
of the first eight primes. -/
def initialState : State :=
  ⟨0x6a09e667, 0xbb67ae85, 0x3c6ef372, 0xa54ff53a, 0x510e527f, 0x9b05688c, 0x1f83d9ab, 0x5be0cd19⟩

/-- One constant for each round: the leading bits of the fractional parts of the cube roots of the
first 64 primes. -/
def roundConstants : List UInt32 :=
  [0x428a2f98, 0x71374491, 0xb5c0fbcf, 0xe9b5dba5, 0x3956c25b, 0x59f111f1, 0x923f82a4, 0xab1c5ed5,
    0xd807aa98, 0x12835b01, 0x243185be, 0x550c7dc3, 0x72be5d74, 0x80deb1fe, 0x9bdc06a7, 0xc19bf174,
    0xe49b69c1, 0xefbe4786, 0x0fc19dc6, 0x240ca1cc, 0x2de92c6f, 0x4a7484aa, 0x5cb0a9dc, 0x76f988da,
    0x983e5152, 0xa831c66d, 0xb00327c8, 0xbf597fc7, 0xc6e00bf3, 0xd5a79147, 0x06ca6351, 0x14292967,
    0x27b70a85, 0x2e1b2138, 0x4d2c6dfc, 0x53380d13, 0x650a7354, 0x766a0abb, 0x81c2c92e, 0x92722c85,
    0xa2bfe8a1, 0xa81a664b, 0xc24b8b70, 0xc76c51a3, 0xd192e819, 0xd6990624, 0xf40e3585, 0x106aa070,
    0x19a4c116, 0x1e376c08, 0x2748774c, 0x34b0bcb5, 0x391c0cb3, 0x4ed8aa4a, 0x5b9cca4f, 0x682e6ff3,
    0x748f82ee, 0x78a5636f, 0x84c87814, 0x8cc70208, 0x90befffa, 0xa4506ceb, 0xbef9a3f7, 0xc67178f2]

/-- The word turned right by `n` bits. -/
def turnRight (x n : UInt32) : UInt32 := x >>> n ||| x <<< (32 - n)

/-- The number of zero bytes between the one bit and the length of a message of `length` bytes. -/
def fillCount (length : Nat) : Nat := (119 - length % 64) % 64

/-- The `count` lowest bytes of a number, the highest of them first. -/
def bigEndian : Nat → Nat → List UInt8
  | 0, _ => []
  | count + 1, n => bigEndian count (n / 256) ++ [UInt8.ofNat (n % 256)]

/-- The message filled up to whole blocks. -/
def filled (message : List UInt8) : List UInt8 :=
  message ++ 0x80 :: List.replicate (fillCount message.length) 0 ++ bigEndian 8 (8 * message.length)

/-- The words that bytes form, four to a word. -/
def wordsOf : List UInt8 → List UInt32
  | a :: b :: c :: d :: bytes =>
    (a.toUInt32 <<< 24 ||| b.toUInt32 <<< 16 ||| c.toUInt32 <<< 8 ||| d.toUInt32) :: wordsOf bytes
  | _ => []

/-- The words of a block and of the rounds after them. The sixteen words before the next one are
given, the oldest first. -/
def schedule : Nat → List UInt32 → List UInt32
  | 0, _ => []
  | count + 1, words =>
    match words with
    | [] => []
    | oldest :: later =>
      let w₁ := later.getD 0 0
      let w₁₄ := later.getD 13 0
      let s₀ := turnRight w₁ 7 ^^^ turnRight w₁ 18 ^^^ w₁ >>> 3
      let s₁ := turnRight w₁₄ 17 ^^^ turnRight w₁₄ 19 ^^^ w₁₄ >>> 10
      oldest :: schedule count (later ++ [oldest + s₀ + later.getD 8 0 + s₁])

/-- One round with its constant and its word. -/
def State.round (s : State) (constantAndWord : UInt32 × UInt32) : State :=
  let s₁ := turnRight s.e 6 ^^^ turnRight s.e 11 ^^^ turnRight s.e 25
  let choice := (s.e &&& s.f) ^^^ (~~~s.e &&& s.g)
  let t₁ := s.h + s₁ + choice + constantAndWord.1 + constantAndWord.2
  let s₀ := turnRight s.a 2 ^^^ turnRight s.a 13 ^^^ turnRight s.a 22
  let majority := (s.a &&& s.b) ^^^ (s.a &&& s.c) ^^^ (s.b &&& s.c)
  ⟨t₁ + (s₀ + majority), s.a, s.b, s.c, s.d + t₁, s.e, s.f, s.g⟩

/-- The word-by-word sum of two states. -/
def State.add (s t : State) : State :=
  ⟨s.a + t.a, s.b + t.b, s.c + t.c, s.d + t.d, s.e + t.e, s.f + t.f, s.g + t.g, s.h + t.h⟩

/-- The state after a block of sixteen words. -/
def State.mix (s : State) (block : List UInt32) : State :=
  s.add ((roundConstants.zip (schedule 64 block)).foldl State.round s)

/-- The state after `count` blocks. -/
def State.mixAll : Nat → List UInt32 → State → State
  | 0, _, s => s
  | count + 1, words, s => mixAll count (words.drop 16) (s.mix (words.take 16))

/-- The bytes of a state. -/
def State.bytes (s : State) : List UInt8 :=
  [s.a, s.b, s.c, s.d, s.e, s.f, s.g, s.h].flatMap fun w => bigEndian 4 w.toNat

/-- The 32 bytes of the digest of a message. -/
def digest (message : List UInt8) : List UInt8 :=
  let words := wordsOf (filled message)
  (initialState.mixAll (words.length / 16) words).bytes

/-- The two hexadecimal digits of a byte. -/
def hexByte (b : UInt8) : List Char :=
  [Nat.digitChar (b.toNat / 16), Nat.digitChar (b.toNat % 16)]

/-- The digest of a message in hexadecimal digits. -/
def hexDigest (message : List UInt8) : String :=
  String.ofList ((digest message).flatMap hexByte)

example : hexDigest (Text.encode "abc") =
    "ba7816bf8f01cfea414140de5dae2223b00361a396177a9cb410ff61f20015ad" := by
  decide +kernel

-- The length does not fit in the block of the message and takes a second one.
example : hexDigest (Text.encode "abcdbcdecdefdefgefghfghighijhijkijkljklmklmnlmnomnopnopq") =
    "248d6a61d20638b8e5c026930c3e6039a33ce45964ff2167f6ecedd419db06c1" := by
  decide +kernel

end ValidatorGen.Digest
