import ValidatorGen.Text.Utf8
import ValidatorGen.Yaml.Error

/-!
# The characters of a YAML file

The octets of a file are looked at in blocks, each when the first of its characters is wanted. A
fault in a block is noticed then, before any character of the block is used. That the file ends
inside a character is noticed only when all characters before have been used.

## Main definitions

* `Characters` — the characters of a file, up to a fault
* `Characters.ofOctets` — the characters that the octets of a file stand for
* `unifyBreaks` — the same characters with every line ended in one of three ways
-/

namespace ValidatorGen.Yaml

/-- The number of octets of a character that begins with `b`, or zero if none does. -/
def width (b : UInt8) : Nat :=
  if b < 0x80 then 1
  else if b < 0xc0 then 0
  else if b < 0xe0 then 2
  else if b < 0xf0 then 3
  else if b < 0xf8 then 4
  else 0

/-- The bits that the first octet of a character gives. -/
def leadingBits (b : UInt8) : Nat :=
  match width b with
  | 2 => b.toNat % 0x20
  | 3 => b.toNat % 0x10
  | 4 => b.toNat % 0x08
  | _ => b.toNat

/-- Whether an octet continues a character. -/
def isTrailing (b : UInt8) : Bool := 0x80 ≤ b && b < 0xc0

/-- The least number for which a character takes so many octets. -/
def leastOfWidth : Nat → Nat
  | 2 => 0x80
  | 3 => 0x800
  | 4 => 0x10000
  | _ => 0

/-- Whether a text may hold the character with the given number. -/
def isAllowed (n : Nat) : Bool :=
  n = 0x09 || n = 0x0a || n = 0x0d || (0x20 ≤ n && n ≤ 0x7e) || n = 0x85 ||
    (0xa0 ≤ n && n ≤ 0xfffd) || 0x10000 ≤ n

/-- The character that begins with the octet `b`, when `rest` follows and `offset` octets come
before. -/
def character (offset : Nat) (b : UInt8) (rest : List UInt8) : Except Error Char :=
  let trailing := rest.take (width b - 1)
  let n := trailing.foldl (fun n t => n * 0x40 + t.toNat % 0x40) (leadingBits b)
  let valid := trailing.takeWhile isTrailing
  if width b = 0 then .error (.octets .badLeading offset)
  else if trailing.length < width b - 1 then .error (.octets .incomplete offset)
  else if valid.length < trailing.length then
    .error (.octets .badTrailing (offset + 1 + valid.length))
  else if n < leastOfWidth (width b) then .error (.octets .badLength offset)
  else if (0xd800 ≤ n ∧ n ≤ 0xdfff) ∨ 0x10ffff < n then .error (.octets .noCharacter offset)
  else if !isAllowed n then .error (.octets .control offset)
  else .ok (Char.ofNat n)

/-- The characters of a file, as far as they can be used. -/
structure Characters where
  /-- The characters. -/
  list : List Char
  /-- What is met instead of the end of the file when more characters are wanted. -/
  fault : Option Error

/-- The greatest number of octets in a block. -/
def blockSize : Nat := 16384

/-- How far the octets have been read. -/
structure BlockProgress where
  /-- The number of octets read. -/
  offset : Nat := 0
  /-- The number of octets before the end of the block that has been begun. -/
  stop : Nat := blockSize
  /-- The characters of that block, the last one first. -/
  read : List Char := []
  /-- The characters of the blocks before, the last one first. -/
  earlier : List Char := []

/-- The progress when the next character has `count` octets. A character that does not fit into a
block as a whole begins the next one. -/
def BlockProgress.enter (p : BlockProgress) (count : Nat) : BlockProgress :=
  if p.stop < p.offset + count then
    { p with stop := p.offset + blockSize, read := [], earlier := p.read ++ p.earlier }
  else p

/-- The characters from a place on, after the next `skip` octets. -/
def charactersFrom : Nat → BlockProgress → List UInt8 → Characters
  | _, p, [] => ⟨(p.read ++ p.earlier).reverse, none⟩
  | skip + 1, p, _ :: rest => charactersFrom skip p rest
  | 0, p, b :: rest =>
    let p := p.enter (max 1 (width b))
    match character p.offset b rest with
    | .ok c =>
      charactersFrom (width b - 1) { p with offset := p.offset + width b, read := c :: p.read } rest
    | .error e =>
      let isCutOff := rest.length + 1 < width b
      ⟨(if isCutOff then p.read ++ p.earlier else p.earlier).reverse, e⟩

/-- The characters that the octets of a file stand for. -/
def Characters.ofOctets (octets : List UInt8) : Characters := charactersFrom 0 {} octets

/-- The same characters with a line feed for each carriage return, each pair of carriage return and
line feed, and each U+0085. -/
def unifyBreaks : List Char → List Char
  | '\r' :: '\n' :: rest => '\n' :: unifyBreaks rest
  | c :: rest => (if c = '\r' ∨ c = '\u0085' then '\n' else c) :: unifyBreaks rest
  | [] => []

end ValidatorGen.Yaml
