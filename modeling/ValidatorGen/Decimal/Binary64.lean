/-!
# Binary floating-point numbers of 64 bits

A magnitude is a natural number of at most 53 bits times a power of two whose exponent is at least
-1074. A ratio of natural numbers is rounded to the nearest magnitude, a tie going to the even one.
All arithmetic is exact on natural numbers and followed by one such rounding.

## Main definitions

* `Magnitude` — the absolute value of a finite number
* `nearest?` — the magnitude nearest to a ratio, unless the ratio is too large
* `Binary64` — a number with its sign, an infinity, or no number
-/

namespace ValidatorGen.Decimal

/-- The absolute value `mantissa * 2 ^ exponent` of a finite number. -/
structure Magnitude where
  /-- A number of at most 53 bits. -/
  mantissa : Nat
  /-- The exponent of two. -/
  exponent : Int
deriving DecidableEq

/-- The magnitude zero. -/
def Magnitude.zero : Magnitude := ⟨0, -1074⟩

/-- A magnitude as a ratio of natural numbers. -/
def Magnitude.ratio (m : Magnitude) : Nat × Nat :=
  (m.mantissa * Nat.pow 2 m.exponent.toNat, Nat.pow 2 (-m.exponent).toNat)

/-- The quotient rounded to the nearest natural number, a tie going to the even one. -/
def roundedQuotient (num den : Nat) : Nat :=
  let q := num / den
  let twice := 2 * (num % den)
  if den < twice ∨ (twice = den ∧ q % 2 = 1) then q + 1 else q

/-- The exponent of the greatest power of two that is at most `num / den`. -/
def binaryOrder (num den : Nat) : Int :=
  let order : Int := (num.log2 : Int) - (den.log2 : Int)
  if num * Nat.pow 2 (-order).toNat < den * Nat.pow 2 order.toNat then order - 1 else order

/-- The magnitude nearest to `num / den`, unless that is beyond the greatest. -/
def nearest? (num den : Nat) : Option Magnitude :=
  if num = 0 then some .zero
  else
    let exponent := max (binaryOrder num den - 52) (-1074)
    let mantissa :=
      roundedQuotient (num * Nat.pow 2 (-exponent).toNat) (den * Nat.pow 2 exponent.toNat)
    let m : Magnitude :=
      if mantissa = Nat.pow 2 53 then ⟨Nat.pow 2 52, exponent + 1⟩ else ⟨mantissa, exponent⟩
    if 971 < m.exponent then none else some m

/-- The rounded product, unless it is beyond the greatest magnitude. -/
def Magnitude.mul? (a b : Magnitude) : Option Magnitude :=
  nearest? (a.ratio.1 * b.ratio.1) (a.ratio.2 * b.ratio.2)

/-- The rounded quotient, unless it is beyond the greatest magnitude. -/
def Magnitude.div? (a b : Magnitude) : Option Magnitude :=
  nearest? (a.ratio.1 * b.ratio.2) (a.ratio.2 * b.ratio.1)

/-- The magnitude nearest to `digits * 10 ^ power`, unless that is beyond the greatest. The power is
cut down to a range outside which every number of so many digits is too large or nearest to zero. -/
def nearestDecimal? (digits : Nat) (power : Int) : Option Magnitude :=
  let size : Int := (Nat.toDigits 10 digits).length
  if digits = 0 then some .zero
  else if 400 < power + size then none
  else if power + size < -400 then some .zero
  else nearest? (digits * Nat.pow 10 power.toNat) (.pow 10 (-power).toNat)

/-- A number of 64 bits. -/
inductive Binary64 where
  /-- A finite number. Zero has two signs. -/
  | finite (negative : Bool) (magnitude : Magnitude)
  /-- An infinity. -/
  | infinite (negative : Bool)
  /-- The value that is no number. -/
  | nan
deriving DecidableEq

end ValidatorGen.Decimal
