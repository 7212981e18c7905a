import ValidatorGen.Decimal.Binary64

/-!
# The shortest decimal of a binary number

Every real number between two midpoints rounds to the same magnitude. Of the decimals in that
interval, those with the fewest digits are the shortest names of the magnitude, and of these the
nearest is chosen. Two may be equally near; which of them is then chosen is a matter of the
notation. The ends of the interval belong to it if the mantissa is even. For each number of digits
it is enough to try the two neighbours of the magnitude on the grid of such decimals.

## Main definitions

* `Tie` — the choice between two decimals that are equally near
* `Scientific` — a decimal as digits and the exponent of the first of them
* `shortest` — the shortest decimal that is read back as a given magnitude
* `Scientific.positional` — the decimal without an exponent
* `Scientific.exponential` — the decimal with an exponent
-/

namespace ValidatorGen.Decimal

/-- A decimal number: its digits without zeros at the end, and the power of ten of the first. -/
structure Scientific where
  /-- The digits. -/
  digits : List Char
  /-- The power of ten of the first digit. -/
  exponent : Int
deriving DecidableEq

/-- The choice between two neighbours on a grid that are equally near. -/
inductive Tie where
  /-- The one with an even last digit. -/
  | even
  /-- The greater one. -/
  | up
deriving DecidableEq

/-- Whether the choice between `k` and `k + 1` falls on the greater. -/
def Tie.isUp (tie : Tie) (k : Nat) : Bool :=
  match tie with
  | .even => k % 2 = 1
  | .up => true

/-- The numbers that round to a magnitude, in units of a quarter of its last place. -/
structure Interval where
  /-- The magnitude. -/
  middle : Nat
  /-- The least number, or the bound below. -/
  low : Nat
  /-- The greatest number, or the bound above. -/
  high : Nat
  /-- Whether the bounds belong to the interval. -/
  closed : Bool
  /-- The exponent of two of the unit. -/
  exponent : Int

/-- The numbers that round to `m`. Below a power of two the next magnitude is only half as far. -/
def Magnitude.interval (m : Magnitude) : Interval where
  middle := 4 * m.mantissa
  low := 4 * m.mantissa - (if m.mantissa = Nat.pow 2 52 ∧ -1074 < m.exponent then 1 else 2)
  high := 4 * m.mantissa + 2
  closed := m.mantissa % 2 = 0
  exponent := m.exponent - 2

/-- Two factors that bring multiples of `10 ^ power` and of the interval's unit to one measure. -/
def Interval.scales (i : Interval) (power : Int) : Nat × Nat :=
  (Nat.pow 10 power.toNat * Nat.pow 2 (-i.exponent).toNat,
    Nat.pow 2 i.exponent.toNat * Nat.pow 10 (-power).toNat)

/-- Whether `k * 10 ^ power` lies in the interval. -/
def Interval.contains (i : Interval) (power : Int) (k : Nat) : Bool :=
  let (tens, units) := i.scales power
  if i.closed then i.low * units ≤ k * tens && k * tens ≤ i.high * units
  else i.low * units < k * tens && k * tens < i.high * units

/-- The multiple of `10 ^ power` in the interval that is nearest to its middle, if there is one. -/
def Interval.nearest? (i : Interval) (tie : Tie) (power : Int) : Option Nat :=
  let (tens, units) := i.scales power
  let k := i.middle * units / tens
  let below := i.contains power k
  let above := i.contains power (k + 1)
  let halfway := (2 * k + 1) * tens
  let closerAbove := halfway < 2 * (i.middle * units) ||
    (halfway = 2 * (i.middle * units) && tie.isUp k)
  if above && (closerAbove || !below) then some (k + 1) else if below then some k else none

/-- The greatest power of ten, from `power` down, that is at most the middle of the interval. -/
def Interval.leading (i : Interval) : Nat → Int → Int
  | 0, power => power
  | fuel + 1, power =>
    let (tens, units) := i.scales power
    if tens ≤ i.middle * units then power else i.leading fuel (power - 1)

/-- The decimal with the fewest digits in the interval, when its first digit stands at `10 ^ lead`
and at least `count` digits are needed. -/
def Interval.shortest (i : Interval) (tie : Tie) (lead : Int) : Nat → Nat → Nat × Int
  | 0, count => (0, lead - count)
  | fuel + 1, count =>
    let power := lead - count + 1
    match i.nearest? tie power with
    | some k => (k, power)
    | none => i.shortest tie lead fuel (count + 1)

/-- The number `k * 10 ^ power` with its digits laid out. -/
def Scientific.ofMultiple (k : Nat) (power : Int) : Scientific :=
  let digits := Nat.toDigits 10 k
  let kept := (digits.reverse.dropWhile (· = '0')).reverse
  ⟨if kept.isEmpty then ['0'] else kept, power + digits.length - 1⟩

/-- The shortest decimal that is read back as `m`. Seventeen digits are always enough. -/
def shortest (tie : Tie) (m : Magnitude) : Scientific :=
  if m.mantissa = 0 then ⟨['0'], 0⟩
  else
    let i := m.interval
    let (k, power) := i.shortest tie (i.leading 640 309) 17 1
    .ofMultiple k power

/-- The decimal in positional notation, with at least one digit on each side of the point. -/
def Scientific.positional (s : Scientific) : List Char :=
  let whole := (s.exponent + 1).toNat
  let digits := List.replicate (-s.exponent).toNat '0' ++ s.digits
  if s.exponent < 0 then ['0', '.'] ++ digits.drop 1
  else
    let padded := digits ++ List.replicate (whole - digits.length) '0'
    padded.take whole ++ ['.'] ++ (if digits.length ≤ whole then ['0'] else padded.drop whole)

/-- The decimal with one digit before the point, no point if nothing follows it, and a signed
exponent. -/
def Scientific.exponential (s : Scientific) : List Char :=
  let rest := s.digits.drop 1
  s.digits.take 1 ++ (if rest.isEmpty then [] else '.' :: rest) ++
    ['e', if s.exponent < 0 then '-' else '+'] ++ Nat.toDigits 10 s.exponent.natAbs

end ValidatorGen.Decimal
