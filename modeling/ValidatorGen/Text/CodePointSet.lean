/-!
# Sets of code points

A set of code points is given by the ascending list of the points at which membership changes: the
first number is the first member, the second the first non-member after it, and so on. A look-up
stops at the first number beyond the point in question.

## Main definitions

* `CodePointSet.contains` — membership of a character
-/

namespace ValidatorGen.Text

/-- A set of code points, as the ascending list of the points at which membership changes. -/
structure CodePointSet where
  /-- The points at which membership changes. -/
  changes : List Nat

/-- Whether an odd number of the ascending `changes` is at most `n`. -/
def oddlyMany (n : Nat) : List Nat → Bool
  | [] => false
  | change :: changes => if n < change then false else !oddlyMany n changes

/-- Whether the set has the character `c` as a member. -/
def CodePointSet.contains (set : CodePointSet) (c : Char) : Bool :=
  oddlyMany c.toNat set.changes

@[simp] theorem oddlyMany_nil (n : Nat) : oddlyMany n [] = false := rfl

theorem oddlyMany_cons_of_lt {n change : Nat} (h : n < change) (changes : List Nat) :
    oddlyMany n (change :: changes) = false := by
  simp [oddlyMany, h]

theorem oddlyMany_cons_of_le {n change : Nat} (h : change ≤ n) (changes : List Nat) :
    oddlyMany n (change :: changes) = !oddlyMany n changes := by
  simp [oddlyMany, Nat.not_lt.mpr h]

end ValidatorGen.Text
