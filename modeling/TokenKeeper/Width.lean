/-!
# Widths of whole numbers

Where whole numbers of 32 and 64 bits end. The bounds themselves no longer fit.
-/

namespace TokenKeeper.Width

/-- One more than the largest number of 32 bits. -/
abbrev bound32 : Nat := 4294967296

/-- One more than the largest number of 64 bits. -/
abbrev bound64 : Nat := 18446744073709551616

/-- One more than the largest number of 64 bits with a sign; the smallest one is as far below
zero. -/
abbrev signedBound64 : Nat := 9223372036854775808

/-- Whether a number has 64 bits with a sign. -/
def isSigned64 (n : Int) : Bool := -(signedBound64 : Int) ≤ n && n < signedBound64

/-- The same number with a sign, if it has 64 bits with a sign. -/
def toSigned64? (n : Nat) : Option Int := if n < signedBound64 then some n else none

/-- What becomes of a sum that no longer fits its width. Which of the two it is depends on how the
library is built. -/
inductive Excess
  /-- The sum is checked, and there is no result. -/
  | panics
  /-- The sum starts again from zero. -/
  | wraps
  deriving DecidableEq, Repr

/-- What a sum of 64-bit numbers comes to. -/
def sum64? (excess : Excess) (a b : Nat) : Option Nat :=
  if a + b < bound64 then some (a + b)
  else match excess with
    | .panics => none
    | .wraps => some ((a + b) % bound64)

theorem sum64?_of_lt {excess : Excess} {a b : Nat} (fits : a + b < bound64) :
    sum64? excess a b = some (a + b) := if_pos fits

theorem toSigned64?_eq_some_iff {n : Nat} {m : Int} :
    toSigned64? n = some m ↔ n < 9223372036854775808 ∧ (n : Int) = m := by
  unfold toSigned64?
  split
  · rename_i fits
    simp only [Option.some.injEq, fits, true_and]
  · rename_i large
    simp only [reduceCtorEq, large, false_and]

theorem isSigned64_iff {n : Int} :
    isSigned64 n = true ↔ -9223372036854775808 ≤ n ∧ n < 9223372036854775808 := by
  simp [isSigned64]

end TokenKeeper.Width
