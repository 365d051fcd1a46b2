/-!
# Shortest decimals

A double-precision number is written with the fewest digits that read back as the same number,
and among those with the ones nearest to it. The search is exact: a finite number is
`m * 2 ^ q`, the reals that round to it form an interval, and for 1, 2, ... 17 digits the two
neighbours of the number on that decimal grid are tested in whole-number arithmetic.
-/

namespace TokenKeeper.Decimal

/-- A decimal number `digits * 10 ^ exponent`. -/
structure Scaled where
  digits : Nat
  exponent : Int
  deriving DecidableEq, Repr

/-- What the bits of a double-precision number say. -/
inductive Shape
  | nan
  | infinite
  /-- `mantissa * 2 ^ exponent`; a `boundary` is the least mantissa of its exponent, below
  which the numbers lie twice as close. -/
  | finite (mantissa : Nat) (exponent : Int) (boundary : Bool)
  deriving DecidableEq, Repr

/-- The sign bit. -/
def negative (bits : Nat) : Bool := bits.testBit 63

/-- The bit in front of the stored ones of a mantissa: `2 ^ 52`. -/
abbrev hiddenBit : Nat := 4503599627370496

/-- The magnitude that the bits stand for. -/
def shape (bits : Nat) : Shape :=
  let exponent : Nat := bits / hiddenBit % 2048
  let fraction : Nat := bits % hiddenBit
  if exponent = 2047 then if fraction = 0 then .infinite else .nan
  else if exponent = 0 then .finite fraction (-1074) false
  else .finite (fraction + hiddenBit) ((exponent : Int) - 1075) (fraction = 0 && 1 < exponent)

/-- The ratio `value * 2 ^ two * 10 ^ ten` as a pair of natural numbers. -/
def ratio (value : Nat) (two ten : Int) : Nat × Nat :=
  (value * Nat.pow 2 two.toNat * Nat.pow 10 ten.toNat,
    Nat.pow 2 (-two).toNat * Nat.pow 10 (-ten).toNat)

/-- The number of digits before the point of `m * 2 ^ q`: the least `k` with a value below
`10 ^ k`, zero or negative for values below one. -/
def magnitude (m : Nat) (q : Int) : Int :=
  let guess := ((Nat.log2 m : Int) + q) * 30103 / 100000
  let below (k : Int) : Bool :=
    let r := ratio m q (-k)
    r.1 < r.2
  if below guess then guess else if below (guess + 1) then guess + 1 else guess + 2

/-- The nearer of the value's two neighbours on the grid of multiples of `10 ^ p`, if one of
them rounds to the value. Quarters of the last binary place keep the interval whole. -/
def onGrid? (m : Nat) (q : Int) (boundary : Bool) (p : Int) : Option Nat :=
  let two := q - 2
  let value := ratio (4 * m) two (-p)
  let low := (ratio (4 * m - if boundary then 1 else 2) two (-p)).1
  let high := (ratio (4 * m + 2) two (-p)).1
  let unit := value.2
  let inside (n : Nat) : Bool :=
    if m % 2 = 0 then low ≤ n * unit && n * unit ≤ high else low < n * unit && n * unit < high
  let down := value.1 / unit
  let up := down + 1
  match inside down, inside up with
  | true, true => some (if value.1 - down * unit < up * unit - value.1 then down else up)
  | true, false => some down
  | false, true => some up
  | false, false => none

/-- Takes zeros off the end of the digits. -/
def trim (fuel : Nat) (s : Scaled) : Scaled :=
  match fuel with
  | 0 => s
  | fuel + 1 =>
    if s.digits ≠ 0 ∧ s.digits % 10 = 0 then trim fuel ⟨s.digits / 10, s.exponent + 1⟩ else s

/-- The shortest decimal that rounds to `m * 2 ^ q`. -/
def shortest (m : Nat) (q : Int) (boundary : Bool) : Scaled :=
  if m = 0 then ⟨0, 0⟩
  else
    let k := magnitude m q
    let found := (List.range 17).findSome? fun n =>
      let p := k - (n + 1 : Nat)
      (onGrid? m q boundary p).map fun d => trim 20 ⟨d, p⟩
    found.getD ⟨0, 0⟩

end TokenKeeper.Decimal
