import TokenKeeper.Decimal.Shortest

/-!
# Floating-point numbers as text

Two ways to write a double-precision number, both with its shortest digits. The plain form never
has an exponent; the marked form always shows that the number is not whole by kind (`1.0`) and
takes an exponent for very large and very small numbers. The reader accepts the usual decimal
forms and rounds to the nearest number, ties to the even one.
-/

namespace TokenKeeper.Decimal

/-- Digits and power of ten without an exponent. -/
def positional (s : Scaled) : String :=
  let digits := (toString s.digits).toList
  let zeros (n : Nat) := List.replicate n '0'
  if 0 ≤ s.exponent then String.ofList (digits ++ zeros s.exponent.toNat)
  else
    let places := (-s.exponent).toNat
    let digits := zeros (places + 1 - digits.length) ++ digits
    let whole := digits.length - places
    String.ofList (digits.take whole ++ '.' :: digits.drop whole)

/-- One digit before the point, the others after it, and the power of ten after an `e`. -/
def scientific (s : Scaled) : String :=
  let digits := (toString s.digits).toList
  let exponent := s.exponent + (digits.length - 1 : Nat)
  let rest := digits.drop 1
  let point := if rest.isEmpty then [] else '.' :: rest
  String.ofList (digits.take 1 ++ point) ++ "e" ++ toString exponent

/-- The text of a number, with the given way to write a finite magnitude. -/
def withSign (finite : Scaled → String) (x : Float) : String :=
  let bits := x.toBits.toNat
  let sign := if negative bits then "-" else ""
  match shape bits with
  | .nan => "NaN"
  | .infinite => sign ++ "inf"
  | .finite m q boundary => sign ++ finite (shortest m q boundary)

/-- The plain form: `1`, `0.75`, `-0`, `inf`. -/
def plain (x : Float) : String := withSign positional x

/-- The marked form of a magnitude. Positional from `0.0001` up to below `10 ^ 16`. -/
def markedMagnitude (s : Scaled) : String :=
  let lead := s.exponent + ((toString s.digits).length : Nat)
  if s.digits ≠ 0 ∧ (lead ≤ -4 ∨ 16 < lead) then scientific s
  else if 0 ≤ s.exponent then positional s ++ ".0"
  else positional s

/-- The marked form: `1.0`, `0.75`, `1e-300`, `NaN`. -/
def marked (x : Float) : String := withSign markedMagnitude x

/-- The number nearest to `m * 10 ^ e`, without its sign. Far outside the range of the format
the answer needs no arithmetic. -/
def nearest (m : Nat) (e : Int) : Float :=
  let size := ((toString m).length : Int) + e
  if m = 0 ∨ size < -330 then 0.0
  else if 310 < size then Float.ofBits 0x7FF0000000000000
  else
    let (num, den) := ratio m 0 e
    let guess := (Nat.log2 num : Int) - Nat.log2 den - 52
    let fits (q : Int) : Bool :=
      let r := ratio num (-q) 0
      hiddenBit * (r.2 * den) ≤ r.1
    let q := if fits guess then guess else guess - 1
    let q := if q < -1074 then -1074 else q
    let r := ratio num (-q) 0
    let unit := r.2 * den
    let down := r.1 / unit
    let twice := 2 * (r.1 % unit)
    let mantissa := if unit < twice ∨ (unit = twice ∧ down % 2 = 1) then down + 1 else down
    let bits := (q + 1074).toNat * hiddenBit + mantissa
    Float.ofBits (Nat.min bits 0x7FF0000000000000).toUInt64

/-- The value of a run of digits. -/
def digitsValue (digits : List Char) : Nat :=
  digits.foldl (fun n c => 10 * n + (c.toNat - 48)) 0

/-- A sign in front, if there is one: whether it is a minus, and the rest. -/
def splitSign : List Char → Bool × List Char
  | '-' :: rest => (true, rest)
  | '+' :: rest => (false, rest)
  | rest => (false, rest)

/-- An exponent part, or nothing at all. -/
def readExponent : List Char → Option Int
  | [] => some 0
  | c :: rest =>
    if c = 'e' ∨ c = 'E' then
      let (minus, digits) := splitSign rest
      if digits.isEmpty ∨ !digits.all Char.isDigit then none
      else some (if minus then -(digitsValue digits : Int) else digitsValue digits)
    else none

/-- Digits with an optional point and exponent; at least one digit is needed. -/
def readMagnitude (cs : List Char) : Option Float :=
  let whole := cs.takeWhile Char.isDigit
  let rest := cs.dropWhile Char.isDigit
  let (part, rest) := match rest with
    | '.' :: rest => (rest.takeWhile Char.isDigit, rest.dropWhile Char.isDigit)
    | rest => ([], rest)
  if whole.isEmpty ∧ part.isEmpty then none
  else (readExponent rest).map fun e => nearest (digitsValue (whole ++ part)) (e - part.length)

/-- Reads a number: decimal forms, and `inf`, `infinity` and `nan` in any case. -/
def read? (s : String) : Option Float :=
  let (minus, cs) := splitSign s.toList
  let word := (String.ofList cs).toLower
  let size :=
    if word = "inf" ∨ word = "infinity" then some (Float.ofBits 0x7FF0000000000000)
    else if word = "nan" then some (Float.ofBits 0x7FF8000000000000)
    else readMagnitude cs
  size.map fun x => if minus then -x else x

end TokenKeeper.Decimal
