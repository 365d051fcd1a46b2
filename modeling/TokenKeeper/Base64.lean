/-!
# Base 64

Three bytes are four digits of six bits. The two alphabets differ in the digits 62 and 63, and
a last group of one or two bytes may be filled up with `=` or left short. Reading is strict in
its digits and in the unused bits of the last one, which have to be zero.
-/

namespace TokenKeeper.Base64

/-- Which characters stand for 62 and 63. -/
inductive Alphabet
  /-- `+` and `/` -/
  | standard
  /-- `-` and `_` -/
  | urlSafe
  deriving DecidableEq, Repr

/-- The character of a digit below 64. -/
def digit (a : Alphabet) (n : Nat) : Char :=
  if n < 26 then Char.ofNat (65 + n)
  else if n < 52 then Char.ofNat (71 + n)
  else if n < 62 then Char.ofNat (n - 4)
  else match a with
    | .standard => if n = 62 then '+' else '/'
    | .urlSafe => if n = 62 then '-' else '_'

/-- The digit that a character stands for. -/
def digit? (a : Alphabet) (c : Char) : Option Nat :=
  let n := c.toNat
  if 65 ≤ n ∧ n ≤ 90 then some (n - 65)
  else if 97 ≤ n ∧ n ≤ 122 then some (n - 71)
  else if 48 ≤ n ∧ n ≤ 57 then some (n + 4)
  else match a with
    | .standard => if c = '+' then some 62 else if c = '/' then some 63 else none
    | .urlSafe => if c = '-' then some 62 else if c = '_' then some 63 else none

/-- The digits of some bytes; `padded` fills the last group up to four characters. -/
def encode (a : Alphabet) (padded : Bool) : List UInt8 → List Char
  | [] => []
  | [x] =>
    let n := x.toNat * 65536
    [digit a (n / 262144), digit a (n / 4096 % 64)] ++ if padded then ['=', '='] else []
  | [x, y] =>
    let n := x.toNat * 65536 + y.toNat * 256
    [digit a (n / 262144), digit a (n / 4096 % 64), digit a (n / 64 % 64)] ++
      if padded then ['='] else []
  | x :: y :: z :: rest =>
    let n := x.toNat * 65536 + y.toNat * 256 + z.toNat
    digit a (n / 262144) :: digit a (n / 4096 % 64) :: digit a (n / 64 % 64) ::
      digit a (n % 64) :: encode a padded rest

/-- The byte with this number. -/
def byte (n : Nat) : UInt8 := UInt8.ofNat n

/-- The bytes of a run of digits. A single digit left over is too short for a byte, and unused
bits have to be zero. -/
def bytes? : List Nat → Option (List UInt8)
  | [] => some []
  | [_] => none
  | [a, b] => if b % 16 = 0 then some [byte (a * 4 + b / 16)] else none
  | [a, b, c] =>
    if c % 4 = 0 then some [byte (a * 4 + b / 16), byte (b % 16 * 16 + c / 4)] else none
  | a :: b :: c :: d :: rest =>
    (bytes? rest).map fun tail =>
      byte (a * 4 + b / 16) :: byte (b % 16 * 16 + c / 4) :: byte (c % 4 * 64 + d) :: tail

/-- How many `=` stand at the end. -/
def padding (cs : List Char) : Nat := (cs.reverse.takeWhile (· == '=')).length

/-- How much padding may follow a number of digits. -/
inductive PaddingRule
  /-- Any part of what would fill the last group. -/
  | optional
  /-- Exactly what fills the last group. -/
  | required
  deriving DecidableEq, Repr

/-- Whether `pads` signs of padding may follow `digits` digits. -/
def PaddingRule.allows (rule : PaddingRule) (digits pads : Nat) : Bool :=
  let missing := (4 - digits % 4) % 4
  match rule with
  | optional => pads ≤ missing
  | required => pads = missing

/-- Reads digits and padding. -/
def decode? (a : Alphabet) (rule : PaddingRule) (cs : List Char) : Option (List UInt8) :=
  let pads := padding cs
  let body := cs.take (cs.length - pads)
  if rule.allows body.length pads then
    match body.mapM (digit? a) with
    | some digits => bytes? digits
    | none => none
  else none

/-! ## What is wrong with a text that cannot be read

Positions count bytes. All groups of four but the last must hold digits only; in the last group
padding may stand from its third place on. -/

/-- A fault in a text that should hold base 64. -/
inductive Fault
  | symbol (byte offset : Nat)
  | length (n : Nat)
  | lastSymbol (byte offset : Nat)
  | padding
  deriving DecidableEq, Repr

namespace Fault

def message : Fault → String
  | symbol byte offset =>
    "Invalid symbol " ++ toString byte ++ ", offset " ++ toString offset ++ "."
  | length n => "Invalid input length: " ++ toString n
  | lastSymbol byte offset =>
    "Invalid last symbol " ++ toString byte ++ ", offset " ++ toString offset ++ "."
  | padding => "Invalid padding"

end Fault

/-- Whether a byte is a digit. -/
def isDigit (a : Alphabet) (b : UInt8) : Bool := (digit? a (Char.ofNat b.toNat)).isSome

/-- The first byte that is no digit, with its offset. -/
def firstSymbol? (a : Alphabet) (offset : Nat) : List UInt8 → Option Fault
  | [] => none
  | b :: rest =>
    if isDigit a b then firstSymbol? a (offset + 1) rest else some (.symbol b.toNat offset)

/-- The fault in the symbols of the last group. `place` counts its places, `pad` is the place of
its first padding. -/
def lastGroupSymbol? (a : Alphabet) (start : Nat) (pad : Option Nat) (place : Nat) :
    List UInt8 → Option Fault
  | [] => none
  | b :: rest =>
    if b = 61 then
      if place < 2 then some (.symbol 61 (start + place))
      else lastGroupSymbol? a start (some (pad.getD place)) (place + 1) rest
    else match pad with
      | some p => some (.symbol 61 (start + p))
      | none =>
        if isDigit a b then lastGroupSymbol? a start none (place + 1) rest
        else some (.symbol b.toNat (start + place))

/-- The fault of a text that is not read; of several the one that is found first. -/
def fault (a : Alphabet) (rule : PaddingRule) (bytes : List UInt8) : Fault :=
  let left := bytes.length % 4
  let start := bytes.length - (if left = 0 then Nat.min 4 bytes.length else left)
  let last := bytes.drop start
  let digits := last.filter (· != 61)
  let pads := last.length - digits.length
  let trailing := match bytes.getLast? with
    | some b =>
      if left = 1 ∧ b ≠ 61 ∧ !isDigit a b then some (Fault.symbol b.toNat (bytes.length - 1))
      else none
    | none => none
  match trailing, firstSymbol? a 0 (bytes.take start), lastGroupSymbol? a start none 0 last with
  | some f, _, _ => f
  | none, some f, _ => f
  | none, none, some f => f
  | none, none, none =>
    if digits.length < 2 then .length (start + digits.length)
    else if rule = .required ∧ (digits.length + pads) % 4 ≠ 0 then .padding
    else match digits.getLast? with
      | some b => .lastSymbol b.toNat (start + digits.length - 1)
      | none => .padding

/-- Reads digits and padding, or says what is wrong with them. -/
def decode (a : Alphabet) (rule : PaddingRule) (cs : List Char) : Except Fault (List UInt8) :=
  match decode? a rule cs with
  | some bytes => .ok bytes
  | none => .error (fault a rule (String.ofList cs).toUTF8.data.toList)

end TokenKeeper.Base64
