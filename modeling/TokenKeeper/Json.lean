import TokenKeeper.Decimal.Text
import TokenKeeper.Width

/-!
# JSON

Values, the reader and the compact writer. Whole numbers of 64 bits are kept exactly, with or
without a sign; every other number is a double-precision one. An object keeps its members in
the order of the text, repeated names included; where one value is asked for, the last counts.
Nesting is limited to 127 levels.
-/

namespace TokenKeeper

/-- A JSON value. -/
inductive Json
  | null
  | boolean (b : Bool)
  /-- A whole number without a sign, below `2 ^ 64`. -/
  | natural (n : Nat)
  /-- A number below zero, at least `-2 ^ 63`. -/
  | negative (n : Int)
  /-- A number with a fraction or an exponent, or a whole one of more than 64 bits. -/
  | decimal (x : Float)
  | text (s : String)
  | array (items : List Json)
  | object (members : List (String × Json))
  deriving Inhabited

namespace Json

/-- A whole number, of 64 bits with a sign. -/
def ofInt (n : Int) : Json := if n < 0 then negative n else natural n.toNat

/-- The last member of this name. -/
def get? (j : Json) (name : String) : Option Json :=
  match j with
  | object members => (members.reverse.find? fun m => m.1 == name).map (·.2)
  | _ => none

def text? : Json → Option String
  | text s => some s
  | _ => none

/-- The members of these names, each at most once, in any order and among others; or the items of
an array of exactly as many. -/
def members? (j : Json) (names : List String) : Option (List (Option Json)) :=
  match j with
  | object members =>
    names.mapM fun n =>
      match members.filter fun m => m.1 == n with
      | [] => some none
      | [m] => some (some m.2)
      | _ => none
  | array items => if items.length = names.length then some (items.map some) else none
  | _ => none

mutual

/-- The value in which every object keeps only the last member of a name. -/
def distinct : Json → Json
  | array items => array (distinctItems items)
  | object members => object (distinctMembers members)
  | j => j

def distinctItems : List Json → List Json
  | [] => []
  | j :: rest => j.distinct :: distinctItems rest

def distinctMembers : List (String × Json) → List (String × Json)
  | [] => []
  | (name, j) :: rest =>
    if rest.any fun m => m.1 == name then distinctMembers rest
    else (name, j.distinct) :: distinctMembers rest

end

/-! ## Reading -/

/-- A reader takes what it needs off the front and leaves the rest. -/
abbrev Reader (α : Type) := List Char → Option (α × List Char)

/-- What a value is read for. -/
inductive Purpose
  | value
  /-- To find its end. Its nesting is not limited then, and neither the size of a number nor what
  an escape stands for matters. -/
  | extent
  deriving DecidableEq, Repr

def isBlank (c : Char) : Bool := c == ' ' || c == '\n' || c == '\t' || c == '\r'

def skipBlank (cs : List Char) : List Char := cs.dropWhile isBlank

/-- A whole number with the sign already read. -/
def ofSigned (minus : Bool) (n : Nat) : Json :=
  if minus then
    if n = 0 ∨ Width.signedBound64 < n then decimal (-((UInt64.ofNat n).toFloat))
    else negative (-n)
  else natural n

/-- `10 ^ n` for `n` up to 308. -/
def powerOfTen (n : Nat) : Float := Decimal.nearest 1 n

/-- `m * 10 ^ e`, by at most three roundings: of `m`, of the power, of the product or quotient.
Numbers below `10 ^ -308` take two quotients; a result beyond the range is refused. -/
def scale (m : Nat) (e : Int) : Option Float :=
  let x := (UInt64.ofNat m).toFloat
  if m = 0 then some 0.0
  else if 0 ≤ e then
    if 308 < e then none
    else
      let y := x * powerOfTen e.toNat
      if y.isInf then none else some y
  else if e < -900 then some 0.0
  else if e < -616 then some (x / powerOfTen 308 / powerOfTen 308 / powerOfTen (-e - 616).toNat)
  else if e < -308 then some (x / powerOfTen 308 / powerOfTen (-e - 308).toNat)
  else some (x / powerOfTen (-e).toNat)

/-- Adds a digit to a 64-bit number if it fits and all before it did. The number comes with how many
digits were added and how many were passed over. -/
def takeDigit (s : Nat × Nat × Nat) (c : Char) : Nat × Nat × Nat :=
  let m := s.1 * 10 + (c.toNat - 48)
  if s.2.2 = 0 ∧ m < Width.bound64 then (m, s.2.1 + 1, 0) else (s.1, s.2.1, s.2.2 + 1)

/-- Adds digits to a 64-bit number as long as they fit. -/
def takeDigits (n : Nat) (digits : List Char) : Nat × Nat × Nat :=
  digits.foldl takeDigit (n, 0, 0)

/-- An exponent after the letter; its size is cut at 31 bits. -/
def readExponent : Reader Int := fun cs =>
  let (minus, cs) := Decimal.splitSign cs
  let digits := cs.takeWhile Char.isDigit
  if digits.isEmpty then none
  else
    let size := Nat.min (Decimal.digitsValue digits) 2147483647
    some (if minus then -(size : Int) else size, cs.dropWhile Char.isDigit)

/-- A number that is not whole or too long, from its digits and its power of ten. -/
def ofScaled (p : Purpose) (minus : Bool) (m : Nat) (e : Int) (rest : List Char) :
    Option (Json × List Char) :=
  match p with
  | .value => (scale m e).map fun x => (decimal (if minus then -x else x), rest)
  | .extent => some (null, rest)

/-- The end of such a number: an exponent or nothing more. -/
def readScaled (p : Purpose) (minus : Bool) (m : Nat) (e : Int) : Reader Json
  | [] => ofScaled p minus m e []
  | c :: rest =>
    if c = 'e' ∨ c = 'E' then (readExponent rest).bind fun r => ofScaled p minus m (e + r.1) r.2
    else ofScaled p minus m e (c :: rest)

/-- What follows the digits in front of the point, of which `n` was made and `dropped` were passed
over. -/
def readRest (p : Purpose) (minus : Bool) (n dropped : Nat) : Reader Json
  | [] => if dropped ≠ 0 then ofScaled p minus n dropped [] else some (ofSigned minus n, [])
  | c :: rest =>
    if c = '.' then
      let part := rest.takeWhile Char.isDigit
      if part.isEmpty then none
      else
        let (m, added, _) := takeDigits n part
        readScaled p minus m ((dropped : Int) - added) (rest.dropWhile Char.isDigit)
    else if c = 'e' ∨ c = 'E' ∨ dropped ≠ 0 then readScaled p minus n dropped (c :: rest)
    else some (ofSigned minus n, c :: rest)

/-- A number, after its sign. -/
def readNumber (p : Purpose) (minus : Bool) : Reader Json := fun cs =>
  let whole := cs.takeWhile Char.isDigit
  if whole.isEmpty ∨ (whole.head? = some '0' ∧ 1 < whole.length) then none
  else
    let (n, _, dropped) := takeDigits 0 whole
    readRest p minus n dropped (cs.dropWhile Char.isDigit)

/-- The value of a hexadecimal digit. -/
def hexDigit? (c : Char) : Option Nat :=
  if c.isDigit then some (c.toNat - 48)
  else if 'a' ≤ c ∧ c ≤ 'f' then some (c.toNat - 87)
  else if 'A' ≤ c ∧ c ≤ 'F' then some (c.toNat - 55)
  else none

/-- Four hexadecimal digits. -/
def readUnit : Reader Nat
  | a :: b :: c :: d :: rest => do
    let a ← hexDigit? a
    let b ← hexDigit? b
    let c ← hexDigit? c
    let d ← hexDigit? d
    some (a * 4096 + b * 256 + c * 16 + d, rest)
  | _ => none

/-- The characters that stand for themselves or another one after a backslash. -/
def simpleEscape? : Char → Option Char
  | '"' => some '"'
  | '\\' => some '\\'
  | '/' => some '/'
  | 'b' => some '\x08'
  | 'f' => some '\x0c'
  | 'n' => some '\n'
  | 'r' => some '\r'
  | 't' => some '\t'
  | _ => none

/-- A character given by one or two units; a lone half of a pair is refused if the character
counts. -/
def readEscapedUnit (p : Purpose) : Reader Char := fun cs => do
  let (u, rest) ← readUnit cs
  if p = .extent then some (' ', rest)
  else if 0xDC00 ≤ u ∧ u ≤ 0xDFFF then none
  else if 0xD800 ≤ u ∧ u ≤ 0xDBFF then
    match rest with
    | '\\' :: 'u' :: rest =>
      let (v, rest) ← readUnit rest
      if 0xDC00 ≤ v ∧ v ≤ 0xDFFF then
        some (Char.ofNat (0x10000 + (u - 0xD800) * 1024 + (v - 0xDC00)), rest)
      else none
    | _ => none
  else some (Char.ofNat u, rest)

/-- The rest of a string after its opening quote. `found` holds what was read, last first. -/
def readString (p : Purpose) (fuel : Nat) (found : List Char) (cs : List Char) :
    Option (String × List Char) :=
  match fuel with
  | 0 => none
  | fuel + 1 =>
    match cs with
    | [] => none
    | '"' :: rest => some (String.ofList found.reverse, rest)
    | '\\' :: 'u' :: rest => do
      let (c, rest) ← readEscapedUnit p rest
      readString p fuel (c :: found) rest
    | '\\' :: c :: rest => do
      let c ← simpleEscape? c
      readString p fuel (c :: found) rest
    | c :: rest => if c.toNat < 32 ∨ c = '\\' then none else readString p fuel (c :: found) rest

/-- The name of a member with its colon. -/
def readName (p : Purpose) : Reader String := fun cs =>
  match skipBlank cs with
  | '"' :: rest => do
    let (name, rest) ← readString p (rest.length + 1) [] rest
    match skipBlank rest with
    | ':' :: rest => some (name, rest)
    | _ => none
  | _ => none

/-- What an opening bracket begins: `empty` if the closing one follows at once, else what `filled`
reads. -/
def readUpTo (close : Char) (empty : Json) (filled : Reader Json) : Reader Json := fun cs =>
  match skipBlank cs with
  | [] => none
  | c :: rest => if c = close then some (empty, rest) else filled (c :: rest)

/-- What follows an item: a comma and what `next` reads, or the closing bracket of the `whole`. -/
def readNext (close : Char) (whole : Json) (next : Reader Json) : Reader Json := fun cs =>
  match skipBlank cs with
  | [] => none
  | c :: rest => if c = ',' then next rest else if c = close then some (whole, rest) else none

mutual

/-- A value. `fuel` bounds the work and `depth` the nesting that is left. -/
def readValue (p : Purpose) (fuel depth : Nat) (cs : List Char) : Option (Json × List Char) :=
  match fuel with
  | 0 => none
  | fuel + 1 =>
    match skipBlank cs with
    | 'n' :: 'u' :: 'l' :: 'l' :: rest => some (null, rest)
    | 't' :: 'r' :: 'u' :: 'e' :: rest => some (boolean true, rest)
    | 'f' :: 'a' :: 'l' :: 's' :: 'e' :: rest => some (boolean false, rest)
    | '"' :: rest => (readString p (rest.length + 1) [] rest).map fun r => (text r.1, r.2)
    | '-' :: rest => readNumber p true rest
    | '[' :: rest =>
      if p = .value ∧ depth ≤ 1 then none
      else readUpTo ']' (array []) (readItems p fuel (depth - 1) []) rest
    | '\x7b' :: rest =>
      if p = .value ∧ depth ≤ 1 then none
      else readUpTo '\x7d' (object []) (readMembers p (fun _ => p) fuel (depth - 1) []) rest
    | rest => readNumber p false rest

/-- The items of an array, from one item to the closing bracket. -/
def readItems (p : Purpose) (fuel depth : Nat) (found : List Json) (cs : List Char) :
    Option (Json × List Char) :=
  match fuel with
  | 0 => none
  | fuel + 1 => do
    let (item, rest) ← readValue p fuel depth cs
    let found := item :: found
    readNext ']' (array found.reverse) (readItems p fuel depth found) rest

/-- The members of an object, from one name to the closing brace. Names are read for `p`, and the
value of a member for what `q` says of its name. -/
def readMembers (p : Purpose) (q : String → Purpose) (fuel depth : Nat)
    (found : List (String × Json)) (cs : List Char) : Option (Json × List Char) :=
  match fuel with
  | 0 => none
  | fuel + 1 => do
    let (name, rest) ← readName p cs
    let (item, rest) ← readValue (q name) fuel depth rest
    let found := (name, item) :: found
    readNext '\x7d' (object found.reverse) (readMembers p q fuel depth found) rest

end

/-- A value behind which there is nothing but blanks. -/
def alone : Json × List Char → Option Json
  | (j, rest) => if (skipBlank rest).isEmpty then some j else none

/-- Reads one value that fills the whole text. -/
def ofChars? (cs : List Char) : Option Json :=
  (readValue .value (2 * cs.length + 2) 128 cs).bind alone

/-- Reads one value that fills the whole text. -/
def ofText? (s : String) : Option Json := ofChars? s.toList

/-- Reads one value from bytes, which have to be valid as text. -/
def ofBytes? (bytes : List UInt8) : Option Json :=
  (String.fromUTF8? ⟨bytes.toArray⟩).bind ofText?

/-- What the members of a record are read for of which only some names matter. -/
def purposeAmong (names : List String) (name : String) : Purpose :=
  if name ∈ names then .value else .extent

/-- Reads the one object that fills the whole text for the members of some names; the other
members are only passed over. -/
def ofRecord? (names : List String) (cs : List Char) : Option Json :=
  match skipBlank cs with
  | '\x7b' :: rest =>
    let members := readMembers .value (purposeAmong names) (2 * cs.length + 2) 127 []
    (readUpTo '\x7d' (object []) members rest).bind alone
  | _ => ofChars? cs

/-- The members of these names in the record that fills the whole text. -/
def membersOfText? (names : List String) (s : String) : Option (List (Option Json)) :=
  (ofRecord? names s.toList).bind fun j => j.members? names

/-- The members of these names in the record that fills the bytes. -/
def membersOfBytes? (names : List String) (bytes : List UInt8) : Option (List (Option Json)) :=
  (String.fromUTF8? ⟨bytes.toArray⟩).bind (membersOfText? names)

/-! ## Writing -/

/-- Two hexadecimal digits for a control character. -/
def controlDigits (n : Nat) : List Char := [Nat.digitChar (n / 16), Nat.digitChar (n % 16)]

/-- One character of a string. -/
def escaped (c : Char) : List Char :=
  match c with
  | '"' => ['\\', '"']
  | '\\' => ['\\', '\\']
  | '\x08' => ['\\', 'b']
  | '\x0c' => ['\\', 'f']
  | '\n' => ['\\', 'n']
  | '\r' => ['\\', 'r']
  | '\t' => ['\\', 't']
  | c => if c.toNat < 32 then ['\\', 'u', '0', '0'] ++ controlDigits c.toNat else [c]

/-- A string in quotes. -/
def quote (s : String) : String := "\"" ++ String.ofList (s.toList.flatMap escaped) ++ "\""

mutual

/-- The value without blanks. -/
def render : Json → String
  | null => "null"
  | boolean b => if b then "true" else "false"
  | natural n => toString n
  | negative n => toString n
  | decimal x => Decimal.marked x
  | text s => quote s
  | array items => "[" ++ String.intercalate "," (renderItems items) ++ "]"
  | object members => "\x7b" ++ String.intercalate "," (renderMembers members) ++ "\x7d"

def renderItems : List Json → List String
  | [] => []
  | j :: rest => render j :: renderItems rest

def renderMembers : List (String × Json) → List String
  | [] => []
  | (name, j) :: rest => (quote name ++ ":" ++ render j) :: renderMembers rest

end

end Json
end TokenKeeper
