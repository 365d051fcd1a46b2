/-!
# Percent encoding

A byte is written as `%` and two hexadecimal digits. Which bytes are written so depends on the
part of an address that they stand in; all bytes beyond ASCII always are.
-/

namespace TokenKeeper.Url

/-- A hexadecimal digit in capitals. -/
def hexDigit (n : Nat) : Char := Char.ofNat (if n < 10 then 48 + n else 55 + n)

/-- The value of a hexadecimal digit of either case. -/
def hexValue? (c : Char) : Option Nat :=
  let n := c.toNat
  if 48 ≤ n ∧ n ≤ 57 then some (n - 48)
  else if 65 ≤ n ∧ n ≤ 70 then some (n - 55)
  else if 97 ≤ n ∧ n ≤ 102 then some (n - 87)
  else none

/-- The escape of a byte. -/
def escape (b : UInt8) : List Char := ['%', hexDigit (b.toNat / 16), hexDigit (b.toNat % 16)]

/-- The bytes of a text. -/
def bytesOf (cs : List Char) : List UInt8 := (String.ofList cs).toUTF8.data.toList

/-- The text of some bytes, if they are valid. -/
def textOf? (bytes : List UInt8) : Option String := String.fromUTF8? ⟨bytes.toArray⟩

/-- The bytes of a text are valid. -/
theorem textOf?_bytesOf (cs : List Char) : textOf? (bytesOf cs) = some (String.ofList cs) := by
  simp only [textOf?, bytesOf, String.fromUTF8?, Array.toArray_toList]
  exact dif_pos (String.ofList cs).isValidUTF8

/-- Escapes the characters of a set; those beyond ASCII byte by byte. -/
def encode (set : Char → Bool) (cs : List Char) : List Char :=
  cs.flatMap fun c => if 127 ≤ c.toNat || set c then (bytesOf [c]).flatMap escape else [c]

/-- Undoes escapes; a `%` that starts none stands for itself. -/
def decode : List UInt8 → List UInt8
  | [] => []
  | b :: x :: y :: rest =>
    if b = 37 then
      match hexValue? (Char.ofNat x.toNat), hexValue? (Char.ofNat y.toNat) with
      | some h, some l => UInt8.ofNat (16 * h + l) :: decode rest
      | _, _ => b :: decode (x :: y :: rest)
    else b :: decode (x :: y :: rest)
  | b :: rest => b :: decode rest

/-- Control characters. -/
def isControl (c : Char) : Bool := c.toNat < 32 || c.toNat = 127

/-- Escaped after `#`. -/
def fragmentSet (c : Char) : Bool := isControl c || c ∈ [' ', '"', '<', '>', '\x60']

/-- Escaped after `?`; a quote only where the scheme is one of the web. -/
def querySet (special : Bool) (c : Char) : Bool :=
  isControl c || c ∈ [' ', '"', '#', '<', '>'] || (special && c == '\x27')

/-- Escaped in a path. -/
def pathSet (c : Char) : Bool := fragmentSet c || c ∈ ['#', '?', '\x7b', '\x7d']

/-- Escaped in a user name or password. -/
def userSet (c : Char) : Bool :=
  pathSet c || c ∈ ['/', ':', ';', '=', '@', '[', '\\', ']', '^', '|']

end TokenKeeper.Url
