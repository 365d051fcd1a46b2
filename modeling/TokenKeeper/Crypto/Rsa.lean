import TokenKeeper.Crypto.Sha256

/-!
# Signing keys

A private key with its two primes, as it is read from bytes, the conditions under which it is
used, and the signature of a message. The encoding is checked strictly: minimal lengths, no
negative numbers and nothing left over.
-/

namespace TokenKeeper.Crypto

/-- A private key. -/
structure RsaKey where
  modulus : Nat
  publicExponent : Nat
  privateExponent : Nat
  firstPrime : Nat
  secondPrime : Nat
  firstExponent : Nat
  secondExponent : Nat
  coefficient : Nat
  deriving DecidableEq, Repr

/-- Why a key is not used. -/
inductive RsaFault
  | encoding
  | version
  | tooSmall
  | tooLarge
  | component
  | inconsistent
  | primeSize
  | unexpected
  deriving DecidableEq, Repr

namespace RsaFault

def message : RsaFault → String
  | encoding => "InvalidEncoding"
  | version => "VersionNotSupported"
  | tooSmall => "TooSmall"
  | tooLarge => "TooLarge"
  | component => "InvalidComponent"
  | inconsistent => "InconsistentComponents"
  | primeSize => "PrivateModulusLenNotMultipleOf512Bits"
  | unexpected => "UnexpectedError"

end RsaFault

namespace Rsa

/-- A number from its bytes, the highest first. -/
def ofBytes (bytes : List UInt8) : Nat := bytes.foldl (fun n b => n * 256 + b.toNat) 0

/-- The bytes of a number, the highest first. -/
def toBytes (size n : Nat) : List UInt8 :=
  (List.range size).map fun i => UInt8.ofNat (n / Nat.pow 256 (size - 1 - i) % 256)

/-- The number of binary digits. -/
def bits (n : Nat) : Nat := if n = 0 then 0 else Nat.log2 n + 1

/-! ## Reading -/

/-- The body of a value with this tag and what follows it. Lengths have their shortest form and
at most two bytes. -/
def readTagged (tag : UInt8) : List UInt8 → Option (List UInt8 × List UInt8)
  | t :: l :: rest =>
    let body (n : Nat) (rest : List UInt8) : Option (List UInt8 × List UInt8) :=
      if rest.length < n then none else some (rest.take n, rest.drop n)
    if t ≠ tag then none
    else if l.toNat < 128 then body l.toNat rest
    else match l.toNat, rest with
      | 0x81, a :: rest => if a.toNat < 128 then none else body a.toNat rest
      | 0x82, a :: b :: rest =>
        let n := a.toNat * 256 + b.toNat
        if n < 256 then none else body n rest
      | _, _ => none
  | _ => none

/-- A number that is not negative, in its shortest form. -/
def readNumber (bytes : List UInt8) : Option (Nat × List UInt8) := do
  let (body, rest) ← readTagged 2 bytes
  match body with
  | [] => none
  | a :: more =>
    if 128 ≤ a.toNat then none
    else match a, more with
      | 0, b :: _ => if b.toNat < 128 then none else some (ofBytes more, rest)
      | _, _ => some (ofBytes body, rest)

/-- So many numbers that fill the bytes. -/
def readNumbers : Nat → List UInt8 → Option (List Nat)
  | 0, bytes => if bytes.isEmpty then some [] else none
  | n + 1, bytes => do
    let (m, rest) ← readNumber bytes
    let others ← readNumbers n rest
    return m :: others

/-- Reads a key. -/
def read (bytes : List UInt8) : Except RsaFault RsaKey :=
  match readTagged 0x30 bytes with
  | none => .error .encoding
  | some (body, after) =>
    match readNumber body with
    | none => .error .encoding
    | some (version, rest) =>
      if 255 < version then .error .encoding
      else if version ≠ 0 then .error .version
      else match readNumbers 8 rest with
        | some [n, e, d, p, q, dp, dq, c] =>
          if after.isEmpty then .ok ⟨n, e, d, p, q, dp, dq, c⟩ else .error .encoding
        | _ => .error .encoding

/-! ## Conditions -/

/-- A modulus has a size that can be worked with, and is odd. -/
def checkModulus (n : Nat) : Except RsaFault Unit :=
  if 8192 < bits n then .error .tooLarge
  else if bits n ≤ 192 then .error .unexpected
  else if n % 2 = 0 then .error .component
  else .ok ()

def checkPublic (n e : Nat) : Except RsaFault Unit := do
  checkModulus n
  if (bits n + 7) / 8 * 8 < 2048 then throw .tooSmall
  if 4096 < bits n then throw .tooLarge
  if e = 0 then throw .encoding
  if 40 < bits e then throw .tooLarge
  if e < 65537 then throw .tooSmall
  if e % 2 = 0 then throw .component
  if 33 < bits e then throw .tooLarge

/-- A prime has half the digits of the modulus. -/
def checkPrime (n p : Nat) : Except RsaFault Unit := do
  checkModulus p
  if bits p ≠ (bits n + 1) / 2 then throw .inconsistent
  if bits p % 512 ≠ 0 then throw .primeSize

/-- Whether a key can be used, as far as its numbers tell. -/
def check (k : RsaKey) : Except RsaFault Unit := do
  checkPublic k.modulus k.publicExponent
  checkPrime k.modulus k.firstPrime
  checkPrime k.modulus k.secondPrime
  if k.firstPrime ≤ k.secondPrime then throw .inconsistent
  if k.firstPrime * k.secondPrime ≠ k.modulus then throw .inconsistent
  if k.privateExponent % 2 = 0 then throw .component
  if bits k.privateExponent ≤ (bits k.modulus + 1) / 2 then throw .inconsistent
  if k.modulus ≤ k.privateExponent then throw .inconsistent
  if k.firstPrime ≤ k.coefficient then throw .component
  if k.coefficient * k.secondPrime % k.firstPrime ≠ 1 then throw .inconsistent
  if k.firstPrime ≤ k.firstExponent ∨ k.firstExponent % 2 = 0 then throw .inconsistent
  if k.secondPrime ≤ k.secondExponent ∨ k.secondExponent % 2 = 0 then throw .inconsistent

/-! ## Signing -/

/-- `b ^ e` modulo `m`, by squaring. -/
def powMod (m : Nat) : (fuel : Nat) → (b e : Nat) → Nat
  | 0, _, _ => 1 % m
  | fuel + 1, b, e =>
    if e = 0 then 1 % m
    else
      let r := powMod m fuel (b * b % m) (e / 2)
      if e % 2 = 1 then r * b % m else r

/-- What stands in front of a digest to name its kind. -/
def digestMark : List UInt8 :=
  [0x30, 0x31, 0x30, 0x0d, 0x06, 0x09, 0x60, 0x86, 0x48, 0x01, 0x65, 0x03, 0x04, 0x02, 0x01, 0x05,
   0x00, 0x04, 0x20]

/-- The digest of a message, filled up to the size of the modulus. -/
def padded (size : Nat) (message : List UInt8) : List UInt8 :=
  let tail := 0 :: digestMark ++ Sha256.digest message
  0 :: 1 :: List.replicate (size - 2 - tail.length) 0xFF ++ tail

/-- The signature of a message. -/
def sign (k : RsaKey) (message : List UInt8) : List UInt8 :=
  let size := (bits k.modulus + 7) / 8
  let m := ofBytes (padded size message)
  toBytes size (powMod k.modulus (bits k.privateExponent) m k.privateExponent)

end Rsa
end TokenKeeper.Crypto
