import TokenKeeper.Url.Percent

/-!
# Encoded structures

The tree of tagged values that keys and certificates are written in. Reading checks lengths and
the form of the values it knows; values of other tags are kept as they are.
-/

namespace TokenKeeper.Crypto

/-- A tagged value. -/
inductive Der
  | integer (bytes : List UInt8)
  | bitString (bytes : List UInt8)
  | octetString (bytes : List UInt8)
  | objectId (arcs : List Nat)
  | sequence (items : List Der)
  | set (items : List Der)
  /-- A value that is not looked into. -/
  | other (bytes : List UInt8)
  deriving Inhabited

namespace Der

/-- A number in groups of seven bits. -/
def readGroups (n : Nat) : List UInt8 → Option (Nat × List UInt8)
  | [] => none
  | b :: rest =>
    let m := n * 128 + b.toNat % 128
    if b.toNat < 128 then some (m, rest) else readGroups m rest

/-- The length of a value. -/
def readLength : List UInt8 → Option (Nat × List UInt8)
  | [] => none
  | b :: rest =>
    if b.toNat < 128 then some (b.toNat, rest)
    else
      let size := b.toNat - 128
      if 8 < size ∨ rest.length < size then none
      else some ((rest.take size).foldl (fun n b => n * 256 + b.toNat) 0, rest.drop size)

/-- The arcs after the first two. -/
def readArcs : (fuel : Nat) → List UInt8 → Option (List Nat)
  | _, [] => some []
  | 0, _ => none
  | fuel + 1, bytes => do
    let (n, rest) ← readGroups 0 bytes
    let arcs ← readArcs fuel rest
    return n :: arcs

/-- The arcs of an object id. The first byte holds two of them. -/
def readObjectId : List UInt8 → Option (List Nat)
  | [] => none
  | b :: rest => do
    let n := b.toNat
    let arcs ← readArcs rest.length rest
    return (if n < 40 then 0 else if n < 80 then 1 else 2) ::
      (if n < 40 then n else if n < 80 then n - 40 else n - 80) :: arcs

/-- The characters of the restricted text type. -/
def isPrintable (b : UInt8) : Bool :=
  let c := Char.ofNat b.toNat
  c.isAlphanum || " '()+,-./:=?".toList.contains c

/-- A value that holds no others, by the number of its tag. -/
def readPlain (tag : Nat) (body : List UInt8) : Option Der :=
  match tag with
  | 1 => if body.length = 1 then some (other body) else none
  | 2 => some (integer body)
  | 3 =>
    match body with
    | [] => some (bitString [])
    | unused :: bits => if bits.length * 8 < unused.toNat then none else some (bitString bits)
  | 4 => some (octetString body)
  | 6 => (readObjectId body).map objectId
  | 12 => if (Url.textOf? body).isSome then some (other body) else none
  | 19 => if body.all isPrintable then some (other body) else none
  | 20 => if (Url.textOf? body).isSome then some (other body) else none
  | 22 => if body.all (·.toNat < 128) then some (other body) else none
  | _ => some (other body)

/-- The values that some bytes hold one after the other; there has to be one at least. -/
def readAll : (fuel : Nat) → List UInt8 → Option (List Der)
  | _, [] => none
  | 0, _ => none
  | fuel + 1, b :: rest => do
    let low := b.toNat % 32
    let (tag, rest) ← if low = 31 then readGroups 0 rest else some (low, rest)
    let (length, rest) ← readLength rest
    if rest.length < length then none
    else
      let body := rest.take length
      let rest := rest.drop length
      let value ←
        if 64 ≤ b.toNat then some (other body)
        else if tag = 16 then (readAll fuel body).map sequence
        else if tag = 17 then (readAll fuel body).map set
        else readPlain tag body
      if rest.isEmpty then return [value]
      else
        let others ← readAll fuel rest
        return value :: others

/-- Reads values that fill the bytes. -/
def read? (bytes : List UInt8) : Option (List Der) := readAll (bytes.length + 1) bytes

mutual

/-- The first bit or octet string, looking into sequences. -/
def firstString? : Der → Option (List UInt8)
  | bitString b => some b
  | octetString b => some b
  | sequence items => firstStringOf? items
  | _ => none

def firstStringOf? : List Der → Option (List UInt8)
  | [] => none
  | d :: rest =>
    match firstString? d with
    | some b => some b
    | none => firstStringOf? rest

end

mutual

/-- The first object id of a list, looking into sequences. -/
def firstKnownId? (known : List (List Nat)) : Der → Option (List Nat)
  | objectId arcs => if known.contains arcs then some arcs else none
  | sequence items => firstKnownIdOf? known items
  | _ => none

def firstKnownIdOf? (known : List (List Nat)) : List Der → Option (List Nat)
  | [] => none
  | d :: rest =>
    match firstKnownId? known d with
    | some arcs => some arcs
    | none => firstKnownIdOf? known rest

end

end Der
end TokenKeeper.Crypto
