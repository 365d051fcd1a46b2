import TokenKeeper.Url.Percent

/-!
# Form encoding

Pairs of names and values as one line: `name=value`, joined by `&`. Letters, digits and `*-._`
stand for themselves, a space becomes `+`, and every other byte is escaped. Reading splits at
`&` and at the first `=` and undoes the encoding of both parts.
-/

namespace TokenKeeper.Url.Form

/-- The bytes that stand for themselves. -/
def isPlain (b : UInt8) : Bool :=
  let n := b.toNat
  (48 ≤ n && n ≤ 57) || (65 ≤ n && n ≤ 90) || (97 ≤ n && n ≤ 122) ||
    n = 42 || n = 45 || n = 46 || n = 95

/-- One byte of a name or a value. -/
def encodeByte (b : UInt8) : List Char :=
  if b = 32 then ['+'] else if isPlain b then [Char.ofNat b.toNat] else escape b

/-- A name or a value. -/
def encode (s : String) : List Char := (bytesOf s.toList).flatMap encodeByte

/-- One pair. -/
def encodePair (p : String × String) : List Char := encode p.1 ++ '=' :: encode p.2

/-- Pairs on one line. -/
def render : List (String × String) → List Char
  | [] => []
  | [p] => encodePair p
  | p :: rest => encodePair p ++ '&' :: render rest

/-- The parts between separators. -/
def splitOn (separator : Char) : List Char → List (List Char)
  | [] => [[]]
  | c :: rest =>
    if c = separator then [] :: splitOn separator rest
    else match splitOn separator rest with
      | [] => [[c]]
      | part :: parts => (c :: part) :: parts

/-- Undoes the encoding of a name or a value. -/
def decode? (cs : List Char) : Option String :=
  textOf? (Url.decode (bytesOf (cs.map fun c => if c = '+' then ' ' else c)))

/-- One pair; without `=` the value is empty. -/
def readPair? (cs : List Char) : Option (String × String) := do
  let name ← decode? (cs.takeWhile (· != '='))
  let value ← decode? ((cs.dropWhile (· != '=')).drop 1)
  return (name, value)

/-- Reads pairs; empty parts are passed over. -/
def read? (cs : List Char) : Option (List (String × String)) :=
  ((splitOn '&' cs).filter fun part => !part.isEmpty).mapM readPair?

end TokenKeeper.Url.Form
