import TokenKeeper.Url.Percent

/-!
# Hosts

The host of an address is a name, an address of four or of sixteen bytes, or, for schemes that
are not of the web, text that is kept as it is. Names of the web are in lower case and in ASCII;
labels with other characters are written in their encoded form, without mapping characters that
look alike.
-/

namespace TokenKeeper.Url

inductive Host
  | name (s : String)
  | four (address : Nat)
  | sixteen (pieces : List Nat)
  deriving DecidableEq, Repr

namespace Host

/-! ## Labels beyond ASCII -/

/-- A digit of the encoded form. -/
def labelDigit (n : Nat) : Char := Char.ofNat (if n < 26 then 97 + n else 22 + n)

/-- How the bias follows the size of the last step. -/
def adapt (delta points : Nat) (first : Bool) : Nat :=
  let delta := if first then delta / 700 else delta / 2
  let delta := delta + delta / points
  let rec shrink : Nat → Nat → Nat → Nat
    | 0, _, k => k
    | fuel + 1, delta, k =>
      if 455 < delta then shrink fuel (delta / 35) (k + 36) else k + 36 * delta / (delta + 38)
  shrink 64 delta 0

/-- A number in digits whose thresholds depend on the bias. -/
def stepDigits : (fuel k bias q : Nat) → List Char
  | 0, _, _, _ => []
  | fuel + 1, k, bias, q =>
    let t := if k ≤ bias then 1 else if bias + 26 ≤ k then 26 else k - bias
    if q < t then [labelDigit q]
    else labelDigit (t + (q - t) % (36 - t)) :: stepDigits fuel (k + 36) bias ((q - t) / (36 - t))

/-- What is written so far, and how the next step is counted. -/
structure LabelState where
  delta : Nat := 0
  bias : Nat := 72
  handled : Nat
  written : List Char

/-- Writes all occurrences of the character `m`. -/
def encodePoint (basic m : Nat) (s : LabelState) (label : List Char) : LabelState :=
  label.foldl (fun s c =>
    let n := c.toNat
    if n < m then { s with delta := s.delta + 1 }
    else if n = m then
      { delta := 0
        bias := adapt s.delta (s.handled + 1) (s.handled == basic)
        handled := s.handled + 1
        written := s.written ++ stepDigits 64 36 s.bias s.delta }
    else s) s

/-- The encoded form of a label, after its marker. -/
def encodeLabel (label : List Char) : List Char :=
  let basic := label.filter fun c => c.toNat < 128
  let others := ((label.filter fun c => 128 ≤ c.toNat).map Char.toNat).mergeSort.eraseDups
  let start : LabelState :=
    { handled := basic.length, written := if basic.isEmpty then [] else basic ++ ['-'] }
  let result := others.foldl (fun (s : LabelState × Nat) m =>
    let before := { s.1 with delta := s.1.delta + (m - s.2) * (s.1.handled + 1) }
    let after := encodePoint basic.length m before label
    ({ after with delta := after.delta + 1 }, m + 1)) (start, 128)
  result.1.written

/-- A label in ASCII. -/
def asciiLabel (label : List Char) : List Char :=
  if label.all fun c => c.toNat < 128 then label else "xn--".toList ++ encodeLabel label

/-- Labels of a name. -/
def labels (cs : List Char) : List (List Char) :=
  cs.foldr (fun c parts =>
    if c = '.' then [] :: parts
    else match parts with
      | [] => [[c]]
      | p :: rest => (c :: p) :: rest) [[]]

/-! ## Addresses of four bytes -/

/-- A number in decimal, octal after `0`, or hexadecimal after `0x`. -/
def number? (cs : List Char) : Option Nat :=
  let inBase (base : Nat) (cs : List Char) : Option Nat :=
    cs.foldlM (fun n c => do
      let d ← hexValue? c
      if d < base then some (n * base + d) else none) 0
  match cs with
  | [] => none
  | '0' :: 'x' :: rest => inBase 16 rest
  | '0' :: 'X' :: rest => inBase 16 rest
  | '0' :: d :: rest => inBase 8 (d :: rest)
  | cs => inBase 10 cs

/-- The labels without an empty one at the end. -/
def significant (parts : List (List Char)) : List (List Char) :=
  if 1 < parts.length ∧ parts.getLast? = some [] then parts.dropLast else parts

/-- Whether a name has to be read as an address because its last label is a number. -/
def endsInNumber (cs : List Char) : Bool :=
  match (significant (labels cs)).getLast? with
  | some last =>
    (!last.isEmpty && last.all Char.isDigit) ||
      (match last with
        | '0' :: 'x' :: _ => (number? last).isSome
        | '0' :: 'X' :: _ => (number? last).isSome
        | _ => false)
  | none => false

/-- An address of four bytes; the last number fills the bytes that are left. -/
def four? (cs : List Char) : Option Nat := do
  let parts := significant (labels cs)
  if 4 < parts.length then none
  else
    let numbers ← parts.mapM number?
    let last ← numbers.getLast?
    let front := numbers.dropLast
    if front.any (255 < ·) ∨ Nat.pow 256 (5 - numbers.length) ≤ last then none
    else some (front.zipIdx.foldl (fun n r => n + r.1 * Nat.pow 256 (3 - r.2)) last)

/-! ## Addresses of sixteen bytes -/

/-- The last two pieces, given as an address of four decimal bytes. -/
def tail? (cs : List Char) : Option (List Nat) := do
  let parts := labels cs
  let numbers ← parts.mapM fun p =>
    if p.isEmpty ∨ !p.all Char.isDigit ∨ (p.head? = some '0' ∧ 1 < p.length) then none
    else (number? p).bind fun n => if n ≤ 255 then some n else none
  match numbers with
  | [a, b, c, d] => some [a * 256 + b, c * 256 + d]
  | _ => none

/-- Pieces between colons; an empty text has none. -/
def pieces? (cs : List Char) : Option (List Nat) :=
  if cs.isEmpty then some []
  else
    let parts := cs.foldr (fun c parts =>
      if c = ':' then [] :: parts
      else match parts with
        | [] => [[c]]
        | p :: rest => (c :: p) :: rest) [[]]
    let rec read : List (List Char) → Option (List Nat)
      | [] => some []
      | [p] =>
        if p.contains '.' then tail? p
        else if p.isEmpty ∨ 4 < p.length then none
        else (p.foldlM (fun n c => (hexValue? c).map (n * 16 + ·)) 0).map ([·])
      | p :: rest =>
        if p.isEmpty ∨ 4 < p.length then none
        else do
          let n ← p.foldlM (fun n c => (hexValue? c).map (n * 16 + ·)) 0
          let others ← read rest
          some (n :: others)
    read parts

/-- Splits at the first double colon. -/
def splitGap : List Char → Option (List Char × List Char)
  | [] => none
  | ':' :: ':' :: rest => some ([], rest)
  | c :: rest => (splitGap rest).map fun r => (c :: r.1, r.2)

/-- An address of sixteen bytes; a double colon stands for at least one zero piece. -/
def sixteen? (cs : List Char) : Option (List Nat) :=
  match splitGap cs with
  | none => (pieces? cs).bind fun ps => if ps.length = 8 then some ps else none
  | some (front, back) => do
    let a ← pieces? front
    let b ← pieces? back
    if a.length + b.length ≤ 7 then
      some (a ++ List.replicate (8 - a.length - b.length) 0 ++ b)
    else none

/-- Where the longest run of at least two zero pieces starts, and its length. -/
def longestGap (ps : List Nat) : Option (Nat × Nat) :=
  let runs := (List.range ps.length).map fun i => (i, ((ps.drop i).takeWhile (· == 0)).length)
  let best := runs.foldl (fun b r => if b.2 < r.2 then r else b) (0, 1)
  if 1 < best.2 then some best else none

def pieceText (ps : List Nat) : String :=
  String.intercalate ":" (ps.map fun n => String.ofList (Nat.toDigits 16 n))

def text : Host → String
  | name s => s
  | four n =>
    String.intercalate "." ([n / 16777216, n / 65536 % 256, n / 256 % 256, n % 256].map toString)
  | sixteen ps =>
    match longestGap ps with
    | none => "[" ++ pieceText ps ++ "]"
    | some (i, n) => "[" ++ pieceText (ps.take i) ++ "::" ++ pieceText (ps.drop (i + n)) ++ "]"

/-! ## Reading -/

/-- Characters that no host holds. -/
def isForbidden (c : Char) : Bool :=
  c ∈ ['\x00', '\t', '\n', '\r', ' ', '#', '/', ':', '<', '>', '?', '@', '[', '\\', ']', '^', '|']

/-- Characters that no name of the web holds. -/
def isForbiddenInName (c : Char) : Bool := isForbidden c || isControl c || c == '%'

/-- A host in brackets. -/
def bracketed? (cs : List Char) : Option Host :=
  match cs.reverse with
  | ']' :: inner => (sixteen? inner.reverse).map .sixteen
  | _ => none

/-- A host of the web: a name or an address. -/
def ofWeb? (cs : List Char) : Option Host :=
  match cs with
  | '[' :: rest => bracketed? rest
  | cs => do
    let plain ← textOf? (decode (bytesOf cs))
    let lower := plain.toList.map Char.toLower
    let ascii := String.intercalate "." ((labels lower).map fun l => String.ofList (asciiLabel l))
    if ascii.isEmpty ∨ ascii.toList.any isForbiddenInName then none
    else if endsInNumber ascii.toList then (four? ascii.toList).map .four
    else some (.name ascii)

/-- Any other host is kept, with what cannot be shown escaped. -/
def ofOther? (cs : List Char) : Option Host :=
  match cs with
  | '[' :: rest => bracketed? rest
  | cs =>
    if cs.any isForbidden then none else some (.name (String.ofList (encode isControl cs)))

end Host
end TokenKeeper.Url
