import TokenKeeper.Base64
import TokenKeeper.Text.Blank

/-!
# Armoured blocks

A block of bytes between a `BEGIN` and an `END` line with a label, in base 64, with optional
header lines in front. A file may hold several blocks and any text between them; what is cut off
before its `END` line is no block.
-/

namespace TokenKeeper.Crypto

/-- A block. -/
structure PemBlock where
  label : String
  contents : List UInt8
  deriving DecidableEq, Repr

/-- What is wrong with a block. -/
inductive PemFault
  | noBegin
  | noEnd
  | labels (first last : String)
  | data (f : Base64.Fault)
  | header (line : String)
  deriving DecidableEq, Repr

namespace PemFault

def message : PemFault → String
  | noBegin => "missing BEGIN tag"
  | noEnd => "missing END tag"
  | labels first last =>
    "mismatching BEGIN (\"" ++ first ++ "\") and END (\"" ++ last ++ "\") tags"
  | data f => "invalid data: " ++ f.message
  | header line => "invalid header: " ++ line

end PemFault

namespace Pem

/-- Looks for a mark by its characters in turn, and gives the text before and after it. A
character that does not fit starts the search over behind itself. `seen` and `part` are the text
so far, last character first: before the mark, and of the mark. -/
def splitAt? (mark : List Char) : (seen part wanted : List Char) → List Char →
    Option (List Char × List Char)
  | seen, _, [], rest => some (seen.reverse, rest)
  | _, _, _ :: _, [] => none
  | seen, part, w :: wanted, c :: rest =>
    if c = w then splitAt? mark seen (c :: part) wanted rest
    else splitAt? mark (c :: part ++ seen) [] mark rest

/-- The text before and after the first mark. -/
def cut? (mark : String) (cs : List Char) : Option (List Char × List Char) :=
  splitAt? mark.toList [] [] mark.toList cs

def skipBlanks (cs : List Char) : List Char :=
  cs.dropWhile fun c => c == ' ' || c == '\n' || c == '\r' || c == '\t'

/-- The parts of a block before they are looked at. -/
structure Raw where
  first : List Char
  headers : List Char
  data : List Char
  last : List Char

/-- The next block, and what follows it. -/
def next? (cs : List Char) : Option (Raw × List Char) := do
  let (_, rest) ← cut? "-----BEGIN " cs
  let (first, rest) ← cut? "-----" rest
  let (body, rest) ← cut? "-----END " (skipBlanks rest)
  let (last, rest) ← cut? "-----" rest
  let (headers, data) :=
    match cut? "\n\n" body with
    | some r => r
    | none => (cut? "\r\n\r\n" body).getD ([], body)
  return (⟨first, headers, data, last⟩, skipBlanks rest)

/-- All blocks. Each takes at least one character. -/
def raws : (fuel : Nat) → List Char → List Raw
  | 0, _ => []
  | fuel + 1, cs =>
    match next? cs with
    | some (r, rest) => r :: raws fuel rest
    | none => []

/-- Lines without their ends. -/
def lines (cs : List Char) : List (List Char) :=
  let parts := cs.foldr (fun c parts =>
    if c = '\n' then [] :: parts
    else match parts with
      | [] => [[c]]
      | p :: rest => (c :: p) :: rest) [[]]
  let parts := if parts.getLast? = some [] then parts.dropLast else parts
  parts.map fun l => if l.getLast? = some '\r' then l.dropLast else l

/-- Looks at the parts of a block. -/
def Raw.block (r : Raw) : Except PemFault PemBlock :=
  let first := String.ofList r.first
  let last := String.ofList r.last
  if first.isEmpty then .error .noBegin
  else if last.isEmpty then .error .noEnd
  else if first ≠ last then .error (.labels first last)
  else match Base64.decode .standard .required (r.data.filter fun c => !Text.isBlank c) with
    | .error f => .error (.data f)
    | .ok contents =>
      match (lines r.headers).find? fun l => !l.contains ':' with
      | some line => .error (.header (String.ofList line))
      | none => .ok ⟨first, contents⟩

/-- All blocks of a text, or the first fault. -/
def read (s : String) : Except PemFault (List PemBlock) :=
  (raws (s.length + 1) s.toList).mapM Raw.block

end Pem
end TokenKeeper.Crypto
