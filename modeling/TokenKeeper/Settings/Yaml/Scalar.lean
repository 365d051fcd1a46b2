import TokenKeeper.Settings.Environment

/-!
# YAML scalars

Text in quotes is text. Plain text is null, a truth value, a number or text, by its spelling. A
line break inside a scalar is a blank, and each further one is a line feed.
-/

namespace TokenKeeper.Settings.Yaml

def isGap (c : Char) : Bool := c == ' ' || c == '\t'

def skipGap (cs : List Char) : List Char := cs.dropWhile isGap

def dropEnd (isDropped : Char → Bool) (cs : List Char) : List Char :=
  (cs.reverse.dropWhile isDropped).reverse

/-! ## Plain text -/

/-- A whole number in a base, with an optional sign. -/
def ofBase? (base : Nat) (cs : List Char) : Option Json := do
  let (minus, cs) := Decimal.splitSign cs
  let digits ← cs.mapM Json.hexDigit?
  let n : Int := (digits.foldl (fun m d => base * m + d) 0 : Nat)
  let n := if minus then -n else n
  if digits.isEmpty ∨ digits.any (base ≤ ·) ∨ !Width.isSigned64 n then none
  else some (.ofInt n)

/-- A whole number: in base sixteen after `0x`, in base eight after `0o`, or with a sign. -/
def integer? (cs : List Char) : Option Json :=
  let inTen (cs : List Char) := (Environment.integer? (String.ofList cs)).map Json.ofInt
  let marked := match cs with
    | '0' :: 'x' :: rest => ofBase? 16 rest
    | '0' :: 'o' :: rest => ofBase? 8 rest
    | '+' :: rest => inTen rest
    | _ => none
  marked.or (inTen cs)

/-- The spellings of numbers that are infinite or none at all; they are read and refused. -/
def unbounded : List String :=
  [".inf", ".Inf", ".INF", "+.inf", "+.Inf", "+.INF", "-.inf", "-.Inf", "-.INF", ".nan", ".NAN"]

/-- The value of plain text. -/
def ofPlain (cs : List Char) : Option Json :=
  let s := String.ofList cs
  if s ∈ ["", "~", "null"] then some .null
  else if s = "true" then some (.boolean true)
  else if s = "false" then some (.boolean false)
  else if s ∈ unbounded then none
  else
    match integer? cs, Decimal.read? s with
    | some j, _ => some j
    | none, some x => some (if cs.any Char.isDigit ∨ s = "NaN" then .decimal x else .text s)
    | none, none => some (.text s)

/-! ## Text in quotes -/

/-- What blanks and line breaks stand for inside a scalar, and the text after them, if the text
begins with such a gap and it has a line break. -/
def fold? (cs : List Char) : Option (List Char × List Char) :=
  match skipGap cs with
  | '\n' :: rest =>
    let void := rest.takeWhile fun c => isGap c || c == '\n'
    let breaks := void.count '\n'
    some (if breaks = 0 then [' '] else List.replicate breaks '\n', rest.drop void.length)
  | _ => none

/-- A character given by so many hexadecimal digits. -/
def readCode (n : Nat) (cs : List Char) : Option (List Char × List Char) := do
  let digits ← (cs.take n).mapM Json.hexDigit?
  let code := digits.foldl (fun m d => 16 * m + d) 0
  if digits.length = n ∧ code.isValidChar then some ([Char.ofNat code], cs.drop n) else none

/-- What stands after a backslash. A line break there stands for nothing. -/
def readEscape : List Char → Option (List Char × List Char)
  | [] => none
  | c :: rest =>
    let is (found : Char) : Option (List Char × List Char) := some ([found], rest)
    match c with
    | '0' => is '\x00'
    | 'a' => is '\x07'
    | 'b' => is '\x08'
    | 't' => is '\t'
    | '\t' => is '\t'
    | 'n' => is '\n'
    | 'v' => is '\x0b'
    | 'f' => is '\x0c'
    | 'r' => is '\r'
    | 'e' => is '\x1b'
    | ' ' => is ' '
    | '"' => is '"'
    | '/' => is '/'
    | '\\' => is '\\'
    | 'N' => is '\u0085'
    | '_' => is '\u00a0'
    | 'L' => is '\u2028'
    | 'P' => is '\u2029'
    | 'x' => readCode 2 rest
    | 'u' => readCode 4 rest
    | 'U' => readCode 8 rest
    | '\n' => some ([], skipGap rest)
    | _ => none

/-- The rest of a text in quotes, after the first one. Between double quotes a backslash begins
an escape; between single quotes a quote is written twice. -/
def readQuoted (quote : Char) : Nat → List Char → Option (List Char × List Char)
  | 0, _ => none
  | _, [] => none
  | fuel + 1, c :: rest =>
    let go (cs : List Char) (rest : List Char) :=
      (readQuoted quote fuel rest).map fun r => (cs ++ r.1, r.2)
    match fold? (c :: rest) with
    | some (cs, rest) => go cs rest
    | none =>
      if c = '"' ∧ quote = '"' then some ([], rest)
      else if c = '\\' ∧ quote = '"' then (readEscape rest).bind fun r => go r.1 r.2
      else if c = '\x27' ∧ quote = '\x27' then
        match rest with
        | '\x27' :: rest => go ['\x27'] rest
        | rest => some ([], rest)
      else go [c] rest

end TokenKeeper.Settings.Yaml
