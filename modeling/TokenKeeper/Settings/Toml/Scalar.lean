import TokenKeeper.Json

/-!
# TOML scalars

Strings in their four forms, whole numbers in four bases, decimal numbers and dates. Whole
numbers have 64 bits and decimal numbers are finite unless they say otherwise. A date is kept as
its text, in one spelling: a `T` before the time, a capital `Z`, no zeros at the end of a
fraction, of which nine digits count.
-/

namespace TokenKeeper.Settings.Toml

/-- The characters that may stand for themselves in a string or a comment. -/
def isPlain (c : Char) : Bool := c == '\t' || (' ' ≤ c && c != '\x7f')

def isGap (c : Char) : Bool := c == ' ' || c == '\t'

def skipGap (cs : List Char) : List Char := cs.dropWhile isGap

/-- The text after a line end, if it begins with one. -/
def lineEnd? : List Char → Option (List Char)
  | '\n' :: rest => some rest
  | '\r' :: '\n' :: rest => some rest
  | _ => none

/-! ## Strings -/

/-- A character given by so many hexadecimal digits. -/
def readCode (n : Nat) (cs : List Char) : Option (Char × List Char) := do
  let digits ← (cs.take n).mapM Json.hexDigit?
  let code := digits.foldl (fun m d => 16 * m + d) 0
  if digits.length = n ∧ code.isValidChar then some (Char.ofNat code, cs.drop n) else none

/-- What stands after a backslash. -/
def readEscape : List Char → Option (Char × List Char)
  | 'b' :: rest => some ('\x08', rest)
  | 't' :: rest => some ('\t', rest)
  | 'n' :: rest => some ('\n', rest)
  | 'f' :: rest => some ('\x0c', rest)
  | 'r' :: rest => some ('\r', rest)
  | '"' :: rest => some ('"', rest)
  | '\\' :: rest => some ('\\', rest)
  | 'u' :: rest => readCode 4 rest
  | 'U' :: rest => readCode 8 rest
  | _ => none

/-- The rest of a string with escapes, after its quote. -/
def readBasic : Nat → List Char → Option (List Char × List Char)
  | _, '"' :: rest => some ([], rest)
  | fuel + 1, '\\' :: rest => do
    let (c, rest) ← readEscape rest
    let (more, rest) ← readBasic fuel rest
    return (c :: more, rest)
  | fuel + 1, c :: rest =>
    if isPlain c then (readBasic fuel rest).map fun r => (c :: r.1, r.2) else none
  | _, _ => none

/-- The rest of a string without escapes, after its quote. -/
def readLiteral : List Char → Option (List Char × List Char)
  | '\x27' :: rest => some ([], rest)
  | c :: rest => if isPlain c then (readLiteral rest).map fun r => (c :: r.1, r.2) else none
  | [] => none

/-- The end of a string in three quotes: up to two more quotes belong to the string. -/
def closed (quote : Char) (rest : List Char) : List Char × List Char :=
  let extra := (rest.take 2).takeWhile (· == quote)
  (extra, rest.drop extra.length)

/-- The text after a backslash at the end of a line, and after all blanks and line ends that
follow; the text itself if the line does not end there. -/
def skipBroken (cs : List Char) : Option (List Char) :=
  (lineEnd? (skipGap cs)).map fun rest => rest.dropWhile fun c => isGap c || c == '\n' || c == '\r'

/-- The rest of a string over several lines, after its three quotes. Every line end in it is a
line feed. -/
def readLines (quote : Char) : Nat → List Char → Option (List Char × List Char)
  | 0, _ => none
  | _, [] => none
  | fuel + 1, c :: rest =>
    let go (cs : List Char) (rest : List Char) :=
      (readLines quote fuel rest).map fun r => (cs ++ r.1, r.2)
    if c = quote ∧ rest.take 2 = [quote, quote] then some (closed quote (rest.drop 2))
    else if c = '\\' ∧ quote = '"' then
      match skipBroken rest with
      | some rest => go [] rest
      | none => (readEscape rest).bind fun r => go [r.1] r.2
    else
      match lineEnd? (c :: rest) with
      | some rest => go ['\n'] rest
      | none => if isPlain c then go [c] rest else none

/-- A string, in any of its forms. A line end right after three quotes is left out. -/
def readString (cs : List Char) : Option (List Char × List Char) :=
  let fuel := cs.length + 1
  match cs with
  | '"' :: '"' :: '"' :: rest => readLines '"' fuel ((lineEnd? rest).getD rest)
  | '\x27' :: '\x27' :: '\x27' :: rest => readLines '\x27' fuel ((lineEnd? rest).getD rest)
  | '"' :: rest => readBasic fuel rest
  | '\x27' :: rest => readLiteral rest
  | _ => none

/-! ## Numbers -/

/-- Digits, without the underscores that stand alone between two of them. -/
def digits? (isDigit : Char → Bool) : List Char → Option (List Char)
  | [] => none
  | [c] => if isDigit c then some [c] else none
  | c :: '_' :: rest => if isDigit c then (digits? isDigit rest).map (c :: ·) else none
  | c :: rest => if isDigit c then (digits? isDigit rest).map (c :: ·) else none

/-- A whole number of 64 bits. -/
def ofInteger (n : Int) : Option Json :=
  if Width.isSigned64 n then some (.ofInt n) else none

/-- A whole number in a base up to sixteen, after its mark. -/
def ofBase (base : Nat) (cs : List Char) : Option Json := do
  let isDigit (c : Char) := (Json.hexDigit? c).any (· < base)
  let values ← (← digits? isDigit cs).mapM Json.hexDigit?
  ofInteger (values.foldl (fun m d => base * m + d) 0 : Nat)

/-- The exponent of a decimal number, zero if there is none. -/
def exponent? : List Char → Option Int
  | [] => some 0
  | c :: rest =>
    if c = 'e' ∨ c = 'E' then
      let (minus, rest) := Decimal.splitSign rest
      (digits? Char.isDigit rest).map fun ds =>
        if minus then -(Decimal.digitsValue ds : Int) else Decimal.digitsValue ds
    else none

/-- A number with a point or an exponent, after its sign. -/
def magnitude? (whole : List Char) (rest : List Char) : Option Float := do
  let isPart (c : Char) := c.isDigit || c == '_'
  let (part, rest) ← match rest with
    | '.' :: rest => (digits? Char.isDigit (rest.takeWhile isPart)).map (·, rest.dropWhile isPart)
    | rest => some ([], rest)
  let e ← exponent? rest
  let x := Decimal.nearest (Decimal.digitsValue (whole ++ part)) (e - part.length)
  if x.isInf then none else some x

/-- A number in base ten, after its sign. -/
def ofDecimal (minus : Bool) (cs : List Char) : Option Json := do
  let isPart (c : Char) := c.isDigit || c == '_'
  let whole ← digits? Char.isDigit (cs.takeWhile isPart)
  if whole.head? = some '0' ∧ whole.length ≠ 1 then none
  else
    match cs.dropWhile isPart with
    | [] =>
      let n : Int := Decimal.digitsValue whole
      ofInteger (if minus then -n else n)
    | rest => (magnitude? whole rest).map fun x => .decimal (if minus then -x else x)

/-- A number. -/
def ofNumber (cs : List Char) : Option Json :=
  match cs with
  | '0' :: 'x' :: rest => ofBase 16 rest
  | '0' :: 'o' :: rest => ofBase 8 rest
  | '0' :: 'b' :: rest => ofBase 2 rest
  | cs =>
    let (minus, size) := Decimal.splitSign cs
    if size = "inf".toList ∨ size = "nan".toList then
      (Decimal.read? (String.ofList cs)).map .decimal
    else ofDecimal minus size

/-! ## Dates -/

/-- Two digits within bounds. -/
def two? (low high : Nat) (a b : Char) : Option Nat :=
  let n := Decimal.digitsValue [a, b]
  if a.isDigit && b.isDigit && low ≤ n && n ≤ high then some n else none

def daysIn (year month : Nat) : Nat :=
  let leap := year % 4 = 0 ∧ (year % 100 ≠ 0 ∨ year % 400 = 0)
  if month = 2 then if leap then 29 else 28
  else if month = 4 ∨ month = 6 ∨ month = 9 ∨ month = 11 then 30
  else 31

/-- The text of a day, and what follows it. -/
def readDay : List Char → Option (List Char × List Char)
  | y :: y' :: y'' :: y''' :: '-' :: m :: m' :: '-' :: d :: d' :: rest => do
    let century ← two? 0 99 y y'
    let year ← two? 0 99 y'' y'''
    let month ← two? 1 12 m m'
    let _ ← two? 1 (daysIn (100 * century + year) month) d d'
    return ([y, y', y'', y''', '-', m, m', '-', d, d'], rest)
  | _ => none

/-- The text of a fraction of a second, after its point. -/
def fraction (digits : List Char) : List Char :=
  let counted := ((digits.take 9).reverse.dropWhile (· == '0')).reverse
  if counted.isEmpty then [] else '.' :: counted

/-- The text of a time of day, and what follows it. -/
def readTime : List Char → Option (List Char × List Char)
  | h :: h' :: ':' :: m :: m' :: ':' :: s :: s' :: rest => do
    let _ ← two? 0 23 h h'
    let _ ← two? 0 59 m m'
    let _ ← two? 0 60 s s'
    let clock := [h, h', ':', m, m', ':', s, s']
    match rest with
    | '.' :: rest =>
      let digits := rest.takeWhile Char.isDigit
      if digits.isEmpty then none
      else return (clock ++ fraction digits, rest.dropWhile Char.isDigit)
    | rest => return (clock, rest)
  | _ => none

/-- The text of a distance from universal time; nothing for a local time. -/
def offset? : List Char → Option (List Char)
  | [] => some []
  | ['Z'] => some ['Z']
  | ['z'] => some ['Z']
  | [sign, h, h', ':', m, m'] => do
    let hours ← two? 0 23 h h'
    let minutes ← two? 0 59 m m'
    if sign ≠ '+' ∧ sign ≠ '-' then none
    else return (if hours = 0 ∧ minutes = 0 then '+' else sign) :: [h, h', ':', m, m']
  | _ => none

/-- A date, a time, or both. -/
def ofDate (cs : List Char) : Option Json :=
  let text (cs : List Char) : Json := .text (String.ofList cs)
  match readDay cs with
  | some (day, []) => some (text day)
  | some (day, c :: rest) =>
    if c = 'T' ∨ c = 't' ∨ c = ' ' then do
      let (clock, rest) ← readTime rest
      return text (day ++ 'T' :: clock ++ (← offset? rest))
    else none
  | none =>
    match readTime cs with
    | some (clock, []) => some (text clock)
    | _ => none

/-! ## All together -/

def isWordChar (c : Char) : Bool :=
  c.isAlphanum || c == '+' || c == '-' || c == '_' || c == '.' || c == ':'

/-- The characters of a value without quotes. A day may go on after one space. -/
def readWord (cs : List Char) : List Char × List Char :=
  let word := cs.takeWhile isWordChar
  match readDay word, cs.dropWhile isWordChar with
  | some (_, []), ' ' :: rest =>
    match rest.takeWhile isWordChar with
    | h :: h' :: ':' :: more =>
      if h.isDigit ∧ h'.isDigit then
        (word ++ ' ' :: h :: h' :: ':' :: more, rest.dropWhile isWordChar)
      else (word, ' ' :: rest)
    | _ => (word, ' ' :: rest)
  | _, rest => (word, rest)

/-- The value of a word. -/
def ofWord (word : List Char) : Option Json :=
  if word = "true".toList then some (.boolean true)
  else if word = "false".toList then some (.boolean false)
  else
    match ofNumber word with
    | some j => some j
    | none => ofDate word

end TokenKeeper.Settings.Toml
