import TokenKeeper.Settings.Yaml.Scalar

/-!
# YAML in brackets

Lists and tables between brackets, and scalars in quotes. Line breaks and comments may stand
between their parts.
-/

namespace TokenKeeper.Settings.Yaml

/-- The characters that separate parts between brackets. -/
def isBracket (c : Char) : Bool := c == ',' || c == '[' || c == ']' || c == '\x7b' || c == '\x7d'

/-- The text after blanks, line breaks and comments. A comment needs a blank before it. -/
def skipVoid : Nat → List Char → List Char
  | 0, cs => cs
  | fuel + 1, cs =>
    let rest := cs.dropWhile fun c => isGap c || c == '\n'
    match rest with
    | '#' :: after =>
      if rest.length < cs.length then skipVoid fuel (after.dropWhile (· != '\n')) else rest
    | rest => rest

/-- Whether a colon before this text ends a name. -/
def endsName : List Char → Bool
  | [] => true
  | c :: _ => isGap c || c == '\n' || isBracket c

/-- Plain text between brackets. -/
def readPlain : Nat → List Char → List Char × List Char
  | 0, cs => ([], cs)
  | _, [] => ([], [])
  | fuel + 1, c :: rest =>
    let comment := (isGap c || c == '\n') && rest.head? == some '#'
    if isBracket c || comment || (c == ':' && endsName rest) then ([], c :: rest)
    else
      match fold? (c :: rest) with
      | some (cs, rest) => let (more, rest) := readPlain fuel rest; (cs ++ more, rest)
      | none => let (more, rest) := readPlain fuel rest; (c :: more, rest)

/-- Whether plain text may begin here. -/
def beginsPlain : List Char → Bool
  | [] => false
  | c :: rest =>
    if c = '-' ∨ c = '?' ∨ c = ':' then !endsName rest
    else !(isGap c || isBracket c || "&*!|>'\"%@\x60#".contains c)

/-- The name of a value: text, or the text of another scalar. -/
def nameOf? : Json → Option String
  | .text s => some s
  | .natural n => some (toString n)
  | .negative n => some (toString n)
  | .boolean b => some (if b then "true" else "false")
  | .decimal x => some (Decimal.plain x)
  | _ => none

/-- Adds a member with a new name, last first. -/
def addMember (found : List (String × Json)) (key value : Json) :
    Option (List (String × Json)) := do
  let name ← nameOf? key
  if found.any fun m => m.1 == name then none else some ((name, value) :: found)

mutual

/-- A value between brackets. -/
def readFlow : Nat → List Char → Option (Json × List Char)
  | 0, _ => none
  | fuel + 1, cs =>
    match cs with
    | '[' :: rest => readItems fuel [] (skipVoid rest.length rest)
    | '\x7b' :: rest => readMembers fuel [] (skipVoid rest.length rest)
    | '"' :: rest =>
      (readQuoted '"' cs.length rest).map fun r => (.text (String.ofList r.1), r.2)
    | '\x27' :: rest =>
      (readQuoted '\x27' cs.length rest).map fun r => (.text (String.ofList r.1), r.2)
    | cs =>
      if beginsPlain cs then
        let (found, rest) := readPlain cs.length cs
        (ofPlain (dropEnd (fun c => isGap c || c == '\n') found)).map fun j => (j, rest)
      else none

/-- What follows a name: its value after a colon, or nothing. -/
def readMemberValue : Nat → List Char → Option (Json × List Char)
  | 0, _ => none
  | fuel + 1, cs =>
    match cs with
    | ':' :: rest =>
      match skipVoid rest.length rest with
      | ',' :: rest => some (.null, ',' :: rest)
      | ']' :: rest => some (.null, ']' :: rest)
      | '\x7d' :: rest => some (.null, '\x7d' :: rest)
      | rest => readFlow fuel rest
    | cs => some (.null, cs)

/-- The items of a list up to its closing bracket. An item with a colon is a table of one. -/
def readItems : Nat → List Json → List Char → Option (Json × List Char)
  | 0, _, _ => none
  | fuel + 1, found, cs =>
    match cs with
    | ']' :: rest => some (.array found.reverse, rest)
    | cs => do
      let (item, rest) ← readFlow fuel cs
      let rest := skipVoid rest.length rest
      let single := rest.head? = some ':'
      let (value, rest) ← readMemberValue fuel rest
      let item ← if single then (addMember [] item value).map .object else some item
      match skipVoid rest.length rest with
      | ',' :: rest => readItems fuel (item :: found) (skipVoid rest.length rest)
      | ']' :: rest => some (.array (item :: found).reverse, rest)
      | _ => none

/-- The members of a table up to its closing brace. -/
def readMembers : Nat → List (String × Json) → List Char → Option (Json × List Char)
  | 0, _, _ => none
  | fuel + 1, found, cs =>
    match cs with
    | '\x7d' :: rest => some (.object found.reverse, rest)
    | cs => do
      let (key, rest) ← readFlow fuel cs
      let (value, rest) ← readMemberValue fuel (skipVoid rest.length rest)
      let found ← addMember found key value
      match skipVoid rest.length rest with
      | ',' :: rest => readMembers fuel found (skipVoid rest.length rest)
      | '\x7d' :: rest => some (.object found.reverse, rest)
      | _ => none

end

end TokenKeeper.Settings.Yaml
