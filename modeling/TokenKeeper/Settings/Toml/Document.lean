import TokenKeeper.Settings.Toml.Scalar
import TokenKeeper.Settings.Toml.Table

/-!
# TOML documents

A document is read into lines that say something, and the lines build a table.
-/

namespace TokenKeeper.Settings.Toml

/-- The text after a comment; the text itself if there is none. -/
def skipComment : List Char → List Char
  | '#' :: rest => rest.dropWhile isPlain
  | cs => cs

/-- The text after blanks, comments and line ends. `fuel` bounds the number of lines. -/
def skipLines : Nat → List Char → Option (List Char)
  | 0, _ => none
  | fuel + 1, cs =>
    let rest := skipComment (skipGap cs)
    match lineEnd? rest with
    | some rest => skipLines fuel rest
    | none => some rest

/-- Skips whatever may stand between the items of an array. -/
def skipVoid (cs : List Char) : Option (List Char) := skipLines (cs.length + 1) cs

/-! ## Keys -/

def isBare (c : Char) : Bool := c.isAlphanum || c == '_' || c == '-'

/-- One name of a key: bare, or a string on one line. -/
def readName (cs : List Char) : Option (String × List Char) :=
  let found := cs.takeWhile isBare
  if !found.isEmpty then some (String.ofList found, cs.dropWhile isBare)
  else
    match cs with
    | '"' :: rest => (readBasic (cs.length + 1) rest).map fun r => (String.ofList r.1, r.2)
    | '\x27' :: rest => (readLiteral rest).map fun r => (String.ofList r.1, r.2)
    | _ => none

/-- A key: names with points between them. -/
def readKey : Nat → List Char → Option (List String × List Char)
  | 0, _ => none
  | fuel + 1, cs => do
    let (name, rest) ← readName (skipGap cs)
    match skipGap rest with
    | '.' :: rest =>
      let (more, rest) ← readKey fuel rest
      return (name :: more, rest)
    | rest => return ([name], rest)

/-- A key and the sign after it. -/
def readLeft (cs : List Char) : Option (List String × List Char) := do
  match ← readKey (cs.length + 1) cs with
  | (path, '=' :: rest) => return (path, skipGap rest)
  | _ => none

/-! ## Values -/

mutual

/-- A value. -/
def readValue : Nat → List Char → Option (Json × List Char)
  | 0, _ => none
  | fuel + 1, cs =>
    match cs with
    | '[' :: rest => do
      match ← skipVoid rest with
      | ']' :: rest => return (.array [], rest)
      | rest => readItems fuel [] rest
    | '\x7b' :: rest =>
      match skipGap rest with
      | '\x7d' :: rest => some (.object [], rest)
      | rest => readEntries fuel [] rest
    | c :: _ =>
      if c = '"' ∨ c = '\x27' then
        (readString cs).map fun r => (.text (String.ofList r.1), r.2)
      else
        let (word, rest) := readWord cs
        (ofWord word).map fun j => (j, rest)
    | [] => none

/-- The items of an array, from one item to the closing bracket. A comma may stand after the last
item. -/
def readItems : Nat → List Json → List Char → Option (Json × List Char)
  | 0, _, _ => none
  | fuel + 1, found, cs => do
    let (item, rest) ← readValue fuel cs
    match ← skipVoid rest with
    | ']' :: rest => return (.array (item :: found).reverse, rest)
    | ',' :: rest =>
      match ← skipVoid rest with
      | ']' :: rest => return (.array (item :: found).reverse, rest)
      | rest => readItems fuel (item :: found) rest
    | _ => none

/-- The entries of a table on one line, from one key to the closing brace. -/
def readEntries : Nat → Members → List Char → Option (Json × List Char)
  | 0, _, _ => none
  | fuel + 1, found, cs => do
    let (path, rest) ← readLeft cs
    let (j, rest) ← readValue fuel rest
    let found ← found.set path j
    match skipGap rest with
    | ',' :: rest => readEntries fuel found rest
    | '\x7d' :: rest => return (found.toJson, rest)
    | _ => none

end

/-! ## Lines -/

/-- A line that says something. -/
inductive Line
  | header (path : List String)
  /-- The header of one more of several tables. -/
  | nextHeader (path : List String)
  | entry (path : List String) (value : Json)

/-- The beginning of a line. -/
def readLine (cs : List Char) : Option (Line × List Char) :=
  match cs with
  | '[' :: '[' :: rest => do
    match ← readKey (rest.length + 1) rest with
    | (path, ']' :: ']' :: rest) => return (.nextHeader path, rest)
    | _ => none
  | '[' :: rest => do
    match ← readKey (rest.length + 1) rest with
    | (path, ']' :: rest) => return (.header path, rest)
    | _ => none
  | cs => do
    let (path, rest) ← readLeft cs
    let (j, rest) ← readValue (2 * rest.length + 2) rest
    return (.entry path j, rest)

/-- All lines that say something. -/
def readAll : Nat → List Char → Option (List Line)
  | 0, _ => none
  | fuel + 1, cs => do
    match ← skipVoid cs with
    | [] => return []
    | cs =>
      let (line, rest) ← readLine cs
      let rest := skipComment (skipGap rest)
      match rest, lineEnd? rest with
      | [], _ => return [line]
      | _, some rest => return line :: (← readAll fuel rest)
      | _, none => none

/-- The table that lines build. `header` is the last header. -/
def build (header : List String) (ms : Members) : List Line → Option Members
  | [] => some ms
  | .header path :: rest => do build path (← ms.begin path) rest
  | .nextHeader path :: rest => do build path (← ms.beginNext path) rest
  | .entry path j :: rest => do build header (← ms.setUnder header path j) rest

/-- Reads a document. -/
def read? (cs : List Char) : Option Json := do
  let lines ← readAll (cs.length + 1) cs
  return (← build [] [] lines).toJson

end TokenKeeper.Settings.Toml
