import TokenKeeper.Settings.Overlay
import TokenKeeper.Text.Blank

/-!
# INI files

Lines of `key = value`, in sections named by `[section]`. Every value is text. A value ends with
its line, and parts of it may stand in quotes; a backslash begins an escape everywhere. A comment
begins a line, with no blank before it. A section that comes twice keeps only its last part.
-/

namespace TokenKeeper.Settings.Ini

/-- Four hexadecimal digits after an escape, as a character. -/
def readCode (cs : List Char) : Option (Char × List Char) := do
  let (n, rest) ← Json.readUnit cs
  if 0xD800 ≤ n ∧ n < 0xE000 then none else some (Char.ofNat n, rest)

/-- What a character after a backslash stands for; an escaped line end stands for nothing. -/
def escape (c : Char) : List Char :=
  match c with
  | '0' => ['\x00']
  | 'a' => ['\x07']
  | 'b' => ['\x08']
  | 't' => ['\t']
  | 'r' => ['\r']
  | 'n' => ['\n']
  | '\n' => []
  | c => [c]

/-- Text up to one of the ends, which stays in the rest. `atEnd` tells whether the end of the
file will do as well. -/
def readUntil (ends : List Char) (atEnd : Bool) : Nat → List Char → Option (List Char × List Char)
  | 0, _ => none
  | _, [] => if atEnd then some ([], []) else none
  | fuel + 1, '\\' :: rest =>
    if '\\' ∈ ends then some ([], '\\' :: rest)
    else
      match rest with
      | [] => none
      | 'x' :: rest => do
        let (c, rest) ← readCode rest
        let (more, rest) ← readUntil ends atEnd fuel rest
        return (c :: more, rest)
      | c :: rest => do
        let (more, rest) ← readUntil ends atEnd fuel rest
        return (escape c ++ more, rest)
  | fuel + 1, c :: rest =>
    if c ∈ ends then some ([], c :: rest)
    else do
      let (more, rest) ← readUntil ends atEnd fuel rest
      return (c :: more, rest)

def dropEnd (cs : List Char) : List Char := (cs.reverse.dropWhile Text.isBlank).reverse

/-- A value after its sign: quoted parts, then plain text to the end of the line. Blanks go at
the end of the plain text, and at its beginning if nothing stands before it. -/
def readValue (first : Bool) : Nat → List Char → Option (List Char × List Char)
  | 0, _ => none
  | _, [] => some ([], [])
  | fuel + 1, c :: rest =>
    if c = '"' ∨ c = '\x27' then do
      let (part, rest) ← readUntil [c] false (rest.length + 1) rest
      let (more, rest) ← readValue false fuel (rest.drop 1)
      return (part ++ more, rest)
    else do
      let (part, rest) ← readUntil ['\n', '\r'] true (rest.length + 2) (c :: rest)
      return (if first then Text.trimmed part else dropEnd part, rest)

/-- What was read so far: values before the first section and under each section, last first. -/
structure File where
  top : List (String × Json) := []
  sections : List (String × List (String × Json)) := []

namespace File

/-- Adds a value to the section that was begun last. -/
def add (f : File) (key value : List Char) : File :=
  let entry := (String.ofList key, Json.text (String.ofList value))
  match f.sections with
  | [] => { f with top := entry :: f.top }
  | (name, entries) :: rest => { f with sections := (name, entry :: entries) :: rest }

def begin (f : File) (name : List Char) : File :=
  { f with sections := (String.ofList name, []) :: f.sections }

/-- The file as settings. Sections come after the values before them. -/
def settings (f : File) : Json :=
  let sections := f.sections.reverse.map fun s => (s.1, Json.object s.2.reverse)
  Json.distinct (.object (f.top.reverse ++ sections))

end File

/-- Reads on from between two entries. `column` counts the characters of the line up to the next
one. -/
def readEntries (column : Nat) (f : File) : Nat → List Char → Option File
  | 0, _ => none
  | _, [] => some f
  | fuel + 1, c :: rest =>
    if c = '\n' then readEntries 0 f fuel rest
    else if Text.isBlank c then readEntries (column + 1) f fuel rest
    else if c = ';' ∨ c = '#' then
      if column = 0 then readEntries 0 f fuel (rest.dropWhile (· != '\n')) else none
    else if c = '[' then do
      let (name, rest) ← readUntil [']'] false (rest.length + 1) rest
      readEntries 1 (f.begin (Text.trimmed name)) fuel (rest.drop 1)
    else do
      let (key, rest) ← readUntil ['=', ':'] false (rest.length + 2) (c :: rest)
      let key := Text.trimmed key
      if key.isEmpty then none
      else
        let rest := (rest.drop 1).dropWhile fun c => Text.isBlank c && c != '\n' && c != '\r'
        let (value, rest) ← readValue true (rest.length + 1) rest
        readEntries 1 (f.add key value) fuel rest

/-- Reads a file. -/
def read? (cs : List Char) : Option Json :=
  (readEntries 0 {} (cs.length + 1) cs).map File.settings

end TokenKeeper.Settings.Ini
