import TokenKeeper.Settings.Yaml.Flow

/-!
# YAML by indentation

A text is cut into lines, and the lines into documents. In a document the column of a line tells
what it belongs to: a line deeper than a name is part of its value. Anchors, tags and names that
are not scalars are refused.
-/

namespace TokenKeeper.Settings.Yaml

/-- A line: how many spaces it begins with, and what comes after them. -/
structure Line where
  indent : Nat
  text : List Char
  deriving DecidableEq, Repr

namespace Line

def ofChars (cs : List Char) : Line :=
  let cs := dropEnd (· == '\r') cs
  ⟨(cs.takeWhile (· == ' ')).length, cs.dropWhile (· == ' ')⟩

def isBlank (l : Line) : Bool := (skipGap l.text).isEmpty

/-- Nothing but blanks and a comment. -/
def isVoid (l : Line) : Bool := l.isBlank || (skipGap l.text).head? == some '#'

/-- What stands on the line of a marker of three characters, after it. -/
def marked? (mark : Char) (l : Line) : Option (List Char) :=
  let rest := l.text.drop 3
  if l.indent = 0 ∧ l.text.take 3 = [mark, mark, mark] ∧ (rest.isEmpty ∨ rest.head?.any isGap) then
    some (skipGap rest)
  else none

end Line

/-- The lines of a text. -/
def lines (cs : List Char) : List Line :=
  (cs.foldr (fun c found =>
    match c, found with
    | '\n', found => [] :: found
    | c, [] => [[c]]
    | c, l :: rest => (c :: l) :: rest) []).map Line.ofChars

/-- The documents of a text. `current` is the one that was begun, last line first. -/
def documents (current : Option (List Line)) : List Line → List (List Line)
  | [] => (current.map List.reverse).toList
  | l :: rest =>
    match l.marked? '-', l.marked? '.' with
    | some text, _ =>
      let first := if text.isEmpty then [] else [⟨4, text⟩]
      (current.map List.reverse).toList ++ documents (some first) rest
    | none, some _ => (current.map List.reverse).toList ++ documents none rest
    | none, none =>
      match current with
      | some found => documents (some (l :: found)) rest
      | none =>
        if l.isVoid ∨ (l.indent = 0 ∧ l.text.head? = some '%') then documents none rest
        else documents (some [l]) rest

/-- The lines after those that say nothing. -/
def skipEmpty (ls : List Line) : List Line := ls.dropWhile Line.isVoid

/-! ## Scalars over several lines -/

/-- Plain text on one line, and the rest from a comment or from a colon that ends a name. -/
def plainPart : List Char → List Char × List Char
  | [] => ([], [])
  | c :: rest =>
    let ends := rest.isEmpty || rest.head?.any isGap
    if (c == ':' && ends) || (isGap c && rest.head? == some '#') then ([], c :: rest)
    else let (more, rest) := plainPart rest; (c :: more, rest)

/-- What so many blank lines between two lines of plain text stand for. -/
def between (blanks : Nat) : List Char :=
  if blanks = 0 then [' '] else List.replicate blanks '\n'

/-- The further lines of plain text, which begin at a column or to the right of it. -/
def morePlain (column blanks : Nat) : List Line → Option (List Char × List Line)
  | [] => some ([], [])
  | l :: rest =>
    if l.isBlank then morePlain column (blanks + 1) rest
    else if l.indent < column ∨ l.isVoid then some ([], l :: rest)
    else
      let (part, after) := plainPart (skipGap l.text)
      let part := between blanks ++ dropEnd isGap part
      match skipGap after with
      | [] => (morePlain column 0 rest).map fun r => (part ++ r.1, r.2)
      | '#' :: _ => some (part, rest)
      | _ => none

/-- Plain text that begins on this line. -/
def readPlainLines (column : Nat) (text : List Char) (rest : List Line) :
    Option (Json × List Line) := do
  if !beginsPlain text then none
  else
    let (part, after) := plainPart text
    let (more, rest) ← match skipGap after with
      | [] => morePlain column 0 rest
      | '#' :: _ => some ([], rest)
      | _ => none
    return (← ofPlain (dropEnd isGap part ++ more), rest)

/-- How line feeds at the end of a block of text are kept. -/
inductive Chomping
  | clip
  | strip
  | keep
  deriving DecidableEq, Repr

namespace Chomping

def ofChar? : Char → Option Chomping
  | '-' => some .strip
  | '+' => some .keep
  | _ => none

end Chomping

/-- The indentation that a digit asks for. -/
def step? (c : Char) : Option Nat := if '1' ≤ c ∧ c ≤ '9' then some (c.toNat - 48) else none

/-- The head of a block of text after its mark: an indentation and what happens at its end, in
either order. -/
def readHead (cs : List Char) : Option (Option Nat × Chomping) :=
  let head := cs.takeWhile fun c => !isGap c
  let rest := skipGap (cs.dropWhile fun c => !isGap c)
  if !rest.isEmpty ∧ rest.head? ≠ some '#' then none
  else
    match head with
    | [] => some (none, .clip)
    | [c] =>
      ((step? c).map fun n => (some n, .clip)).or ((Chomping.ofChar? c).map fun k => (none, k))
    | [c, d] =>
      let pair (c d : Char) :=
        (step? c).bind fun n => (Chomping.ofChar? d).map fun k => (some n, k)
      (pair c d).or (pair d c)
    | _ => none

/-- The lines of a folded block as one text, after the line `before`. A break between two lines
that begin at the column is a blank; next to a deeper line it stays. -/
def folded (before : List Char) (blanks : Nat) : List (List Char) → List Char
  | [] => []
  | [] :: rest => folded before (blanks + 1) rest
  | l :: rest =>
    let deeper (l : List Char) := l.head?.any isGap
    let gap :=
      if deeper before || deeper l then List.replicate (blanks + 1) '\n' else between blanks
    gap ++ l ++ folded l 0 rest

/-- A block of text that belongs to a column: its text, and the lines after it. -/
def readBlock (isFolded : Bool) (column : Nat) (head : List Char) (rest : List Line) :
    Option (Json × List Line) := do
  let (step, chomping) ← readHead head
  let first := (rest.find? fun l => !l.isBlank).elim 0 Line.indent
  let indent := match step with
    | some n => column - 1 + n
    | none => Nat.max column first
  let inside := rest.takeWhile fun l => l.isBlank || indent ≤ l.indent
  let texts := inside.map fun l => List.replicate (l.indent - indent) ' ' ++ l.text
  let body := (texts.reverse.dropWhile List.isEmpty).reverse
  let breaks := texts.length - body.length
  let text :=
    if isFolded then
      let leading := body.takeWhile List.isEmpty
      match body.dropWhile List.isEmpty with
      | [] => []
      | l :: more => leading.map (fun _ => '\n') ++ l ++ folded l 0 more
    else List.intercalate ['\n'] body
  let ending := match chomping with
    | .strip => []
    | .clip => if body.isEmpty then [] else ['\n']
    | .keep => List.replicate (if body.isEmpty then breaks else breaks + 1) '\n'
  return (.text (String.ofList (text ++ ending)), rest.drop inside.length)

/-- A value that begins on this line with a quote or a bracket. -/
def readFlowLines (text : List Char) (rest : List Line) : Option (Json × List Line) := do
  let joined := text ++ rest.flatMap fun l => '\n' :: l.text
  let (j, after) ← readFlow (2 * joined.length + 2) joined
  let left := after.dropWhile (· != '\n')
  let here := after.takeWhile (· != '\n')
  if !(skipGap here).isEmpty ∧ ((skipGap here).head? ≠ some '#' ∨ here.head? = some '#') then none
  else return (j, rest.drop (rest.length - left.count '\n'))

/-- A value that begins on this line and is no list or table by indentation. -/
def readValue (column : Nat) (text : List Char) (rest : List Line) : Option (Json × List Line) :=
  match text with
  | '|' :: head => readBlock false column head rest
  | '>' :: head => readBlock true column head rest
  | c :: _ =>
    if c = '"' ∨ c = '\x27' ∨ c = '[' ∨ c = '\x7b' then readFlowLines text rest
    else readPlainLines column text rest
  | [] => some (.null, rest)

/-! ## Lists and tables -/

/-- The text of an item after its dash, and how far right of the dash it begins. -/
def afterDash? : List Char → Option (Nat × List Char)
  | '-' :: rest =>
    if rest.isEmpty ∨ rest.head?.any isGap then
      some (1 + (rest.takeWhile isGap).length, skipGap rest)
    else none
  | _ => none

/-- A name at the beginning of a line, and the text after its colon. -/
def splitKey (cs : List Char) : Option (Json × List Char) :=
  let afterColon (key : Json) (rest : List Char) : Option (Json × List Char) :=
    match skipGap rest with
    | ':' :: rest =>
      if rest.isEmpty ∨ rest.head?.any isGap then some (key, skipGap rest) else none
    | _ => none
  match cs with
  | [] => none
  | c :: rest =>
    if c = '"' ∨ c = '\x27' then
      (readQuoted c cs.length rest).bind fun r => afterColon (.text (String.ofList r.1)) r.2
    else if beginsPlain cs then
      let (part, after) := plainPart cs
      (ofPlain (dropEnd isGap part)).bind fun key => afterColon key after
    else none

mutual

/-- The value of the lines that begin at a column or to the right of it. -/
def readNode : Nat → Nat → List Line → Option (Json × List Line)
  | 0, _, _ => none
  | fuel + 1, column, ls =>
    match skipEmpty ls with
    | [] => some (.null, [])
    | l :: rest =>
      if l.indent < column then some (.null, l :: rest)
      else if (afterDash? l.text).isSome then readListLines fuel l.indent [] (l :: rest)
      else if (splitKey l.text).isSome then readTableLines fuel l.indent [] (l :: rest)
      else readValue column l.text rest

/-- The items whose dashes stand at a column. -/
def readListLines : Nat → Nat → List Json → List Line → Option (Json × List Line)
  | 0, _, _, _ => none
  | fuel + 1, column, found, ls =>
    match skipEmpty ls with
    | [] => some (.array found.reverse, [])
    | l :: rest =>
      match afterDash? l.text with
      | some (width, text) =>
        if l.indent ≠ column then some (.array found.reverse, l :: rest)
        else do
          let (item, rest) ← readNode fuel (column + 1) (⟨column + width, text⟩ :: rest)
          readListLines fuel column (item :: found) rest
      | none => some (.array found.reverse, l :: rest)

/-- The entries whose names stand at a column. The dashes of a list may stand at the same column
as its name. -/
def readTableLines : Nat → Nat → List (String × Json) → List Line → Option (Json × List Line)
  | 0, _, _, _ => none
  | fuel + 1, column, found, ls =>
    match skipEmpty ls with
    | [] => some (.object found.reverse, [])
    | l :: rest =>
      match splitKey l.text with
      | some (key, text) =>
        if l.indent ≠ column then some (.object found.reverse, l :: rest)
        else do
          let (value, rest) ←
            if text.isEmpty ∨ text.head? = some '#' then
              let listed := (skipEmpty rest).head?.any fun m =>
                m.indent = column && (afterDash? m.text).isSome
              if listed then readListLines fuel column [] rest
              else readNode fuel (column + 1) rest
            else readValue (column + 1) text rest
          readTableLines fuel column (← addMember found key value) rest
      | none => some (.object found.reverse, l :: rest)

end

/-- Reads a text of one document at most. No document at all is an empty table. -/
def read? (cs : List Char) : Option Json :=
  match documents none (lines cs) with
  | [] => some (.object [])
  | [ls] =>
    match readNode (2 * cs.length + 4) 0 ls with
    | some (j, rest) => if (skipEmpty rest).isEmpty then some j else none
    | none => none
  | _ => none

end TokenKeeper.Settings.Yaml
