import TokenKeeper.Json

/-!
# TOML tables

A table is built line by line. Which lines may still add to it depends on what made it: a header
of its own, a header of a table inside it, or a key with points. No name is ever set twice.
-/

namespace TokenKeeper.Settings.Toml

/-- What made a table. -/
inductive Origin
  /-- A header with its name. -/
  | header
  /-- A header that goes through it. -/
  | implied
  /-- A key with points. -/
  | dotted
  deriving DecidableEq, Repr

/-- What a name in a table stands for. -/
inductive Node
  | value (j : Json)
  | table (origin : Origin) (members : List (String × Node))
  /-- Tables that share one header, the last one first. -/
  | tables (items : List (List (String × Node)))
  deriving Inhabited

/-- The members of a table, in order. -/
abbrev Members := List (String × Node)

namespace Members

def get? (ms : Members) (key : String) : Option Node :=
  (ms.find? fun m => m.1 == key).map (·.2)

def replace (ms : Members) (key : String) (node : Node) : Members :=
  ms.map fun m => if m.1 == key then (key, node) else m

/-- Changes the table at the end of a path, and makes the tables on the way that are missing.
`change` is told what made that table. A path of a header goes through any table and through the
last one of several; a path of a key goes through no table that has a header. -/
def update (through : Origin) (path : List String) (origin : Origin)
    (change : Origin → Members → Option Members) (ms : Members) : Option Members :=
  match path with
  | [] => change origin ms
  | key :: rest =>
    match ms.get? key with
    | none => do
      let inner ← update through rest through change []
      return ms ++ [(key, .table through inner)]
    | some (.table origin inner) =>
      if through = .dotted ∧ origin = .header then none
      else do
        let inner ← update through rest origin change inner
        return ms.replace key (.table origin inner)
    | some (.tables (last :: others)) =>
      if through = .dotted then none
      else do
        let last ← update through rest .header change last
        return ms.replace key (.tables (last :: others))
    | some _ => none

/-- Adds a value under a new name. -/
def add (ms : Members) (key : String) (j : Json) : Option Members :=
  match ms.get? key with
  | none => some (ms ++ [(key, .value j)])
  | some _ => none

/-- Sets a key, which may have points, in a table. -/
def set (ms : Members) (path : List String) (j : Json) : Option Members :=
  match path.getLast? with
  | none => none
  | some key =>
    update .dotted path.dropLast .dotted
      (fun origin inner => if origin = .dotted then inner.add key j else none) ms

/-- Begins the table of a header. -/
def begin (ms : Members) (path : List String) : Option Members :=
  match path.getLast? with
  | none => none
  | some key =>
    update .implied path.dropLast .header (fun _ inner =>
      match inner.get? key with
      | none => some (inner ++ [(key, .table .header [])])
      | some (.table .implied members) => some (inner.replace key (.table .header members))
      | some _ => none) ms

/-- Begins one more of the tables that share a header. -/
def beginNext (ms : Members) (path : List String) : Option Members :=
  match path.getLast? with
  | none => none
  | some key =>
    update .implied path.dropLast .header (fun _ inner =>
      match inner.get? key with
      | none => some (inner ++ [(key, .tables [[]])])
      | some (.tables items) => some (inner.replace key (.tables ([] :: items)))
      | some _ => none) ms

/-- Sets a key in the table whose header came last. -/
def setUnder (ms : Members) (header path : List String) (j : Json) : Option Members :=
  update .implied header .header (fun _ inner => inner.set path j) ms

end Members

mutual

def Node.toJson : Node → Json
  | .value j => j
  | .table _ members => .object (membersToJson members)
  | .tables items => .array (itemsToJson items).reverse

def itemsToJson : List (List (String × Node)) → List Json
  | [] => []
  | ms :: rest => .object (membersToJson ms) :: itemsToJson rest

def membersToJson : List (String × Node) → List (String × Json)
  | [] => []
  | (key, node) :: rest => (key, node.toJson) :: membersToJson rest

end

/-- The table as a value. -/
def Members.toJson (ms : Members) : Json := .object (membersToJson ms)

end TokenKeeper.Settings.Toml
