import TokenKeeper.Json

/-!
# Settings laid over settings

Settings from any source are a tree of tables, lists and scalars, held as a JSON value. A later
source is laid over an earlier one name by name: tables are joined, anything else is replaced.
The names at the top of a source may be paths into the tree, such as `a.b` or `a[0]`.
-/

namespace TokenKeeper

namespace Json

/-- The value of this name, null if there is none. -/
def member (j : Json) (name : String) : Json := (j.get? name).getD null

/-- The table with a value set. What is not a table becomes one. -/
def setMember (j : Json) (name : String) (value : Json) : Json :=
  match j with
  | object members =>
    if members.any fun m => m.1 == name then
      object (members.map fun m => if m.1 == name then (name, value) else m)
    else object (members ++ [(name, value)])
  | _ => object [(name, value)]

/-- A value that was set is found. -/
@[simp] theorem member_setMember (j : Json) (name : String) (value : Json) :
    (j.setMember name value).member name = value := by
  cases j with
  | object members =>
    by_cases h : members.any fun m => m.1 == name
    · obtain ⟨m, found, here⟩ := List.any_eq_true.1 h
      have same : ((fun m : String × Json => m.1 == name) ∘
          fun m => if m.1 == name then (name, value) else m) = fun m => m.1 == name := by
        funext m
        by_cases hm : m.1 = name <;> simp [hm]
      have found : (members.reverse.find? fun m => m.1 == name).isSome :=
        List.find?_isSome.2 ⟨m, List.mem_reverse.2 found, here⟩
      obtain ⟨m, hm⟩ := Option.isSome_iff_exists.1 found
      have named : m.1 = name := by simpa using List.find?_some hm
      simp only [setMember, h, if_true, member, get?, ← List.map_reverse, List.find?_map, same, hm]
      simp [named]
    · simp [setMember, h, member, get?]
  | _ => simp [setMember, member, get?]

mutual

/-- Lays a value over another one. A table is joined with what is there, member by member, and a
table without members removes nothing. -/
def overlay (base : Json) : Json → Json
  | object members =>
    let base := match base with
      | null => object []
      | base => base
    overlayMembers base members
  | top => top

def overlayMembers (base : Json) : List (String × Json) → Json
  | [] => base
  | (name, top) :: rest =>
    overlayMembers (base.setMember name (overlay (base.member name) top)) rest

end

/-- What is no table replaces what was there. -/
theorem overlay_of_ne_object (base : Json) {top : Json} (h : ∀ members, top ≠ object members) :
    base.overlay top = top := by
  cases top with
  | object members => exact absurd rfl (h members)
  | _ => simp [overlay]

end Json

namespace Settings

/-- One step into a tree of settings. -/
inductive Step
  | name (s : String)
  /-- A place in a list, counted from its end if negative. -/
  | place (i : Int)
  deriving DecidableEq, Repr

namespace Step

def isNameChar (c : Char) : Bool := c.isAlphanum || c == '_' || c == '-'

/-- A whole number in brackets, after the opening one. -/
def readPlace (cs : List Char) : Option (Step × List Char) :=
  let (minus, cs) := match cs with
    | '-' :: rest => (true, rest)
    | cs => (false, cs)
  let digits := cs.takeWhile Char.isDigit
  match cs.dropWhile Char.isDigit with
  | ']' :: rest =>
    if digits.isEmpty then none
    else
      let n : Int := Decimal.digitsValue digits
      some (place (if minus then -n else n), rest)
  | _ => none

/-- A name, which has at least one character. -/
def readName (cs : List Char) : Option (Step × List Char) :=
  let found := cs.takeWhile isNameChar
  if found.isEmpty then none
  else some (name (String.ofList found), cs.dropWhile isNameChar)

/-- The steps after the first one. Each takes at least one character, so `fuel` need not exceed
their number. -/
def readRest (fuel : Nat) (cs : List Char) : Option (List Step) :=
  match fuel, cs with
  | _, [] => some []
  | fuel + 1, '.' :: rest => do
    let (s, rest) ← readName rest
    return s :: (← readRest fuel rest)
  | fuel + 1, '[' :: rest => do
    let (s, rest) ← readPlace rest
    return s :: (← readRest fuel rest)
  | _, _ => none

/-- The steps that a name at the top of a source stands for. A name that is no path stands for
itself. -/
def path (top : String) : List Step :=
  let steps := do
    let (s, rest) ← readName top.toList
    return s :: (← readRest rest.length rest)
  steps.getD [name top]

end Step

/-- The list of a value, empty if it is no list. -/
def itemsOf : Json → List Json
  | .array items => items
  | _ => []

/-- A list and a place in it, after the nulls that are missing were put in: behind the last item
for a place beyond the end, in front of the first one for a place before the beginning. -/
def reach (items : List Json) (i : Int) : List Json × Nat :=
  let n := if i < 0 then i + items.length else i
  if n < 0 then (List.replicate n.natAbs .null ++ items, 0)
  else (items ++ List.replicate (n.toNat + 1 - items.length) .null, n.toNat)

/-- Lays a value over the one at the end of a path. What the path needs and is not there is
made, in place of scalars if it has to be. -/
def put (tree : Json) (path : List Step) (value : Json) : Json :=
  match path with
  | [] => tree.overlay value
  | .name s :: rest => tree.setMember s (put (tree.member s) rest value)
  | .place i :: rest =>
    let (items, n) := reach (itemsOf tree) i
    .array (items.modify n fun item => put item rest value)

@[simp] theorem put_nil (tree value : Json) : put tree [] value = tree.overlay value := rfl

@[simp] theorem put_name (tree value : Json) (s : String) (rest : List Step) :
    put tree (.name s :: rest) value = tree.setMember s (put (tree.member s) rest value) := rfl

/-- Lays the members of a source over settings. -/
def lay (settings : Json) (source : List (String × Json)) : Json :=
  source.foldl (fun s m => put s (Step.path m.1) m.2) settings

end Settings
end TokenKeeper
