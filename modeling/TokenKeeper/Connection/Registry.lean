import TokenKeeper.Time.Instant

/-!
# Tracked connections

The registry knows the connections of one identity and, for each, the expiry of the token that
it last signed in with: its tag. It holds connections without keeping them alive, so an entry
may outlive its connection until the next search for stale ones drops it. Whether a connection
is alive is asked of the caller.
-/

namespace TokenKeeper

/-- The number under which a connection is tracked. Numbers are not used again. -/
structure ConnectionId where
  number : Nat
  deriving DecidableEq, Repr

namespace ConnectionId

def text (id : ConnectionId) : String := "#" ++ toString id.number

end ConnectionId

/-- A client connection; `serial` tells two connections of one client apart. -/
structure Connection where
  serial : Nat
  client : String
  deriving DecidableEq, Repr

/-- A connection under management. -/
structure Tracked where
  id : ConnectionId
  connection : Connection
  /-- The expiry of the token that the connection last signed in with. -/
  tag : Instant
  deriving DecidableEq, Repr

/-- The connections of one identity, in the order of their numbers. -/
structure Registry where
  entries : List Tracked := []
  nextId : Nat := 1
  deriving DecidableEq, Repr

namespace Registry

def size (r : Registry) : Nat := r.entries.length

def isEmpty (r : Registry) : Bool := r.entries.isEmpty

/-- The entry of a connection. -/
def entryOf? (r : Registry) (c : Connection) : Option Tracked :=
  r.entries.find? fun e => e.connection.serial == c.serial

/-- The tag of a number. -/
def tag? (r : Registry) (id : ConnectionId) : Option Instant :=
  (r.entries.find? fun e => e.id == id).map (·.tag)

/-- Starts tracking a connection. One that is tracked already keeps its number and its tag. -/
def track (r : Registry) (c : Connection) (tag : Instant) : Registry × ConnectionId :=
  match r.entryOf? c with
  | some e => (r, e.id)
  | none =>
    let id : ConnectionId := ⟨r.nextId⟩
    (⟨r.entries ++ [⟨id, c, tag⟩], r.nextId + 1⟩, id)

/-- Drops the entries whose connection is gone. -/
def prune (r : Registry) (alive : Connection → Bool) : Registry :=
  { r with entries := r.entries.filter fun e => alive e.connection }

/-- The entries that signed in with a token that expires before `expiry`. -/
def behind (r : Registry) (expiry : Instant) : List Tracked :=
  r.entries.filter fun e => e.tag < expiry

/-- Drops the entries whose connection is gone and finds the stale ones among the rest. -/
def stale (r : Registry) (alive : Connection → Bool) (expiry : Instant) :
    Registry × List Tracked :=
  let r := r.prune alive
  (r, r.behind expiry)

/-- Records that a connection signed in with a token of this expiry. Tags do not go back. -/
def mark (r : Registry) (id : ConnectionId) (expiry : Instant) : Registry :=
  { r with entries := r.entries.map fun e =>
      if e.id = id then { e with tag := e.tag.latest expiry } else e }

/-- Stops tracking a number; says whether it was tracked. -/
def untrack (r : Registry) (id : ConnectionId) : Registry × Bool :=
  ({ r with entries := r.entries.filter fun e => e.id != id }, r.entries.any fun e => e.id == id)

/-- A connection that was not tracked gets the tag that it is tracked with. -/
theorem entryOf?_track_of_none {r : Registry} {c : Connection} (tag : Instant)
    (untracked : r.entryOf? c = none) :
    (r.track c tag).1.entryOf? c = some ⟨⟨r.nextId⟩, c, tag⟩ := by
  have absent : r.entries.find? (fun e => e.connection.serial == c.serial) = none := untracked
  simp only [track, entryOf?, List.find?_append, absent, Option.none_or]
  simp

@[simp] theorem nextId_prune (r : Registry) (alive : Connection → Bool) :
    (r.prune alive).nextId = r.nextId := rfl

@[simp] theorem entries_prune (r : Registry) (alive : Connection → Bool) :
    (r.prune alive).entries = r.entries.filter fun e => alive e.connection := rfl

@[simp] theorem nextId_mark (r : Registry) (id : ConnectionId) (expiry : Instant) :
    (r.mark id expiry).nextId = r.nextId := rfl

@[simp] theorem size_mark (r : Registry) (id : ConnectionId) (expiry : Instant) :
    (r.mark id expiry).size = r.size := by simp [mark, size]

end Registry
end TokenKeeper
