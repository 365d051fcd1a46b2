import TokenKeeper.Event.Basic

/-!
# Subscriptions

Handlers are registered for one kind of event each. Every kind has a list of its own; the numbers
of the subscriptions come from one counter. An event goes to the handlers that its kind has at
that moment, and all of them are waited for, each for a limited time.
-/

namespace TokenKeeper

/-- The number of a subscription. -/
structure SubscriptionId where
  number : UInt64
  deriving DecidableEq, Repr

namespace SubscriptionId

def text (id : SubscriptionId) : String := "SubscriptionId(" ++ toString id.number ++ ")"

end SubscriptionId

/-- The registered handlers of one kind, oldest first. -/
structure Subscribers (Handler : Type) where
  handlers : List (SubscriptionId × Handler) := []

namespace Subscribers

variable {Handler : Type}

def add (s : Subscribers Handler) (id : SubscriptionId) (handler : Handler) :
    Subscribers Handler :=
  ⟨s.handlers ++ [(id, handler)]⟩

/-- Removes what is registered under a number; says whether the list became shorter. -/
def remove (s : Subscribers Handler) (id : SubscriptionId) : Subscribers Handler × Bool :=
  let kept := s.handlers.filter fun r => r.1 != id
  (⟨kept⟩, kept.length != s.handlers.length)

/-- The handlers at this moment. -/
def snapshot (s : Subscribers Handler) : List Handler := s.handlers.map (·.2)

theorem handlers_remove (s : Subscribers Handler) (id : SubscriptionId) :
    (s.remove id).1.handlers = s.handlers.filter (·.1 != id) := rfl

theorem remove_eq_true_iff (s : Subscribers Handler) (id : SubscriptionId) :
    (s.remove id).2 = true ↔ ∃ r ∈ s.handlers, r.1 = id := by
  simp [remove, List.length_filter_eq_length_iff]

/-- A number that is not registered leaves the list as it is. -/
theorem remove_of_not_mem (s : Subscribers Handler) (id : SubscriptionId)
    (h : ∀ r ∈ s.handlers, r.1 ≠ id) : (s.remove id).1 = s := by
  simp only [remove, List.filter_eq_self.2 fun r hr => bne_iff_ne.2 (h r hr)]

end Subscribers

/-- A dispatch under way: the calls of the handlers, and how those went that are over. -/
structure Dispatch (Handler : Type) where
  event : Event
  calls : List (Handler × Option HandlerRun)

namespace Dispatch

variable {Handler : Type}

/-- A call is over. What a handler does after its time was up is ignored. -/
def settle (d : Dispatch Handler) (call : Nat) (run : HandlerRun) : Dispatch Handler :=
  { d with calls := d.calls.modify call fun c => (c.1, c.2.or (some run)) }

/-- The handlers that were called. -/
def called (d : Dispatch Handler) : List Handler := d.calls.map (·.1)

/-- Whether every call is over. -/
def isDone (d : Dispatch Handler) : Bool := d.calls.all fun c => c.2.isSome

/-- What the log is told of the calls that are over. -/
def warnings (d : Dispatch Handler) (timeout : Duration) : List HandlerError :=
  d.calls.filterMap fun c => do
    match (← c.2).report d.event.kind.name timeout with
    | .error e => some e
    | .ok () => none

@[simp] theorem event_settle (d : Dispatch Handler) (call : Nat) (run : HandlerRun) :
    (d.settle call run).event = d.event := rfl

@[simp] theorem called_settle (d : Dispatch Handler) (call : Nat) (run : HandlerRun) :
    (d.settle call run).called = d.called := by
  refine List.ext_getElem? fun i => ?_
  simp only [called, settle, List.getElem?_map, List.getElem?_modify]
  by_cases h : call = i <;> simp [h, Function.comp_def]

end Dispatch

/-- The registered handlers of all kinds. -/
structure Subscriptions (Handler : Type) where
  nextId : UInt64 := 1
  /-- How long a handler is waited for. -/
  timeout : Duration := .ofSeconds 5
  refreshed : Subscribers Handler := {}
  refreshFailed : Subscribers Handler := {}
  reauthenticated : Subscribers Handler := {}
  reauthenticationFailed : Subscribers Handler := {}

namespace Subscriptions

variable {Handler : Type}

/-- The handlers of a kind. -/
def ofKind (s : Subscriptions Handler) : EventKind → Subscribers Handler
  | .refreshed => s.refreshed
  | .refreshFailed => s.refreshFailed
  | .reauthenticated => s.reauthenticated
  | .reauthenticationFailed => s.reauthenticationFailed

/-- Other handlers for a kind. -/
def put (s : Subscriptions Handler) (kind : EventKind) (l : Subscribers Handler) :
    Subscriptions Handler :=
  match kind with
  | .refreshed => { s with refreshed := l }
  | .refreshFailed => { s with refreshFailed := l }
  | .reauthenticated => { s with reauthenticated := l }
  | .reauthenticationFailed => { s with reauthenticationFailed := l }

/-- Registers a handler. -/
def subscribe (s : Subscriptions Handler) (kind : EventKind) (handler : Handler) :
    Subscriptions Handler × SubscriptionId :=
  let id : SubscriptionId := ⟨s.nextId⟩
  ({ s with nextId := s.nextId + 1 }.put kind ((s.ofKind kind).add id handler), id)

/-- Removes a number from the first of some lists that has it. -/
def removeFrom (s : Subscriptions Handler) (id : SubscriptionId) :
    List EventKind → Subscriptions Handler × Bool
  | [] => (s, false)
  | kind :: rest =>
    match (s.ofKind kind).remove id with
    | (l, true) => (s.put kind l, true)
    | (l, false) => (s.put kind l).removeFrom id rest

/-- Removes a handler of any kind; says whether the number was registered. -/
def unsubscribe (s : Subscriptions Handler) (id : SubscriptionId) :
    Subscriptions Handler × Bool :=
  s.removeFrom id [.refreshed, .refreshFailed, .reauthenticated, .reauthenticationFailed]

/-- Calls the handlers of the kind of an event. -/
def dispatch (s : Subscriptions Handler) (e : Event) : Dispatch Handler :=
  ⟨e, (s.ofKind e.kind).snapshot.map (·, none)⟩

@[simp] theorem nextId_put (s : Subscriptions Handler) (kind : EventKind)
    (l : Subscribers Handler) : (s.put kind l).nextId = s.nextId := by
  cases kind <;> rfl

@[simp] theorem ofKind_put (s : Subscriptions Handler) (kind k : EventKind)
    (l : Subscribers Handler) :
    (s.put kind l).ofKind k = if k = kind then l else s.ofKind k := by
  cases kind <;> cases k <;> rfl

@[simp] theorem nextId_subscribe (s : Subscriptions Handler) (kind : EventKind) (h : Handler) :
    (s.subscribe kind h).1.nextId = s.nextId + 1 := by
  simp [subscribe]

theorem ofKind_subscribe (s : Subscriptions Handler) (kind k : EventKind) (h : Handler) :
    (s.subscribe kind h).1.ofKind k =
      if k = kind then (s.ofKind k).add (s.subscribe kind h).2 h else s.ofKind k := by
  have other : ({ s with nextId := s.nextId + 1 } : Subscriptions Handler).ofKind k
      = s.ofKind k := by cases k <;> rfl
  by_cases hk : k = kind
  · subst hk; simp [subscribe]
  · simp [subscribe, hk, other]

@[simp] theorem event_dispatch (s : Subscriptions Handler) (e : Event) :
    (s.dispatch e).event = e := rfl

@[simp] theorem called_dispatch (s : Subscriptions Handler) (e : Event) :
    (s.dispatch e).called = (s.ofKind e.kind).snapshot := by
  simp [dispatch, Dispatch.called, Function.comp_def]

end Subscriptions
end TokenKeeper
