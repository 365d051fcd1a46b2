import Mathlib
import TokenKeeper.Event.Subscriptions

/-!
# Delivery of events

A bus from its beginning: handlers are registered and removed, events are dispatched, and the calls
of all dispatches come to their ends in any order. What the callers were told is the history of the
bus, and the history alone says which handlers an event reaches. Everything rests on one fact about
the numbers: the lists share their counter, so no number stands in two places.
-/

namespace TokenKeeper

variable {Handler : Type}

/-- A subscription as it was handed out. -/
structure Subscription (Handler : Type) where
  id : SubscriptionId
  kind : EventKind
  handler : Handler

/-- What happens on a bus, with the answers. -/
inductive BusAct (Handler : Type)
  | subscribed (s : Subscription Handler)
  | unsubscribed (id : SubscriptionId) (removed : Bool)
  | dispatched (e : Event)
  /-- A call of one of the dispatches is over. -/
  | settled (dispatch call : Nat) (run : HandlerRun)

/-- The registered handlers, and the dispatches so far, first one first. -/
structure Bus (Handler : Type) where
  subscriptions : Subscriptions Handler
  dispatches : List (Dispatch Handler) := []

namespace Bus

/-- One use of a bus, or the end of a call. -/
inductive Step (b : Bus Handler) : BusAct Handler → Bus Handler → Prop
  | subscribe (kind : EventKind) (handler : Handler) :
      Step b (.subscribed ⟨(b.subscriptions.subscribe kind handler).2, kind, handler⟩)
        { b with subscriptions := (b.subscriptions.subscribe kind handler).1 }
  | unsubscribe (id : SubscriptionId) :
      Step b (.unsubscribed id (b.subscriptions.unsubscribe id).2)
        { b with subscriptions := (b.subscriptions.unsubscribe id).1 }
  | dispatch (e : Event) :
      Step b (.dispatched e)
        { b with dispatches := b.dispatches ++ [b.subscriptions.dispatch e] }
  | settle {dispatch call : Nat} {d : Dispatch Handler} {handler : Handler} (run : HandlerRun) :
      b.dispatches[dispatch]? = some d → d.calls[call]? = some (handler, none) →
      Step b (.settled dispatch call run)
        { b with dispatches := b.dispatches.modify dispatch (·.settle call run) }

/-- What can have happened on a bus since it was made. -/
inductive History (timeout : Duration) : List (BusAct Handler) → Bus Handler → Prop
  | new : History timeout [] ⟨{ timeout }, []⟩
  | snoc {log : List (BusAct Handler)} {b b' : Bus Handler} {act : BusAct Handler} :
      History timeout log b → Step b act b' → History timeout (log ++ [act]) b'

end Bus

/-! ## What a history says -/

namespace BusAct

def subscription? : BusAct Handler → Option (Subscription Handler)
  | subscribed s => some s
  | _ => none

def event? : BusAct Handler → Option Event
  | dispatched e => some e
  | _ => none

/-- Whether a caller was told that this number is removed now. -/
def removes (id : SubscriptionId) : BusAct Handler → Bool
  | unsubscribed i removed => i == id && removed
  | _ => false

/-- How this call of this dispatch went, if it is over now. -/
def runOf? (dispatch call : Nat) : BusAct Handler → Option HandlerRun
  | settled i j run => if i = dispatch ∧ j = call then some run else none
  | _ => none

end BusAct

/-- All subscriptions that were handed out. -/
def subscriptionsOf (log : List (BusAct Handler)) : List (Subscription Handler) :=
  log.filterMap BusAct.subscription?

/-- The events that were dispatched. -/
def eventsOf (log : List (BusAct Handler)) : List Event := log.filterMap BusAct.event?

/-- The numbers that were handed out. -/
def numbersOf (log : List (BusAct Handler)) : List SubscriptionId :=
  (subscriptionsOf log).map (·.id)

/-- The subscriptions that were handed out and not removed. -/
def standing (log : List (BusAct Handler)) : List (Subscription Handler) :=
  (subscriptionsOf log).filter fun s => !log.any (BusAct.removes s.id)

/-- Those for one kind of event. -/
def standingFor (kind : EventKind) (log : List (BusAct Handler)) : List (Subscription Handler) :=
  (standing log).filter (·.kind = kind)

variable {log : List (BusAct Handler)} {timeout : Duration} {b b' : Bus Handler}
  {act : BusAct Handler}

theorem subscriptionsOf_snoc (log : List (BusAct Handler)) (act : BusAct Handler) :
    subscriptionsOf (log ++ [act]) = subscriptionsOf log ++ act.subscription?.toList := by
  simp only [subscriptionsOf, List.filterMap_append, List.filterMap_cons, List.filterMap_nil]
  cases act.subscription? <;> rfl

theorem numbersOf_snoc (log : List (BusAct Handler)) (act : BusAct Handler) :
    numbersOf (log ++ [act]) = numbersOf log ++ (act.subscription?.toList).map (·.id) := by
  simp [numbersOf, subscriptionsOf_snoc]

theorem subscriptionsOf_snoc_of_none (none : act.subscription? = none) :
    subscriptionsOf (log ++ [act]) = subscriptionsOf log := by
  simp [subscriptionsOf_snoc, none]

theorem numbersOf_snoc_of_none (none : act.subscription? = none) :
    numbersOf (log ++ [act]) = numbersOf log := by
  simp [numbersOf_snoc, none]

theorem mem_standing_iff {s : Subscription Handler} :
    s ∈ standing log ↔ s ∈ subscriptionsOf log ∧ log.any (BusAct.removes s.id) = false := by
  simp [standing]

/-- Only a subscription and a removal change what stands. -/
theorem standing_snoc_of_neither (new : act.subscription? = none)
    (removes : ∀ id, act.removes id = false) : standing (log ++ [act]) = standing log := by
  simp [standing, subscriptionsOf_snoc, new, removes]

namespace Subscriptions

@[simp] theorem put_self (s : Subscriptions Handler) (kind : EventKind) :
    s.put kind (s.ofKind kind) = s := by
  cases kind <;> rfl

/-- Where only one list can have a number, it is looked for in all lists and removed from all. -/
theorem removeFrom_spec (s : Subscriptions Handler) (id : SubscriptionId)
    (kinds : List EventKind)
    (once : ∀ k k', (∃ r ∈ (s.ofKind k).handlers, r.1 = id) →
      (∃ r ∈ (s.ofKind k').handlers, r.1 = id) → k = k') :
    ((s.removeFrom id kinds).2 = true ↔
      ∃ k ∈ kinds, ∃ r ∈ (s.ofKind k).handlers, r.1 = id) ∧
    ∀ k, (s.removeFrom id kinds).1.ofKind k =
      if k ∈ kinds then ((s.ofKind k).remove id).1 else s.ofKind k := by
  induction kinds with
  | nil => simp [removeFrom]
  | cons kind rest ih =>
      have had := (s.ofKind kind).remove_eq_true_iff id
      rcases step : (s.ofKind kind).remove id with ⟨l, removed⟩
      rw [step] at had
      cases removed with
      | true =>
          have here := had.1 rfl
          refine ⟨by simp only [removeFrom, step, true_iff]; exact ⟨kind, by simp, here⟩, ?_⟩
          intro k
          by_cases same : k = kind
          · subst same; simp [removeFrom, step]
          · -- The search has ended, but the other lists do not have the number.
            have gone := (s.ofKind k).remove_of_not_mem id fun r hr eq =>
              same (once k kind ⟨r, hr, eq⟩ here)
            simp [removeFrom, step, same, gone]
      | false =>
          have absent : ¬ ∃ r ∈ (s.ofKind kind).handlers, r.1 = id := fun h =>
            absurd (had.2 h) (by simp)
          have unchanged : l = s.ofKind kind := by
            have kept := (s.ofKind kind).remove_of_not_mem id fun r hr eq => absent ⟨r, hr, eq⟩
            rwa [step] at kept
          subst unchanged
          simp only [removeFrom, step, put_self]
          refine ⟨ih.1.trans ?_, fun k => (ih.2 k).trans ?_⟩
          · simp only [List.mem_cons, exists_eq_or_imp, absent, false_or]
          · by_cases same : k = kind
            · subst same; simp [step]
            · simp [same]

/-- A number that is not registered changes nothing. -/
theorem removeFrom_of_false {s : Subscriptions Handler} {id : SubscriptionId}
    {kinds : List EventKind} (nowhere : (s.removeFrom id kinds).2 = false) :
    (s.removeFrom id kinds).1 = s := by
  induction kinds with
  | nil => rfl
  | cons kind rest ih =>
      have had := (s.ofKind kind).remove_eq_true_iff id
      rcases step : (s.ofKind kind).remove id with ⟨l, removed⟩
      rw [step] at had
      cases removed with
      | true => simp [removeFrom, step] at nowhere
      | false =>
          have kept := (s.ofKind kind).remove_of_not_mem id fun r hr eq =>
            absurd (had.2 ⟨r, hr, eq⟩) (by simp)
          rw [step] at kept
          subst kept
          simp only [removeFrom, step, put_self] at nowhere ⊢
          exact ih nowhere

@[simp] theorem nextId_removeFrom (s : Subscriptions Handler) (id : SubscriptionId)
    (kinds : List EventKind) : (s.removeFrom id kinds).1.nextId = s.nextId := by
  induction kinds generalizing s with
  | nil => rfl
  | cons kind rest ih =>
      simp only [removeFrom]
      split
      · simp
      · rw [ih, nextId_put]

@[simp] theorem nextId_unsubscribe (s : Subscriptions Handler) (id : SubscriptionId) :
    (s.unsubscribe id).1.nextId = s.nextId := nextId_removeFrom ..

end Subscriptions

namespace Bus

/-- The handlers of each kind are the subscriptions that stand, and the numbers were handed out one
after the other. -/
structure Agrees (log : List (BusAct Handler)) (b : Bus Handler) : Prop where
  nextId : b.subscriptions.nextId = UInt64.ofNat ((subscriptionsOf log).length + 1)
  numbered : numbersOf log =
    (List.range (subscriptionsOf log).length).map fun i => ⟨UInt64.ofNat (i + 1)⟩
  removed : ∀ id, log.any (BusAct.removes id) = true → id ∈ numbersOf log
  lists : ∀ kind, (b.subscriptions.ofKind kind).handlers =
    (standingFor kind log).map fun s => (s.id, s.handler)

namespace Agrees

variable (agrees : Agrees log b) (few : (subscriptionsOf log).length < 2 ^ 64)
include agrees

theorem numbers_nodup (few : (subscriptionsOf log).length < 2 ^ 64) : (numbersOf log).Nodup := by
  rw [agrees.numbered]
  refine List.Nodup.map_on (fun i hi j hj same => ?_) List.nodup_range
  simp only [List.mem_range] at hi hj
  have number := congrArg (fun id => id.number.toNat) same
  simp only [UInt64.toNat_ofNat'] at number
  omega

/-- A number belongs to one subscription. -/
theorem eq_of_id (few : (subscriptionsOf log).length < 2 ^ 64) {s s' : Subscription Handler}
    (hs : s ∈ subscriptionsOf log) (hs' : s' ∈ subscriptionsOf log) (same : s.id = s'.id) :
    s = s' :=
  List.inj_on_of_nodup_map (agrees.numbers_nodup few) hs hs' same

theorem registered_iff {kind : EventKind} {id : SubscriptionId} :
    (∃ r ∈ (b.subscriptions.ofKind kind).handlers, r.1 = id) ↔
      ∃ s ∈ standing log, s.kind = kind ∧ s.id = id := by
  simp [agrees.lists, standingFor, and_assoc]

theorem unsubscribe_spec (few : (subscriptionsOf log).length < 2 ^ 64) (id : SubscriptionId) :
    ((b.subscriptions.unsubscribe id).2 = true ↔ ∃ s ∈ standing log, s.id = id) ∧
    ∀ k, (b.subscriptions.unsubscribe id).1.ofKind k =
      ((b.subscriptions.ofKind k).remove id).1 := by
  have every (k : EventKind) : k ∈ [EventKind.refreshed, .refreshFailed, .reauthenticated,
      .reauthenticationFailed] := by cases k <;> simp
  obtain ⟨answer, lists⟩ := b.subscriptions.removeFrom_spec id
    [.refreshed, .refreshFailed, .reauthenticated, .reauthenticationFailed] fun k k' hk hk' => by
      obtain ⟨s, hs, rfl, rfl⟩ := agrees.registered_iff.1 hk
      obtain ⟨s', hs', rfl, same⟩ := agrees.registered_iff.1 hk'
      rw [agrees.eq_of_id few (mem_standing_iff.1 hs).1 (mem_standing_iff.1 hs').1 same.symm]
  refine ⟨answer.trans ?_, fun k => (lists k).trans (if_pos (every k))⟩
  simp only [every, true_and, agrees.registered_iff]
  exact ⟨fun ⟨_, s, hs, _, same⟩ => ⟨s, hs, same⟩, fun ⟨s, hs, same⟩ => ⟨_, s, hs, rfl, same⟩⟩

/-- The counter gives a number that was never given before. -/
theorem fresh (few : (subscriptionsOf log).length + 1 < 2 ^ 64) :
    (⟨b.subscriptions.nextId⟩ : SubscriptionId) ∉ numbersOf log := by
  rw [agrees.numbered, agrees.nextId]
  simp only [List.mem_map, List.mem_range, not_exists, not_and]
  intro i hi same
  have number := congrArg (fun id => id.number.toNat) same
  simp only [UInt64.toNat_ofNat'] at number
  omega

end Agrees

theorem fewer {n : Nat} {before after : List (BusAct Handler)}
    (few : (subscriptionsOf log).length < n) (cut : log = before ++ act :: after) :
    (subscriptionsOf before).length < n := by
  refine Nat.lt_of_le_of_lt ?_ few
  simp [cut, subscriptionsOf]

theorem Agrees.new (timeout : Duration) :
    Agrees ([] : List (BusAct Handler)) ⟨{ timeout }, []⟩ where
  nextId := rfl
  numbered := rfl
  removed id none := by simp at none
  lists kind := by cases kind <;> rfl

/-- After a new subscription the one that was handed out stands, too. -/
theorem standing_subscribed {s : Subscription Handler}
    (fresh : log.any (BusAct.removes s.id) = false) :
    standing (log ++ [.subscribed s]) = standing log ++ [s] := by
  simp [standing, subscriptionsOf_snoc, BusAct.subscription?, BusAct.removes, fresh]

/-- After the answer to a removal the number does not stand any more. -/
theorem standing_unsubscribed {id : SubscriptionId} {removed : Bool}
    (answer : removed = true ↔ ∃ s ∈ standing log, s.id = id) :
    standing (log ++ [.unsubscribed id removed]) = (standing log).filter (·.id != id) := by
  cases removed with
  | true =>
      simp only [standing, subscriptionsOf_snoc, BusAct.subscription?, Option.toList_none,
        List.append_nil, List.any_append, List.any_cons, List.any_nil, BusAct.removes,
        Bool.and_true, Bool.or_false, List.filter_filter]
      refine List.filter_congr fun s _ => ?_
      cases log.any (BusAct.removes s.id) <;> simp [bne, eq_comm]
  | false =>
      have nobody : ∀ s ∈ standing log, s.id ≠ id := fun s hs same =>
        absurd (answer.2 ⟨s, hs, same⟩) (by simp)
      rw [standing_snoc_of_neither rfl fun i => by simp [BusAct.removes],
        List.filter_eq_self.2 fun s hs => bne_iff_ne.2 (nobody s hs)]

/-- What is neither a subscription nor a removal leaves the handlers as they are. -/
theorem Agrees.snoc_of_neither (agrees : Agrees log b) (new : act.subscription? = none)
    (removes : ∀ id, act.removes id = false) (same : b'.subscriptions = b.subscriptions) :
    Agrees (log ++ [act]) b' where
  nextId := by rw [subscriptionsOf_snoc_of_none new, same, agrees.nextId]
  numbered := by
    rw [numbersOf_snoc_of_none new, subscriptionsOf_snoc_of_none new, agrees.numbered]
  removed id removed := by
    rw [numbersOf_snoc_of_none new]
    exact agrees.removed id (by simpa [removes] using removed)
  lists kind := by
    rw [same, agrees.lists, standingFor, standingFor, standing_snoc_of_neither new removes]

theorem Step.agrees (step : Step b act b') (agrees : Agrees log b)
    (few : (subscriptionsOf (log ++ [act])).length < 2 ^ 64) : Agrees (log ++ [act]) b' := by
  cases step with
  | subscribe kind handler =>
      simp only [subscriptionsOf_snoc, BusAct.subscription?, Option.toList_some,
        List.length_append, List.length_singleton] at few
      have fresh := agrees.fresh few
      have unremoved : log.any (BusAct.removes ⟨b.subscriptions.nextId⟩) = false := by
        by_contra removed
        exact fresh (agrees.removed _ (by simpa using removed))
      have stands := standing_subscribed
        (s := ⟨(b.subscriptions.subscribe kind handler).2, kind, handler⟩) unremoved
      constructor
      · simp [subscriptionsOf_snoc, BusAct.subscription?, agrees.nextId]
      · rw [numbersOf_snoc, agrees.numbered]
        simp [subscriptionsOf_snoc, BusAct.subscription?, List.range_succ, Subscriptions.subscribe,
          agrees.nextId]
      · intro id removed
        simp only [List.any_append, List.any_cons, BusAct.removes, List.any_nil,
          Bool.or_false] at removed
        rw [numbersOf_snoc]
        exact List.mem_append_left _ (agrees.removed id removed)
      · intro k
        rw [Subscriptions.ofKind_subscribe, standingFor, stands, List.filter_append,
          List.map_append]
        by_cases same : k = kind
        · subst same
          simp [Subscribers.add, agrees.lists, standingFor]
        · simp [same, Ne.symm same, agrees.lists, standingFor]
  | unsubscribe id =>
      rw [subscriptionsOf_snoc_of_none rfl] at few
      obtain ⟨answer, lists⟩ := agrees.unsubscribe_spec few id
      constructor
      · rw [subscriptionsOf_snoc_of_none rfl, ← agrees.nextId]
        exact Subscriptions.nextId_unsubscribe ..
      · rw [numbersOf_snoc_of_none rfl, subscriptionsOf_snoc_of_none rfl, agrees.numbered]
      · intro i removed
        rw [numbersOf_snoc_of_none rfl]
        simp only [List.any_append, List.any_cons, List.any_nil, Bool.or_false, Bool.or_eq_true,
          BusAct.removes, Bool.and_eq_true, beq_iff_eq] at removed
        rcases removed with before | ⟨rfl, removed⟩
        · exact agrees.removed i before
        · obtain ⟨s, hs, rfl⟩ := answer.1 removed
          exact List.mem_map_of_mem (mem_standing_iff.1 hs).1
      · intro k
        rw [lists, Subscribers.handlers_remove, agrees.lists, standingFor, standingFor,
          standing_unsubscribed answer, List.filter_map]
        congr 1
        simp only [List.filter_filter, Function.comp_def]
        exact List.filter_congr fun s _ => Bool.and_comm ..
  | dispatch e => exact agrees.snoc_of_neither rfl (fun _ => rfl) rfl
  | settle => exact agrees.snoc_of_neither rfl (fun _ => rfl) rfl

theorem History.agrees (history : History timeout log b)
    (few : (subscriptionsOf log).length < 2 ^ 64) : Agrees log b := by
  induction history with
  | new => exact .new timeout
  | snoc _ step ih =>
      exact step.agrees (ih (fewer few rfl)) few

/-! ## Dispatches -/

/-- A dispatch that has begun keeps its event and the handlers that it called. -/
theorem Step.keeps_dispatch (step : Step b act b') {i : Nat} {d : Dispatch Handler}
    (begun : b.dispatches[i]? = some d) :
    ∃ d', b'.dispatches[i]? = some d' ∧ d'.event = d.event ∧ d'.called = d.called := by
  cases step with
  | subscribe | unsubscribe => exact ⟨d, begun, rfl, rfl⟩
  | dispatch e =>
      have there : i < b.dispatches.length := (List.getElem?_eq_some_iff.1 begun).1
      exact ⟨d, by rw [List.getElem?_append_left there, begun], rfl, rfl⟩
  | @settle dispatch call _ _ run =>
      by_cases same : dispatch = i
      · subst same
        exact ⟨d.settle call run, by simp [begun], rfl, d.called_settle call run⟩
      · exact ⟨d, by simp [same, begun], rfl, rfl⟩

/-- There is one dispatch for each event that was dispatched, in the same order. -/
theorem History.events (history : History timeout log b) :
    b.dispatches.map (·.event) = eventsOf log := by
  induction history with
  | new => rfl
  | snoc _ step ih =>
      rw [eventsOf, List.filterMap_append, ← eventsOf, ← ih]
      cases step with
      | dispatch e => simp [BusAct.event?]
      | @settle dispatch call _ _ run =>
          refine List.ext_getElem? fun i => ?_
          by_cases same : dispatch = i <;>
            simp [List.filterMap_cons, BusAct.event?, same, Function.comp_def]
      | _ => simp [BusAct.event?]

/-- The state before and after something that happened. The dispatches of then are still there. -/
theorem History.cut (history : History timeout log b) {before after : List (BusAct Handler)}
    (cut : log = before ++ act :: after) :
    ∃ c c', History timeout before c ∧ Step c act c' ∧
      ∀ {i : Nat} {d : Dispatch Handler}, c'.dispatches[i]? = some d →
        ∃ d', b.dispatches[i]? = some d' ∧ d'.event = d.event ∧ d'.called = d.called := by
  induction history generalizing after with
  | new => simp at cut
  | @snoc log b b' last history step ih =>
      rcases List.eq_nil_or_concat after with rfl | ⟨after, final, rfl⟩
      · obtain ⟨rfl, same⟩ := List.append_inj' cut rfl
        obtain rfl := List.singleton_inj.1 same
        exact ⟨b, b', history, step, fun {_ d} begun => ⟨d, begun, rfl, rfl⟩⟩
      · rw [List.concat_eq_append, ← List.cons_append, ← List.append_assoc] at cut
        obtain ⟨c, c', first, then', kept⟩ := ih (List.append_inj' cut rfl).1
        refine ⟨c, c', first, then', fun begun => ?_⟩
        obtain ⟨d, still, event, called⟩ := kept begun
        obtain ⟨d', there, event', called'⟩ := step.keeps_dispatch still
        exact ⟨d', there, event'.trans event, called'.trans called⟩

/-- Each dispatch has called the handlers that stood when it began. -/
theorem History.called (history : History timeout log b)
    (few : (subscriptionsOf log).length < 2 ^ 64) {before after : List (BusAct Handler)}
    {e : Event} (cut : log = before ++ .dispatched e :: after) :
    ∃ d, b.dispatches[(eventsOf before).length]? = some d ∧ d.event = e ∧
      d.called = (standingFor e.kind before).map (·.handler) := by
  obtain ⟨c, c', first, step, kept⟩ := history.cut cut
  cases step
  have agrees := first.agrees (fewer few cut)
  have begun := congrArg List.length first.events
  rw [List.length_map] at begun
  obtain ⟨d, there, event, called⟩ := kept (i := (eventsOf before).length)
    (d := c.subscriptions.dispatch e) (by simp [← begun])
  refine ⟨d, there, event, called.trans ?_⟩
  simp [Subscribers.snapshot, agrees.lists, Function.comp_def]

/-! ## Removals -/

/-- A number stands if and only if it was handed out and not removed. -/
theorem exists_standing_iff {id : SubscriptionId} :
    (∃ s ∈ standing log, s.id = id) ↔
      id ∈ numbersOf log ∧ log.any (BusAct.removes id) = false := by
  simp only [mem_standing_iff, numbersOf, List.mem_map]
  constructor
  · rintro ⟨s, ⟨hs, kept⟩, rfl⟩
    exact ⟨⟨s, hs, rfl⟩, kept⟩
  · rintro ⟨⟨s, hs, rfl⟩, kept⟩
    exact ⟨s, ⟨hs, kept⟩, rfl⟩

end Bus

/-- One subscription is there no more, and all others are as they were. -/
structure Subscriptions.Loses (s s' : Subscriptions Handler) (gone : Subscription Handler) :
    Prop where
  own : ∃ l₁ l₂, (s.ofKind gone.kind).handlers = l₁ ++ (gone.id, gone.handler) :: l₂ ∧
    (s'.ofKind gone.kind).handlers = l₁ ++ l₂
  others : ∀ kind, kind ≠ gone.kind → s'.ofKind kind = s.ofKind kind

namespace Bus

theorem Agrees.loses (agrees : Agrees log b) (few : (subscriptionsOf log).length < 2 ^ 64)
    {s : Subscription Handler} (stands : s ∈ standing log) :
    b.subscriptions.Loses (b.subscriptions.unsubscribe s.id).1 s := by
  obtain ⟨-, lists⟩ := agrees.unsubscribe_spec few s.id
  have handed := (mem_standing_iff.1 stands).1
  constructor
  · obtain ⟨l₁, l₂, split⟩ := List.append_of_mem
      (show s ∈ standingFor s.kind log by simp [standingFor, stands])
    have distinct : ((standingFor s.kind log).map (·.id)).Nodup :=
      (agrees.numbers_nodup few).sublist
        ((List.filter_sublist.trans List.filter_sublist).map _)
    rw [split, List.map_append, List.map_cons, List.nodup_middle, List.nodup_cons,
      ← List.map_append] at distinct
    have others : ∀ s' ∈ l₁ ++ l₂, s'.id ≠ s.id := fun s' hs' same =>
      distinct.1 (same ▸ List.mem_map_of_mem hs')
    refine ⟨l₁.map fun s => (s.id, s.handler), l₂.map fun s => (s.id, s.handler), ?_, ?_⟩
    · rw [agrees.lists, split, List.map_append, List.map_cons]
    · have kept : (l₁ ++ l₂).filter ((fun r => r.1 != s.id) ∘ fun s => (s.id, s.handler))
          = l₁ ++ l₂ := List.filter_eq_self.2 fun s' hs' => bne_iff_ne.2 (others s' hs')
      rw [lists, Subscribers.handlers_remove, agrees.lists, split, List.filter_map,
        List.filter_append, List.filter_cons_of_neg (by simp), ← List.filter_append, kept,
        List.map_append]
  · intro kind other
    rw [lists]
    refine Subscribers.remove_of_not_mem _ _ fun r hr same => other ?_
    obtain ⟨s', hs', rfl, same⟩ := agrees.registered_iff.1 ⟨r, hr, same⟩
    rw [agrees.eq_of_id few (mem_standing_iff.1 hs').1 handed same]

/-! ## Everything together -/

/-- A call that is over went as its own handler went, and no other call has a part in that. -/
theorem History.run_of_call (history : History timeout log b) :
    (∀ i j, log.findSome? (BusAct.runOf? i j) ≠ none → i < b.dispatches.length) ∧
    ∀ i d j h run, b.dispatches[i]? = some d → d.calls[j]? = some (h, run) →
      run = log.findSome? (BusAct.runOf? i j) := by
  induction history with
  | new => simp
  | @snoc log b b' act _ step ih =>
      obtain ⟨bounded, runs⟩ := ih
      simp only [List.findSome?_append, List.findSome?_singleton]
      cases step with
      | subscribe | unsubscribe =>
          simp only [BusAct.runOf?, Option.or_none]
          exact ⟨bounded, runs⟩
      | dispatch e =>
          simp only [BusAct.runOf?, Option.or_none, List.length_append, List.length_singleton]
          refine ⟨fun i j settled => Nat.lt_succ_of_lt (bounded i j settled),
            fun i d j h run there call => ?_⟩
          rcases Nat.lt_or_ge i b.dispatches.length with old | new
          · rw [List.getElem?_append_left old] at there
            exact runs i d j h run there call
          · -- No call of a dispatch that begins now is over.
            rw [List.getElem?_append_right new, List.getElem?_singleton] at there
            split at there <;> cases there
            have unbegun := mt (bounded i j) (Nat.not_lt.2 new)
            simp only [Subscriptions.dispatch, List.getElem?_map, Option.map_eq_some_iff,
              Prod.mk.injEq] at call
            obtain ⟨_, -, -, rfl⟩ := call
            exact (not_not.1 unbegun).symm
      | @settle i₀ j₀ d₀ h₀ run₀ there₀ opened =>
          have earlier := runs i₀ d₀ j₀ h₀ none there₀ opened
          refine ⟨fun i j settled => ?_, fun i d j h run there call => ?_⟩
          · rw [List.length_modify]
            by_cases same : i₀ = i ∧ j₀ = j
            · exact same.1 ▸ (List.getElem?_eq_some_iff.1 there₀).1
            · exact bounded i j (by simpa [BusAct.runOf?, same] using settled)
          · by_cases which : i₀ = i
            · subst which
              obtain rfl : d₀.settle j₀ run₀ = d := by simpa [there₀] using there
              by_cases whose : j₀ = j
              · subst whose
                obtain ⟨-, rfl⟩ : h₀ = h ∧ some run₀ = run := by
                  simpa [Dispatch.settle, opened] using call
                simp [BusAct.runOf?, ← earlier]
              · have same : d₀.calls[j]? = some (h, run) := by
                  simpa [Dispatch.settle, whose] using call
                simpa [BusAct.runOf?, whose] using runs i₀ d₀ j h run there₀ same
            · have same : b.dispatches[i]? = some d := by simpa [which] using there
              simpa [BusAct.runOf?, which] using runs i d j h run same call

/-- A bus delivers exactly. No number is handed out twice; each dispatch calls the handlers that
were subscribed to the kind of its event and not removed before it, each once, with that event,
and the call of each ends as that handler does; the answer to a removal is whether the number was
handed out and not yet removed, and then the handler registered under it goes and no other. -/
theorem History.delivery (history : History timeout log b)
    (few : (subscriptionsOf log).length < 2 ^ 64) :
    (numbersOf log).Nodup ∧
    (∀ before e after, log = before ++ .dispatched e :: after →
      ∃ d, b.dispatches[(eventsOf before).length]? = some d ∧ d.event = e ∧
        d.called = (standingFor e.kind before).map (·.handler) ∧
        ∀ (j : Nat) h run, d.calls[j]? = some (h, run) →
          run = log.findSome? (BusAct.runOf? (eventsOf before).length j)) ∧
    ∀ before id removed after, log = before ++ .unsubscribed id removed :: after →
      (removed = true ↔ id ∈ numbersOf before ∧ before.any (BusAct.removes id) = false) ∧
      ∃ c c', History timeout before c ∧ Step c (.unsubscribed id removed) c' ∧
        (removed = true → ∃ s ∈ subscriptionsOf before, s.id = id ∧
          c.subscriptions.Loses c'.subscriptions s) ∧
        (removed = false → c'.subscriptions = c.subscriptions) := by
  refine ⟨(history.agrees few).numbers_nodup few, ?_, ?_⟩
  · intro before e after cut
    obtain ⟨d, there, event, called⟩ := history.called few cut
    exact ⟨d, there, event, called, fun j h run => history.run_of_call.2 _ d j h run there⟩
  · intro before id removed after cut
    obtain ⟨c, c', first, step, -⟩ := history.cut cut
    have few := fewer few cut
    have agrees := first.agrees few
    cases step
    have answer := (agrees.unsubscribe_spec few id).1
    refine ⟨answer.trans exists_standing_iff, c, _, first, .unsubscribe id, ?_, ?_⟩
    · intro removed
      obtain ⟨s, stands, rfl⟩ := answer.1 removed
      exact ⟨s, (mem_standing_iff.1 stands).1, rfl, agrees.loses few stands⟩
    · exact Subscriptions.removeFrom_of_false

/-- Two handlers for renewals and one for endpoints. Of the two that are called the first panics
and the second takes too long; then the first is removed, twice, and another token is renewed. -/
def misbehaving : List (BusAct Nat) :=
  [.subscribed ⟨⟨1⟩, .refreshed, 10⟩, .subscribed ⟨⟨2⟩, .reauthenticated, 20⟩,
    .subscribed ⟨⟨3⟩, .refreshed, 30⟩, .dispatched (.tokenRefreshed default default),
    .settled 0 0 (.panicked .other), .settled 0 1 .overran, .unsubscribed ⟨1⟩ true,
    .unsubscribed ⟨1⟩ false, .dispatched (.tokenRefreshed default default)]

/-- The second dispatch then calls the handler that is left. -/
theorem History.delivery_after_misbehaviour :
    ∃ b, History (.ofSeconds 5) misbehaving b ∧ (subscriptionsOf misbehaving).length < 2 ^ 64 ∧
      ∃ d, b.dispatches[1]? = some d ∧ d.called = [30] := by
  have begun : History (.ofSeconds 5) (misbehaving.take 4) _ :=
    (((History.new.snoc (.subscribe .refreshed 10)).snoc (.subscribe .reauthenticated 20)).snoc
      (.subscribe .refreshed 30)).snoc (.dispatch _)
  have before : History (.ofSeconds 5) (misbehaving.take 6) _ :=
    (begun.snoc (.settle (d := ⟨_, [(10, none), (30, none)]⟩) (.panicked .other) rfl rfl)).snoc
      (.settle (d := ⟨_, [(10, some (.panicked .other)), (30, none)]⟩) .overran rfl rfl)
  have history : History (.ofSeconds 5) misbehaving _ :=
    ((before.snoc (.unsubscribe ⟨1⟩)).snoc (.unsubscribe ⟨1⟩)).snoc (.dispatch _)
  obtain ⟨-, dispatches, -⟩ := history.delivery (by decide)
  obtain ⟨d, there, -, called, -⟩ := dispatches (misbehaving.take 8) _ [] rfl
  exact ⟨_, history, by decide, d, there, called.trans (by decide)⟩

end Bus
end TokenKeeper
