import TokenKeeper.Proofs.Pass.Endpoint

/-!
# The registry while outcomes are recorded

In a run in which the registry is touched only to give up connections and to mark connections
with one expiry, the order does not matter: an entry is gone if it was given up, it has the
expiry if it was marked and that is later, and otherwise it is as it was.
-/

namespace TokenKeeper

namespace Request

/-- The requests that can change the registry. -/
def touchesRegistry : Request → Bool
  | track _ _ | stale _ | mark _ _ | untrack _ => true
  | _ => false

theorem isServing_of_touchesRegistry {q : Request} (touches : q.touchesRegistry = true) :
    q.isServing = false := by
  cases q with
  | auth => cases touches
  | notify => cases touches
  | _ => rfl

end Request

theorem Shared.registry_after {s : Shared} {alive : Connection → Bool} {q : Request}
    (untouched : q.touchesRegistry = false) : (s.after alive q).registry = s.registry := by
  cases q with
  | track => cases untouched
  | stale => cases untouched
  | mark => cases untouched
  | untrack => cases untouched
  | _ => rfl

/-- A run in which nobody touches the registry leaves it as it was. -/
theorem Run.registry_of_untouched {e : Engine} {m m' : Machine e} {trace : List Label}
    (run : Run m trace m')
    (untouched : ∀ d, .did d ∈ trace → d.exchange.request.touchesRegistry = false) :
    m'.shared.registry = m.shared.registry := by
  induction run with
  | refl => rfl
  | @snoc middle m' before l run step ih =>
      rw [← ih fun d inside => untouched d (List.mem_append_left _ inside)]
      cases l with
      | began c => rw [step.shared_of_began]
      | dropped c => rw [step.shared_of_dropped]
      | did d =>
          rw [step.shared]
          exact Shared.registry_after (untouched d (List.mem_append_right _ List.mem_cons_self))

/-- Whether something was asked in a run. -/
def asksFor (q : Request) (trace : List Label) : Bool :=
  trace.any fun
    | .did d => d.exchange.request = q
    | _ => false

theorem asksFor_iff {q : Request} {trace : List Label} :
    asksFor q trace = true ↔ ∃ d, .did d ∈ trace ∧ d.exchange.request = q := by
  rw [asksFor, List.any_eq_true]
  constructor
  · rintro ⟨l, inside, same⟩
    cases l with
    | did d => exact ⟨d, inside, of_decide_eq_true same⟩
    | began => cases same
    | dropped => cases same
  · rintro ⟨d, inside, same⟩
    exact ⟨.did d, inside, decide_eq_true same⟩

theorem asksFor_snoc (q : Request) (trace : List Label) (l : Label) :
    asksFor q (trace ++ [l]) = (asksFor q trace || asksFor q [l]) := by
  rw [asksFor, List.any_append]
  rfl

/-- An entry after outcomes were recorded. -/
def Tracked.recorded? (expiry : Instant) (trace : List Label) (x : Tracked) : Option Tracked :=
  if asksFor (.untrack x.id) trace then none
  else if asksFor (.mark x.id expiry) trace then some { x with tag := x.tag.latest expiry }
  else some x

variable {e : Engine} {m m' : Machine e} {trace : List Label} {expiry : Instant}

theorem Instant.latest_latest (a b : Instant) : (a.latest b).latest b = a.latest b := by
  by_cases h : a ≤ b
  · rw [latest, latest, if_pos h, if_pos (le_refl b)]
  · rw [latest, latest, if_neg h, if_neg h]

namespace Tracked

variable {l : Label} {id : ConnectionId}

theorem recorded?_of_other (untracked : ∀ i, asksFor (.untrack i) [l] = false)
    (unmarked : ∀ i, asksFor (.mark i expiry) [l] = false) :
    recorded? expiry (trace ++ [l]) = recorded? expiry trace := by
  funext x
  rw [recorded?, recorded?, asksFor_snoc, asksFor_snoc, untracked, unmarked, Bool.or_false,
    Bool.or_false]

theorem recorded?_of_untrack (untracked : ∀ i, asksFor (.untrack i) [l] = decide (i = id))
    (unmarked : ∀ i, asksFor (.mark i expiry) [l] = false) :
    recorded? expiry (trace ++ [l]) = fun x =>
      (x.recorded? expiry trace).filter (·.id != id) := by
  funext x
  rw [recorded?, recorded?, asksFor_snoc, asksFor_snoc, untracked, unmarked, Bool.or_false]
  cases asksFor (.untrack x.id) trace with
  | true => rfl
  | false =>
      by_cases same : x.id = id <;> cases asksFor (.mark x.id expiry) trace <;>
        simp [same, Option.filter]

theorem recorded?_of_mark (untracked : ∀ i, asksFor (.untrack i) [l] = false)
    (marked : ∀ i, asksFor (.mark i expiry) [l] = decide (i = id)) :
    recorded? expiry (trace ++ [l]) = fun x => (x.recorded? expiry trace).map fun y =>
      if y.id = id then { y with tag := y.tag.latest expiry } else y := by
  funext x
  rw [recorded?, recorded?, asksFor_snoc, asksFor_snoc, untracked, marked, Bool.or_false]
  cases asksFor (.untrack x.id) trace with
  | true => rfl
  | false =>
      by_cases same : x.id = id <;> cases asksFor (.mark x.id expiry) trace <;>
        simp [same, Instant.latest_latest]

end Tracked

theorem asksFor_did (q : Request) (d : Deed) :
    asksFor q [.did d] = decide (d.exchange.request = q) := by
  simp [asksFor]

/-- What a run that only records outcomes makes of the registry. -/
theorem Run.registry_of_recording (run : Run m trace m')
    (only : ∀ d, .did d ∈ trace → d.exchange.request.touchesRegistry = true →
      (∃ id, d.exchange.request = .untrack id) ∨ ∃ id, d.exchange.request = .mark id expiry) :
    m'.shared.registry = ⟨m.shared.registry.entries.filterMap (Tracked.recorded? expiry trace),
      m.shared.registry.nextId⟩ := by
  induction run with
  | refl =>
      have same : Tracked.recorded? expiry [] = some := rfl
      rw [same, List.filterMap_some]
  | @snoc middle m' before l run step ih =>
      have reached := ih fun d inside => only d (List.mem_append_left _ inside)
      cases l with
      | began c =>
          rw [step.shared_of_began, reached, Tracked.recorded?_of_other] <;> exact fun _ => rfl
      | dropped c =>
          rw [step.shared_of_dropped, reached, Tracked.recorded?_of_other] <;> exact fun _ => rfl
      | did d =>
          have allowed := only d (List.mem_append_right _ List.mem_cons_self)
          rw [step.shared]
          cases touches : d.exchange.request.touchesRegistry with
          | false =>
              rw [Shared.registry_after touches, reached, Tracked.recorded?_of_other]
              · intro i
                rw [asksFor_did, decide_eq_false_iff_not]
                intro same
                rw [same] at touches
                cases touches
              · intro i
                rw [asksFor_did, decide_eq_false_iff_not]
                intro same
                rw [same] at touches
                cases touches
          | true =>
              rcases allowed touches with ⟨id, asks⟩ | ⟨id, asks⟩
              · rw [asks, @Tracked.recorded?_of_untrack before expiry (.did d) id]
                · change (middle.shared.registry.untrack id).1 = _
                  rw [reached, Registry.untrack, List.filter_filterMap]
                · intro i
                  rw [asksFor_did, asks]
                  simp [eq_comm]
                · intro i
                  rw [asksFor_did, asks]
                  simp
              · rw [asks, @Tracked.recorded?_of_mark before expiry (.did d) id]
                · change middle.shared.registry.mark id expiry = _
                  rw [reached, Registry.mark, List.map_filterMap]
                · intro i
                  rw [asksFor_did, asks]
                  simp
                · intro i
                  rw [asksFor_did, asks]
                  simp [eq_comm]

end TokenKeeper
