import TokenKeeper.Proofs.Event.Audience
import TokenKeeper.Proofs.Pass.Jobs

/-!
# Subscribers do not matter

An acquisition or a pass that runs alone is settled by the shared state, the answers of the outside
and what the endpoints do: its result, the state that it leaves, what the identity service and the
policy were asked, and what each endpoint was sent. So it is the same before any two audiences. What
is asked of the identity service and of the endpoints is asked before the subscribers are told.
-/

namespace TokenKeeper

variable {e : Engine} {m m' m₀ : Machine e} {trace trace' : List Label} {d : Deed} {c : Call}
variable {outside : Answerer} {conduct : ConnectionId → Conduct} {t t' : Thread e} {report : Bool}

/-- Whether the outside answers a request of a call. -/
def Request.asksOutside : Request → Bool
  | .now | .sleep _ | .getToken _ | .notify _ => true
  | _ => false

theorem Request.IsOutside.asks {q : Request} (asks : q.IsOutside) : q.asksOutside = true := by
  cases q with
  | now | sleep | getToken | notify => rfl
  | _ => exact asks.elim

/-- An exchange with the identity service, or with the policy on how long to wait for it. -/
def Label.service? : Label → Option Exchange
  | .did d => if d.exchange.request.isService = true then some d.exchange else none
  | _ => none

/-- What the identity service and the policy were asked in a run. -/
def serviceCalls (trace : List Label) : List Exchange := trace.filterMap Label.service?

namespace Lone

theorem service_of_acquisition (p : Lone outside conduct (.acquire report) m₀ m trace)
    (here : m.threads[m₀.threads.length]? = some t) :
    serviceCalls trace = t.past.filter fun x => x.request.isService := by
  rw [(p.known here).2, serviceCalls, ← List.filterMap_eq_filter, List.filterMap_filterMap]
  refine List.filterMap_congr fun l inside => ?_
  obtain ⟨d, rfl, _⟩ := p.attended l inside
  obtain ⟨number, _, alone⟩ := p.own inside
  obtain ⟨thread, duty, member, past, x⟩ := d
  obtain rfl : member = none := alone
  obtain rfl : thread = m₀.threads.length := number
  simp [Label.service?, Label.own?, Option.guard]

theorem service_of_pass (p : Lone outside conduct .reauthenticate m₀ m trace) :
    serviceCalls trace = [] := by
  rw [serviceCalls, List.filterMap_eq_nil_iff]
  intro l inside
  obtain ⟨d, rfl, _⟩ := p.attended l inside
  rw [Label.service?, (p.isOfPass inside).isService]
  rfl

theorem commandsTo_of_acquisition (p : Lone outside conduct (.acquire report) m₀ m trace)
    (id : ConnectionId) : commandsTo id trace = [] := by
  rw [commandsTo, List.filterMap_eq_nil_iff]
  intro l inside
  obtain ⟨d, rfl, _⟩ := p.attended l inside
  obtain ⟨_, duty, _⟩ := p.own inside
  obtain ⟨thread, duty', member, past, x⟩ := d
  obtain rfl : duty' = .call (.acquire report) := duty
  rfl

/-- A call that runs alone comes to the same end whenever it starts from the same. -/
theorem same_end (p : Lone outside conduct c m₀ m trace) (p' : Lone outside conduct c m₀ m' trace')
    (plain : c.IsPlain) (ordered : m₀.shared.registry.Ordered)
    (here : m.threads[m₀.threads.length]? = some t)
    (here' : m'.threads[m₀.threads.length]? = some t') {r r' : Except Panic Output}
    (ended : t.rest.ended? = some r) (ended' : t'.rest.ended? = some r') :
    r = r' ∧ m.shared = m'.shared ∧ serviceCalls trace = serviceCalls trace' ∧
      ∀ id j, (¬ (conduct id).Panics e.policy.immediateRetries ∨
          ∃ order, InOrder order (commandsTo id trace) ∧ InOrder order (commandsTo id trace')) →
        shareOf j (commandsTo id trace) = shareOf j (commandsTo id trace') := by
  have done : t.rest.ended?.isSome = true := by rw [ended]; rfl
  have done' : t'.rest.ended?.isSome = true := by rw [ended']; rfl
  cases c with
  | acquire report =>
      obtain ⟨past, rest⟩ := p.same_acquisition p' here here' done done'
      refine ⟨?result, ?state, ?service, fun id j _ => ?commands⟩
      case result =>
        rw [rest, ended'] at ended
        exact (Option.some.inj ended).symm
      case state => rw [p.replayed, p'.replayed, ← (p.known here).2, ← (p'.known here').2, past]
      case service => rw [p.service_of_acquisition here, p'.service_of_acquisition here', past]
      case commands => rw [p.commandsTo_of_acquisition, p'.commandsTo_of_acquisition]
  | reauthenticate =>
      obtain ⟨rfl, state⟩ := p.passed ordered here ended
      obtain ⟨rfl, state'⟩ := p'.passed ordered here' ended'
      exact ⟨rfl, state.trans state'.symm, p.service_of_pass.trans p'.service_of_pass.symm,
        fun id j same => p.same_commands p' ordered here here' done done' same j⟩
  | _ => exact plain.elim

end Lone

namespace Hall

end Hall

namespace Audience

end Audience

namespace Run

end Run
end TokenKeeper
