import TokenKeeper.Proofs.Call.Requests
import TokenKeeper.Proofs.Pass.Overlap

/-!
# Tags between their past and the present

A tag comes from a look at the store: the look of the call that tracks a connection, or the one of
a pass, however long ago that was and whatever was put into the store since. The expiry of the
store does not go back, so no tag is ahead of the current token. Tags do not go back either, also
where a pass that has an older token marks a connection late.
-/

namespace TokenKeeper

variable {e : Engine} {m m' : Machine e} {trace : List Label} {l : Label} {d : Deed} {x : Tracked}
variable {c : Connection} {id : ConnectionId} {tag expiry : Instant}

namespace Registry

/-- The tag of a number is that of an entry. -/
theorem entry_of_tag? {r : Registry} (known : r.tag? id = some tag) :
    ∃ x ∈ r.entries, x.id = id ∧ x.tag = tag := by
  obtain ⟨x, found, same⟩ := Option.map_eq_some_iff.mp known
  refine ⟨x, List.mem_of_find?_eq_some found, ?_, same⟩
  simpa using List.find?_some found

end Registry

/-- A connection is tracked by a call for it, and all that this call has done before is to look at
the store. The tag is the expiry that it has seen. -/
theorem Deed.Sound.tracking (sound : d.Sound e) (tracks : d.exchange.request = .track c tag) :
    d.member = none ∧ d.duty = .call (.established c) ∧
      ∃ seen, d.past = [⟨.currentToken, seen⟩] ∧ tag = Token.expiryOf seen := by
  have own := Deed.member_eq_none sound (by rw [tracks]; rfl)
  have allowed := sound.mayAsk own
  obtain ⟨resume, reached⟩ := sound.reaches own
  obtain ⟨thread, duty, member, past, q, a⟩ := d
  obtain rfl : q = .track c tag := tracks
  refine ⟨own, ?_⟩
  cases duty with
  | worker pass job => exact allowed.elim
  | call call =>
      cases call with
      | established c' =>
          obtain ⟨rfl, seen, same, sees⟩ := Call.established_track (e := e) reached
          exact ⟨rfl, seen, same, sees⟩
      | acquire => exact allowed.elim
      | reauthenticate => exact allowed.elim
      | _ => simp [Duty.MayAsk, Call.MayAsk, Request.IsInside, Request.IsAcquiring,
          Request.IsPassing, Request.IsHeartbeat] at allowed

/-- What is asked in a step. -/
def Label.request? : Label → Option Request
  | .did d => some d.exchange.request
  | _ => none

namespace Run

/-- Who tracks a connection has looked at the store before. -/
theorem look_of_track (run : Run {} trace m) (step : Step m (.did d) m')
    (tracks : d.exchange.request = .track c tag) :
    ∃ seen, d.past = [⟨.currentToken, seen⟩] ∧ tag = Token.expiryOf seen ∧
      .did ⟨d.thread, d.duty, none, [], ⟨.currentToken, seen⟩⟩ ∈ trace := by
  obtain ⟨own, _, seen, past, sees⟩ := step.sound.tracking tracks
  exact ⟨seen, past, sees, run.deed_before step (Nat.zero_le _) own past⟩

/-- Behind a mark stands a look at the store, which has seen the token of the mark. -/
theorem look_of_mark (run : Run {} trace m) (happened : .did d ∈ trace)
    (marks : d.exchange.request = .mark id expiry) :
    ∃ pass job look, d.duty = .worker pass job ∧ expiry = job.token.expiresAt ∧
      .did look ∈ trace ∧ look.thread = pass ∧
        look.exchange = ⟨.currentToken, some job.token⟩ := by
  obtain ⟨pass, job, duty, _, isExpiry, _⟩ := (run.sound happened).asks_of_mark marks
  obtain ⟨t, here, same⟩ := run.actor happened
  obtain ⟨⟨look, looked, number, seen⟩, _⟩ := run.worker_origin here (same.trans duty)
  exact ⟨pass, job, look, duty, isExpiry, looked, number, seen⟩

/-- Where a number was first tracked. -/
theorem tracking_of_trackedWith? (tracked : trackedWith? id trace = some tag) :
    ∃ before d after c, trace = before ++ .did d :: after ∧
      d.exchange = ⟨.track c tag, id⟩ ∧ trackedWith? id before = none := by
  obtain ⟨before, l, after, cut, tracks, fresh⟩ := List.findSome?_eq_some_iff.mp tracked
  unfold Label.tracks? at tracks
  split at tracks
  · rename_i thread duty member past c tag' given
    split at tracks
    · rename_i same
      obtain rfl := Option.some.inj tracks
      exact ⟨before, _, after, c, cut, by rw [same], List.findSome?_eq_none_iff.mpr fresh⟩
    · cases tracks
  · cases tracks

/-- No tag is ahead of the token in the store. -/
theorem tag_le_expiry (run : Run ({} : Machine e) trace m)
    (inside : x ∈ m.shared.registry.entries) : x.tag ≤ m.shared.store.expiry := by
  obtain ⟨tag, tracked, _, origin⟩ := run.tag_origin inside
  rcases origin with same | ⟨mark, happened, marks⟩
  · obtain ⟨before, d, after, c, rfl, exchange, _⟩ := tracking_of_trackedWith? tracked
    obtain ⟨_, _, start, step, _⟩ := run.cut
    obtain ⟨seen, _, sees, looked⟩ := start.look_of_track step (congrArg (·.request) exchange)
    rw [same, sees]
    exact run.expiry_of_look (List.mem_append_left _ looked) rfl
  · obtain ⟨_, job, look, _, isExpiry, looked, _, seen⟩ := run.look_of_mark happened marks
    rw [isExpiry]
    exact run.expiry_of_look looked seen

/-- The tag of a number is never ahead of the token in the store, which is the first instant while
there is none, and it never goes back while the number is tracked. -/
theorem tag_bounds (run : Run ({} : Machine e) trace m) :
    (∀ id tag, m.shared.registry.tag? id = some tag → tag ≤ m.shared.store.expiry) ∧
      ∀ later m', Run m later m' → ∀ id old tag, m.shared.registry.tag? id = some old →
        m'.shared.registry.tag? id = some tag → old ≤ tag := by
  constructor
  · intro id tag known
    obtain ⟨x, inside, _, rfl⟩ := Registry.entry_of_tag? known
    exact run.tag_le_expiry inside
  · intro later m' rest id old tag before now
    obtain ⟨y, first, same, rfl⟩ := Registry.entry_of_tag? before
    obtain ⟨x, last, rfl, rfl⟩ := Registry.entry_of_tag? now
    have ordered := run.ordered Registry.Ordered.empty
    obtain ⟨z, there, becomes⟩ := rest.entry last (same ▸ ordered.below y first)
    obtain rfl := ordered.eq_of_id there first (becomes.id.symm.trans same.symm)
    exact becomes.tag

/-- A connection is tracked before there is a token. A pass takes the old token and starts its
worker; another token is acquired and another pass serves the connection with it. -/
def caughtUp : Machine Engine.sample × List Label :=
  ({} : Machine Engine.sample).play
    (.begin (.established newcomer) :: Move.tells 0 8 Request.blank ++
      .begin (.acquire false) :: Move.tells 1 6 (Request.issuing ⟨"old", default⟩) ++
      .begin .reauthenticate :: Move.tells 2 4 Request.blank ++
      .begin (.acquire false) :: Move.tells 4 5 (Request.issuing ⟨"new", .max⟩) ++
      .begin .reauthenticate :: Move.tells 5 4 Request.blank ++ serves 6)

/-- The worker of the first pass goes on and marks the connection with the old token. -/
def markedLate : Machine Engine.sample × List Label := caughtUp.1.play (serves 3)

/-- The late mark leaves the tag where it is, and it is never ahead of the store. -/
theorem tag_after_late_mark :
    caughtUp.1.shared.registry.tag? ⟨1⟩ = some .max ∧
      some (.mark ⟨1⟩ oldToken.expiresAt) ∈ markedLate.2.map Label.request? ∧
      oldToken.expiresAt < .max ∧ .max ≤ caughtUp.1.shared.store.expiry ∧
      ∃ tag, markedLate.1.shared.registry.tag? ⟨1⟩ = some tag ∧ .max ≤ tag := by
  have first : Run {} caughtUp.2 caughtUp.1 := Machine.play_run _ _
  have rest : Run caughtUp.1 markedLate.2 markedLate.1 := Machine.play_run _ _
  have before : caughtUp.1.shared.registry.tag? ⟨1⟩ = some .max := by decide +kernel
  have now : markedLate.1.shared.registry.tag? ⟨1⟩ = some .max := by decide +kernel
  obtain ⟨bounded, forward⟩ := first.tag_bounds
  exact ⟨before, by decide +kernel, by decide, bounded _ _ before, _, now,
    forward _ _ rest _ _ _ before now⟩

end Run
end TokenKeeper
