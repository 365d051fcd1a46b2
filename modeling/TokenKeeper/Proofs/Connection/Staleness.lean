import TokenKeeper.Proofs.Connection.Bounds

/-!
# Stale connections

A connection is stale if its tag is earlier than the expiry of the token in the store. Tokens follow
each other with strictly later expiries and tags come from looks at the store, so to compare
expiries is to ask which token a connection was last brought up to: it is stale exactly if the call
that began to track it looked at the store before the current token came, and no pass with this
token has marked it.

One token is an exception. Connections that were tracked before there was a token have the first
instant for their tag, and a token may expire at the first instant. Such a token makes nothing
stale, not even a connection that never signed in with any.
-/

namespace TokenKeeper

variable {e : Engine} {m : Machine e} {trace earlier later : List Label} {look : Deed} {x : Tracked}
variable {id : ConnectionId} {current : Token} {expiry : Instant}

namespace Registry

theorem mem_stale {r : Registry} {alive : Connection → Bool} :
    x ∈ (r.stale alive expiry).2 ↔
      x ∈ r.entries ∧ alive x.connection = true ∧ x.tag < expiry := by
  simp [stale, behind, and_comm]

end Registry

/-- The call that created the entry of a number looked at the store at this point of a run. -/
structure Created (trace : List Label) (id : ConnectionId) (earlier : List Label) (look : Deed)
    (later : List Label) : Prop where
  cut : trace = earlier ++ .did look :: later
  looks : look.exchange.request = .currentToken
  /-- The same task then was the first to track a connection under this number. -/
  tracks : ∃ between track after c tag, later = between ++ .did track :: after ∧
    track.thread = look.thread ∧ track.exchange = ⟨.track c tag, id⟩ ∧
      trackedWith? id (earlier ++ .did look :: between) = none

/-- A worker of a pass with this token marks the connection. -/
def Deed.MarksWith (id : ConnectionId) (token : Token) (d : Deed) : Prop :=
  d.exchange.request = .mark id token.expiresAt ∧
    ∃ pass job, d.duty = .worker pass job ∧ job.token = token

/-- What the creating call has seen is what the number was first tracked with. -/
theorem Created.seen (created : Created trace id earlier look later)
    (run : Run ({} : Machine e) trace m) :
    ∃ seen, look.exchange = ⟨.currentToken, seen⟩ ∧
      trackedWith? id trace = some (Token.expiryOf seen) := by
  obtain ⟨between, track, after, c, tag, rfl, same, exchange, fresh⟩ := created.tracks
  have cut : trace = (earlier ++ .did look :: between) ++ .did track :: after := by
    rw [created.cut, List.append_assoc, List.cons_append]
  rw [cut] at run ⊢
  obtain ⟨before, _, start, step, _⟩ := run.cut
  obtain ⟨seen, past, sees, _⟩ := start.look_of_track step (congrArg (·.request) exchange)
  refine ⟨seen, ?looked, ?tracked⟩
  case looked =>
    -- The only exchange of the task before it tracks the connection is the look.
    have happened : .did look ∈ earlier ++ .did look :: between := by simp
    have alone := Deed.member_eq_none (start.sound happened) (by rw [created.looks]; rfl)
    obtain ⟨t, more, here, _, known⟩ := start.recorded happened alone
    obtain ⟨t', there, _, before⟩ := step.actor
    obtain rfl := Option.some.inj (there.symm.trans (same ▸ here))
    have own := (step.sound.tracking (congrArg (·.request) exchange)).1
    rw [(before own).1, past] at known
    cases first : look.past with
    | nil =>
        rw [first] at known
        exact (List.cons.inj known).1.symm
    | cons y ys =>
        have length := congrArg List.length known
        simp [first] at length
  case tracked =>
    rw [trackedWith?, List.findSome?_append, ← trackedWith?, fresh, Option.none_or,
      List.findSome?_cons]
    obtain ⟨thread, duty, member, past, request, given⟩ := track
    cases exchange
    simp [Label.tracks?, sees]

namespace Run

/-- Every entry was created by a call that has looked at the store. -/
theorem exists_created (run : Run ({} : Machine e) trace m)
    (inside : x ∈ m.shared.registry.entries) :
    ∃ earlier look later, Created trace x.id earlier look later := by
  obtain ⟨tag, tracked, _⟩ := run.tag_origin inside
  obtain ⟨before, d, after, c, rfl, exchange, fresh⟩ := tracking_of_trackedWith? tracked
  obtain ⟨_, _, start, step, _⟩ := run.cut
  obtain ⟨seen, _, _, looked⟩ := start.look_of_track step (congrArg (·.request) exchange)
  obtain ⟨earlier, between, rfl⟩ := List.append_of_mem looked
  refine ⟨earlier, ⟨d.thread, d.duty, none, [], ⟨.currentToken, seen⟩⟩,
    between ++ .did d :: after, ?_, rfl, ?_⟩
  · rw [List.append_assoc, List.cons_append]
  · exact ⟨between, d, after, c, tag, rfl, rfl, exchange, fresh⟩

/-- A mark with the expiry of the current token was made by a pass with this token. -/
theorem marksWith_of_marks {d : Deed} (run : Run ({} : Machine e) trace m)
    (held : m.shared.store.current = some current) (happened : .did d ∈ trace)
    (marks : d.exchange.request = .mark id current.expiresAt) : d.MarksWith id current := by
  obtain ⟨pass, job, look, duty, isExpiry, looked, _, seen⟩ := run.look_of_mark happened marks
  obtain ⟨first, rest, rfl⟩ := List.append_of_mem looked
  obtain ⟨before, after, _, step, onward⟩ := run.cut
  have found : some job.token = before.shared.store.current := step.answer seen rfl
  have still : after.shared.store.current = some job.token := by
    rw [step.shared, seen]
    exact found.symm
  refine ⟨marks, pass, job, duty, ?_⟩
  rcases onward.same_or_later still held with same | earlier
  · exact same
  · rw [isExpiry] at earlier
    exact absurd (Instant.le_refl _) (Instant.not_le.mpr earlier)

/-- While there is a token, a connection is found stale exactly if that token expires later than the
first instant, came after the look of the call that created the entry, and has not been marked by a
pass with it. A call that has seen no token has looked before the current one came. -/
theorem stale_iff (run : Run ({} : Machine e) trace m)
    (held : m.shared.store.current = some current) (inside : x ∈ m.shared.registry.entries)
    (alive : m.alive x.connection = true) :
    (∃ earlier look later, Created trace x.id earlier look later) ∧
      ∀ earlier look later, Created trace x.id earlier look later →
        (x ∈ (m.shared.registry.stale m.alive m.shared.store.expiry).2 ↔
          .min < current.expiresAt ∧ current ∈ installed later ∧
            ∀ d, .did d ∈ trace → ¬ d.MarksWith x.id current) ∧
        (look.exchange = ⟨.currentToken, none⟩ → current ∈ installed later) := by
  refine ⟨run.exists_created inside, fun earlier look later created => ?_⟩
  obtain ⟨seen, looked, tracked⟩ := created.seen run
  obtain ⟨tag, tracked', low, origin⟩ := run.tag_origin inside
  obtain rfl := Option.some.inj (tracked'.symm.trans tracked)
  obtain ⟨before, after, _, step, onward⟩ := (created.cut ▸ run).cut
  have found : after.shared.store.current = seen := by
    have answered : seen = before.shared.store.current := step.answer looked rfl
    rw [step.shared, looked]
    exact answered.symm
  have expiry : m.shared.store.expiry = current.expiresAt := by
    rw [TokenStore.expiry, held]
    rfl
  have known : current ∈ seen.toList ++ installed later := by
    have last := onward.current_getLast?
    rw [held, found] at last
    exact List.mem_of_getLast? last.symm
  refine ⟨⟨?selected, ?select⟩, ?first⟩
  case selected =>
    intro stale
    obtain ⟨_, _, behind⟩ := Registry.mem_stale.mp stale
    rw [expiry] at behind
    refine ⟨Instant.lt_of_le_of_lt (Instant.min_le _) behind, ?_, fun d happened marks => ?_⟩
    · refine (List.mem_append.mp known).resolve_left fun old => ?_
      obtain rfl := Option.mem_toList.mp old
      exact Instant.not_le.mpr behind low
    · exact Instant.not_le.mpr behind (run.le_tag_of_marked inside happened marks.1)
  case select =>
    rintro ⟨positive, came, unmarked⟩
    have older : Token.expiryOf seen < current.expiresAt := by
      cases seen with
      | none => exact positive
      | some old => exact onward.later_of_installed found came
    refine Registry.mem_stale.mpr ⟨inside, alive, ?_⟩
    rw [expiry]
    rcases origin with same | ⟨mark, happened, marks⟩
    · rwa [same]
    · -- A tag that is not behind is that of the current token, so a pass with it made the mark.
      by_contra ahead
      have level : x.tag = current.expiresAt := by
        have bound := run.tag_le_expiry inside
        rw [expiry] at bound
        exact Instant.le_antisymm bound (Instant.not_lt.mp ahead)
      rw [level] at marks
      exact unmarked mark happened (run.marksWith_of_marks held happened marks)
  case first =>
    intro empty
    rw [looked, Exchange.mk.injEq] at empty
    obtain rfl := eq_of_heq empty.2
    simpa using known

/-- A token that expires at the first instant. -/
def firstInstant : Token := ⟨"first", default, .min⟩

/-- A connection is tracked before there is a token, and then that token is acquired. -/
def unstirred : Machine Engine.sample × List Label :=
  ({} : Machine Engine.sample).play
    (.begin (.established newcomer) :: Move.tells 0 8 Request.blank ++
      .begin (.acquire false) :: Move.tells 1 6 (Request.issuing ⟨"first", .min⟩))

/-- The look of the call that tracked the connection. -/
def unstirredLook : Deed := ⟨0, .call (.established newcomer), none, [], ⟨.currentToken, none⟩⟩

/-- The token came after the connection was tracked and no pass has marked it, but it is not
stale. -/
theorem not_stale_at_first_instant :
    unstirred.1.shared.store.current = some firstInstant ∧
      unstirred.1.shared.registry.entries = [⟨⟨1⟩, newcomer, .min⟩] ∧
      unstirred.1.alive newcomer = true ∧
      (unstirred.1.shared.registry.stale unstirred.1.alive unstirred.1.shared.store.expiry).2 = [] ∧
      Created unstirred.2 ⟨1⟩ (unstirred.2.take 1) unstirredLook (unstirred.2.drop 2) ∧
      firstInstant ∈ installed (unstirred.2.drop 2) ∧
      ∀ d, .did d ∈ unstirred.2 → ¬ d.MarksWith ⟨1⟩ firstInstant := by
  have run : Run {} unstirred.2 unstirred.1 := Machine.play_run _ _
  have held : unstirred.1.shared.store.current = some firstInstant := by decide +kernel
  have entries : unstirred.1.shared.registry.entries = [⟨⟨1⟩, newcomer, .min⟩] := by decide +kernel
  have alive : unstirred.1.alive newcomer = true := by decide +kernel
  have created : Created unstirred.2 ⟨1⟩ (unstirred.2.take 1) unstirredLook
      (unstirred.2.drop 2) := by
    refine ⟨by decide +kernel, rfl, [], ⟨0, .call (.established newcomer), none,
      [⟨.currentToken, none⟩], ⟨.track newcomer .min, ⟨1⟩⟩⟩, unstirred.2.drop 3, newcomer, .min,
      by decide +kernel, rfl, rfl, by decide +kernel⟩
  have unmarked : everyDeed (fun d => decide (d.exchange.request ≠ .mark ⟨1⟩ .min)) unstirred.2 =
      true := by decide +kernel
  obtain ⟨_, exactly⟩ := run.stale_iff held (entries ▸ List.mem_cons_self) alive
  obtain ⟨stale, came⟩ := exactly _ _ _ created
  refine ⟨held, entries, alive, ?_, created, came rfl, fun d happened marks => ?_⟩
  · apply List.eq_nil_iff_forall_not_mem.mpr
    intro x found
    obtain ⟨inside, _⟩ := Registry.mem_stale.mp found
    rw [entries, List.mem_singleton] at inside
    subst inside
    exact absurd (stale.mp found).1 (by decide)
  · exact of_decide_eq_true (of_everyDeed unmarked happened) marks.1

end Run
end TokenKeeper
