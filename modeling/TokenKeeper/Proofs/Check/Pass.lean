import TokenKeeper.Proofs.Acquisition.Named
import TokenKeeper.Proofs.Call.Progress
import TokenKeeper.Proofs.Check.Gate

/-!
# Every check runs a pass

Once it is inside the gate a check renews the token if that is due, and whatever comes of that it
runs a pass over the connections that are stale for the token that is current then. Only a panic
of the renewal keeps it from that; then it does nothing but leave the gate. However the outside
answers, a check that is inside gets to the point where it leaves.
-/

namespace TokenKeeper

open Engine

variable {e : Engine} {m m' m₀ m₁ : Machine e} {trace earlier later : List Label} {i : Nat}
variable {t : Thread e} {c : Call} {d : Deed} {conduct : ConnectionId → Conduct}

/-- However the outside answers, a check that is inside the gate can go on until it leaves. -/
theorem Run.check_can_leave (outside : Answerer) (conduct : ConnectionId → Conduct)
    (run : Run ({} : Machine e) trace m) (here : m.threads[i]? = some t)
    (duty : t.duty = .call c) (isCheck : c.isCheck = true)
    (inside : Raised entered left t.duty t.past) :
    ∃ (more : List Label) (m' : Machine e) (t' : Thread e), Run m more m' ∧
      Attended i outside conduct more ∧ m'.threads[i]? = some t' ∧ left ∈ t'.past := by
  generalize rest : t.rest = program
  induction program generalizing m trace t with
  | pure output => exact absurd inside (t.not_inside_of_ended (by rw [rest]; rfl))
  | panic p => exact absurd inside (t.not_inside_of_ended (by rw [rest]; rfl))
  | ask q resume ih =>
      have asks := t.check_asks duty isCheck rest
      generalize known : t.past = past at asks
      cases asks with
      | enter =>
          rw [known] at inside
          exact absurd inside.1 List.not_mem_nil
      | @books gone books b q resume background done reached =>
          have only := syncHeartbeat_uses.of_mem reached
          rw [known] at inside
          have entry := (List.mem_append.mp inside.1).resolve_right fun later => only _ later
          exact absurd (List.mem_append_left _ (done.left_mem entry)) inside.2
      | leave done =>
          have permits : m.Permits t.members .leave () := fun b known => rfl
          have now := Machine.getElem?_tell_self (q := .leave) (t := t.tell rest ())
            (List.getElem?_eq_some_iff.mp here).1
          refine ⟨[_], _, _, Run.single (.tell here rest permits),
            .single ⟨⟨.inl rfl, fun job same => nomatch duty.symm.trans same⟩, ?_⟩, now,
            List.mem_append_right _ List.mem_cons_self⟩
          exact fun _ asks => asks.elim
      | work asks =>
          subst known
          obtain ⟨working, asked⟩ := asks.working
          obtain ⟨first, m₁, a, run₁, attended, now⟩ :=
            run.can_go_on outside conduct (Nat.zero_le i) here duty rest asked fun w joins => by
              subst joins
              cases asks with
              | renew renewing asks => exact asks.elim
              | pass renewed passing asks => exact asks
          have still : Working (t.tell rest a).past := working.snoc asked
          obtain ⟨more, m', t', run', attended', last, out⟩ :=
            ih a (run.trans run₁) now duty ⟨still.mem, still.left_not_mem⟩ rfl
          exact ⟨first ++ more, m', t', run₁.trans run', attended.append attended', last, out⟩

/-- What a check has done that has left the gate after its pass. The pass has looked for a token and
a username; without a token that was all, and with both it has found these connections and has
started and waited for a worker for each of them. -/
structure LeftAfterPass (past renewal : List Exchange) (seen : Option Token) (name : Option String)
    (tail books : List Exchange) : Prop where
  renewed : Adds Request.IsAcquiring [entered] renewal
  past : past = renewal ++ ⟨.currentToken, seen⟩ :: ⟨.username, name⟩ :: (tail ++ left :: books)
  idle : seen = none → tail = []
  served : ∀ token known, seen = some token → name = some known →
    ∃ found rest, tail = finding token found :: rest ∧
      ∀ x ∈ found, ∃ w o, ⟨.spawnWorker (x.job token known), w⟩ ∈ rest ∧
        ⟨.joinWorker w, o⟩ ∈ rest
  only : ∀ x ∈ books, x.request.IsHeartbeat

theorem Engine.InsideEnds.leftAfterPass {work books : List Exchange}
    (h : InsideEnds e [entered] work (.ok ())) (only : ∀ x ∈ books, x.request.IsHeartbeat) :
    ∃ renewal seen name tail,
      LeftAfterPass (work ++ left :: books) renewal seen name tail books := by
  cases h with
  | @served renewal _ pass renewed passing ends =>
      obtain ⟨seen, name, tail, looked, still, _⟩ := ends.looked
      refine ⟨renewal, seen, name, tail, renewed, by rw [looked]; simp,
        fun none => still (.inl none), ?_, only⟩
      rintro token known rfl rfl
      exact ends.served token known tail (by rw [looked]; simp [opening])

/-- A check that has left the gate did so after a panic of its renewal, and has ended with it, or
after a pass. -/
theorem Thread.check_left (duty : t.duty = .call c) (isCheck : c.isCheck = true)
    (out : left ∈ t.past) :
    (∃ renewal p, t.past = renewal ++ [left] ∧ Adds Request.IsAcquiring [entered] renewal ∧
      Breaks e [entered] renewal p ∧ ∃ r, t.rest.ended? = some r ∧
        (c = .ensure → r = .error p) ∧ (c = .check → r = .ok .done)) ∨
    ∃ renewal seen name tail books, LeftAfterPass t.past renewal seen name tail books := by
  rcases t.check_course duty isCheck with
    unbegun | inside | ⟨gone, b, books, done, past, only, broken⟩
  · rw [unbegun] at out
    cases out
  · exact absurd out inside.left_not_mem
  cases done with
  | refused =>
      rw [past] at out
      rcases List.mem_cons.mp out with same | later
      · cases same
      · exact (only _ later).elim
  | @broken work p done =>
      cases done with
      | broken renewing breaks =>
          obtain ⟨rfl, ended⟩ := broken p rfl
          exact .inl ⟨work, p, by rw [past, List.append_nil], renewing, breaks, ended⟩
  | @served work done =>
      obtain ⟨renewal, seen, name, tail, passed⟩ := done.leftAfterPass only
      refine .inr ⟨renewal, seen, name, tail, books, ?_⟩
      rwa [past, List.append_assoc]

/-- A check has run a pass after its renewal. The token of the pass was current when the pass
began, the connections that it found are all those that were alive and stale for this token, and
each of them has been served by a worker of its own, which has ended. -/
structure RanPass (start : Machine e) (later : List Label) (m : Machine e) (i : Nat) (c : Call)
    (past renewal : List Exchange) (token : Token) (name : String) (found : List Tracked) :
    Prop where
  renewed : Adds Request.IsAcquiring [entered] renewal
  passed : renewal ++ opening token name ++ [finding token found] <+: past
  current : ∃ first rest look, later = first ++ .did ⟨i, .call c, none, renewal,
      ⟨.currentToken, some token⟩⟩ :: rest ∧
    Run start first look ∧ look.shared.store.current = some token
  stale : ∃ first rest look, later = first ++ .did ⟨i, .call c, none, renewal ++ opening token name,
      finding token found⟩ :: rest ∧
    Run start first look ∧
      found = (look.shared.registry.prune look.alive).behind token.expiresAt
  served : ∀ x ∈ found, ∃ w worker outcome, (⟨.joinWorker w, outcome⟩ : Exchange) ∈ past ∧
    m.threads[w.number]? = some worker ∧ worker.duty = .worker i (x.job token name) ∧
      worker.outcome? = some outcome

section leaving

variable {renewal tail books : List Exchange} {seen : Option Token} {name : Option String}

/-- The pass of a check has seen the token that was current when it looked. -/
theorem Run.look_of_left (entry : Step m₀ (.did ⟨i, .call c, none, [], entered⟩) m₁)
    (rest : Run m₁ later m) (here : m.threads[i]? = some t)
    (h : LeftAfterPass t.past renewal seen name tail books) :
    ∃ front back look,
      later = front ++ .did ⟨i, .call c, none, renewal, ⟨.currentToken, seen⟩⟩ :: back ∧
        Run m₁ front look ∧ look.shared.store.current = seen := by
  obtain ⟨front, back, look, _, same, start, step, _⟩ :=
    Run.moment_after entry rest here h.renewed.isPrefix h.past
  have answer : seen = look.shared.store.current := step.answer rfl rfl
  exact ⟨front, back, look, same, start, answer.symm⟩

/-- A pass that has found a token finds a username as well. -/
theorem Run.named_of_left {token : Token} (first : Run ({} : Machine e) earlier m₀)
    (entry : Step m₀ (.did ⟨i, .call c, none, [], entered⟩) m₁) (rest : Run m₁ later m)
    (here : m.threads[i]? = some t)
    (h : LeftAfterPass t.past renewal (some token) name tail books) :
    ∃ known, name = some known := by
  obtain ⟨_, _, look, after, _, start, step, onward⟩ :=
    Run.moment_after entry rest here h.renewed.isPrefix h.past
  have held : after.shared.store.current.isSome = true := by
    have answer : some token = look.shared.store.current := step.answer rfl rfl
    rw [step.shared]
    change look.shared.store.current.isSome = true
    rw [← answer]
    rfl
  obtain ⟨_, _, asking, _, _, start', step', _⟩ := Run.moment_after step onward here List.prefix_rfl
    (h.past.trans (List.append_cons _ _ _))
  have answer : name = asking.shared.store.username := step'.answer rfl rfl
  have whole := (((first.snoc entry).trans start).snoc step).trans start'
  rw [answer]
  exact Option.isSome_iff_exists.mp (whole.named (start'.current_isSome held))

/-- A pass that has found a token has looked for stale connections and served them. -/
theorem Run.search_of_left {token : Token} (first : Run ({} : Machine e) earlier m₀)
    (entry : Step m₀ (.did ⟨i, .call c, none, [], entered⟩) m₁) (rest : Run m₁ later m)
    (here : m.threads[i]? = some t)
    (h : LeftAfterPass t.past renewal (some token) name tail books) :
    ∃ known found more, name = some known ∧
      t.past = (renewal ++ opening token known) ++ finding token found ::
        (more ++ left :: books) ∧
      ∀ x ∈ found, ∃ w o, ⟨.spawnWorker (x.job token known), w⟩ ∈ more ∧
        ⟨.joinWorker w, o⟩ ∈ more := by
  obtain ⟨known, rfl⟩ := first.named_of_left entry rest here h
  obtain ⟨found, more, same, each⟩ := h.served token known rfl rfl
  refine ⟨known, found, more, rfl, ?_, each⟩
  rw [h.past, same]
  simp [opening]

end leaving

/-- In a state with an installed token, a check that is let in gets to the point where it leaves
the gate, however the outside answers. Then it has run a pass over the connections that were stale
for the token that was current by then, unless its renewal has panicked: in that case it has done
nothing but that, and has ended with the panic, which goes no further in the background. -/
theorem Run.pass_of_check (first : Run ({} : Machine e) earlier m₀)
    (held : m₀.shared.store.current.isSome = true)
    (entry : Step m₀ (.did ⟨i, .call c, none, [], entered⟩) m₁) (rest : Run m₁ later m) :
    (m.Inside i → ∀ outside conduct, ∃ (more : List Label) (m' : Machine e) (t : Thread e),
      Run m more m' ∧ (∀ l ∈ more, ∃ d, l = .did d ∧ d.Serves i outside conduct) ∧
        m'.threads[i]? = some t ∧ left ∈ t.past) ∧
    ∀ t, m.threads[i]? = some t → left ∈ t.past →
      (∃ renewal p, t.past = renewal ++ [left] ∧ Adds Request.IsAcquiring [entered] renewal ∧
        Breaks e [entered] renewal p ∧ ∃ r, t.rest.ended? = some r ∧
          (c = .ensure → r = .error p) ∧ (c = .check → r = .ok .done)) ∨
      ∃ renewal token name found, RanPass m₁ later m i c t.past renewal token name found := by
  have whole := (first.snoc entry).trans rest
  obtain ⟨_, c', duty, isCheck, _⟩ := entry.sound.check_asks (.inl rfl)
  obtain rfl := Duty.call.inj duty
  have call {t : Thread e} (here : m.threads[i]? = some t) : t.duty = .call c :=
    Run.duty_after entry rest here
  constructor
  · rintro ⟨t, here, inside⟩ outside conduct
    exact whole.check_can_leave outside conduct here (call here) isCheck inside
  intro t here out
  rcases t.check_left (call here) isCheck out with broken | ⟨renewal, seen, name, _, _, passed⟩
  · exact .inl broken
  obtain ⟨front, back, look, same, start, current⟩ := Run.look_of_left entry rest here passed
  obtain ⟨token, rfl⟩ : ∃ token, seen = some token := by
    rw [← current]
    exact Option.isSome_iff_exists.mp (((Run.single entry).trans start).current_isSome held)
  obtain ⟨name, found, tail, rfl, cut, each⟩ := first.search_of_left entry rest here passed
  refine .inr ⟨renewal, token, name, found, passed.renewed, ?passed, ?current, ?stale, ?served⟩
  case passed => exact ⟨_, by rw [cut, ← List.append_cons]⟩
  case current => exact ⟨front, back, look, same, start, current⟩
  case stale =>
    obtain ⟨front, back, look, _, same, start, step, _⟩ := Run.moment_after entry rest here
      (passed.renewed.isPrefix.trans (List.prefix_append renewal _)) cut
    exact ⟨front, back, look, same, start, step.answer rfl rfl⟩
  case served =>
    intro x inside
    obtain ⟨w, o, spawned, joined⟩ := each x inside
    have within {y : Exchange} (inside : y ∈ tail) : y ∈ t.past := by
      rw [cut]
      simp [inside]
    obtain ⟨_, spawn⟩ := whole.deed_of_past (Nat.zero_le i) here (within spawned)
    obtain ⟨_, join⟩ := whole.deed_of_past (Nat.zero_le i) here (within joined)
    obtain ⟨_, worker, there, isWorker⟩ := whole.spawned spawn rfl
    obtain ⟨worker', there', outcome⟩ := whole.joined join rfl
    obtain rfl := Option.some.inj (there'.symm.trans there)
    exact ⟨w, worker', o, within joined, there, isWorker, outcome⟩

namespace Run

/-- A connection that was tracked before there was a token. -/
def early : Connection := ⟨1, "early"⟩

/-- A connection is tracked, a token is acquired that expires at once, and a check is let in. -/
def lapsed : Machine Engine.sample × List Label :=
  ({} : Machine Engine.sample).play
    (.begin (.established early) :: Move.tells 0 8 Request.blank ++
      .begin (.acquire false) :: Move.tells 1 6 (Request.issuing ⟨"new", default⟩) ++
      .begin .ensure :: Move.tells 2 1 Request.blank)

/-- Every attempt of the check to renew the token fails. -/
def lapsedServed : Machine Engine.sample × List Label :=
  lapsed.1.play (Move.tells 2 21 Request.blank ++ Move.tells 3 3 Request.blank ++
    Move.tells 2 2 Request.blank)

/-- The check has run a pass all the same: the connection is up to date. -/
theorem lapsed_pass_of_check :
    (lapsed.1.shared.registry.entryOf? early).map (·.tag) = some .min ∧
    (lapsedServed.1.shared.registry.entryOf? early).map (·.tag) = some default ∧
    ∃ t renewal token name found, lapsedServed.1.threads[2]? = some t ∧
      RanPass lapsed.1 lapsedServed.2 lapsedServed.1 2 .ensure t.past renewal token name found := by
  have start : Run {} lapsed.2 lapsed.1 := Machine.play_run _ _
  have rest : Run lapsed.1 lapsedServed.2 lapsedServed.1 := Machine.play_run _ _
  have enters : lapsed.2 = lapsed.2.dropLast ++
      [.did ⟨2, .call .ensure, none, [], entered⟩] := by decide +kernel
  rw [enters] at start
  obtain ⟨before, first, entry⟩ := start.last
  have held : before.shared.store.current.isSome = true := by
    have now : lapsed.1.shared.store.current.isSome = true := by decide +kernel
    rwa [entry.shared] at now
  have searched : (lapsedServed.1.threads[2]?.map fun t =>
      decide (left ∈ t.past) && t.past.any fun x => x.request = .stale default) = some true := by
    decide +kernel
  obtain ⟨t, here, past⟩ := Option.map_eq_some_iff.mp searched
  obtain ⟨out, looks⟩ := (Bool.and_eq_true _ _).mp past
  refine ⟨by decide +kernel, by decide +kernel, ?_⟩
  rcases (first.pass_of_check held entry rest).2 t here (of_decide_eq_true out) with
    ⟨renewal, p, known, acquiring, _⟩ | ⟨renewal, token, name, found, pass⟩
  · -- The look at the registry is no part of a renewal.
    obtain ⟨x, inside, request⟩ := List.any_eq_true.mp looks
    replace request := of_decide_eq_true request
    rw [known] at inside
    rcases List.mem_append.mp inside with work | last
    · rcases acquiring.mem work with same | asks
      · obtain rfl := List.mem_singleton.mp same
        cases request
      · rw [request] at asks
        exact asks.elim
    · obtain rfl := List.mem_singleton.mp last
      cases request
  · exact ⟨t, renewal, token, name, found, here, pass⟩

/-- A connection is tracked, a token is acquired, and a check is let in. The rule of the
application panics. -/
def unruly : Machine Engine.panicky × List Label :=
  ({} : Machine Engine.panicky).play
    (.begin (.established early) :: Move.tells 0 8 Request.blank ++
      .begin (.acquire false) :: Move.tells 1 6 (Request.issuing ⟨"new", .max⟩) ++
      .begin .ensure :: Move.tells 2 1 Request.blank)

/-- The check ends. -/
def unrulyEnded : Machine Engine.panicky × List Label :=
  unruly.1.play (Move.tells 2 4 Request.blank)

/-- There is a token and a connection that is stale for it, and a check is let in, leaves the gate
and ends. But it has not run a pass: it has neither looked at the registry nor started a worker,
and the connection is as stale as before. -/
theorem unruly_without_pass :
    Run ({} : Machine Engine.panicky) unruly.2 unruly.1 ∧
    Run unruly.1 unrulyEnded.2 unrulyEnded.1 ∧
    unruly.2.getLast? = some (.did ⟨2, .call .ensure, none, [], entered⟩) ∧
    (unruly.1.shared.store.current.map (·.expiresAt)) = some .max ∧
    (unruly.1.shared.registry.behind .max).length = 1 ∧
    (unrulyEnded.1.shared.registry.behind .max).length = 1 ∧
    ∃ t, unrulyEnded.1.threads[2]? = some t ∧ left ∈ t.past ∧ t.rest.ended?.isSome = true ∧
      ∀ renewal token name found,
        ¬ RanPass unruly.1 unrulyEnded.2 unrulyEnded.1 2 .ensure t.past renewal token name
          found := by
  have ended : (unrulyEnded.1.threads[2]?.map fun t => decide (left ∈ t.past) &&
      t.rest.ended?.isSome && t.past.all fun x => !x.request.touchesRegistry) = some true := by
    decide +kernel
  obtain ⟨t, here, known⟩ := Option.map_eq_some_iff.mp ended
  obtain ⟨known, idle⟩ := (Bool.and_eq_true _ _).mp known
  obtain ⟨out, done⟩ := (Bool.and_eq_true _ _).mp known
  refine ⟨Machine.play_run _ _, Machine.play_run _ _, by decide +kernel, by decide +kernel,
    by decide +kernel, by decide +kernel, t, here, of_decide_eq_true out, done, ?_⟩
  intro renewal token name found pass
  have looked : finding token found ∈ t.past := pass.passed.subset (by simp)
  have untouched := List.all_eq_true.mp idle _ looked
  cases untouched

end Run
end TokenKeeper
