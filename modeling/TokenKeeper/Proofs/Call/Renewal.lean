import TokenKeeper.Proofs.Check.Pass
import TokenKeeper.Proofs.Connection.Established

/-!
# Expired credentials

An expired token is still handed out, and the call looks at the gate: it starts a check of its own
only if nobody is inside. A check that looks at the store after that finds the token that was
handed out or a later one, and in the first case it asks the identity service before anything else.
So the renewal is under way if the gate was free. A check that was inside may have looked at the
store before and be through with its renewal; then nobody renews the token.
-/

namespace TokenKeeper

open Engine

variable {e : Engine} {m m' : Machine e} {trace : List Label} {d : Deed} {i j : Nat}
variable {t : Thread e} {c : Call} {token : Token} {now : Instant}

namespace Engine

/-- The attempts begin with a request to the identity service. -/
theorem attempts_first (left number : Nat) :
    (e.attempts left number).request? =
      some (.getToken (e.policy.timeouts.forAttempt number)) := by
  cases left <;> rw [attempts] <;> rfl

theorem acquire_first (reportFailure : Bool) :
    (e.acquire reportFailure).request? = some (.getToken (e.policy.timeouts.forAttempt 0)) :=
  Program.request?_bind _ (attempts_first _ _)

/-- A token that has expired is due whatever the policy says. -/
theorem refreshIsDue_reaches (expired : token.isExpiredAt now = true) :
    e.refreshIsDue.Reaches [⟨.currentToken, some token⟩, ⟨.now, now⟩] (.pure true) := by
  have due (p : Program Bool) :
      (if token.isExpiredAt now = true then .pure true else p).Reaches [] (.pure true) := by
    rw [if_pos expired]
    exact .refl _
  exact @Program.Reaches.ask _ .currentToken _ (some token) _ _
    (@Program.Reaches.ask _ .now _ now _ _ (due _))

/-- Inside the gate the clock is read once a token has been found. -/
theorem checkInside_clock :
    ∃ p, e.checkInside.Reaches [⟨.currentToken, some token⟩] p ∧ p.request? = some .now :=
  ⟨_, @Program.Reaches.ask _ .currentToken _ (some token) _ _ (.refl _), rfl⟩

/-- Inside the gate a token that has expired is renewed at once. -/
theorem checkInside_renews (expired : token.isExpiredAt now = true) :
    ∃ p, e.checkInside.Reaches [⟨.currentToken, some token⟩, ⟨.now, now⟩] p ∧
      p.request? = some (.getToken (e.policy.timeouts.forAttempt 0)) := by
  refine ⟨_, (refreshIsDue_reaches expired).bind _, ?_⟩
  show ((e.acquire false).bind _).request? = _
  exact Program.request?_bind _ (acquire_first false)

end Engine

/-- What a check does inside the gate decides what it asks until it leaves. -/
theorem Call.check_inside (isCheck : c.isCheck = true) :
    ∃ frame : Program Unit → Program Output,
      (c.program e).Reaches [entered] (frame e.checkInside) ∧
      (∀ p past rest, p.Reaches past rest → (frame p).Reaches past (frame rest)) ∧
      ∀ p q, p.request? = some q → (frame p).request? = some q := by
  cases c with
  | ensure =>
      refine ⟨fun p => ((p.thenAlways (Program.request .leave)).bind fun _ => .pure true).bind
        fun b => .pure (.flag b), @Program.Reaches.ask _ .tryEnter _ true _ _ (.refl _), ?_, ?_⟩
      · intro p past rest reached
        exact ((reached.caught.bind _).bind _).bind _
      · intro p q first
        exact Program.request?_bind _ (Program.request?_bind _
          (Program.request?_bind _ (Program.request?_caught first)))
  | check =>
      refine ⟨fun p => ((((p.thenAlways (Program.request .leave)).bind fun _ => .pure true).bind
        fun _ => syncHeartbeat).caught.bind fun _ => .pure ()).bind fun _ => .pure .done,
        @Program.Reaches.ask _ .tryEnter _ true _ _ (.refl _), ?_, ?_⟩
      · intro p past rest reached
        exact (((((reached.caught.bind _).bind _).bind _).caught).bind _).bind _
      · intro p q first
        exact Program.request?_bind _ (Program.request?_bind _ (Program.request?_caught
          (Program.request?_bind _ (Program.request?_bind _
            (Program.request?_bind _ (Program.request?_caught first))))))
  | _ => cases isCheck

/-- A check that has left the gate had entered it and had looked at the store first of all. -/
theorem Thread.looked_of_left (out : left ∈ t.past) :
    ∃ c seen tail, t.duty = .call c ∧ c.isCheck = true ∧
      t.past = entered :: ⟨.currentToken, seen⟩ :: tail := by
  obtain ⟨c, duty, isCheck⟩ := Duty.check_of_mayAsk (t.mayAsk out) (.inr rfl)
  have began : [entered] <+: t.past := by
    rcases t.check_left duty isCheck out with
      ⟨_, _, past, renewed, _⟩ | ⟨_, _, _, _, _, passed⟩
    · rw [past]
      exact renewed.isPrefix.trans (List.prefix_append _ _)
    · rw [passed.past]
      exact passed.renewed.isPrefix.trans (List.prefix_append _ _)
  obtain ⟨rest, past⟩ := began
  have out : left ∈ rest := by
    rw [← past] at out
    simpa using out
  obtain ⟨frame, start, _, first⟩ := Call.check_inside (e := e) isCheck
  obtain ⟨x, tail, rfl⟩ := List.exists_cons_of_ne_nil (List.ne_nil_of_mem out)
  have sound := t.sound
  rw [duty, ← past] at sound
  have asks := (start.since sound).request?_eq
  rw [first _ .currentToken rfl] at asks
  obtain ⟨q, seen⟩ := x
  obtain rfl := Option.some.inj asks
  exact ⟨c, seen, tail, duty, isCheck, past.symm⟩

/-- What a check that has left the gate has done about a token that had expired at `now`: it has
asked the identity service, or it has found a later token, or the clock had been set back. -/
inductive SeesTo (token : Token) (now : Instant) : List Exchange → Prop
  | asked {past : List Exchange} {limit : Duration} {reply : TokenReply}
      (asks : ⟨.getToken limit, reply⟩ ∈ past) : SeesTo token now past
  | found {newer : Token} {tail : List Exchange} (later : token.expiresAt < newer.expiresAt) :
      SeesTo token now (entered :: ⟨.currentToken, some newer⟩ :: tail)
  | setBack {clock : Instant} {tail : List Exchange} (back : clock < now) :
      SeesTo token now (entered :: ⟨.currentToken, some token⟩ :: ⟨.now, clock⟩ :: tail)

/-- A check that has found an expired token has seen to it when it leaves the gate. -/
theorem Thread.seesTo {tail : List Exchange} (duty : t.duty = .call c) (isCheck : c.isCheck = true)
    (expired : token.isExpiredAt now = true)
    (found : t.past = entered :: ⟨.currentToken, some token⟩ :: tail) (out : left ∈ t.past) :
    SeesTo token now t.past := by
  obtain ⟨frame, start, onward, first⟩ := Call.check_inside (e := e) isCheck
  have sound := t.sound
  rw [duty, found] at sound
  rw [found] at out ⊢
  have out : left ∈ tail := by simpa using out
  cases tail with
  | nil => cases out
  | cons x tail =>
      obtain ⟨p, reached, clock⟩ := @checkInside_clock e token
      have asks := ((start.trans (onward _ _ _ reached)).since sound).request?_eq
      rw [first p _ clock] at asks
      obtain ⟨q, clock⟩ := x
      obtain rfl := Option.some.inj asks
      by_cases back : clock < now
      · exact .setBack back
      have expired : token.isExpiredAt clock = true := by
        have order : token.expiresAt ≤ now := of_decide_eq_true expired
        exact decide_eq_true (Instant.le_trans order (Instant.not_lt.mp back))
      have out : left ∈ tail := by simpa using out
      cases tail with
      | nil => cases out
      | cons y tail =>
          obtain ⟨p, reached, renews⟩ := checkInside_renews (e := e) expired
          have asks := ((start.trans (onward _ _ _ reached)).since sound).request?_eq
          rw [first p _ renews] at asks
          obtain ⟨q, reply⟩ := y
          obtain rfl := Option.some.inj asks
          exact .asked (List.mem_cons_of_mem _ (List.mem_cons_of_mem _ (List.mem_cons_of_mem _
            List.mem_cons_self)))

/-- What a credential has found out when it looks at the gate. -/
def lookup (token : Token) (now : Instant) : List Exchange :=
  [⟨.currentToken, some token⟩, ⟨.now, now⟩]

/-- A credential that has found an expired token looks at the gate, starts a check if it is free,
and hands the token out. -/
theorem Call.credential_expired (expired : token.isExpiredAt now = true) :
    ∃ p, (Call.credential.program e).Reaches (lookup token now) p ∧
      p.Meets (fun _ _ => True) (fun _ _ => True) (fun past r => ∃ busy name,
        past = ⟨.gateIsBusy, busy⟩ ::
          ((if busy then [] else [⟨.spawnCheck, ()⟩]) ++ [⟨.username, name⟩]) ∧
        r = .ok (.credential (some ⟨name, token.secret⟩))) [] := by
  refine ⟨_, @Program.Reaches.ask _ .currentToken _ (some token) _ _
    (@Program.Reaches.ask _ .now _ now _ _ (.refl _)), ?_⟩
  simp only [Program.pure_bind, expired, if_true]
  refine ⟨trivial, fun busy _ => ?_⟩
  cases busy with
  | true => exact ⟨trivial, fun name _ => ⟨true, name, rfl, rfl⟩⟩
  | false => exact ⟨trivial, fun _ _ => ⟨trivial, fun name _ => ⟨false, name, rfl, rfl⟩⟩⟩

/-- Only checks have entered the gate. -/
theorem Thread.check_of_entered (inside : entered ∈ t.past) :
    ∃ c, t.duty = .call c ∧ c.isCheck = true :=
  Duty.check_of_mayAsk (t.mayAsk inside) (.inl rfl)

/-- A check that is started gets the next number. -/
theorem Step.starts_check (step : Step m (.did d) m') (spawns : d.exchange.request = .spawnCheck) :
    m'.threads[m.threads.length]? = some (.start (.call .check)) := by
  cases step with
  | tell here asks permits =>
      cases spawns
      rw [Machine.tell, List.getElem?_append_right (by simp), List.length_set, Nat.sub_self]
      rfl
  | tellMember here inside asks permits =>
      cases spawns
      rw [Machine.tell, List.getElem?_append_right (by simp), List.length_set, Nat.sub_self]
      rfl

/-- Who is inside the gate after a run and was not before has entered it in between. -/
theorem Run.entered_since (run : Run m trace m') (outside : ¬ m.Inside j) (inside : m'.Inside j) :
    ∃ c, .did ⟨j, .call c, none, [], entered⟩ ∈ trace := by
  obtain ⟨t', there, took, stays⟩ := inside
  obtain ⟨c, duty, isCheck⟩ := t'.check_of_entered took
  -- Entering is the first thing that a check does.
  have first {past : List Exchange} (deed : .did ⟨j, t'.duty, none, past, entered⟩ ∈ trace) :
      ∃ c, .did ⟨j, .call c, none, [], entered⟩ ∈ trace := by
    obtain ⟨_, _, _, _, asks⟩ := (run.sound deed).check_asks (.inl rfl)
    obtain rfl : past = [] := asks.past_of_enter
    exact ⟨c, duty ▸ deed⟩
  by_cases old : j < m.threads.length
  · have here := List.getElem?_eq_getElem old
    obtain ⟨t'', there', grows⟩ := run.grows here
    obtain rfl := Option.some.inj (there'.symm.trans there)
    obtain ⟨since, past⟩ := grows.past
    rw [past] at took stays
    rcases List.mem_append.mp took with before | after
    · exact absurd ⟨_, here, before, fun gone => stays (List.mem_append_left _ gone)⟩ outside
    · obtain ⟨earlier, later, rfl⟩ := List.append_of_mem after
      have deed := run.deed_since here there (past.trans (List.append_assoc _ _ _).symm)
      rw [← grows.duty] at deed
      exact first deed
  · obtain ⟨_, deed⟩ := run.deed_of_past (Nat.not_lt.mp old) there took
    exact first deed

section look

variable {earlier later : List Label} {gate after : Machine e} {busy : Bool}

/-- The look of a credential at the gate, with an expired token in its hands. -/
abbrev gateLook (i : Nat) (token : Token) (now : Instant) (busy : Bool) : Deed :=
  ⟨i, .call .credential, none, lookup token now, ⟨.gateIsBusy, busy⟩⟩

/-- The token that a credential has in its hands was current before. -/
theorem Run.held_of_look (start : Run ({} : Machine e) earlier gate)
    (look : Step gate (.did (gateLook i token now busy)) after) :
    ∃ before more, before.shared.store.current = some token ∧ Run before more gate := by
  have saw : .did ⟨i, .call .credential, none, [], ⟨.currentToken, some token⟩⟩ ∈ earlier :=
    start.deed_before look (Nat.zero_le _) rfl rfl
  obtain ⟨_, _, rfl⟩ := List.append_of_mem saw
  obtain ⟨before, _, _, step, onward⟩ := start.cut
  exact ⟨before, _, (step.answer rfl rfl).symm, (Run.single step).trans onward⟩

/-- A check that looks at the store after the look at the gate sees to the token that was handed
out. -/
theorem Run.seesTo_of_later_look {seen : Option Token} {other : Thread e}
    (start : Run ({} : Machine e) earlier gate)
    (look : Step gate (.did (gateLook i token now busy)) after) (rest : Run after later m)
    (expired : token.isExpiredAt now = true)
    (looks : .did ⟨j, .call c, none, [entered], ⟨.currentToken, seen⟩⟩ ∈ later)
    (there : m.threads[j]? = some other) (out : left ∈ other.past) :
    SeesTo token now other.past := by
  obtain ⟨t', tail, there', duty, past⟩ := rest.recorded looks rfl
  obtain rfl := Option.some.inj (there'.symm.trans there)
  obtain ⟨c', call, isCheck⟩ := t'.check_of_entered (by rw [past]; simp)
  obtain ⟨before, more, held, upToGate⟩ := start.held_of_look look
  obtain ⟨_, _, rfl⟩ := List.append_of_mem looks
  obtain ⟨atLook, _, upToLook, step, _⟩ := rest.cut
  have between := (upToGate.snoc look).trans upToLook
  have answer : seen = atLook.shared.store.current := step.answer rfl rfl
  obtain ⟨newer, current⟩ :=
    Option.isSome_iff_exists.mp (between.current_isSome (by rw [held]; rfl))
  obtain rfl := answer.trans current
  rcases between.same_or_later held current with rfl | newer
  · exact t'.seesTo call isCheck expired past out
  · rw [past]
    exact .found newer

/-- A check that enters the gate after the look at it sees to the token that was handed out. -/
theorem Run.seesTo_of_later_entry {other : Thread e} (start : Run ({} : Machine e) earlier gate)
    (look : Step gate (.did (gateLook i token now busy)) after) (rest : Run after later m)
    (expired : token.isExpiredAt now = true)
    (enters : .did ⟨j, .call c, none, [], entered⟩ ∈ later)
    (there : m.threads[j]? = some other) (out : left ∈ other.past) :
    SeesTo token now other.past := by
  obtain ⟨_, seen, tail, _, _, past⟩ := other.looked_of_left out
  obtain ⟨first, last, rfl⟩ := List.append_of_mem enters
  obtain ⟨_, _, _, entry, onward⟩ := rest.cut
  obtain ⟨_, _, _, _, same, _⟩ := Run.moment_after entry onward there List.prefix_rfl
    (show other.past = ([] ++ [entered]) ++ ⟨.currentToken, seen⟩ :: tail from past)
  have looks : .did ⟨j, .call c, none, [entered], ⟨.currentToken, seen⟩⟩ ∈ last := by
    rw [same]
    exact List.mem_append_right _ List.mem_cons_self
  exact start.seesTo_of_later_look look rest expired
    (List.mem_append_right _ (List.mem_cons_of_mem _ looks)) there out

/-- A check that was started after the look at the gate sees to the token that was handed out. If
it is turned away, another check has entered the gate in the meantime. -/
structure Renewing (later : List Label) (m : Machine e) (token : Token) (now : Instant) (k : Nat) :
    Prop where
  there : ∃ check, m.threads[k]? = some check ∧ check.duty = .call .check ∧
    (left ∈ check.past → SeesTo token now check.past)
  relieved : ∀ check, m.threads[k]? = some check → turnedAway ∈ check.past →
    ∃ j c other, .did ⟨j, .call c, none, [], entered⟩ ∈ later ∧ m.threads[j]? = some other ∧
      (left ∈ other.past → SeesTo token now other.past)

/-- The check that a credential has started renews the token, or another one does. -/
theorem Run.renewing {ready started : Machine e} {first back : List Label} {past : List Exchange}
    (start : Run ({} : Machine e) earlier gate)
    (look : Step gate (.did (gateLook i token now false)) after) (before : Run after first ready)
    (spawn : Step ready (.did ⟨i, .call .credential, none, past, ⟨.spawnCheck, ()⟩⟩) started)
    (rest : Run started back m) (expired : token.isExpiredAt now = true) :
    Renewing (first ++ .did ⟨i, .call .credential, none, past, ⟨.spawnCheck, ()⟩⟩ :: back) m token
      now ready.threads.length := by
  have whole : Run after (first ++ .did ⟨i, .call .credential, none, past, ⟨.spawnCheck, ()⟩⟩ ::
      back) m := before.trans ((Run.single spawn).trans rest)
  obtain ⟨check, here, grows⟩ := rest.grows (spawn.starts_check rfl)
  have new : after.threads.length ≤ ready.threads.length := before.length_le
  refine ⟨⟨check, here, grows.duty, ?_⟩, ?_⟩
  · intro out
    obtain ⟨_, seen, tail, duty, _, past⟩ := check.looked_of_left out
    have looks := (whole.history new here).own [entered] ⟨.currentToken, seen⟩ tail past
    rw [duty] at looks
    exact start.seesTo_of_later_look look whole expired looks here out
  · intro check' here' refused
    obtain rfl := Option.some.inj (here'.symm.trans here)
    obtain ⟨_, deed⟩ := whole.deed_of_past new here refused
    obtain ⟨front, last, same⟩ := List.append_of_mem deed
    rw [same] at whole ⊢
    obtain ⟨atDoor, _, toDoor, door, onward⟩ := whole.cut
    have toDoor' := (start.snoc look).trans toDoor
    -- The gate was free at the look, and it is busy now.
    obtain ⟨j, inside⟩ : ∃ j, atDoor.Inside j := by
      apply (gate_guards.run toDoor').up.mp
      have answer : false = !atDoor.shared.gateBusy := door.answer rfl rfl
      simpa using answer.symm
    have free : ¬ gate.Inside j := by
      intro busy
      have answer : false = gate.shared.gateBusy := look.answer rfl rfl
      rw [(gate_guards.run start).up.mpr ⟨j, busy⟩] at answer
      cases answer
    obtain ⟨c, entry⟩ := ((Run.single look).trans toDoor).entered_since free inside
    have entry : .did ⟨j, .call c, none, [], entered⟩ ∈ front := by simpa using entry
    obtain ⟨other, _, there, _⟩ := toDoor.recorded entry rfl
    obtain ⟨other, there, _⟩ := ((Run.single door).trans onward).grows there
    refine ⟨j, c, other, List.mem_append_left _ entry, there, fun out => ?_⟩
    exact start.seesTo_of_later_entry look whole expired (List.mem_append_left _ entry) there out

/-- What becomes of an expired token that a credential has handed out, from its look at the gate
on. -/
structure AfterLook (earlier later : List Label) (gate m : Machine e) (t : Thread e) (i : Nat)
    (token : Token) (now : Instant) (busy : Bool) : Prop where
  /-- The gate is busy exactly if a check is inside. -/
  occupied : busy = true ↔ ∃ j, gate.Inside j
  /-- If it is, no check is started. -/
  idle : busy = true → ⟨.spawnCheck, ()⟩ ∉ t.past
  /-- If it is not, a check is started, and it or another one renews the token. -/
  started : busy = false → ∃ (first back : List Label) (past : List Exchange) (ready : Machine e),
    later = first ++ .did ⟨i, .call .credential, none, past, ⟨.spawnCheck, ()⟩⟩ :: back ∧
      Run {} (earlier ++ .did (gateLook i token now busy) :: first) ready ∧
        Renewing later m token now ready.threads.length
  /-- Whichever check looks at the store from now on sees to the token. -/
  seesTo : ∀ j c seen other,
    .did ⟨j, .call c, none, [entered], ⟨.currentToken, seen⟩⟩ ∈ later →
      m.threads[j]? = some other → left ∈ other.past → SeesTo token now other.past

end look

/-- A credential that was handed out with an expired token has looked at the gate. If nobody was
inside, it has started a check, which sees to the token by the time it leaves the gate; and if it is
turned away, the one that has entered since does. If a check was inside, none has been started. Then
a check sees to the token if it looks at the store after that look at the gate; but the one inside
may have looked before and be through with its renewal. -/
theorem Run.refresh_of_expired (run : Run ({} : Machine e) trace m) (here : m.threads[i]? = some t)
    (duty : t.duty = .call .credential) (ended : t.rest.ended?.isSome = true)
    (found : lookup token now <+: t.past) (expired : token.isExpiredAt now = true) :
    ∃ (earlier later : List Label) (busy : Bool) (gate : Machine e) (name : Option String),
      t.rest.ended? = some (.ok (.credential (some ⟨name, token.secret⟩))) ∧
        trace = earlier ++ .did (gateLook i token now busy) :: later ∧ Run {} earlier gate ∧
          AfterLook earlier later gate m t i token now busy := by
  obtain ⟨r, ended⟩ := Option.isSome_iff_exists.mp ended
  obtain ⟨rest, past⟩ := found
  obtain ⟨p, reached, contract⟩ := Call.credential_expired (e := e) expired
  have sound := t.sound
  rw [duty, ← past] at sound
  obtain ⟨busy, name, rfl, rfl⟩ :=
    contract.ended (reached.since sound) ended fun _ _ _ _ => trivial
  have looked := (run.history (Nat.zero_le i) here).own _ _ _ past.symm
  rw [duty] at looked
  obtain ⟨earlier, later, rfl⟩ := List.append_of_mem looked
  obtain ⟨gate, after, start, look, rest⟩ := run.cut
  refine ⟨earlier, later, busy, gate, name, ended, rfl, start, ?occupied, ?idle, ?started, ?seesTo⟩
  case occupied =>
    have answer : busy = gate.shared.gateBusy := look.answer rfl rfl
    rw [answer]
    exact (gate_guards.run start).up
  case idle =>
    rintro rfl
    rw [← past]
    simp [lookup]
  case started =>
    rintro rfl
    obtain ⟨first, back, ready, _, rfl, before, spawn, onward⟩ := Run.moment_after look rest here
      List.prefix_rfl (past.symm.trans (List.append_cons _ _ _))
    have whole := (start.snoc look).trans before
    rw [← List.append_cons] at whole
    exact ⟨first, back, _, ready, rfl, whole, start.renewing look before spawn onward expired⟩
  case seesTo =>
    intro j c seen other looks there out
    exact start.seesTo_of_later_look look rest expired looks there out

/-- A request to the identity service. -/
def Request.isTokenRequest : Request → Bool
  | .getToken _ => true
  | _ => false

namespace Run

/-- A token is acquired that expires at once. A check is let in, asks for another one and gets one
that expires no later, and begins its pass. -/
def gainless : Machine Engine.sample × List Label :=
  ({} : Machine Engine.sample).play
    (.begin (.acquire false) :: Move.tells 0 6 (Request.issuing ⟨"old", default⟩) ++
      .begin .check :: Move.tells 1 8 (Request.issuing ⟨"older", default⟩))

/-- A credential is taken while the pass goes on, and then the check leaves the gate and ends. -/
def unrenewed : Machine Engine.sample × List Label :=
  gainless.1.play (.begin .credential :: Move.tells 2 4 Request.blank ++
    Move.tells 1 12 Request.blank)

/-- The token that has expired. -/
def lapsedToken : Token := ⟨"old", default, default⟩

/-- The credential hands out the expired token and starts no check, because the gate is busy. The
check that was inside ends without another request, so nobody renews the token. -/
theorem expired_without_renewal :
    ∃ (t : Thread Engine.sample) (earlier later : List Label) (gate : Machine Engine.sample)
        (name : Option String),
      lapsedToken.isExpiredAt default = true ∧ unrenewed.1.threads[2]? = some t ∧
        t.rest.ended? = some (.ok (.credential (some ⟨name, lapsedToken.secret⟩))) ∧
        gainless.2 ++ unrenewed.2 =
          earlier ++ .did (gateLook 2 lapsedToken default true) :: later ∧
        AfterLook earlier later gate unrenewed.1 t 2 lapsedToken default true ∧
        (∀ t ∈ unrenewed.1.threads, t.rest.ended?.isSome = true) ∧
        ∀ d, .did d ∈ later → ∀ limit, d.exchange.request ≠ .getToken limit := by
  have run : Run {} (gainless.2 ++ unrenewed.2) unrenewed.1 :=
    (Machine.play_run _ _).trans (Machine.play_run _ _)
  have expired : lapsedToken.isExpiredAt default = true := by decide
  have known : (unrenewed.1.threads[2]?.map fun t =>
      (t.duty, t.past.take 2, t.rest.ended?.isSome)) =
        some (.call .credential, lookup lapsedToken default, true) := by decide +kernel
  obtain ⟨t, here, same⟩ := Option.map_eq_some_iff.mp known
  obtain ⟨duty, same⟩ := Prod.mk.inj same
  obtain ⟨first, ended⟩ := Prod.mk.inj same
  obtain ⟨earlier, later, busy, gate, name, result, cut, start, after⟩ :=
    run.refresh_of_expired here duty ended (first ▸ List.take_prefix 2 t.past) expired
  have looked : .did (gateLook 2 lapsedToken default busy) ∈ gainless.2 ++ unrenewed.2 := by
    rw [cut]
    exact List.mem_append_right _ List.mem_cons_self
  have busyThen : everyDeed (fun d => d.exchange ≠ ⟨.gateIsBusy, false⟩)
      (gainless.2 ++ unrenewed.2) = true := by decide +kernel
  obtain rfl : busy = true := by
    cases busy with
    | true => rfl
    | false => exact absurd rfl (of_decide_eq_true (of_everyDeed busyThen looked))
  refine ⟨t, earlier, later, gate, name, expired, here, result, cut, after, ?_, ?_⟩
  · have all : (unrenewed.1.threads.all fun t => t.rest.ended?.isSome) = true := by decide +kernel
    exact List.all_eq_true.mp all
  · -- The credential begins after the last request to the identity service.
    have before : everyDeed (fun d => d.exchange.request ≠ .gateIsBusy) gainless.2 = true := by
      decide +kernel
    have silent : everyDeed (fun d => !d.exchange.request.isTokenRequest) unrenewed.2 = true := by
      decide +kernel
    intro d happened limit asks
    have last : .did d ∈ unrenewed.2 := by
      rcases List.append_eq_append_iff.mp cut with ⟨more, _, same⟩ | ⟨more, same, rest⟩
      · rw [same]
        exact List.mem_append_right _ (List.mem_cons_of_mem _ happened)
      · cases more with
        | nil =>
            rw [List.nil_append] at rest
            rw [← rest]
            exact List.mem_cons_of_mem _ happened
        | cons l more =>
            obtain ⟨rfl, _⟩ := List.cons.inj rest
            have early := of_everyDeed before (d := gateLook 2 lapsedToken default true)
              (by rw [same]; simp)
            exact absurd rfl (of_decide_eq_true early)
    have quiet := of_everyDeed silent last
    rw [asks] at quiet
    cases quiet

end Run
end TokenKeeper
