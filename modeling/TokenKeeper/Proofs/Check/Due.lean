import TokenKeeper.Proofs.Call.Renewal

/-!
# A due renewal stays due

Whether a token is due depends on the token and on the clock alone, and what is due at one time is
due at every later time. Tokens that were not taken leave no trace. So once a check has found its
renewal due, every check that is let in after it asks the identity service, until one finds a token
that expires later, provided that the clock is not set back.
-/

namespace TokenKeeper

open Engine

/-- The rules that go by the clock. -/
def RefreshDue.IsTimed (due : RefreshDue) : Prop :=
  (∃ seconds, due = .expirationMargin seconds) ∨ ∃ fraction, due = .lifetimeElapsed fraction

/-- What is due by the clock stays due. -/
theorem RefreshDue.IsTimed.isDueAt_mono {due : RefreshDue} {acquired expires now now' : Instant}
    (timed : due.IsTimed) (order : now ≤ now')
    (isDue : due.isDueAt acquired expires now = .ok true) :
    due.isDueAt acquired expires now' = .ok true := by
  obtain ⟨seconds, rfl⟩ | ⟨fraction, rfl⟩ := timed
  · simp only [isDueAt] at isDue ⊢
    cases moment : (Span.ofUnsigned? seconds).bind expires.sub? with
    | none => rfl
    | some moment =>
        simp only [moment, Except.ok.injEq, decide_eq_true_eq] at isDue ⊢
        exact Instant.le_trans isDue order
  · simp only [isDueAt] at isDue ⊢
    cases span : Span.ofMillis? (elapsedMillis acquired expires fraction) with
    | none => simp [span] at isDue
    | some elapsed =>
        simp only [span] at isDue ⊢
        cases moment : acquired.add? elapsed with
        | none => simp [moment] at isDue
        | some moment =>
            simp only [moment, Except.ok.injEq, decide_eq_true_eq] at isDue ⊢
            exact Instant.le_trans isDue order

/-- A token that has expired stays so. -/
theorem Token.isExpiredAt_mono {token : Token} {now now' : Instant} (order : now ≤ now')
    (expired : token.isExpiredAt now = true) : token.isExpiredAt now' = true :=
  decide_eq_true (Instant.le_trans (of_decide_eq_true expired) order)

variable {e : Engine} {m m' : Machine e} {trace earlier later : List Label} {i j : Nat}
variable {t t' : Thread e} {c : Call} {seen : Option Token} {clock : List Exchange}

namespace Engine

/-- What is found out about the token of the store. -/
def judge (e : Engine) : Option Token → Program Bool
  | none => .pure true
  | some token => .ask .now fun now =>
      if token.isExpiredAt now then .pure true
      else if token.lifetime ≤ 0 then .pure true
      else .ask .now fun now =>
        .ofAnswer (e.policy.refreshDue.isDueAt token.acquiredAt token.expiresAt now)

theorem refreshIsDue_eq : e.refreshIsDue = .ask .currentToken e.judge := by
  refine congrArg (Program.ask .currentToken) (funext fun seen => ?_)
  cases seen <;> rfl

/-- A renewal that was due with some readings of the clock is due with later ones: nothing but the
clock is asked, and nothing else comes out. -/
theorem judge_again {clock' : List Exchange} {p : Program Bool}
    (timed : e.policy.refreshDue.IsTimed) (due : (e.judge seen).Reaches clock (.pure true))
    (again : (e.judge seen).Reaches clock' p)
    (order : ∀ now now', ⟨.now, now⟩ ∈ clock → ⟨.now, now'⟩ ∈ clock' → now ≤ now') :
    p = .pure true ∨ p.request? = some .now := by
  have quiet {past : List Exchange} (reached : (Program.pure true).Reaches past p) :
      p = .pure true := by
    cases reached
    rfl
  cases seen with
  | none => exact .inl (quiet again)
  | some token =>
      obtain ⟨rfl, rfl⟩ | ⟨now', clock', rfl, again₁⟩ := Program.reaches_ask_iff.mp again
      · exact .inr rfl
      obtain ⟨_, none⟩ | ⟨now, clock, rfl, due₁⟩ := Program.reaches_ask_iff.mp due
      · cases none
      have first : now ≤ now' := order now now' List.mem_cons_self List.mem_cons_self
      by_cases expired : token.isExpiredAt now' = true
      · rw [if_pos expired] at again₁
        exact .inl (quiet again₁)
      have valid : ¬ token.isExpiredAt now = true :=
        fun was => expired (Token.isExpiredAt_mono first was)
      rw [if_neg expired] at again₁
      rw [if_neg valid] at due₁
      by_cases old : token.lifetime ≤ 0
      · rw [if_pos old] at again₁
        exact .inl (quiet again₁)
      rw [if_neg old] at again₁ due₁
      obtain ⟨rfl, rfl⟩ | ⟨now₂', clock', rfl, again₂⟩ := Program.reaches_ask_iff.mp again₁
      · exact .inr rfl
      obtain ⟨_, none⟩ | ⟨now₂, clock, rfl, due₂⟩ := Program.reaches_ask_iff.mp due₁
      · cases none
      have second : now₂ ≤ now₂' := order now₂ now₂' (by simp) (by simp)
      have isDue :
          e.policy.refreshDue.isDueAt token.acquiredAt token.expiresAt now₂ = .ok true := by
        cases answer : e.policy.refreshDue.isDueAt token.acquiredAt token.expiresAt now₂ with
        | ok b =>
            rw [answer] at due₂
            cases due₂
            rfl
        | error p =>
            rw [answer] at due₂
            cases due₂
      rw [timed.isDueAt_mono second isDue] at again₂
      exact .inl (quiet again₂)

theorem judge_uses (seen : Option Token) : (e.judge seen).Uses (· = .now) := by
  cases seen with
  | none => trivial
  | some token =>
      refine ⟨rfl, fun now => ?_⟩
      dsimp only
      split_ifs
      · trivial
      · trivial
      · exact ⟨rfl, fun now => Program.uses_ofAnswer _⟩

/-- Inside the gate a renewal that is due begins with a request to the identity service. -/
theorem checkInside_eq : ∃ onward : Bool → Program Unit,
    e.checkInside = e.refreshIsDue.bind onward ∧
      (onward true).request? = some (.getToken (e.policy.timeouts.forAttempt 0)) :=
  ⟨_, rfl, Program.request?_bind _ (acquire_first false)⟩

end Engine

/-- What a reading of the clock has shown. -/
def Label.reading? : Label → Option Instant
  | .did ⟨_, _, _, _, ⟨.now, now⟩⟩ => some now
  | _ => none

/-- The clock is not set back. -/
def Forward (trace : List Label) : Prop := (trace.filterMap Label.reading?).Pairwise (· ≤ ·)

theorem Forward.le {d d' : Deed} {now now' : Instant} (forward : Forward (earlier ++ later))
    (before : .did d ∈ earlier) (reads : d.exchange = ⟨.now, now⟩) (after : .did d' ∈ later)
    (reads' : d'.exchange = ⟨.now, now'⟩) : now ≤ now' := by
  have shown {d : Deed} {now : Instant} (reads : d.exchange = ⟨.now, now⟩) :
      Label.reading? (.did d) = some now := by
    obtain ⟨_, _, _, _, x⟩ := d
    obtain rfl : x = ⟨.now, now⟩ := reads
    rfl
  unfold Forward at forward
  rw [List.filterMap_append] at forward
  exact (List.pairwise_append.mp forward).2.2 now (List.mem_filterMap.mpr ⟨_, before, shown reads⟩)
    now' (List.mem_filterMap.mpr ⟨_, after, shown reads'⟩)

/-- The requests that find out whether a renewal is due. -/
def Request.IsLook (q : Request) : Prop := q = .currentToken ∨ q = .now

/-- What a check has come to that was let in after another one had found the renewal of this token
due: it is finding out the same and asks nothing else before the identity service; or it has asked
the identity service; or it has found a token that was put into the store and expires later. -/
inductive Renews (seen : Option Token) (trace : List Label) (t : Thread e) : Prop
  | looking {looks : List Exchange} (past : t.past = entered :: looks)
      (only : ∀ x ∈ looks, x.request.IsLook)
      (next : ∃ q, t.rest.request? = some q ∧ (q.IsLook ∨ ∃ limit, q = .getToken limit))
  | asked {looks : List Exchange} {limit : Duration} {reply : TokenReply} {more : List Exchange}
      (past : t.past = entered :: looks ++ ⟨.getToken limit, reply⟩ :: more)
      (only : ∀ x ∈ looks, x.request.IsLook)
  | found {new : Token} {more : List Exchange}
      (past : t.past = entered :: ⟨.currentToken, some new⟩ :: more) (put : new ∈ installed trace)
      (later : ∀ old, seen = some old → old.expiresAt < new.expiresAt)

/-- What has been asked about a token before the identity service. -/
theorem looks_of_judged {clock' : List Exchange} {p : Program Bool}
    (judged : (e.judge seen).Reaches clock' p) :
    ∀ x ∈ ⟨.currentToken, seen⟩ :: clock', x.request.IsLook := by
  intro x inside
  rcases List.mem_cons.mp inside with rfl | reading
  · exact .inl rfl
  · exact .inr ((judge_uses seen).of_mem judged x reading)

/-- A check that has found the same token renews it once it is through with the clock. -/
theorem Thread.renews {clock' : List Exchange} {p : Program Bool} (duty : t.duty = .call c)
    (isCheck : c.isCheck = true) (timed : e.policy.refreshDue.IsTimed)
    (due : (e.judge seen).Reaches clock (.pure true)) (judged : (e.judge seen).Reaches clock' p)
    (begun : entered :: ⟨.currentToken, seen⟩ :: clock' <+: t.past)
    (order : ∀ now now', ⟨.now, now⟩ ∈ clock → ⟨.now, now'⟩ ∈ t.past → now ≤ now') :
    Renews seen trace t := by
  obtain ⟨more, cut⟩ := begun
  obtain ⟨frame, start, inside, first⟩ := Call.check_inside (e := e) isCheck
  obtain ⟨onward, shape, renewal⟩ := checkInside_eq (e := e)
  have upTo {clock' : List Exchange} {p : Program Bool} (judged : (e.judge seen).Reaches clock' p) :
      (t.duty.program e).Reaches (entered :: ⟨.currentToken, seen⟩ :: clock')
        (frame (p.bind onward)) := by
    have begun : e.refreshIsDue.Reaches (⟨.currentToken, seen⟩ :: clock') p := by
      rw [refreshIsDue_eq]
      exact .ask judged
    rw [duty]
    exact start.trans (inside _ _ _ (shape ▸ begun.bind onward))
  -- The induction is on what the check has done since; each reading of the clock brings it nearer.
  induction more generalizing clock' p with
  | nil =>
      rw [List.append_nil] at cut
      have sound := t.sound
      rw [← cut] at sound
      refine .looking cut.symm (looks_of_judged judged) ?_
      rw [(upTo judged).unique sound]
      rcases judge_again timed due judged fun now now' h h' => order now now' h (by
        rw [← cut]
        simp [h']) with rfl | reads
      · exact ⟨_, first _ _ renewal, .inr ⟨_, rfl⟩⟩
      · exact ⟨_, first _ _ (Program.request?_bind onward reads), .inl (.inr rfl)⟩
  | cons x more ih =>
      have sound := t.sound
      rw [← cut] at sound
      have asks := ((upTo judged).since sound).request?_eq
      obtain ⟨q, a⟩ := x
      rcases judge_again timed due judged fun now now' h h' => order now now' h (by
        rw [← cut]
        simp [h']) with rfl | reads
      · have renews : (frame ((Program.pure true).bind onward)).request? = _ := first _ _ renewal
        rw [renews] at asks
        obtain rfl := Option.some.inj asks
        have past : t.past =
            entered :: (⟨.currentToken, seen⟩ :: clock') ++ ⟨.getToken _, a⟩ :: more := cut.symm
        exact .asked past (looks_of_judged judged)
      · rw [first _ _ (Program.request?_bind onward reads)] at asks
        obtain rfl := Option.some.inj asks
        cases p with
        | ask q resume =>
            obtain rfl := Option.some.inj reads
            exact ih (judged.snoc a) (by rw [← cut]; simp)
        | _ => cases reads

namespace Run

variable {m₁ m₂ : Machine e}

/-- A token that is in the store after a run from the beginning was put there. -/
theorem installed_of_current {new : Token} (run : Run ({} : Machine e) trace m)
    (held : m.shared.store.current = some new) : new ∈ installed trace := by
  have last := run.current
  rw [held] at last
  cases final : (installed trace).getLast? with
  | none =>
      rw [final] at last
      cases last
  | some token =>
      rw [final] at last
      obtain rfl := Option.some.inj last
      exact List.mem_of_getLast? final

/-- Of two looks at the store the later one has seen the same, or a token that expires later. -/
theorem same_or_newer {seen' : Option Token} (run : Run m₁ trace m₂)
    (saw : seen = m₁.shared.store.current) (sees : seen' = m₂.shared.store.current) :
    seen' = seen ∨
      ∃ new, seen' = some new ∧ ∀ old, seen = some old → old.expiresAt < new.expiresAt := by
  cases seen' with
  | none =>
      cases seen with
      | none => exact .inl rfl
      | some old =>
          have held := run.current_isSome (by rw [← saw]; rfl)
          rw [← sees] at held
          cases held
  | some new =>
      cases seen with
      | none => exact .inr ⟨new, rfl, fun _ none => nomatch none⟩
      | some old =>
          rcases run.same_or_later saw.symm sees.symm with rfl | newer
          · exact .inl rfl
          · refine .inr ⟨new, rfl, ?_⟩
            rintro _ ⟨⟩
            exact newer

/-- When a check has done something after it entered the gate. -/
theorem moment_inside {since before after : List Exchange} {x : Exchange}
    (entry : Step m₁ (.did ⟨j, .call c, none, [], entered⟩) m₂) (rest : Run m₂ later m)
    (there : m.threads[j]? = some t) (past : t.past = entered :: since)
    (cut : since = before ++ x :: after) :
    ∃ first back n n', later = first ++ .did ⟨j, .call c, none, entered :: before, x⟩ :: back ∧
      Run m₂ first n ∧ Step n (.did ⟨j, .call c, none, entered :: before, x⟩) n' ∧ Run n' back m :=
  Run.moment_after entry rest there (List.prefix_append [entered] before)
    (by rw [past, cut]; rfl)

/-- A check that was let in after another one had found its renewal due renews the token. -/
theorem renews_of_due {tail : List Exchange} (timed : e.policy.refreshDue.IsTimed)
    (start : Run ({} : Machine e) earlier m₁) (rest : Run m₁ later m₂)
    (forward : Forward (earlier ++ later)) (here : m₁.threads[i]? = some t)
    (found : t.past = entered :: ⟨.currentToken, seen⟩ :: clock ++ tail)
    (due : (e.judge seen).Reaches clock (.pure true))
    (enters : .did ⟨j, .call c, none, [], entered⟩ ∈ later) (there : m₂.threads[j]? = some t') :
    Renews seen (earlier ++ later) t' := by
  obtain ⟨other, since, there', _, past⟩ := rest.recorded enters rfl
  obtain rfl := Option.some.inj (there'.symm.trans there)
  obtain ⟨c', call, isCheck⟩ := other.check_of_entered (by rw [past]; simp)
  obtain ⟨first, last, rfl⟩ := List.append_of_mem enters
  obtain ⟨atDoor, inside, toDoor, entry, onward⟩ := rest.cut
  have order : ∀ now now', ⟨.now, now⟩ ∈ clock → ⟨.now, now'⟩ ∈ other.past → now ≤ now' := by
    intro now now' reads reads'
    obtain ⟨_, reading⟩ := start.deed_of_past (Nat.zero_le i) here
      (x := ⟨.now, now⟩) (by rw [found]; simp [reads])
    have reads' : (⟨.now, now'⟩ : Exchange) ∈ since := by
      rw [past] at reads'
      simpa using reads'
    obtain ⟨before, after, cut⟩ := List.append_of_mem reads'
    obtain ⟨_, _, _, _, rfl, _⟩ := moment_inside entry onward there past cut
    exact forward.le reading rfl (List.mem_append_right _ (List.mem_cons_of_mem _
      (List.mem_append_right _ List.mem_cons_self))) rfl
  obtain ⟨frame, begun, _, asks⟩ := Call.check_inside (e := e) isCheck
  have sound := other.sound
  rw [call, past] at sound
  cases since with
  | nil =>
      refine .looking past (fun _ inside => nomatch inside) ?_
      rw [begun.unique sound]
      exact ⟨_, asks _ .currentToken rfl, .inl (.inl rfl)⟩
  | cons x more =>
      have looks := (begun.since sound).request?_eq
      rw [asks _ .currentToken rfl] at looks
      obtain ⟨q, seen'⟩ := x
      obtain rfl := Option.some.inj looks
      obtain ⟨between, back, _, _, rfl, toLook, look', _⟩ :=
        moment_inside entry onward there past (List.nil_append _).symm
      have upToLook := toDoor.trans ((Run.single entry).trans toLook)
      have look := (start.history (Nat.zero_le i) here).own [entered] ⟨.currentToken, seen⟩
        (clock ++ tail) found
      obtain ⟨front, mid, rfl⟩ := List.append_of_mem look
      obtain ⟨_, _, _, look, toEnd⟩ := start.cut
      have whole := (Run.single look).trans (toEnd.trans upToLook)
      rcases whole.same_or_newer (look.answer rfl rfl) (look'.answer rfl rfl) with
        rfl | ⟨new, rfl, newer⟩
      · exact other.renews call isCheck timed due (.refl _) (by rw [past]; simp) order
      · have put := (start.trans upToLook).installed_of_current (look'.answer rfl rfl).symm
        refine .found past (List.IsPrefix.subset (List.IsPrefix.filterMap _ ?_) put) newer
        exact (List.prefix_append_right_inj _).mpr ((List.prefix_append_right_inj _).mpr
          ((List.prefix_cons_inj _).mpr (List.prefix_append _ _)))

/-- A renewal that is due by the clock stays due while the store holds the same token, and it is due
while the store is empty. So once a check has found its renewal due, and while the clock is not set
back, every check that is let in later renews the token as well, until it finds one in the store
that expires later. -/
theorem due_until_renewed (timed : e.policy.refreshDue.IsTimed) :
    (∀ seen clock clock' p,
      (∀ now now', ⟨.now, now⟩ ∈ clock → ⟨.now, now'⟩ ∈ clock' → now ≤ now') →
      e.refreshIsDue.Reaches (⟨.currentToken, seen⟩ :: clock) (.pure true) →
      e.refreshIsDue.Reaches (⟨.currentToken, seen⟩ :: clock') p → p.request? = none →
        p = .pure true) ∧
    e.refreshIsDue.Reaches [⟨.currentToken, none⟩] (.pure true) ∧
    ∀ (earlier later : List Label) (m₁ m₂ : Machine e) (i j : Nat) (t t' : Thread e) (c : Call)
      (seen : Option Token) (clock tail : List Exchange),
      Run {} earlier m₁ → Run m₁ later m₂ → Forward (earlier ++ later) →
      m₁.threads[i]? = some t → t.past = entered :: ⟨.currentToken, seen⟩ :: clock ++ tail →
      e.refreshIsDue.Reaches (⟨.currentToken, seen⟩ :: clock) (.pure true) →
      .did ⟨j, .call c, none, [], entered⟩ ∈ later → m₂.threads[j]? = some t' →
        Renews seen (earlier ++ later) t' := by
  have judged {seen : Option Token} {clock : List Exchange} {p : Program Bool}
      (reached : e.refreshIsDue.Reaches (⟨.currentToken, seen⟩ :: clock) p) :
      (e.judge seen).Reaches clock p := by
    rw [refreshIsDue_eq] at reached
    cases reached with
    | ask judged => exact judged
  refine ⟨?_, ?_, ?_⟩
  · intro seen clock clock' p order due again ended
    rcases judge_again timed (judged due) (judged again) order with rfl | reads
    · rfl
    · rw [ended] at reads
      cases reads
  · rw [refreshIsDue_eq]
    exact .ask (.refl _)
  · intro earlier later m₁ m₂ i j t t' c seen clock tail start rest forward here found due
    exact start.renews_of_due timed rest forward here found (judged due)

/-- A token is acquired that expires at once. A check is let in, finds its renewal due and gets a
token that expires no later. -/
def gotUnchanged : Machine Engine.sample × List Label :=
  ({} : Machine Engine.sample).play
    (.begin (.acquire false) :: Move.tells 0 6 (Request.issuing ⟨"first", default⟩) ++
      .begin .check :: Move.tells 1 8 (Request.issuing ⟨"again", default⟩))

/-- The check ends. Another one is let in, and the identity service fails it. -/
def askedAgain : Machine Engine.sample × List Label :=
  gotUnchanged.1.play (Move.tells 1 12 Request.blank ++
    .begin .check :: Move.tells 2 5 Request.blank)

/-- The token that stays. -/
def stale : Token := ⟨"first", default, default⟩

theorem renewed_after_unchanged :
    ∃ t limit reply more, askedAgain.1.threads[2]? = some t ∧
      t.past = [entered, ⟨.currentToken, some stale⟩, ⟨.now, default⟩, ⟨.getToken limit, reply⟩] ++
        more ∧
      Renews (some stale) (gotUnchanged.2 ++ askedAgain.2) t ∧
      installed (gotUnchanged.2 ++ askedAgain.2) = [stale] := by
  have timed : Engine.sample.policy.refreshDue.IsTimed := .inr ⟨_, rfl⟩
  have start : Run {} gotUnchanged.2 gotUnchanged.1 := Machine.play_run _ _
  have rest : Run gotUnchanged.1 askedAgain.2 askedAgain.1 := Machine.play_run _ _
  have forward : Forward (gotUnchanged.2 ++ askedAgain.2) := by
    unfold Forward
    decide +kernel
  have known : (gotUnchanged.1.threads[1]?.map fun t => t.past.take 3) =
      some [entered, ⟨.currentToken, some stale⟩, ⟨.now, default⟩] := by decide +kernel
  have known' : (askedAgain.1.threads[2]?.map fun t => t.past.take 4) =
      some [entered, ⟨.currentToken, some stale⟩, ⟨.now, default⟩,
        ⟨.getToken (Engine.sample.policy.timeouts.forAttempt 0), .late⟩] := by decide +kernel
  obtain ⟨t, here, first⟩ := Option.map_eq_some_iff.mp known
  obtain ⟨t', there, asks⟩ := Option.map_eq_some_iff.mp known'
  have due : Engine.sample.refreshIsDue.Reaches
      (⟨.currentToken, some stale⟩ :: [⟨.now, default⟩]) (.pure true) :=
    refreshIsDue_reaches (by decide)
  have enters : .did ⟨2, .call .check, none, [], entered⟩ ∈ askedAgain.2 := by decide +kernel
  refine ⟨t', _, _, t'.past.drop 4, there, by rw [← asks, List.take_append_drop], ?_,
    by decide +kernel⟩
  refine (due_until_renewed timed).2.2 _ _ _ _ 1 2 t t' .check _ _ (t.past.drop 3) start rest
    forward here ?_ due enters there
  rw [← first, List.take_append_drop]

end Run

end TokenKeeper
