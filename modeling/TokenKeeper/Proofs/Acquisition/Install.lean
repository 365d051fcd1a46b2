import TokenKeeper.Proofs.Program.Alone

/-!
# Installing a token

An issued token is installed only with a username, and only if it expires later than the one in
use. While nobody else acts, the exchanges by which this happens are known beforehand: the
username is looked up and set where it is absent, the time is read, the token is offered to the
store, and the subscribers are told if it was taken.
-/

namespace TokenKeeper.Engine

/-- The username that a token is stored with: the one in use, or else the configured one, or
else the object id that the token carries. -/
def nameFor? (e : Engine) (store : TokenStore) (t : AccessToken) : Option String :=
  store.username.or (e.principal <|> Identity.objectId? t.secret)

/-- Without a username in use or a configured one the token has to carry it. -/
theorem nameFor?_of_unnamed (e : Engine) (store : TokenStore) (t : AccessToken)
    (unused : store.username = none) (unconfigured : e.principal = none) :
    e.nameFor? store t = Identity.objectId? t.secret := by
  rw [nameFor?, unused, unconfigured]
  rfl

variable {e : Engine} {s : Shared} {alive : Connection → Bool}

/-- A token without a username is left alone. -/
theorem install_follow_of_nameless {t : AccessToken} {past : List Exchange}
    {outside : Answerer} (state : s.replay alive past = s) (reportFailure : Bool)
    (nameless : e.nameFor? s.store t = none) :
    (e.install t reportFailure).follow (s.answerer alive outside) past =
      ⟨past ++ [⟨.username, none⟩],
        .ok (if reportFailure then .error .missingUsername else .ok .failed)⟩ := by
  obtain ⟨absent, unknown⟩ := Option.or_eq_none_iff.mp nameless
  have answered : s.answerer alive outside past .username = none := by
    simp only [Shared.answerer, state, Shared.answer?, Option.getD_some, absent]
  simp only [install, Program.bind_eq, Program.request_eq, Program.ask_bind, Program.pure_bind,
    Program.follow_ask, answered, unknown, Program.pure_eq, Program.follow_pure]

/-- The exchanges by which a username is found or set. -/
def naming (store : TokenStore) (name : String) : List Exchange :=
  match store.username with
  | some name => [⟨.username, some name⟩]
  | none => [⟨.username, none⟩, ⟨.setUsernameIfAbsent name, ()⟩]

/-- The shared state once there is a username. -/
def named (s : Shared) (name : String) : Shared :=
  { s with store := { s.store with username := some name } }

theorem replay_naming {t : AccessToken} {name : String}
    (known : e.nameFor? s.store t = some name) :
    s.replay alive (naming s.store name) = named s name := by
  unfold naming named nameFor? at *
  cases present : s.store.username with
  | some other =>
      simp only [present, Option.some_or, Option.some.injEq] at known
      subst known
      simp only [Shared.replay, List.foldl_cons, List.foldl_nil, Shared.after]
      rw [← present]
  | none =>
      simp only [Shared.replay, List.foldl_cons, List.foldl_nil, Shared.after,
        TokenStore.setUsernameIfAbsent, present]

/-- A token with a username is offered to the store. -/
theorem install_follow_of_named {t : AccessToken} {past : List Exchange} {name : String}
    {outside : Answerer} (state : s.replay alive past = s) (reportFailure : Bool)
    (known : e.nameFor? s.store t = some name) :
    (e.install t reportFailure).follow (s.answerer alive outside) past =
      ((offer t).bind fun r => .pure (.ok r)).follow (s.answerer alive outside)
        (past ++ naming s.store name) := by
  have answered : s.answerer alive outside past .username = s.store.username := by
    simp only [Shared.answerer, state, Shared.answer?, Option.getD_some]
  unfold naming
  cases present : s.store.username with
  | some other =>
      simp only [install, Program.bind_eq, Program.request_eq, Program.ask_bind,
        Program.pure_bind, Program.follow_ask, answered, present, Program.pure_eq]
  | none =>
      have resolved : (e.principal <|> Identity.objectId? t.secret) = some name := by
        simpa only [nameFor?, present, Option.none_or] using known
      simp only [install, Program.bind_eq, Program.request_eq, Program.ask_bind,
        Program.pure_bind, Program.follow_ask, answered, present, resolved, Program.pure_eq,
        List.append_assoc, List.cons_append, List.nil_append]

/-- An offered token is taken or not, and the subscribers are told of one that is. -/
theorem offer_follow {t : AccessToken} {past : List Exchange} {outside : Answerer}
    {now : Instant} {here : Shared} (state : s.replay alive past = here)
    (clock : outside past .now = now) :
    (offer t).follow (s.answerer alive outside) past =
      if here.store.accepts ⟨t.secret, now, t.expiresOn⟩ then
        ⟨past ++ [⟨.now, now⟩, ⟨.offer ⟨t.secret, now, t.expiresOn⟩, true⟩,
          ⟨.notify (.tokenRefreshed now t.expiresOn), ()⟩], .ok (.refreshed t.expiresOn)⟩
      else
        ⟨past ++ [⟨.now, now⟩, ⟨.offer ⟨t.secret, now, t.expiresOn⟩, false⟩],
          .ok .unchanged⟩ := by
  have time : s.answerer alive outside past .now = now := clock
  have taken : s.answerer alive outside (past ++ [⟨.now, now⟩])
      (.offer ⟨t.secret, now, t.expiresOn⟩) =
        here.store.accepts ⟨t.secret, now, t.expiresOn⟩ := by
    simp only [Shared.answerer, Shared.replay_snoc, state, Shared.after, Shared.answer?,
      Option.getD_some]
  simp only [offer, Program.bind_eq, Program.request_eq, Program.ask_bind, Program.pure_bind,
    Program.follow_ask]
  rw [time, taken]
  cases here.store.accepts ⟨t.secret, now, t.expiresOn⟩ with
  | true =>
      simp only [if_true, Program.pure_eq, Program.follow_ask, Program.follow_pure,
        List.append_assoc, List.cons_append, List.nil_append]
  | false =>
      simp only [Bool.false_eq_true, if_false, Program.pure_eq, Program.follow_pure,
        List.append_assoc, List.cons_append, List.nil_append]

end TokenKeeper.Engine
