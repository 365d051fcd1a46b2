import TokenKeeper.Proofs.Machine.Play
import TokenKeeper.Proofs.Machine.Store
import TokenKeeper.Proofs.Machine.Threads
import TokenKeeper.Proofs.Pass.Endpoint

/-!
# The tag of a new connection

A connection signs in with the token that a credential named, and is tracked with the expiry of
the token that is current when its tracking begins. These are two looks at the store, and a token
may be put into it between them. So the tag is never behind the token of the credential, and it
is ahead of it exactly if a token was put into the store between the two looks. Tokens that come
after the second look make the connection stale.
-/

namespace TokenKeeper

open Program (reaches_ask_iff)

variable {e : Engine} {c : Connection} {past : List Exchange}

/-- The requests by which the heartbeat is started and stopped. -/
def Request.IsHeartbeat : Request → Prop
  | .lockHeartbeat | .isShutDown | .registryIsEmpty | .heartbeatIsRunning | .startHeartbeat
  | .stopHeartbeat | .unlockHeartbeat => True
  | _ => False

namespace Engine

theorem syncHeartbeat_uses : syncHeartbeat.Uses Request.IsHeartbeat := by
  refine ⟨trivial, fun _ => ⟨trivial, fun ended => ?_⟩⟩
  cases ended with
  | true =>
      refine ⟨trivial, fun running => ?_⟩
      cases running <;> exact ⟨trivial, fun _ => ⟨trivial, fun _ => trivial⟩⟩
  | false =>
      refine ⟨trivial, fun empty => ⟨trivial, fun running => ?_⟩⟩
      cases empty <;> cases running
      · exact ⟨trivial, fun _ => ⟨trivial, fun _ => trivial⟩⟩
      · exact ⟨trivial, fun _ => trivial⟩
      · exact ⟨trivial, fun _ => ⟨trivial, fun _ => trivial⟩⟩
      · exact ⟨trivial, fun _ => ⟨trivial, fun _ => trivial⟩⟩

end Engine

/-- A connection is tracked with the expiry of the token that was seen just before. -/
theorem Call.established_track {c' : Connection} {tag : Instant}
    {resume : Request.Answer (.track c' tag) → Program Output}
    (reached : ((Call.established c).program e).Reaches past (.ask (.track c' tag) resume)) :
    c' = c ∧ ∃ current, past = [⟨.currentToken, current⟩] ∧ tag = Token.expiryOf current := by
  rcases reaches_ask_iff.mp reached with ⟨_, same⟩ | ⟨current, later, rfl, onward⟩
  · cases same
  · rcases reaches_ask_iff.mp onward with ⟨rfl, same⟩ | ⟨id, later, rfl, after⟩
    · injection same with sameRequest
      injection sameRequest with sameConnection sameTag
      exact ⟨sameConnection, current, rfl, sameTag⟩
    · have rest : ((Engine.syncHeartbeat.bind fun _ => .pure id).bind fun id =>
          .pure (Output.connection id)).Uses Request.IsHeartbeat :=
        (Engine.syncHeartbeat_uses.bind fun _ => Program.uses_pure _).bind
          fun _ => Program.uses_pure _
      exact ((rest.reaches after).1).elim

/-- A credential has looked at the store and found this token. -/
structure HandsOut (d : Deed) (t : Token) : Prop where
  duty : d.duty = .call .credential
  exchange : d.exchange = ⟨.currentToken, some t⟩

/-- How a credential ends: as none if it found no token, and else with the secret of the token that
it found first of all and with what it found for a username last of all. -/
def CredentialEnds (past : List Exchange) (r : Except Panic Output) : Prop :=
  past = [⟨.currentToken, none⟩] ∧ r = .ok (.credential none) ∨
    ∃ t between name, past = ⟨.currentToken, some t⟩ :: between ++ [⟨.username, name⟩] ∧
      r = .ok (.credential (some ⟨name, t.secret⟩))

/-- A credential looks at the token first of all, and not again. -/
def CredentialAsks (past : List Exchange) (q : Request) : Prop :=
  q = .currentToken → past = []

theorem Call.credential_meets :
    (Call.credential.program e).Meets (fun _ _ => True) CredentialAsks CredentialEnds [] := by
  have other {past : List Exchange} {q : Request} (other : q ≠ .currentToken) :
      CredentialAsks past q := fun same => absurd same other
  refine ⟨fun _ => rfl, fun current _ => ?_⟩
  cases current with
  | none => exact .inl ⟨rfl, rfl⟩
  | some t =>
      have named (between : List Exchange) : (((Program.request .username).bind fun name =>
          Program.pure (some (⟨name, t.secret⟩ : Credential))).bind fun c =>
            .pure (Output.credential c)).Meets (fun _ _ => True) CredentialAsks CredentialEnds
          (⟨.currentToken, some t⟩ :: between) :=
        ⟨other (by simp), fun name _ => .inr ⟨t, between, name, rfl, rfl⟩⟩
      refine ⟨other (by simp), fun now _ => ?_⟩
      -- Whether the token has expired decides only what is asked between the two looks.
      cases expired : t.isExpiredAt now with
      | false =>
          simp only [Program.pure_bind, expired, Bool.false_eq_true, if_false]
          exact named _
      | true =>
          simp only [Program.pure_bind, expired, if_true]
          refine ⟨other (by simp), fun busy _ => ?_⟩
          cases busy with
          | true => exact named _
          | false => exact ⟨other (by simp), fun _ _ => named _⟩

namespace Thread

variable {task : Thread e}

/-- The credential that a task has ended with. -/
def credential? (task : Thread e) : Option (Option Credential) :=
  match task.rest with
  | .pure (.credential c) => some c
  | _ => none

theorem ended_of_credential? {c : Option Credential} (h : task.credential? = some c) :
    task.rest.ended? = some (.ok (.credential c)) := by
  unfold credential? at h
  split at h
  · rename_i same
    rw [same, Option.some.inj h]
    rfl
  · cases h

end Thread

/-- A look at the store by a credential is its first request. -/
theorem HandsOut.past_eq_nil {read : Deed} {t : Token} (handed : HandsOut read t)
    (sound : read.Sound e) (own : read.member = none) : read.past = [] := by
  obtain ⟨resume, reached⟩ := sound.reaches own
  rw [handed.duty] at reached
  have asks := (Call.credential_meets (e := e)).reaches reached fun _ _ _ _ => trivial
  exact asks.1 (congrArg (·.request) handed.exchange)

namespace Run

variable {m₀ m₁ m₂ m₃ : Machine e} {earlier mid : List Label} {read tracked : Deed} {t : Token}
variable {tag : Instant} {id : ConnectionId}

/-- The password of a credential is the secret of the token that it was handed out with. -/
theorem password_of_handed {trace : List Label} {m : Machine e} {task : Thread e}
    {cred : Credential} (run : Run m₀ trace m) (happened : .did read ∈ trace)
    (handed : HandsOut read t) (here : m.threads[read.thread]? = some task)
    (ended : task.rest.ended? = some (.ok (.credential (some cred)))) :
    cred.password = t.secret := by
  have sound := run.sound happened
  have asked : read.exchange.request = .currentToken := congrArg (·.request) handed.exchange
  have own := Deed.member_eq_none sound (by rw [asked]; rfl)
  obtain ⟨task', later, here', duty, past⟩ := run.recorded happened own
  obtain rfl := Option.some.inj (here'.symm.trans here)
  rw [handed.past_eq_nil sound own, handed.exchange, List.nil_append] at past
  have reached := task'.sound
  rw [duty, handed.duty] at reached
  rcases (Call.credential_meets (e := e)).ended reached ended fun _ _ _ _ => trivial with
    ⟨_, same⟩ | ⟨t', between, name, past', same⟩
  · cases same
  · cases same
    rw [past] at past'
    cases past'
    rfl

/-- The password of a credential, once it is returned, is the secret of the token that it was handed
out with. A connection that was not tracked gets the expiry of a token that was current after that.
The tag is later than the token of the credential exactly if a token was put into the store before
that look, and the connection is stale exactly if one was put there after it. -/
theorem established (first : Run m₀ (earlier ++ [.did read]) m₁) (handed : HandsOut read t)
    (second : Run m₁ mid m₂) (step : Step m₂ (.did tracked) m₃)
    (new : m₁.threads.length ≤ tracked.thread) (duty : tracked.duty = .call (.established c))
    (exchange : tracked.exchange = ⟨.track c tag, id⟩)
    (untracked : m₂.shared.registry.entryOf? c = none) :
    (∀ task cred, m₂.threads[read.thread]? = some task →
      task.rest.ended? = some (.ok (.credential (some cred))) → cred.password = t.secret) ∧
    ∃ between look meanwhile current, mid = between ++ .did look :: meanwhile ∧
      look.thread = tracked.thread ∧ look.exchange = ⟨.currentToken, some current⟩ ∧
      (m₃.shared.registry.entryOf? c).map (·.tag) = some current.expiresAt ∧
      t.expiresAt ≤ current.expiresAt ∧
      (current.expiresAt ≤ t.expiresAt ↔ installed between = []) ∧
      (current.expiresAt < m₃.shared.store.expiry ↔ installed meanwhile ≠ []) := by
  have request : tracked.exchange.request = .track c tag := congrArg (·.request) exchange
  have alone := Deed.member_eq_none step.sound (by rw [request]; rfl)
  obtain ⟨seen, past, named⟩ : ∃ seen, tracked.past = [⟨.currentToken, seen⟩] ∧
      tag = Token.expiryOf seen := by
    obtain ⟨resume, reached⟩ := step.sound.reaches alone
    rw [duty] at reached
    generalize tracked.exchange.request = q at request resume reached
    subst request
    exact (Call.established_track (e := e) reached).2
  -- The look at the store is a deed of the second part of the run.
  obtain ⟨task, here, same, known⟩ := step.actor
  have kept := second.history new here
  have looked := kept.own [] ⟨.currentToken, seen⟩ [] ((known alone).1.trans past)
  obtain ⟨between, meanwhile, rfl⟩ := List.append_of_mem looked
  obtain ⟨before, after, run, look, rest⟩ := second.cut
  -- The token of the credential is current when the second part begins.
  obtain ⟨start, _, reading⟩ := first.last
  have held : m₁.shared.store.current = some t := by
    have answered := reading.answer handed.exchange rfl
    rw [reading.shared, handed.exchange]
    exact answered.symm
  have found : seen = before.shared.store.current := look.answer rfl rfl
  obtain ⟨current, present⟩ : ∃ current, before.shared.store.current = some current := by
    rw [run.current, held]
    cases (installed between).getLast? <;> exact ⟨_, rfl⟩
  have still : after.shared.store.current = some current := by
    rw [look.shared]
    exact present
  have expiry : before.shared.store.expiry = current.expiresAt := by
    rw [TokenStore.expiry, present]
    rfl
  have finished : m₃.shared.store = m₂.shared.store := by
    rw [step.shared, request]
    rfl
  refine ⟨?password, between, _, meanwhile, current, rfl, rfl, ?exchange, ?recorded, ?notBehind,
    ?ahead, ?stale⟩
  case password =>
    intro task cred there ended
    exact (first.trans second).password_of_handed
      (List.mem_append_left _ List.mem_concat_self) handed there ended
  case exchange => rw [found, present]
  case recorded =>
    rw [step.shared, request]
    change ((m₂.shared.registry.track c tag).1.entryOf? c).map (·.tag) = some current.expiresAt
    rw [Registry.entryOf?_track_of_none tag untracked, named, found, present]
    rfl
  case notBehind =>
    have upward := run.expiry_le
    rw [expiry, TokenStore.expiry, held] at upward
    exact upward
  case ahead =>
    rw [← expiry]
    exact run.expiry_le_iff held
  case stale =>
    rw [finished, ← Instant.not_le, not_iff_not]
    exact rest.expiry_le_iff still

/-- The token of the first acquisition, as the store keeps it. -/
def oldToken : Token := ⟨"old", default, default⟩

/-- A connection that is about to sign in. -/
def newcomer : Connection := ⟨1, "cache"⟩

/-- A token is acquired, and a credential looks it up. -/
def handedOut : Machine Engine.sample × List Label :=
  ({} : Machine Engine.sample).play
    (.begin (.acquire false) :: Move.tells 0 6 (Request.issuing ⟨"old", default⟩) ++
      .begin .credential :: Move.tells 1 1 Request.blank)

/-- The token has expired, so the credential starts a check before it is returned. Another token is
acquired, and the tracking begins. -/
def renewed : Machine Engine.sample × List Label :=
  handedOut.1.play
    (Move.tells 1 4 Request.blank ++
      .begin (.acquire false) :: Move.tells 3 5 (Request.issuing ⟨"new", .max⟩) ++
        .begin (.established newcomer) :: Move.tells 4 1 Request.blank)

/-- The connection is tracked. -/
def trackedLate : Machine Engine.sample × List Label :=
  renewed.1.play (Move.tells 4 1 Request.blank)

/-- The credential was the old token and the tag is the expiry of the new one, so the next pass
leaves the connection alone. -/
theorem established_ahead :
    (∃ cred, (renewed.1.threads[1]?.bind Thread.credential?) = some (some cred) ∧
      cred.password = oldToken.secret) ∧
    (trackedLate.1.shared.registry.entryOf? newcomer).map (·.tag) = some .max ∧
    trackedLate.1.shared.registry.behind trackedLate.1.shared.store.expiry = [] ∧
    oldToken.expiresAt < .max ∧
    ∃ between look meanwhile current, renewed.2 = between ++ .did look :: meanwhile ∧
      look.thread = 4 ∧ look.exchange = ⟨.currentToken, some current⟩ ∧
      (trackedLate.1.shared.registry.entryOf? newcomer).map (·.tag) = some current.expiresAt ∧
      oldToken.expiresAt ≤ current.expiresAt ∧
      (current.expiresAt ≤ oldToken.expiresAt ↔ installed between = []) ∧
      (current.expiresAt < trackedLate.1.shared.store.expiry ↔ installed meanwhile ≠ []) := by
  have first : Run {} handedOut.2 handedOut.1 := Machine.play_run _ _
  have second : Run handedOut.1 renewed.2 renewed.1 := Machine.play_run _ _
  have third : Run renewed.1 trackedLate.2 trackedLate.1 := Machine.play_run _ _
  have looked : handedOut.2 = handedOut.2.dropLast ++
      [.did ⟨1, .call .credential, none, [], ⟨.currentToken, some oldToken⟩⟩] := by
    decide +kernel
  have tracked : trackedLate.2 = [.did ⟨4, .call (.established newcomer), none,
      [⟨.currentToken, some ⟨"new", default, .max⟩⟩], ⟨.track newcomer .max, ⟨1⟩⟩⟩] := by
    decide +kernel
  rw [looked] at first
  rw [tracked] at third
  have given : (renewed.1.threads[1]?.bind Thread.credential?) =
      some (some ⟨some "app", "old"⟩) := by decide +kernel
  obtain ⟨password, tagged⟩ := first.established ⟨rfl, rfl⟩ second third.step_of_single
    (by decide +kernel) rfl rfl (by decide +kernel)
  refine ⟨⟨_, given, ?_⟩, by decide +kernel, by decide +kernel, by decide, tagged⟩
  obtain ⟨task, here, ended⟩ := Option.bind_eq_some_iff.mp given
  exact password task _ here (Thread.ended_of_credential? ended)

end Run
end TokenKeeper
