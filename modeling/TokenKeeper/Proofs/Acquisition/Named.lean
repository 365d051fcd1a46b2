import TokenKeeper.Proofs.Call.Requests
import TokenKeeper.Proofs.Machine.Store
import TokenKeeper.Proofs.Machine.Threads

/-!
# Tokens have a username

A token is offered to the store only after the identity service has issued it and a username was
found there or set. Contracts that ask no more than this of offers are kept by every call. The
username of a store stays what it is once it is there. So in every reachable state of an engine a
store with a token has a username as well, and a pass that finds a token also finds the username
that goes with it.
-/

namespace TokenKeeper

variable {e : Engine} {m m' : Machine e} {trace : List Label} {l : Label} {past : List Exchange}
variable {name : String}

/-- After this exchange the store has a username. -/
def Exchange.names (x : Exchange) : Bool :=
  match x with
  | ⟨.username, some _⟩ => true
  | ⟨.setUsernameIfAbsent _, _⟩ => true
  | _ => false

/-- Tokens are offered only after a username was found or set. -/
def NamesFirst (past : List Exchange) : Request → Prop
  | .offer _ => ∃ x ∈ past, x.names = true
  | _ => True

/-- The identity service has issued this token. -/
def Issued (past : List Exchange) (t : AccessToken) : Prop :=
  ∃ limit, ⟨.getToken limit, .issued t⟩ ∈ past

theorem Issued.mono {t : AccessToken} {later : List Exchange} (issued : Issued past t)
    (further : past <+: later) : Issued later t := by
  obtain ⟨limit, inside⟩ := issued
  exact ⟨limit, further.subset inside⟩

/-- How an attempt and a row of attempts end with a token. -/
def EndsIssued (past : List Exchange) (r : Except Panic (Except IdentityError AccessToken)) :
    Prop :=
  ∀ t, r = .ok (.ok t) → Issued past t

theorem EndsIssued.of_failed {error : IdentityError} : EndsIssued past (.ok (.error error)) := by
  intro t same
  cases same

theorem EndsIssued.of_panic {p : Panic} : EndsIssued past (.error p) := by
  intro t same
  cases same

def Request.isOffer : Request → Bool
  | .offer _ => true
  | _ => false

/-- A contract about offers alone. What it asks of them holds where a token was issued, a username
was found or set, and the clock has just been asked. -/
structure AboutOffers (asks : List Exchange → Request → Prop) : Prop where
  free : ∀ past q, q.isOffer = false → asks past q
  offers : ∀ past t now, Issued past t → (∃ x ∈ past, x.names = true) →
    asks (past ++ [⟨.now, now⟩]) (.offer ⟨t.secret, now, t.expiresOn⟩)

section offers

open Program (Heeds Meets)

variable {asks : List Exchange → Request → Prop}

namespace Engine

theorem attempt_issued (about : AboutOffers asks) (number : Nat) (before : List Exchange) :
    (e.attempt number).Meets (fun _ _ => True) asks EndsIssued before := by
  refine ⟨about.free _ _ rfl, fun reply _ => ?_⟩
  cases reply with
  | issued t =>
      rintro _ ⟨⟩
      exact ⟨e.policy.timeouts.forAttempt number, by simp⟩
  | failed error => exact .of_failed
  | late => exact .of_failed
  | panicked p => exact .of_panic

theorem attempts_issued (about : AboutOffers asks) (left number : Nat) (before : List Exchange) :
    (e.attempts left number).Meets (fun _ _ => True) asks EndsIssued before := by
  induction left generalizing number before with
  | zero =>
      rw [attempts]
      apply Meets.bind
      apply (attempt_issued about number before).mono (fun _ _ allowed => allowed)
      rintro past (p | error | t) ended
      · exact .of_panic
      · exact .of_failed
      · exact ended
  | succ left ih =>
      rw [attempts]
      apply Meets.bind
      apply (attempt_issued about number before).mono (fun _ _ allowed => allowed)
      rintro past (p | error | t) ended
      · exact .of_panic
      · refine ⟨about.free _ _ rfl, fun delay _ => ?_⟩
        cases delay with
        | error p => exact .of_panic
        | ok delay => exact ⟨about.free _ _ rfl, fun _ _ => ih _ _⟩
      · exact ended

theorem offer_meets {t : AccessToken} (about : AboutOffers asks) (issued : Issued past t)
    (named : ∃ x ∈ past, x.names = true) :
    (offer t).Meets (fun _ _ => True) asks (fun _ _ => True) past := by
  refine ⟨about.free _ _ rfl, fun now _ => ⟨about.offers past t now issued named, ?_⟩⟩
  intro taken _
  cases taken with
  | true => exact ⟨about.free _ _ rfl, fun _ _ => trivial⟩
  | false => trivial

/-- A token is offered once a username was found or set. -/
theorem install_meets {t : AccessToken} (about : AboutOffers asks) (reportFailure : Bool)
    (issued : Issued past t) :
    (e.install t reportFailure).Meets (fun _ _ => True) asks (fun _ _ => True) past := by
  have offered {later : List Exchange} {x : Exchange} (further : past <+: later)
      (names : x.names = true) :
      ((offer t).bind fun o => .pure (Except.ok (ε := AuthError) o)).Meets (fun _ _ => True)
        asks (fun _ _ => True) (later ++ [x]) := by
    have still := issued.mono (further.trans (List.prefix_append later [x]))
    apply Meets.bind
    apply (offer_meets about still ⟨x, by simp, names⟩).mono (fun _ _ allowed => allowed)
    intro past r _
    cases r <;> trivial
  refine ⟨about.free _ _ rfl, fun known _ => ?_⟩
  cases known with
  | some name => exact offered List.prefix_rfl rfl
  | none =>
      simp only [Program.bind_eq, Program.pure_eq]
      split
      · exact ⟨about.free _ _ rfl, fun _ _ => offered (List.prefix_append _ _) rfl⟩
      · trivial

theorem acquire_meets (about : AboutOffers asks) (reportFailure : Bool) :
    (e.acquire reportFailure).Heeds asks := by
  intro before
  apply Meets.bind
  apply (attempts_issued about _ _ before).mono (fun _ _ allowed => allowed)
  rintro past (p | error | t) ended
  · trivial
  · exact ⟨about.free _ _ rfl, fun _ _ => ⟨about.free _ _ rfl, fun _ _ => trivial⟩⟩
  · exact install_meets about reportFailure (ended t rfl)

end Engine

/-- Every call keeps to such a contract. -/
theorem AboutOffers.heeds (about : AboutOffers asks) (c : Call) : (c.program e).Heeds asks := by
  refine Call.heeds ?plain (Engine.acquire_meets about)
    (Engine.reauthenticateAll_uses.heeds ?pass) c
  case plain =>
    intro past q plain
    cases q with
    | offer => exact plain.elim
    | _ => exact about.free _ _ rfl
  case pass =>
    intro past q passing
    cases q with
    | offer => exact passing.elim
    | _ => exact about.free _ _ rfl

end offers

theorem NamesFirst.aboutOffers : AboutOffers NamesFirst where
  free := by
    intro past q other
    cases q with
    | offer => cases other
    | _ => trivial
  offers := by
    rintro past t now _ ⟨x, inside, names⟩
    exact ⟨x, List.mem_append_left _ inside, names⟩

/-- Where a token is offered, a username was found or set before by the same task. -/
theorem Deed.Sound.names {d : Deed} {t : Token} (sound : d.Sound e)
    (offers : d.exchange.request = .offer t) : ∃ x ∈ d.past, x.names = true := by
  have own : d.member = none := Deed.member_eq_none sound (by rw [offers]; rfl)
  have names := sound.heeds own NamesFirst.aboutOffers.heeds (by rw [offers]; exact id)
  rwa [offers] at names

theorem Shared.username_after {s : Shared} {alive : Connection → Bool} {q : Request}
    (named : s.store.username = some name) : (s.after alive q).store.username = some name := by
  cases q with
  | setUsernameIfAbsent other => simp [after, TokenStore.setUsernameIfAbsent, named]
  | offer t =>
      change (s.store.offer t).username = some name
      rwa [TokenStore.username_offer]
  | _ => exact named

namespace Step

/-- The username of a store stays. -/
theorem username_eq (step : Step m l m') (named : m.shared.store.username = some name) :
    m'.shared.store.username = some name := by
  cases l with
  | began c => rwa [step.shared_of_began]
  | dropped c => rwa [step.shared_of_dropped]
  | did d =>
      rw [step.shared]
      exact Shared.username_after named

theorem username (step : Step m l m') (named : m.shared.store.username.isSome = true) :
    m'.shared.store.username.isSome = true := by
  obtain ⟨name, known⟩ := Option.isSome_iff_exists.mp named
  rw [step.username_eq known]
  rfl

/-- A username that is found or set is there from then on. -/
theorem username_of_names {d : Deed} (step : Step m (.did d) m')
    (names : d.exchange.names = true) : m'.shared.store.username.isSome = true := by
  obtain ⟨thread, duty, member, past, ⟨q, a⟩⟩ := d
  rw [step.shared]
  cases q with
  | username =>
      have found : a = m.shared.store.username := step.answer rfl rfl
      cases a with
      | none => cases names
      | some name =>
          change m.shared.store.username.isSome = true
          rw [← found]
          rfl
  | setUsernameIfAbsent name =>
      change (m.shared.store.setUsernameIfAbsent name).username.isSome = true
      unfold TokenStore.setUsernameIfAbsent
      split
      · rename_i old known
        rw [known]
        rfl
      · rfl
  | _ => cases names

end Step

namespace Run

/-- Once there is a username it stays what it is. -/
theorem username_eq (run : Run m trace m') (named : m.shared.store.username = some name) :
    m'.shared.store.username = some name := by
  induction run with
  | refl => exact named
  | snoc _ step ih => exact step.username_eq ih

theorem username (run : Run m trace m') (named : m.shared.store.username.isSome = true) :
    m'.shared.store.username.isSome = true := by
  obtain ⟨name, known⟩ := Option.isSome_iff_exists.mp named
  rw [run.username_eq known]
  rfl

/-- A store that has a token has a username. -/
theorem named (run : Run ({} : Machine e) trace m)
    (held : m.shared.store.current.isSome = true) : m.shared.store.username.isSome = true := by
  generalize start : ({} : Machine e) = first at run
  induction run with
  | refl =>
      subst start
      cases held
  | @snoc middle m' before l run step ih =>
      subst start
      rw [step.current] at held
      cases installs : l.installs? with
      | none =>
          rw [installs, Option.none_or] at held
          exact step.username (ih held)
      | some t =>
          -- The task that offered the token had a username before.
          unfold Label.installs? at installs
          split at installs
          · rename_i thread duty member past offered
            obtain ⟨x, inside, names⟩ := step.sound.names rfl
            have own := Deed.member_eq_none step.sound rfl
            obtain ⟨_, _, cut⟩ := List.append_of_mem inside
            obtain ⟨earlier, later, rfl⟩ := List.append_of_mem
              (run.deed_before step (Nat.zero_le _) own cut)
            obtain ⟨_, _, _, naming, rest⟩ := run.cut
            exact step.username (rest.username (naming.username_of_names names))
          · cases installs

end Run
end TokenKeeper
