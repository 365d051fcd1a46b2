import TokenKeeper.Proofs.Acquisition.Offers
import TokenKeeper.Proofs.Machine.Play
import TokenKeeper.Proofs.Machine.Shares

/-!
# Renewals and their announcements

A task that has put a token into the store tells the subscribers of it at once, and nobody tells
of a renewal for any other reason. So for each task the renewals that it told of are those that it
brought about, but for the last one while it is about to tell of it. Over a whole run these lists
are the same once all tasks have ended, although the order of two tasks may be different in them.
-/

namespace TokenKeeper

variable {e : Engine} {m : Machine e} {trace : List Label} {q : Request} {i : Nat}

/-- The event by which subscribers are told of a token. -/
def Token.renewal (t : Token) : Event := .tokenRefreshed t.acquiredAt t.expiresAt

namespace Exchange

/-- The renewal that an exchange with the store brings about. -/
def renews? : Exchange → Option Event
  | ⟨.offer t, true⟩ => some t.renewal
  | _ => none

/-- The renewal that subscribers are told of. -/
def announces? : Exchange → Option Event
  | ⟨.notify (.tokenRefreshed acquiredAt expiresOn), _⟩ =>
    some (.tokenRefreshed acquiredAt expiresOn)
  | _ => none

end Exchange

/-- The renewals that a task has brought about. -/
def renewalsIn (past : List Exchange) : List Event := past.filterMap Exchange.renews?

/-- The renewals that a task has told of. -/
def announcedIn (past : List Exchange) : List Event := past.filterMap Exchange.announces?

theorem renewalsIn_snoc (past : List Exchange) (x : Exchange) :
    renewalsIn (past ++ [x]) = renewalsIn past ++ x.renews?.toList := filterMap_snoc _ _ _

theorem announcedIn_snoc (past : List Exchange) (x : Exchange) :
    announcedIn (past ++ [x]) = announcedIn past ++ x.announces?.toList := filterMap_snoc _ _ _

/-- A task has told of all renewals that it has brought about, and of no others. -/
def Announced (past : List Exchange) : Prop := renewalsIn past = announcedIn past

/-- A task may tell of a renewal that it has just brought about, and it must do so before
anything else. -/
def AnnouncesNext (past : List Exchange) : Request → Prop
  | .notify (.tokenRefreshed acquiredAt expiresOn) =>
    renewalsIn past = announcedIn past ++ [.tokenRefreshed acquiredAt expiresOn]
  | _ => Announced past

/-- The requests that neither bring about a renewal nor tell of one. -/
def Request.IsQuiet : Request → Prop
  | .offer _ | .notify (.tokenRefreshed _ _) => False
  | _ => True

namespace Request.IsQuiet

theorem renews? (quiet : q.IsQuiet) (a : q.Answer) : Exchange.renews? ⟨q, a⟩ = none := by
  cases q with
  | offer => exact quiet.elim
  | _ => rfl

theorem announces? (quiet : q.IsQuiet) (a : q.Answer) : Exchange.announces? ⟨q, a⟩ = none := by
  cases q with
  | notify event =>
      cases event with
      | tokenRefreshed => exact quiet.elim
      | _ => rfl
  | _ => rfl

theorem free (quiet : q.IsQuiet) : q.Free Announced AnnouncesNext := by
  intro past done
  constructor
  · cases q with
    | notify event =>
        cases event with
        | tokenRefreshed => exact quiet.elim
        | _ => exact done
    | _ => exact done
  · intro a
    rw [Announced, renewalsIn_snoc, announcedIn_snoc, quiet.renews? a, quiet.announces? a, done]

end Request.IsQuiet

theorem Request.IsPlain.isQuiet (plain : q.IsPlain) : q.IsQuiet := by
  cases q with
  | offer => exact plain.elim
  | notify => exact plain.elim
  | _ => trivial

theorem Request.IsAttempting.isQuiet (attempting : q.IsAttempting) : q.IsQuiet := by
  cases q with
  | offer => exact attempting.elim
  | notify => exact attempting.elim
  | _ => trivial

namespace Engine

open Program (Keeps uses_pure uses_ofAnswer)

theorem startWorkers_quiet (token : Token) (username : String) (stale : List Tracked) :
    (startWorkers token username stale).Uses Request.IsQuiet := by
  induction stale with
  | nil => trivial
  | cons x rest ih => exact ⟨trivial, fun w => ih.bind fun _ => uses_pure _⟩

theorem joinWorkers_quiet (pass : Pass) (workers : List (String × WorkerId)) :
    (joinWorkers pass workers).Uses Request.IsQuiet := by
  induction workers generalizing pass with
  | nil => trivial
  | cons worker rest ih =>
      refine ⟨trivial, fun o => ?_⟩
      cases o with
      | ok outcome => exact ih _
      | error p => exact ⟨trivial, fun _ => ih _⟩

theorem reauthenticateAll_quiet : reauthenticateAll.Uses Request.IsQuiet := by
  refine ⟨trivial, fun current => ⟨trivial, fun name => ?_⟩⟩
  cases current with
  | none => trivial
  | some token =>
      cases name with
      | none => trivial
      | some username =>
          refine ⟨trivial, fun stale => ?_⟩
          exact (startWorkers_quiet token username stale).bind fun _ => joinWorkers_quiet _ _

theorem serveEndpoint_quiet (job : EndpointJob) (retries : Nat) :
    (serveEndpoint job retries).Uses Request.IsQuiet := by
  induction retries with
  | zero =>
      rw [serveEndpoint]
      refine ⟨trivial, fun a => ?_⟩
      rcases a with p | (error | accepted)
      · trivial
      · cases error with
        | disposed => trivial
        | _ => exact ⟨trivial, fun _ => trivial⟩
      · exact ⟨trivial, fun _ => trivial⟩
  | succ retries ih =>
      rw [serveEndpoint]
      refine ⟨trivial, fun a => ?_⟩
      rcases a with p | (error | accepted)
      · trivial
      · cases error with
        | disposed => trivial
        | _ => exact ih
      · exact ⟨trivial, fun _ => trivial⟩

theorem connected_quiet (endpoints : List Endpoint) :
    (connected endpoints).Uses Request.IsQuiet := by
  induction endpoints with
  | nil => trivial
  | cons endpoint rest ih =>
      refine ⟨trivial, fun a => ?_⟩
      exact (uses_ofAnswer a).bind fun here => ih.bind fun _ => uses_pure _

theorem serveConnection_quiet (job : ConnectionJob) :
    (serveConnection job).Uses Request.IsQuiet := by
  refine ⟨trivial, fun a => ?_⟩
  rcases a with p | (error | endpoints)
  · trivial
  · cases error <;> exact ⟨trivial, fun _ => trivial⟩
  · apply (connected_quiet endpoints).bind
    intro here
    refine ⟨trivial, fun a => (uses_ofAnswer a).bind fun replies => ?_⟩
    show (record job replies).Uses _
    unfold record
    split
    · exact ⟨trivial, fun _ => trivial⟩
    · split
      · exact ⟨trivial, fun _ => trivial⟩
      · trivial

theorem offer_announces (t : AccessToken) : (offer t).Keeps Announced AnnouncesNext := by
  refine .ask (Request.IsQuiet.free trivial) fun now past done => ⟨done, fun taken _ => ?_⟩
  cases taken with
  | false =>
      show Announced _
      rw [Announced, renewalsIn_snoc, announcedIn_snoc, done]
      rfl
  | true =>
      -- Until the subscribers have been told, the invariant does not hold.
      refine ⟨?owed, fun _ _ => ?told⟩
      case owed =>
        show renewalsIn _ = announcedIn _ ++ _
        rw [renewalsIn_snoc, announcedIn_snoc, done, List.append_assoc]
        rfl
      case told =>
        show Announced _
        rw [Announced, renewalsIn_snoc, renewalsIn_snoc, announcedIn_snoc, announcedIn_snoc, done,
          List.append_assoc, List.append_assoc]
        rfl

theorem install_announces (t : AccessToken) (reportFailure : Bool) :
    (e.install t reportFailure).Keeps Announced AnnouncesNext := by
  have offered : ((offer t).bind fun o => .pure (Except.ok (ε := AuthError) o)).Keeps Announced
      AnnouncesNext := (offer_announces t).bind fun _ => .pure _
  refine .ask (Request.IsQuiet.free trivial) fun known => ?_
  cases known with
  | some name => exact offered
  | none =>
      simp only [Program.bind_eq, Program.pure_eq]
      split
      · exact .ask (Request.IsQuiet.free trivial) fun _ => offered
      · exact .pure _

theorem acquire_announces (reportFailure : Bool) :
    (e.acquire reportFailure).Keeps Announced AnnouncesNext := by
  apply ((attempts_uses _ _).keeps fun _ attempting => attempting.isQuiet.free).bind
  intro r
  cases r with
  | ok t => exact install_announces t reportFailure
  | error error =>
      refine .ask (Request.IsQuiet.free trivial) fun _ => ?_
      exact .ask (Request.IsQuiet.free trivial) fun _ => .pure _

end Engine

/-- Every task tells of the renewals that it brings about, each before it goes on. -/
theorem Duty.program_announces (duty : Duty) :
    (duty.program e).Keeps Announced AnnouncesNext := by
  cases duty with
  | call c =>
      exact Call.program_keeps (fun _ plain => plain.isQuiet.free) Engine.acquire_announces
        (Engine.reauthenticateAll_quiet.keeps fun _ quiet => quiet.free) c
  | worker pass job =>
      exact (((Engine.serveConnection_quiet job).bind fun _ => Program.uses_pure _).keeps
        fun _ quiet => quiet.free)

/-- A task has told of the renewals that it brought about, or it is about to tell of the last
one. -/
theorem Thread.announced (t : Thread e) :
    Announced t.past ∨ ∃ event resume, t.rest = .ask (.notify event) resume ∧
      renewalsIn t.past = announcedIn t.past ++ [event] := by
  have met := (t.duty.program_announces [] rfl).reaches t.sound fun _ _ _ _ => trivial
  cases rest : t.rest with
  | pure output =>
      rw [rest] at met
      exact .inl met
  | panic p =>
      rw [rest] at met
      exact .inl met
  | ask q resume =>
      rw [rest] at met
      have asks := met.1
      cases q with
      | notify event =>
          cases event with
          | tokenRefreshed => exact .inr ⟨_, resume, rfl, asks⟩
          | _ => exact .inl asks
      | _ => exact .inl asks

/-- Members bring about no renewal and tell of none. -/
theorem Deed.Sound.quiet {d : Deed} (sound : d.Sound e) (inside : d.member ≠ none) :
    d.exchange.request.IsQuiet := by
  unfold Deed.Sound at sound
  split at sound
  · rename_i own
    exact absurd own inside
  · obtain ⟨resume, reached⟩ := sound
    exact ((Engine.serveEndpoint_quiet _ _).reaches reached).1

/-- The renewals of a run, each with the task that brought it about. -/
def renewals (trace : List Label) : List (Nat × Event) := sightings Exchange.renews? trace

/-- The renewals that subscribers were told of in a run, each with the task that told them. -/
def announcements (trace : List Label) : List (Nat × Event) :=
  sightings Exchange.announces? trace

/-- The renewals are those of the tokens that were put into the store. -/
theorem map_renewals (trace : List Label) :
    (renewals trace).map (·.2) = (installed trace).map Token.renewal := by
  rw [renewals, sightings, installed, List.map_filterMap, List.map_filterMap]
  apply List.filterMap_congr
  intro l _
  cases l with
  | began c => rfl
  | dropped c => rfl
  | did d =>
      obtain ⟨i, duty, member, past, q, a⟩ := d
      cases q with
      | offer t => cases a <;> rfl
      | _ => rfl

namespace Run

theorem shareOf_renewals (run : Run ({} : Machine e) trace m) :
    shareOf i (renewals trace) = renewalsIn (m.pastOf i) :=
  run.shareOf_sightings fun _ happened inside => ((run.sound happened).quiet inside).renews? _

theorem shareOf_announcements (run : Run ({} : Machine e) trace m) :
    shareOf i (announcements trace) = announcedIn (m.pastOf i) :=
  run.shareOf_sightings fun _ happened inside => ((run.sound happened).quiet inside).announces? _

/-- Each task has told of its renewals in their order, but for the last one while it is about to
tell of it. -/
theorem announced (run : Run ({} : Machine e) trace m) (i : Nat) :
    shareOf i (renewals trace) = shareOf i (announcements trace) ∨
      ∃ t event resume, m.threads[i]? = some t ∧ t.rest = .ask (.notify event) resume ∧
        shareOf i (renewals trace) = shareOf i (announcements trace) ++ [event] := by
  rw [run.shareOf_renewals, run.shareOf_announcements]
  cases here : m.threads[i]? with
  | none =>
      rw [Machine.pastOf_of_none here]
      exact .inl rfl
  | some t =>
      rw [Machine.pastOf_of_some here]
      rcases t.announced with all | ⟨event, resume, next, last⟩
      · exact .inl all
      · exact .inr ⟨t, event, resume, rfl, next, last⟩

/-- Once all tasks have ended, subscribers were told of every token that was put into the store,
once for each, and of nothing else. -/
theorem announced_of_ended (run : Run ({} : Machine e) trace m)
    (ended : ∀ t ∈ m.threads, t.rest.ended?.isSome = true) :
    (announcements trace).Perm (renewals trace) := by
  apply perm_of_shareOf_eq
  intro i
  rcases run.announced i with all | ⟨t, event, resume, here, next, _⟩
  · exact all.symm
  · have done := ended t (List.mem_of_getElem? here)
    rw [next] at done
    cases done

/-- The store over a whole run, whatever acquisitions there are and however they take turns. Each
token that is put into the store expires later than the one before. A fetched token that is offered
is taken exactly if there is none or it expires later than all that were offered before. The store
has the earliest of the offered tokens that expire last, and its expiry is the same for every order
of the offers. Each task tells of the renewals that it brings about, with their times, before it
does anything else, and so once all have ended there is one announcement for each renewal. -/
theorem store_of_offers (run : Run ({} : Machine e) trace m) :
    (installed trace).Pairwise (fun old new => old.expiresAt < new.expiresAt) ∧
      (∀ d m' t taken, Step m (.did d) m' → d.exchange = ⟨.offer t, taken⟩ →
        Fetched d.past t ∧
          (taken = true ↔ m.shared.store.current = none ∨
            ∀ old ∈ offered trace, old.expiresAt < t.expiresAt) ∧
          m'.shared.store.current = if taken then some t else m.shared.store.current) ∧
      (∀ t, m.shared.store.current = some t ↔ LastToExpire t (offered trace)) ∧
      (∀ (e' : Engine) (m' : Machine e') (trace' : List Label), Run {} trace' m' →
        ((offered trace').map (·.expiresAt)).Perm ((offered trace).map (·.expiresAt)) →
          m'.shared.store.expiry = m.shared.store.expiry) ∧
      (∀ i, shareOf i (renewals trace) = shareOf i (announcements trace) ∨
        ∃ t event resume, m.threads[i]? = some t ∧ t.rest = .ask (.notify event) resume ∧
          shareOf i (renewals trace) = shareOf i (announcements trace) ++ [event]) ∧
      ((∀ t ∈ m.threads, t.rest.ended?.isSome = true) →
        (announcements trace).Perm (renewals trace) ∧
          ((announcements trace).map (·.2)).Perm ((installed trace).map Token.renewal)) := by
  have has := run.has_offered
  refine ⟨?increasing, ?taken, fun _ => has.current_eq_some_iff, fun _ _ _ run' same => ?expiry,
    run.announced, fun ended => ?announced⟩
  case increasing => exact run.increasing
  case taken =>
    intro d m' t taken step offers
    exact ⟨step.sound.fetched (congrArg (·.request) offers), run.offer_taken step offers⟩
  case expiry =>
    have has' := run'.has_offered
    exact Instant.le_antisymm (has'.expiry_le has same.subset) (has.expiry_le has' same.symm.subset)
  case announced =>
    have all := run.announced_of_ended ended
    exact ⟨all, map_renewals trace ▸ all.map _⟩

/-- The first token is put into the store and expires at the first instant. Of two tokens that
expire together the one that was fetched later is offered first, and one that expires as early as
the first one comes last. Only then the subscribers are told of the renewals, of the second one
first. -/
def disorderly : Machine Engine.sample × List Label :=
  ({} : Machine Engine.sample).play
    (.begin (.acquire false) :: Move.tells 0 5 (Request.issuing ⟨"first", .min⟩) ++
      .begin (.acquire false) :: Move.tells 1 3 (Request.issuing ⟨"late", default⟩) ++
      .begin (.acquire false) :: Move.tells 2 4 (Request.issuing ⟨"early", default⟩) ++
      Move.tells 1 1 Request.blank ++
      .begin (.acquire false) :: Move.tells 3 4 (Request.issuing ⟨"last", .min⟩) ++
      Move.tells 2 1 Request.blank ++ Move.tells 0 1 Request.blank)

/-- The store has the first of the two tokens, and there is one announcement for each renewal. -/
theorem store_of_disorderly :
    (offered disorderly.2).map (·.secret) = ["first", "early", "late", "last"] ∧
      disorderly.1.shared.store.current = some ⟨"early", default, default⟩ ∧
      renewals disorderly.2 =
        [(0, .tokenRefreshed default .min), (2, .tokenRefreshed default default)] ∧
      ((announcements disorderly.2).map (·.2)).Perm
        [.tokenRefreshed default .min, .tokenRefreshed default default] ∧
      announcements disorderly.2 ≠ renewals disorderly.2 := by
  have run : Run {} disorderly.2 disorderly.1 := Machine.play_run _ _
  obtain ⟨_, _, last, _, _, announced⟩ := run.store_of_offers
  have ended : (disorderly.1.threads.all fun t => t.rest.ended?.isSome) = true := by
    decide +kernel
  obtain ⟨_, each⟩ := announced (List.all_eq_true.mp ended)
  have installs : (installed disorderly.2).map Token.renewal =
      [.tokenRefreshed default .min, .tokenRefreshed default default] := by decide +kernel
  refine ⟨by decide +kernel, (last _).mpr ?_, by decide +kernel, installs ▸ each,
    by decide +kernel⟩
  exact ⟨[⟨"first", default, .min⟩], [⟨"late", default, default⟩, ⟨"last", default, .min⟩],
    by decide +kernel, by decide, by decide⟩

end Run
end TokenKeeper
