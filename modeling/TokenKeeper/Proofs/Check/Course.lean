import TokenKeeper.Proofs.Call.Requests
import TokenKeeper.Proofs.Heartbeat.Course

/-!
# The course of a check

A check enters the gate or is turned away. Inside it renews the token, if that is due, and then
runs a pass; only the renewal can panic, and only in code that the application or the identity
service brings along. The gate is left in any case, and a check in the background then sees to the
heartbeat unless the renewal has panicked. The contracts below say this of the programs.
-/

namespace TokenKeeper

open Program (Meets)

variable {e : Engine} {before : List Exchange}

/-- Calls that check the authentication. -/
def Call.isCheck : Call → Bool
  | ensure | check => true
  | _ => false

namespace Engine

/-- A check that is let in. -/
abbrev entered : Exchange := ⟨.tryEnter, true⟩

/-- A check that finds another one inside. -/
abbrev turnedAway : Exchange := ⟨.tryEnter, false⟩

/-- A check that leaves the gate. -/
abbrev left : Exchange := ⟨.leave, ()⟩

/-- The ways in which renewing the token can panic: the rule for when it is due, the backoff
function, or the identity service. -/
inductive Breaks (e : Engine) (before : List Exchange) : List Exchange → Panic → Prop
  | rule {t : Token} {first now : Instant} {p : Panic}
      (panics : e.policy.refreshDue.isDueAt t.acquiredAt t.expiresAt now = .error p) :
      Breaks e before (before ++ [⟨.currentToken, some t⟩, ⟨.now, first⟩, ⟨.now, now⟩]) p
  | backoff {past : List Exchange} {number : Nat} {error : IdentityError} {p : Panic} :
      Breaks e before (past ++ [⟨.backoff number error, .error p⟩]) p
  | backend {past : List Exchange} {limit : Duration} {p : Panic} :
      Breaks e before (past ++ [⟨.getToken limit, .panicked p⟩]) p

/-- Wherever it begins, a program panics only in code that was brought along. -/
def BreaksIn {α : Type} (e : Engine) (before : List Exchange) (p : Program α) : Prop :=
  ∀ past, p.Meets (fun _ _ => True) (fun _ _ => True)
    (fun past r => ∀ p, r = .error p → Breaks e before past p) past

namespace BreaksIn

variable {α β : Type}

theorem pure (a : α) : BreaksIn e before (Program.pure a) := fun _ _ same => nomatch same

theorem bind {p : Program α} {f : α → Program β} (first : BreaksIn e before p)
    (second : ∀ a, BreaksIn e before (f a)) : BreaksIn e before (p.bind f) := by
  intro past
  apply Meets.bind
  apply (first past).mono (fun _ _ allowed => allowed)
  intro later r ends
  cases r with
  | ok a => exact second a later
  | error p =>
      rintro _ ⟨⟩
      exact ends p rfl

theorem ask {q : Request} {resume : q.Answer → Program α}
    (rest : ∀ a, BreaksIn e before (resume a)) : BreaksIn e before (.ask q resume) :=
  fun _ => ⟨trivial, fun a _ => rest a _⟩

end BreaksIn

theorem attempt_breaks (number : Nat) : BreaksIn e before (e.attempt number) := by
  refine fun past => ⟨trivial, fun a _ => ?_⟩
  cases a with
  | panicked p =>
      rintro _ ⟨⟩
      exact .backend
  | issued t => exact BreaksIn.pure _ _
  | failed error => exact BreaksIn.pure _ _
  | late => exact BreaksIn.pure _ _

theorem attempts_breaks (left number : Nat) : BreaksIn e before (e.attempts left number) := by
  induction left generalizing number with
  | zero =>
      rw [attempts]
      apply (attempt_breaks number).bind
      intro r
      cases r <;> exact .pure _
  | succ left ih =>
      rw [attempts]
      apply (attempt_breaks number).bind
      intro r
      cases r with
      | ok t => exact .pure _
      | error error =>
          refine fun past => ⟨trivial, fun a _ => ?_⟩
          cases a with
          | ok delay => exact BreaksIn.ask (fun _ => ih (number + 1)) _
          | error p =>
              rintro _ ⟨⟩
              exact .backoff

theorem offer_breaks (t : AccessToken) : BreaksIn e before (offer t) := by
  refine .ask fun now => .ask fun taken => ?_
  cases taken with
  | true => exact .ask fun _ => .pure _
  | false => exact .pure _

theorem install_breaks (t : AccessToken) (reportFailure : Bool) :
    BreaksIn e before (e.install t reportFailure) := by
  refine .ask fun known => ?_
  cases known with
  | some name => exact (offer_breaks t).bind fun _ => .pure _
  | none =>
      simp only [Program.bind_eq, Program.pure_eq]
      split
      · exact .ask fun _ => (offer_breaks t).bind fun _ => .pure _
      · exact .pure _

theorem acquire_breaks (reportFailure : Bool) : BreaksIn e before (e.acquire reportFailure) := by
  apply (attempts_breaks _ _).bind
  intro r
  cases r with
  | ok t => exact install_breaks t reportFailure
  | error error => exact .ask fun _ => .ask fun _ => .pure _

theorem refreshIsDue_breaks (before : List Exchange) :
    e.refreshIsDue.Meets (fun _ _ => True) (fun _ _ => True)
      (fun past r => ∀ p, r = .error p → Breaks e before past p) before := by
  refine ⟨trivial, fun current _ => ?_⟩
  cases current with
  | none => exact BreaksIn.pure _ _
  | some t =>
      refine ⟨trivial, fun first _ => ?_⟩
      show (if t.isExpiredAt first then _ else if t.lifetime ≤ 0 then _ else _ : Program _).Meets
        _ _ _ _
      split
      · exact BreaksIn.pure _ _
      · split
        · exact BreaksIn.pure _ _
        · refine ⟨trivial, fun now _ => Meets.ofAnswer fun p panics => ?_⟩
          rw [List.append_assoc, List.append_assoc]
          exact .rule panics

/-- What a check may ask inside the gate: first what renews the token, then what a pass asks. -/
inductive InsideAsks (before : List Exchange) : List Exchange → Request → Prop
  | renew {past : List Exchange} {q : Request} (renewing : Adds Request.IsAcquiring before past)
      (asks : q.IsAcquiring) : InsideAsks before past q
  | pass {renewal past : List Exchange} {q : Request}
      (renewed : Adds Request.IsAcquiring before renewal)
      (passing : Adds Request.IsPassing renewal past) (asks : PassAsks renewal past q) :
      InsideAsks before past q

/-- How the work of a check inside the gate ends: the renewal has panicked, or a pass has ended
after it. -/
inductive InsideEnds (e : Engine) (before : List Exchange) :
    List Exchange → Except Panic Unit → Prop
  | broken {past : List Exchange} {p : Panic} (renewing : Adds Request.IsAcquiring before past)
      (breaks : Breaks e before past p) : InsideEnds e before past (.error p)
  | served {renewal past : List Exchange} {pass : Pass}
      (renewed : Adds Request.IsAcquiring before renewal)
      (passing : Adds Request.IsPassing renewal past) (ends : PassEnds renewal past (.ok pass)) :
      InsideEnds e before past (.ok ())

/-- A pass after the renewal. -/
theorem passInside_meets {renewal : List Exchange}
    (renewed : Adds Request.IsAcquiring before renewal) :
    (reauthenticateAll.bind fun _ => .pure ()).Meets (fun _ _ => True) (InsideAsks before)
      (InsideEnds e before) renewal := by
  refine Meets.bind (((reauthenticateAll_meets renewal).and
    (reauthenticateAll_uses.adds renewal)).mono ?_ ?_)
  · rintro past q ⟨asks, passing, _⟩
    exact .pass renewed passing asks
  · rintro past r ⟨ends, passing⟩
    obtain ⟨pass, rfl⟩ := ends.calm
    exact .served renewed passing ends

/-- The work of a check inside the gate. -/
theorem checkInside_meets (before : List Exchange) :
    e.checkInside.Meets (fun _ _ => True) (InsideAsks before) (InsideEnds e before) before := by
  have due : e.refreshIsDue.Uses Request.IsAcquiring := refreshIsDue_uses trivial trivial
  refine Meets.bind (((due.adds before).and (refreshIsDue_breaks before)).mono ?_ ?_)
  · rintro past q ⟨⟨renewing, asks⟩, _⟩
    exact .renew renewing asks
  · rintro past r ⟨renewing, breaks⟩
    cases r with
    | error p => exact .broken renewing (breaks p rfl)
    | ok due =>
        cases due with
        | false => exact passInside_meets renewing
        | true =>
            have breaks : BreaksIn e before (e.acquire false) := acquire_breaks false
            refine Meets.bind ((((acquire_uses false).adds past).and (breaks past)).mono ?_ ?_)
            · rintro later q ⟨⟨more, asks⟩, _⟩
              exact .renew (renewing.trans more) asks
            · rintro later r ⟨more, breaks⟩
              cases r with
              | error p => exact .broken (renewing.trans more) (breaks p rfl)
              | ok _ => exact passInside_meets (renewing.trans more)

/-- How a check comes out at the gate: it is turned away, or it leaves the gate after a panic of
the renewal or after a pass. -/
inductive CheckEnds (e : Engine) : List Exchange → Except Panic Bool → Prop
  | refused : CheckEnds e [turnedAway] (.ok false)
  | broken {work : List Exchange} {p : Panic} (done : InsideEnds e [entered] work (.error p)) :
      CheckEnds e (work ++ [left]) (.error p)
  | served {work : List Exchange} (done : InsideEnds e [entered] work (.ok ())) :
      CheckEnds e (work ++ [left]) (.ok true)

/-- What a check may ask. In the background it sees to the heartbeat once it is through with the
gate. -/
inductive CheckAsks (e : Engine) (c : Call) : List Exchange → Request → Prop
  | enter : CheckAsks e c [] .tryEnter
  | work {past : List Exchange} {q : Request} (asks : InsideAsks [entered] past q) :
      CheckAsks e c past q
  | leave {past : List Exchange} {r : Except Panic Unit} (done : InsideEnds e [entered] past r) :
      CheckAsks e c past .leave
  | books {gone books : List Exchange} {b : Bool} {q : Request} {resume : q.Answer → Program Unit}
      (background : c = .check) (done : CheckEnds e gone (.ok b))
      (reached : syncHeartbeat.Reaches books (.ask q resume)) : CheckAsks e c (gone ++ books) q

theorem ensureAuthentication_meets (c : Call) :
    e.ensureAuthentication.Meets (fun _ _ => True) (CheckAsks e c) (CheckEnds e) [] := by
  refine ⟨.enter, fun admitted _ => ?_⟩
  cases admitted with
  | false => exact .refused
  | true =>
      show ((e.checkInside.thenAlways (Program.request .leave)).bind fun _ => .pure true).Meets
        _ _ _ [entered]
      refine Meets.bind (Meets.bind ((checkInside_meets [entered]).mono
        (fun _ _ => .work) fun past r done => ?_).caught)
      refine ⟨.leave done, fun _ _ => ?_⟩
      cases r with
      | ok _ => exact .served done
      | error p => exact .broken done

end Engine

namespace Call

open Engine

theorem ensure_meets : (Call.ensure.program e).Meets (fun _ _ => True) (CheckAsks e .ensure)
    (fun past r => ∃ b, CheckEnds e past b ∧ r = b.map .flag) [] := by
  refine Meets.bind
    ((ensureAuthentication_meets .ensure).mono (fun _ _ h => h) fun past r done => ?_)
  cases r with
  | ok b => exact ⟨.ok b, done, rfl⟩
  | error p => exact ⟨.error p, done, rfl⟩

theorem check_meets : (Call.check.program e).Meets (fun _ _ => True) (CheckAsks e .check)
    (fun past r => r = .ok .done ∧ ∃ gone b books, CheckEnds e gone b ∧ past = gone ++ books ∧
      match b with
      | .ok _ => syncHeartbeat.Reaches books (.pure ())
      | .error _ => books = []) [] := by
  refine Meets.bind (Meets.bind (Meets.caught (Meets.bind
    ((ensureAuthentication_meets .check).mono (fun _ _ h => h) fun past r done => ?_))))
  cases r with
  | error p => exact ⟨rfl, past, .error p, [], done, (List.append_nil past).symm, rfl⟩
  | ok b =>
      refine (Program.meets_reaches syncHeartbeat past).mono ?_ ?_
      · rintro _ q ⟨books, resume, rfl, reached⟩
        exact .books rfl done reached
      · rintro _ r ⟨books, rfl, reached⟩
        cases r with
        | ok _ => exact ⟨rfl, past, .ok b, books, done, rfl, reached⟩
        | error p => cases (syncHeartbeat_meets.reaches reached fun _ _ _ _ => trivial).1

end Call
end TokenKeeper
