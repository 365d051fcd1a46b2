import TokenKeeper.Proofs.Check.Course
import TokenKeeper.Proofs.Pass.Course

/-!
# The one search of a call

Only a pass looks for stale connections, starts workers and waits for them, and a call runs at most
one pass. So the exchanges of a call with a search in them are those of one pass, with what came
before it and with what comes after it: a check leaves the gate and sees to the heartbeat. A call
that has come to its end without a search has run no pass, or one that saw no token or no username.
-/

namespace TokenKeeper

open Program (Meets)
open Engine (Breaks PassCourse entered finding left opening turnedAway turns)

variable {e : Engine} {c : Call} {before past later : List Exchange}

namespace Request

/-- The requests by which connections are found and served. -/
def seeks : Request → Bool
  | stale _ | spawnWorker _ | joinWorker _ => true
  | _ => false

/-- What a call may ask before its pass. -/
def IsPrior (q : Request) : Prop := q.seeks = false ∧ q ≠ leave

/-- What a call may ask after its pass. -/
def IsFinal (q : Request) : Prop := q = leave ∨ q.IsHeartbeat

theorem IsAcquiring.isPrior {q : Request} (h : q.IsAcquiring) : q.IsPrior := by
  cases q with
  | stale => exact h.elim
  | spawnWorker => exact h.elim
  | joinWorker => exact h.elim
  | leave => exact h.elim
  | _ => exact ⟨rfl, nofun⟩

theorem IsHeartbeat.seeks {q : Request} (h : q.IsHeartbeat) : q.seeks = false := by
  cases q with
  | stale => exact h.elim
  | spawnWorker => exact h.elim
  | joinWorker => exact h.elim
  | _ => rfl

theorem IsFinal.seeks {q : Request} (h : q.IsFinal) : q.seeks = false := by
  rcases h with rfl | books
  · rfl
  · exact books.seeks

end Request

/-- What a check asks before its pass: to be let in, and for a token. -/
theorem Engine.prior_of_adds (more : Adds Request.IsAcquiring [entered] past) :
    ∀ x ∈ past, x.request.IsPrior := by
  intro x inside
  rcases more.mem inside with entry | renews
  · obtain rfl := List.mem_singleton.mp entry
    exact ⟨rfl, by simp⟩
  · exact renews.isPrior

/-- All exchanges of a call without a search, by what kept it from searching: the call is of
another kind, a check was turned away or its renewal has panicked, or the pass saw no token or no
username. -/
inductive Idles (e : Engine) (c : Call) : List Exchange → Prop
  | other (past : List Exchange) (unchecked : c.isCheck = false) (kind : c ≠ .reauthenticate) :
      Idles e c past
  | refused (last : List Exchange) : Idles e c (turnedAway :: last)
  | broken (renewal last : List Exchange) (p : Panic)
      (renewing : Adds Request.IsAcquiring [entered] renewal)
      (breaks : Breaks e [entered] renewal p) : Idles e c (renewal ++ left :: last)
  | blind (first last : List Exchange) (seen : Option Token) (name : Option String)
      (prior : ∀ x ∈ first, x.request.IsPrior) (nothing : seen = none ∨ name = none) :
      Idles e c (first ++ ⟨.currentToken, seen⟩ :: ⟨.username, name⟩ :: last)

/-- All exchanges of a call: those of one pass, with what is before and after it, or none that has
to do with finding and serving connections. -/
inductive Searches (e : Engine) (c : Call) : List Exchange → Prop
  | never (past : List Exchange) (idle : ∀ x ∈ past, x.request.seeks = false)
      (why : Idles e c past) : Searches e c past
  | once (first last : List Exchange) (token : Token) (username : String) (hires : List Hire)
      (prior : ∀ x ∈ first, x.request.IsPrior) (final : ∀ x ∈ last, x.request.IsFinal) :
      Searches e c (first ++ opening token username ++ finding token (hires.map (·.tracked)) ::
        (turns token username hires ++ last))

namespace Idles

theorem append (h : Idles e c past) (since : List Exchange) : Idles e c (past ++ since) := by
  cases h with
  | other past unchecked kind => exact .other _ unchecked kind
  | refused last => exact .refused (last ++ since)
  | broken renewal last p renewing breaks =>
      have whole := broken (c := c) renewal (last ++ since) p renewing breaks
      rwa [← List.cons_append, ← List.append_assoc] at whole
  | blind first last seen name prior nothing =>
      have whole := blind (e := e) (c := c) first (last ++ since) seen name prior nothing
      rwa [← List.cons_append, ← List.cons_append, ← List.append_assoc] at whole

/-- Once the gate has been left it is known what has kept a call from searching. -/
theorem of_left (h : Idles e c later) (upTo : past <+: later) (out : left ∈ past) :
    Idles e c past := by
  cases h with
  | other later unchecked kind => exact .other past unchecked kind
  | refused last =>
      cases past with
      | nil => cases out
      | cons x past =>
          obtain ⟨rfl, _⟩ := List.cons_prefix_cons.mp upTo
          exact .refused past
  | broken renewal last p renewing breaks =>
      have unleft : left ∉ renewal := fun inside => (Engine.prior_of_adds renewing _ inside).2 rfl
      obtain ⟨since, rfl⟩ := (List.prefix_or_prefix_of_prefix (List.prefix_append renewal _)
        upTo).resolve_right fun within => unleft (within.subset out)
      rw [List.prefix_append_right_inj] at upTo
      cases since with
      | nil => exact absurd (by simpa using out) unleft
      | cons x since =>
          obtain ⟨rfl, _⟩ := List.cons_prefix_cons.mp upTo
          exact .broken renewal since p renewing breaks
  | blind first last seen name prior nothing =>
      have unleft : left ∉ first ++ [⟨.currentToken, seen⟩, ⟨.username, name⟩] := by
        intro inside
        rcases List.mem_append.mp inside with before | opens
        · exact (prior _ before).2 rfl
        · simp at opens
      have opened : first ++ [⟨.currentToken, seen⟩, ⟨.username, name⟩] <+:
          first ++ ⟨.currentToken, seen⟩ :: ⟨.username, name⟩ :: last := ⟨last, by simp⟩
      obtain ⟨since, rfl⟩ := (List.prefix_or_prefix_of_prefix opened upTo).resolve_right
        fun within => unleft (within.subset out)
      rw [List.append_assoc]
      exact .blind first since seen name prior nothing

end Idles

namespace Searches

/-- After a pass come no more than the requests that are allowed there. -/
theorem adds (h : Searches e c past) (more : Adds Request.IsFinal past later) :
    Searches e c later := by
  obtain ⟨since, rfl, final⟩ := more
  cases h with
  | never past idle why =>
      refine .never _ (fun x inside => ?_) (why.append since)
      rcases List.mem_append.mp inside with old | new
      · exact idle x old
      · exact (final x new).seeks
  | once first last token username hires prior final' =>
      have whole := Searches.once (e := e) (c := c) first (last ++ since) token username hires prior
        fun x inside => (List.mem_append.mp inside).elim (final' x) (final x)
      simpa only [List.append_assoc, List.cons_append] using whole

end Searches

namespace Engine

/-- A pass makes the search of its call. -/
theorem reauthenticateAll_searches (c : Call) (prior : ∀ x ∈ before, x.request.IsPrior) :
    reauthenticateAll.Meets (fun _ _ => True) (fun _ _ => True) (fun past _ => Searches e c past)
      before := by
  apply (reauthenticateAll_course before).mono fun _ _ allowed => allowed
  rintro past r ⟨since, pass, rfl, _, course⟩
  cases course with
  | idle seen name nothing =>
      refine .never _ (fun x inside => ?_) (.blind before [] seen name prior nothing)
      rcases List.mem_append.mp inside with old | new
      · exact (prior x old).1
      · have only : x = ⟨.currentToken, seen⟩ ∨ x = ⟨.username, name⟩ := by simpa using new
        rcases only with rfl | rfl <;> rfl
  | busy token username hires =>
      have whole := Searches.once (e := e) (c := c) before [] token username hires prior
        (List.forall_mem_nil _)
      simpa only [List.append_assoc, List.append_nil] using whole

/-- Inside the gate a check makes its search, unless its renewal panics. -/
theorem checkInside_searches (c : Call) :
    e.checkInside.Meets (fun _ _ => True) (fun _ _ => True)
      (fun past r => r = .ok () → Searches e c past) [entered] := by
  have pass {past : List Exchange} (renewed : Adds Request.IsAcquiring [entered] past) :
      (reauthenticateAll.bind fun _ => .pure ()).Meets (fun _ _ => True) (fun _ _ => True)
        (fun past r => r = .ok () → Searches e c past) past := by
    refine Meets.bind ((reauthenticateAll_searches (e := e) c (prior_of_adds renewed)).mono
      (fun _ _ allowed => allowed) fun past r searched => ?_)
    cases r <;> exact fun _ => searched
  have due : e.refreshIsDue.Uses Request.IsAcquiring := refreshIsDue_uses trivial trivial
  refine Meets.bind ((due.adds [entered]).mono (fun _ _ _ => trivial) ?_)
  intro past r renewing
  cases r with
  | error p => simp
  | ok due =>
      cases due with
      | false => exact pass renewing
      | true =>
          refine Meets.bind (((acquire_uses false).adds past).mono (fun _ _ _ => trivial) ?_)
          intro later r more
          cases r with
          | error p => simp
          | ok _ => exact pass (renewing.trans more)

/-- A check makes at most one search. -/
theorem ensureAuthentication_searches (c : Call) :
    e.ensureAuthentication.Meets (fun _ _ => True) (fun _ _ => True)
      (fun past _ => Searches e c past) [] := by
  refine ⟨trivial, fun admitted _ => ?_⟩
  cases admitted with
  | false =>
      refine .never _ (fun x inside => ?_) (.refused [])
      obtain rfl := List.mem_singleton.mp inside
      rfl
  | true =>
      show ((e.checkInside.thenAlways (Program.request .leave)).bind fun _ => .pure true).Meets
        _ _ _ [entered]
      refine Meets.bind (Meets.bind (((checkInside_searches c).and
        (checkInside_meets [entered])).mono (fun _ _ _ => trivial) ?_).caught)
      rintro past r ⟨searched, done⟩
      refine ⟨trivial, fun _ _ => ?_⟩
      cases done with
      | served => exact (searched rfl).adds ((Adds.refl past).snoc (x := left) (.inl rfl))
      | @broken _ p renewing breaks =>
          refine .never _ (fun x inside => ?_) (.broken past [] p renewing breaks)
          rcases List.mem_append.mp inside with old | new
          · exact (prior_of_adds renewing x old).1
          · obtain rfl := List.mem_singleton.mp new
            rfl

end Engine

/-- A call makes at most one search. -/
theorem Call.program_searches (c : Call) :
    (c.program e).Meets (fun _ _ => True) (fun _ _ => True) (fun past _ => Searches e c past)
      [] := by
  have idle {c : Call} (idle : ∀ q, c.MayAsk q → q.seeks = false) (unchecked : c.isCheck = false)
      (kind : c ≠ .reauthenticate) : (c.program e).Meets (fun _ _ => True) (fun _ _ => True)
        (fun past _ => Searches e c past) [] := by
    apply (c.program_uses.adds []).mono fun _ _ _ => trivial
    rintro past r ⟨since, rfl, all⟩
    exact .never _ (fun x inside => idle _ (all x inside)) (.other _ unchecked kind)
  cases c with
  | reauthenticate =>
      refine Meets.bind ((Engine.reauthenticateAll_searches (e := e) .reauthenticate
        (List.forall_mem_nil _)).mono (fun _ _ allowed => allowed) fun past r searched => ?_)
      cases r <;> exact searched
  | ensure =>
      refine Meets.bind ((Engine.ensureAuthentication_searches .ensure).mono
        (fun _ _ allowed => allowed) fun past r searched => ?_)
      cases r <;> exact searched
  | check =>
      refine Meets.bind (Meets.bind (Meets.caught (Meets.bind
        ((Engine.ensureAuthentication_searches .check).mono (fun _ _ allowed => allowed)
          fun past r searched => ?_))))
      cases r with
      | error p => exact searched
      | ok b =>
          apply (Engine.syncHeartbeat_uses.adds past).mono fun _ _ _ => trivial
          intro later r books
          exact searched.adds (books.mono fun _ => .inr)
  | acquire reportFailure => exact idle (fun q asks => asks.isPrior.1) rfl (by simp)
  | credential =>
      refine idle ?_ rfl (by simp)
      rintro q (rfl | rfl | rfl | rfl | rfl) <;> rfl
  | established c =>
      refine idle ?_ rfl (by simp)
      rintro q (rfl | ⟨tag, rfl⟩ | books)
      · rfl
      · rfl
      · exact books.seeks
  | stop id =>
      refine idle ?_ rfl (by simp)
      rintro q (rfl | books)
      · rfl
      · exact books.seeks
  | shutDown =>
      refine idle ?_ rfl (by simp)
      rintro q (rfl | books)
      · rfl
      · exact books.seeks

end TokenKeeper
