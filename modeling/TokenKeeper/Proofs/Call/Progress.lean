import TokenKeeper.Proofs.Call.Requests
import TokenKeeper.Proofs.Pass.Progress

/-!
# A call can go on

Acquisitions and passes wait for nobody but the outside and their own workers, and so do checks
between entering and leaving the gate. However the outside answers, such a call can get the answer
that it waits for, and an acquisition or a pass can get to its end, while all other tasks wait.
-/

namespace TokenKeeper

variable {e : Engine} {m m' m₀ : Machine e} {trace later : List Label} {i : Nat}
variable {t : Thread e} {c : Call} {d : Deed} {outside : Answerer}
variable {conduct : ConnectionId → Conduct}

/-- The requests of a call that neither the shared state nor the other tasks nor the policy
answer. -/
def Request.IsOutside : Request → Prop
  | .now | .sleep _ | .getToken _ | .notify _ => True
  | _ => False

/-- A deed by which a call goes on, with the answers of this outside. -/
structure Deed.Serves (call : Nat) (outside : Answerer) (conduct : ConnectionId → Conduct)
    (d : Deed) : Prop where
  fits : d.Fits call conduct
  told : d.thread = call → d.exchange.request.IsOutside →
    d.exchange.answer = outside d.past d.exchange.request

/-- Nothing happens but that a call goes on, with the answers of this outside. -/
def Attended (call : Nat) (outside : Answerer) (conduct : ConnectionId → Conduct)
    (trace : List Label) : Prop :=
  ∀ l ∈ trace, ∃ d, l = .did d ∧ d.Serves call outside conduct

namespace Attended

theorem nil : Attended i outside conduct [] := fun _ inside => nomatch inside

theorem append (first : Attended i outside conduct trace)
    (second : Attended i outside conduct later) : Attended i outside conduct (trace ++ later) := by
  intro l inside
  rcases List.mem_append.mp inside with inside | inside
  · exact first l inside
  · exact second l inside

theorem left (all : Attended i outside conduct (trace ++ later)) :
    Attended i outside conduct trace :=
  fun l inside => all l (List.mem_append_left _ inside)

theorem serves (all : Attended i outside conduct trace) (happened : .did d ∈ trace) :
    d.Serves i outside conduct := by
  obtain ⟨d', same, serves⟩ := all _ happened
  rwa [Label.did.inj same]

theorem single (serves : d.Serves i outside conduct) : Attended i outside conduct [.did d] := by
  intro l inside
  exact ⟨d, List.mem_singleton.mp inside, serves⟩

end Attended

/-- A task that is the same after a run has done nothing in it. -/
theorem Run.thread_ne (run : Run m trace m') (here : m.threads[i]? = some t)
    (still : m'.threads[i]? = some t) (duty : t.duty = .call c) (happened : .did d ∈ trace) :
    d.thread ≠ i := by
  rintro rfl
  obtain ⟨t', there, call⟩ := run.actor happened
  obtain rfl := Option.some.inj (there.symm.trans still)
  have own := run.own_of_call happened (call.symm.trans duty)
  obtain ⟨first, last, rfl⟩ := List.append_of_mem happened
  obtain ⟨before, after, start, step, rest⟩ := run.cut
  obtain ⟨t₁, at₁, grows⟩ := start.grows here
  obtain ⟨t₂, at₂, _, known⟩ := step.actor
  obtain rfl := Option.some.inj (at₂.symm.trans at₁)
  obtain ⟨t₃, at₃, _, added⟩ := step.recorded own
  obtain ⟨t₄, at₄, grows'⟩ := rest.grows at₃
  obtain rfl := Option.some.inj (at₄.symm.trans still)
  obtain ⟨l, first⟩ := grows.past
  obtain ⟨l', last⟩ := grows'.past
  have length := congrArg List.length last
  rw [added, ← (known own).1, first] at length
  simp only [List.length_append, List.length_cons] at length
  omega

/-- However the outside answers, a call can get the answer that it waits for. If that is for a
worker, the worker is brought to its end first. -/
theorem Run.can_go_on (outside : Answerer) (conduct : ConnectionId → Conduct)
    (run : Run m₀ trace m) (low : m₀.threads.length ≤ i) (here : m.threads[i]? = some t)
    (duty : t.duty = .call c) {q : Request} {resume : q.Answer → Program Output}
    (asks : t.rest = .ask q resume) (inside : q.IsInside)
    (joins : ∀ w, q = .joinWorker w → ∃ job, (⟨.spawnWorker job, w⟩ : Exchange) ∈ t.past) :
    ∃ (more : List Label) (m' : Machine e) (a : q.Answer), Run m more m' ∧
      Attended i outside conduct more ∧ m'.threads[i]? = some (t.tell asks a) := by
  have onward {m₁ : Machine e} (there : m₁.threads[i]? = some t) (a : q.Answer)
      (permits : m₁.Permits t.members q a) (told : q.IsOutside → a = outside t.past q) :
      ∃ (more : List Label) (m' : Machine e) (a : q.Answer), Run m₁ more m' ∧
        Attended i outside conduct more ∧ m'.threads[i]? = some (t.tell asks a) := by
    refine ⟨_, _, a, Run.single (.tell there asks permits), .single ⟨⟨.inl rfl, ?_⟩, fun _ => told⟩,
      Machine.getElem?_tell_self (List.getElem?_eq_some_iff.mp there).1⟩
    exact fun job same => nomatch duty.symm.trans same
  cases q with
  | now | sleep | getToken | notify =>
      exact onward here _ (fun b known => nomatch known) fun _ => rfl
  | backoff => exact onward here _ rfl fun out => out.elim
  | currentToken | username | setUsernameIfAbsent | offer | stale =>
      exact onward here _ (fun b known => Option.some.inj known) fun out => out.elim
  | spawnWorker => exact onward here ⟨m.threads.length⟩ rfl fun out => out.elim
  | joinWorker w =>
      obtain ⟨job, spawned⟩ := joins w rfl
      obtain ⟨_, deed⟩ := run.deed_of_past low here spawned
      obtain ⟨_, worker, there, isWorker⟩ := run.spawned deed rfl
      have late : i < w.number := run.spawned_later deed rfl
      obtain ⟨m₁, worker', goesOn, there', kept, ended⟩ :=
        Thread.worker_can_end conduct rfl there isWorker late
      obtain ⟨r, outcome⟩ := Thread.exists_outcome (kept.trans isWorker) ended
      obtain ⟨first, run₁, fits⟩ := goesOn.run
      have waits := goesOn.others _ t (Nat.ne_of_lt late) here
      obtain ⟨more, m', a, run', attended, last⟩ :=
        onward waits r ⟨worker', there', outcome⟩ fun out => out.elim
      refine ⟨first ++ more, m', a, run₁.trans run', .append (fun l happened => ?_) attended, last⟩
      obtain ⟨d, rfl, fit⟩ := fits l happened
      exact ⟨d, rfl, fit, fun same => absurd same (run₁.thread_ne here waits duty happened)⟩
  | _ => rcases inside with inside | inside <;> exact inside.elim

/-- What an acquisition or a pass may ask, and for which workers it may wait. -/
theorem Thread.plain_asks (duty : t.duty = .call c) (plain : c.IsPlain) {q : Request}
    {resume : q.Answer → Program Output} (asks : t.rest = .ask q resume) :
    q.IsInside ∧ ∀ w, q = .joinWorker w → ∃ job, (⟨.spawnWorker job, w⟩ : Exchange) ∈ t.past := by
  have reached := t.sound
  rw [duty, asks] at reached
  cases c with
  | acquire report =>
      have asked : q.IsAcquiring := ((Call.acquire report).program_uses.reaches reached).1
      refine ⟨.inl asked, ?_⟩
      rintro w rfl
      exact asked.elim
  | reauthenticate =>
      have asked := Call.reauthenticate_asks (e := e) reached
      refine ⟨.inr asked.isPassing, ?_⟩
      rintro w rfl
      exact asked
  | _ => exact plain.elim

/-- Wherever it is, an acquisition or a pass can get to its end. -/
theorem Run.plain_can_end (outside : Answerer) (conduct : ConnectionId → Conduct)
    (run : Run m₀ trace m) (low : m₀.threads.length ≤ i) (here : m.threads[i]? = some t)
    (duty : t.duty = .call c) (plain : c.IsPlain) :
    ∃ (more : List Label) (m' : Machine e) (t' : Thread e), Run m more m' ∧
      Attended i outside conduct more ∧ m'.threads[i]? = some t' ∧
        t'.rest.ended?.isSome = true := by
  generalize rest : t.rest = program
  induction program generalizing m trace t with
  | pure output => exact ⟨[], m, t, .refl m, .nil, here, by rw [rest]; rfl⟩
  | panic p => exact ⟨[], m, t, .refl m, .nil, here, by rw [rest]; rfl⟩
  | ask q resume ih =>
      obtain ⟨inside, joins⟩ := t.plain_asks duty plain rest
      obtain ⟨first, m₁, a, run₁, attended, now⟩ :=
        run.can_go_on outside conduct low here duty rest inside joins
      obtain ⟨more, m', t', run', attended', last, ended⟩ :=
        ih a (run.trans run₁) now duty rfl
      exact ⟨first ++ more, m', t', run₁.trans run', attended.append attended', last, ended⟩

end TokenKeeper
