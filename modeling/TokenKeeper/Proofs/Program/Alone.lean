import TokenKeeper.Proofs.Program.Contract

/-!
# Programs that run by themselves

While nobody else acts, the state that tasks share is what the program's own exchanges have made
of it. So one function runs a program: every request is answered by the shared state as the
exchanges so far have left it, and by the outside where that state has no answer. The outside may
look at the exchanges as well, which lets it follow a script.
-/

namespace TokenKeeper

/-- What is seen of a program that has ended: all its exchanges, oldest first, and its result. -/
structure Ending (α : Type) where
  past : List Exchange
  result : Except Panic α

/-- Somebody who answers every request, from what has been asked and answered before. -/
abbrev Answerer := List Exchange → (q : Request) → q.Answer

/-- An answer for each request: no, nothing, or the default of its type. -/
def Request.blank : (q : Request) → q.Answer
  | .now => default
  | .sleep _ | .setUsernameIfAbsent _ | .notify _ | .mark _ _ | .leave | .lockHeartbeat
  | .unlockHeartbeat | .startHeartbeat | .stopHeartbeat | .shutDown | .spawnCheck => ()
  | .currentToken | .username => none
  | .offer _ | .untrack _ | .registryIsEmpty | .tryEnter | .gateIsBusy | .heartbeatIsRunning
  | .isShutDown => false
  | .getToken _ => .late
  | .backoff _ _ => .ok default
  | .track _ _ => ⟨0⟩
  | .stale _ => []
  | .endpoints _ => .ok (.ok [])
  | .isConnected _ => .ok false
  | .auth _ _ _ => .ok (.ok ())
  | .spawnWorker _ => ⟨0⟩
  | .joinWorker _ => .ok .failed
  | .together _ => .ok []

namespace Program

variable {α β : Type} {answer : Answerer}

/-- However far a program has come, it comes to its end with some more answers. -/
theorem Reaches.can_end {p rest : Program α} {past : List Exchange} (h : p.Reaches past rest) :
    ∃ more r, p.Reaches (past ++ more) (.ofAnswer r) := by
  induction rest generalizing past with
  | pure a => exact ⟨[], .ok a, by rwa [List.append_nil]⟩
  | panic e => exact ⟨[], .error e, by rwa [List.append_nil]⟩
  | ask q resume ih =>
      obtain ⟨more, r, ended⟩ := ih q.blank (h.snoc q.blank)
      exact ⟨⟨q, q.blank⟩ :: more, r, by rwa [List.append_cons]⟩

/-- However far a program has come, it can still end as its contract says. -/
theorem Meets.can_end {asks : List Exchange → Request → Prop}
    {ends : List Exchange → Except Panic α → Prop} {p rest : Program α} {past : List Exchange}
    (contract : p.Meets (fun _ _ => True) asks ends []) (reached : p.Reaches past rest) :
    ∃ more r, p.Reaches (past ++ more) (.ofAnswer r) ∧ ends (past ++ more) r := by
  obtain ⟨more, r, ended⟩ := reached.can_end
  have met := contract.reaches ended fun _ _ _ _ => trivial
  refine ⟨more, r, ended, ?_⟩
  cases r <;> exact met

/-- Runs a program to its end after some exchanges. -/
def follow (answer : Answerer) : List Exchange → Program α → Ending α
  | past, pure a => ⟨past, .ok a⟩
  | past, panic e => ⟨past, .error e⟩
  | past, ask q resume =>
    (resume (answer past q)).follow answer (past ++ [⟨q, answer past q⟩])

@[simp] theorem follow_pure (past : List Exchange) (a : α) :
    (pure a).follow answer past = ⟨past, .ok a⟩ := rfl

@[simp] theorem follow_panic (past : List Exchange) (e : Panic) :
    (panic e : Program α).follow answer past = ⟨past, .error e⟩ := rfl

@[simp] theorem follow_ask (past : List Exchange) (q : Request)
    (resume : q.Answer → Program α) :
    (ask q resume).follow answer past =
      (resume (answer past q)).follow answer (past ++ [⟨q, answer past q⟩]) := rfl

theorem follow_bind (past : List Exchange) (p : Program α) (f : α → Program β) :
    (p.bind f).follow answer past =
      match p.follow answer past with
      | ⟨past, .ok a⟩ => (f a).follow answer past
      | ⟨past, .error e⟩ => ⟨past, .error e⟩ := by
  induction p generalizing past with
  | pure a => rfl
  | panic e => rfl
  | ask q resume ih => exact ih _ _

/-- Where the first of two programs ends with a result, the second one goes on from there. -/
theorem follow_bind_of_ok {past later : List Exchange} {p : Program α} {a : α}
    (h : p.follow answer past = ⟨later, .ok a⟩) (f : α → Program β) :
    (p.bind f).follow answer past = (f a).follow answer later := by
  rw [follow_bind, h]

theorem follow_bind_of_error {past later : List Exchange} {p : Program α} {e : Panic}
    (h : p.follow answer past = ⟨later, .error e⟩) (f : α → Program β) :
    (p.bind f).follow answer past = ⟨later, .error e⟩ := by
  rw [follow_bind, h]

/-- A program that runs by itself goes through its exchanges to its result. -/
theorem follow_reaches (answer : Answerer) (before : List Exchange) (p : Program α) :
    ∃ past, (p.follow answer before).past = before ++ past ∧
      p.Reaches past (.ofAnswer (p.follow answer before).result) := by
  induction p generalizing before with
  | pure a => exact ⟨[], (List.append_nil before).symm, .refl _⟩
  | panic e => exact ⟨[], (List.append_nil before).symm, .refl _⟩
  | ask q resume ih =>
      obtain ⟨past, same, reached⟩ :=
        ih (answer before q) (before ++ [⟨q, answer before q⟩])
      exact ⟨⟨q, answer before q⟩ :: past, by rw [List.append_cons]; exact same, .ask reached⟩

end Program

namespace Shared

/-- The shared state after some exchanges, while nobody else acts. -/
def replay (s : Shared) (alive : Connection → Bool) (past : List Exchange) : Shared :=
  past.foldl (fun s x => s.after alive x.request) s

@[simp] theorem replay_snoc (s : Shared) (alive : Connection → Bool) (past : List Exchange)
    (x : Exchange) :
    s.replay alive (past ++ [x]) = (s.replay alive past).after alive x.request := by
  simp [replay]

theorem replay_append (s : Shared) (alive : Connection → Bool) (past later : List Exchange) :
    s.replay alive (past ++ later) = (s.replay alive past).replay alive later :=
  List.foldl_append

/-- Answers from the shared state, and from the outside where that has no answer. -/
def answerer (s : Shared) (alive : Connection → Bool) (outside : Answerer) : Answerer :=
  fun past q => ((s.replay alive past).answer? alive q).getD (outside past q)

/-- Exchanges that do not touch the shared state leave it as it was. -/
theorem replay_of_untouched {s : Shared} {alive : Connection → Bool} {past : List Exchange}
    (h : ∀ x ∈ past, ∀ s : Shared, s.after alive x.request = s) : s.replay alive past = s := by
  induction past generalizing s with
  | nil => rfl
  | cons x past ih =>
      have first : s.after alive x.request = s := h x List.mem_cons_self s
      change (s.after alive x.request).replay alive past = s
      rw [first]
      exact ih fun y hy => h y (List.mem_cons_of_mem _ hy)

end Shared
end TokenKeeper
