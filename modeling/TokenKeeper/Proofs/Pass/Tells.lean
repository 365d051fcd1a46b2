import TokenKeeper.Proofs.Acquisition.Named
import TokenKeeper.Proofs.Call.Search
import TokenKeeper.Proofs.Check.Course
import TokenKeeper.Proofs.Machine.Play
import TokenKeeper.Proofs.Pass.Crew
import TokenKeeper.Proofs.Pass.Jobs

/-!
# The commands and the events of a pass

Whatever else goes on in an engine, a pass keeps to the course of a pass, its workers to the courses
of their connections, and their members to the courses of their endpoints. So the commands that a
pass sends and the events that it tells can be counted off: each connected endpoint gets commands
with the token and the username that the pass has seen at its start until it accepts, turns out to
be closed or has used up its retries, and one event, if it was not closed; and a worker that panics
is told of once.
-/

namespace TokenKeeper

open Engine (opening finding turns left)

variable {e : Engine} {m : Machine e} {trace : List Label} {t : Thread e} {c : Call} {i : Nat}
variable {first tail : List Exchange} {token : Token} {username : String} {found : List Tracked}

/-- The beginning of a pass that has found connections, with what the call has done since. What is
to come ends the pass and then the call. -/
structure Thread.Searched (t : Thread e) (first : List Exchange) (token : Token)
    (username : String) (hires : List Hire) (tail last more : List Exchange) : Prop where
  past : t.past = first ++ opening token username ++ finding token (hires.map (·.tracked)) :: tail
  prior : ∀ x ∈ first, x.request.IsPrior
  course : tail ++ more = turns token username hires ++ last
  final : ∀ x ∈ last, x.request.IsFinal
  ended : t.rest.ended?.isSome = true → more = []

/-- A call has searched for connections once, or not at all so far; when a call without a search is
over or has left the gate, something has kept it from searching. -/
theorem Thread.search (duty : t.duty = .call c) :
    ((∀ x ∈ t.past, x.request.seeks = false) ∧
      (t.rest.ended?.isSome = true ∨ left ∈ t.past → Idles e c t.past)) ∨
      ∃ first token username hires tail last more,
        t.Searched first token username hires tail last more := by
  have contract : (t.duty.program e).Meets (fun _ _ => True) (fun _ _ => True)
      (fun past _ => Searches e c past) [] := by
    rw [duty]
    exact c.program_searches
  obtain ⟨more, r, ended, searched⟩ := contract.can_end t.sound
  have finished : t.rest.ended?.isSome = true → more = [] := by
    intro done
    cases more with
    | nil => rfl
    | cons x more =>
        have asks := (t.sound.since ended).request?_eq
        cases rest : t.rest with
        | ask => rw [rest] at done; cases done
        | _ => rw [rest] at asks; cases asks
  generalize same : t.past ++ more = all at searched
  cases searched with
  | never all idle why =>
      refine .inl ⟨fun x inside => idle x (same ▸ List.mem_append_left more inside), ?_⟩
      rintro (done | out)
      · rw [finished done, List.append_nil] at same
        exact same ▸ why
      · exact why.of_left ⟨more, same⟩ out
  | once first last token username hires prior final =>
      have early : ∀ x ∈ first ++ opening token username, x.request.IsPrior := by
        intro x inside
        rcases List.mem_append.mp inside with before | opens
        · exact prior x before
        · have only : x = ⟨.currentToken, some token⟩ ∨ x = ⟨.username, some username⟩ := by
            simpa [opening] using opens
          rcases only with rfl | rfl <;> exact ⟨rfl, by simp⟩
      -- A call that has not come to its search goes on, and has not left the gate.
      have waiting (still : ∀ x ∈ t.past, x.request.IsPrior) :
          t.rest.ended?.isSome = true ∨ left ∈ t.past → Idles e c t.past := by
        rintro (done | out)
        · rw [finished done, List.append_nil] at same
          have sought : finding token (hires.map (·.tracked)) ∈ t.past := by
            rw [same]
            exact List.mem_append_right _ List.mem_cons_self
          cases (still _ sought).1
        · exact absurd rfl (still _ out).2
      rcases List.append_eq_append_iff.mp same with ⟨rest, upTo, _⟩ | ⟨rest, past, onward⟩
      · have still : ∀ x ∈ t.past, x.request.IsPrior := fun x inside =>
          early x (upTo ▸ List.mem_append_left rest inside)
        exact .inl ⟨fun x inside => (still x inside).1, waiting still⟩
      cases rest with
      | nil =>
          rw [List.append_nil] at past
          have still : ∀ x ∈ t.past, x.request.IsPrior := fun x inside => early x (past ▸ inside)
          exact .inl ⟨fun x inside => (still x inside).1, waiting still⟩
      | cons y tail =>
          obtain ⟨rfl, course⟩ := List.cons.inj onward
          exact .inr ⟨first, token, username, hires, tail, last, more, past, prior, course.symm,
            final, finished⟩

/-- A worker was started by the call of its pass. -/
theorem Run.spawn_of_worker (run : Run ({} : Machine e) trace m) (here : m.threads[i]? = some t)
    {d : Deed} {job : ConnectionJob} (happened : .did d ∈ trace) (duty : d.duty = .worker i job) :
    ⟨.spawnWorker job, ⟨d.thread⟩⟩ ∈ t.past := by
  obtain ⟨worker, there, same⟩ := run.actor happened
  obtain ⟨_, member, past, spawn⟩ :=
    (run.history (Nat.zero_le _) there).origin i job (same.trans duty)
  have own : member = none := Deed.member_eq_none (run.sound spawn) rfl
  subst own
  obtain ⟨t', later, here', _, past⟩ := run.recorded spawn rfl
  obtain rfl := Option.some.inj (here'.symm.trans here)
  rw [past]
  exact List.mem_append_right _ List.mem_cons_self

/-- What a pass sends and tells, from what it has seen at its start to the replies of the endpoints.
The token and the username are those of one moment, and so are the connections that were behind.
The pass starts a worker for each of these, in order, and when it is over it has waited for all and
has told of each that panicked, once. Each worker and its members go through their courses, and
nobody else works for the pass. -/
structure PassTells (trace : List Label) (m : Machine e) (i : Nat) (t : Thread e)
    (first : List Exchange) (token : Token) (username : String) (found : List Tracked)
    (tail : List Exchange) : Prop where
  past : t.past = first ++ opening token username ++ finding token found :: tail
  prior : ∀ x ∈ first, x.request.IsPrior
  snapshot : ∃ earlier later look, trace = earlier ++
      .did ⟨i, t.duty, none, first, ⟨.currentToken, some token⟩⟩ :: later ∧
    Run ({} : Machine e) earlier look ∧ look.shared.store.current = some token ∧
      look.shared.store.username = some username
  behind : ∃ earlier later look, trace = earlier ++
      .did ⟨i, t.duty, none, first ++ opening token username, finding token found⟩ :: later ∧
    Run ({} : Machine e) earlier look ∧
      found = (look.shared.registry.prune look.alive).behind token.expiresAt
  distinct : found.Pairwise fun a b => a.id ≠ b.id
  turned : ∃ hires last more, hires.map (·.tracked) = found ∧
    tail ++ more = turns token username hires ++ last ∧ (∀ x ∈ last, x.request.IsFinal) ∧
      (t.rest.ended?.isSome = true ∨ left ∈ t.past → turns token username hires <+: tail)
  workers : ∀ job w, (⟨.spawnWorker job, w⟩ : Exchange) ∈ tail →
    ∃ worker, m.threads[w.number]? = some worker ∧ worker.duty = .worker i job ∧
      (∀ r, (⟨.joinWorker w, r⟩ : Exchange) ∈ tail → worker.outcome? = some r) ∧
        worker.Worked trace w.number job
  only : ∀ d job, .did d ∈ trace → d.duty = .worker i job →
    (⟨.spawnWorker job, ⟨d.thread⟩⟩ : Exchange) ∈ tail

/-- In its turns a pass does not leave the gate. -/
theorem Engine.left_not_mem_turns (token : Token) (username : String) (hires : List Hire) :
    left ∉ turns token username hires := by
  intro inside
  rcases List.mem_append.mp inside with starts | finishes
  · obtain ⟨h, _, same⟩ := List.mem_map.mp starts
    cases same
  · obtain ⟨h, _, finish⟩ := List.mem_flatMap.mp finishes
    rcases List.mem_cons.mp finish with same | telling
    · cases same
    · split at telling
      · cases telling
      · cases List.mem_singleton.mp telling

namespace Thread.Searched

variable {hires : List Hire} {last more : List Exchange}

/-- A search that is over has gone through all turns. -/
theorem through (h : t.Searched first token username hires tail last more)
    (done : t.rest.ended?.isSome = true ∨ left ∈ t.past) :
    turns token username hires <+: tail := by
  rcases done with ended | out
  · have course := h.course
    rw [h.ended ended, List.append_nil] at course
    exact ⟨last, course.symm⟩
  · have within : left ∈ tail := by
      rw [h.past] at out
      rcases List.mem_append.mp out with before | after
      · rcases List.mem_append.mp before with before | opens
        · exact absurd rfl (h.prior _ before).2
        · simp [opening] at opens
      · exact (List.mem_cons.mp after).resolve_left fun same => by cases same
    rcases List.append_eq_append_iff.mp h.course with ⟨rest, upTo, _⟩ | ⟨rest, turned, _⟩
    · -- The gate has not been left among the turns.
      refine absurd ?_ (Engine.left_not_mem_turns token username hires)
      rw [upTo]
      exact List.mem_append_left rest within
    · exact ⟨rest, turned.symm⟩

/-- What seeks comes after the connections were found. -/
theorem mem_tail (h : t.Searched first token username hires tail last more) {job : ConnectionJob}
    {w : WorkerId} (spawned : (⟨.spawnWorker job, w⟩ : Exchange) ∈ t.past) :
    (⟨.spawnWorker job, w⟩ : Exchange) ∈ tail := by
  rw [h.past] at spawned
  rcases List.mem_append.mp spawned with before | after
  · rcases List.mem_append.mp before with before | opens
    · cases (h.prior _ before).1
    · simp [opening] at opens
  · exact (List.mem_cons.mp after).resolve_left fun same => by cases same

theorem mem_past (h : t.Searched first token username hires tail last more) {x : Exchange}
    (inside : x ∈ tail) : x ∈ t.past := by
  rw [h.past]
  exact List.mem_append_right _ (List.mem_cons_of_mem _ inside)

end Thread.Searched

namespace Run

variable {hires : List Hire} {last more : List Exchange}

/-- The token and the username of a pass were those of the store at one moment. -/
theorem snapshot_of_search (run : Run ({} : Machine e) trace m) (here : m.threads[i]? = some t)
    (h : t.Searched first token username hires tail last more) :
    ∃ earlier later look, trace = earlier ++
        .did ⟨i, t.duty, none, first, ⟨.currentToken, some token⟩⟩ :: later ∧
      Run ({} : Machine e) earlier look ∧ look.shared.store.current = some token ∧
        look.shared.store.username = some username := by
  have deed := (run.history (Nat.zero_le i) here).own first ⟨.currentToken, some token⟩
    (⟨.username, some username⟩ :: finding token (hires.map (·.tracked)) :: tail)
    (h.past.trans (by simp [opening]))
  obtain ⟨earlier, later, rfl⟩ := List.append_of_mem deed
  obtain ⟨look, after, start, step, rest⟩ := run.cut
  have current : some token = look.shared.store.current := step.answer rfl rfl
  obtain ⟨_, _, asking, _, _, between, step', _⟩ := Run.moment_after step rest here
    (List.prefix_rfl : first ++ [⟨.currentToken, some token⟩] <+: _)
    (h.past.trans (by simp [opening]) : t.past = _ ++ ⟨.username, some username⟩ ::
      finding token (hires.map (·.tracked)) :: tail)
  have asked : some username = asking.shared.store.username := step'.answer rfl rfl
  -- A store with a token has a username, and that does not change.
  obtain ⟨name, known⟩ : ∃ name, look.shared.store.username = some name :=
    Option.isSome_iff_exists.mp (start.named (by rw [← current]; rfl))
  have kept := ((Run.single step).trans between).username_eq known
  rw [← asked] at kept
  exact ⟨earlier, later, look, rfl, start, current.symm, known.trans kept.symm⟩

/-- The connections that a pass has found were those that were behind at one moment. -/
theorem behind_of_search (run : Run ({} : Machine e) trace m) (here : m.threads[i]? = some t)
    (h : t.Searched first token username hires tail last more) :
    ∃ earlier later look, trace = earlier ++ .did ⟨i, t.duty, none,
        first ++ opening token username, finding token (hires.map (·.tracked))⟩ :: later ∧
      Run ({} : Machine e) earlier look ∧ hires.map (·.tracked) =
        (look.shared.registry.prune look.alive).behind token.expiresAt := by
  have deed := (run.history (Nat.zero_le i) here).own _ _ _ h.past
  obtain ⟨earlier, later, rfl⟩ := List.append_of_mem deed
  obtain ⟨look, _, start, step, _⟩ := run.cut
  exact ⟨earlier, later, look, rfl, start, step.answer rfl rfl⟩

/-- A worker that a pass has started goes through its courses, and the pass learns its outcome. -/
theorem worker_of_search (run : Run ({} : Machine e) trace m) (here : m.threads[i]? = some t)
    (h : t.Searched first token username hires tail last more) {job : ConnectionJob}
    {w : WorkerId} (spawned : (⟨.spawnWorker job, w⟩ : Exchange) ∈ tail) :
    ∃ worker, m.threads[w.number]? = some worker ∧ worker.duty = .worker i job ∧
      (∀ r, (⟨.joinWorker w, r⟩ : Exchange) ∈ tail → worker.outcome? = some r) ∧
        worker.Worked trace w.number job := by
  obtain ⟨_, spawn⟩ := run.deed_of_past (Nat.zero_le i) here (h.mem_past spawned)
  obtain ⟨_, worker, there, duty⟩ := run.spawned spawn rfl
  refine ⟨worker, there, duty, fun r joined => ?_, run.worked there duty⟩
  obtain ⟨_, join⟩ := run.deed_of_past (Nat.zero_le i) here (h.mem_past joined)
  obtain ⟨worker', there', outcome⟩ := run.joined join rfl
  obtain rfl := Option.some.inj (there'.symm.trans there)
  exact outcome

/-- In every run a call has either not searched for connections, and then nobody works for it, or
its pass, the workers and their members have sent and told what belongs to a pass: each connected
endpoint of a connection that was behind gets commands until the first that is accepted or answered
as closed, or until all retries are refused, all with the token and the username of one moment; one
event comes of that unless the endpoint was closed; a connection that cannot list its endpoints and
is not closed comes to one event with the error, and a worker that panics to one from the pass. Once
a call without a search is over, or has left the gate, it has run no pass, or its pass has seen no
token or no username. -/
theorem pass_tells (run : Run ({} : Machine e) trace m) (here : m.threads[i]? = some t)
    (duty : t.duty = .call c) :
    ((∀ x ∈ t.past, x.request.seeks = false) ∧
      (∀ d job, .did d ∈ trace → d.duty ≠ .worker i job) ∧
      (t.rest.ended?.isSome = true ∨ left ∈ t.past → Idles e c t.past)) ∨
    ∃ first token username found tail, PassTells trace m i t first token username found tail := by
  rcases t.search duty with ⟨idle, why⟩ | ⟨first, token, username, hires, tail, last, more, h⟩
  · refine .inl ⟨idle, fun d job happened worker => ?_, why⟩
    have spawned := idle _ (run.spawn_of_worker here happened worker)
    cases spawned
  · refine .inr ⟨first, token, username, hires.map (·.tracked), tail, ?_⟩
    exact {
      past := h.past
      prior := h.prior
      snapshot := run.snapshot_of_search here h
      behind := run.behind_of_search here h
      distinct := by
        have deed := (run.history (Nat.zero_le i) here).own _ _ _ h.past
        exact run.findsDistinct .empty deed [] _ _ rfl
      turned := ⟨hires, last, more, rfl, h.course, h.final, h.through⟩
      workers := fun job w => run.worker_of_search here h
      only := fun d job happened worker => h.mem_tail (run.spawn_of_worker here happened worker) }

end Run

/-- An engine that sends one more command to an endpoint that has refused one. -/
def Engine.insistent : Engine :=
  ⟨{ RefreshPolicy.standard with immediateRetries := 1 }, some "app"⟩

/-- An outside with three endpoints, of which the second one is not connected. -/
def Request.listing : (q : Request) → q.Answer
  | .endpoints c => .ok (.ok [⟨c, 0, "first"⟩, ⟨c, 1, "second"⟩, ⟨c, 2, "third"⟩])
  | .isConnected x => .ok (x.index ≠ 1)
  | q => q.blank

/-- An outside that refuses commands. -/
def Request.refusing : (q : Request) → q.Answer
  | .auth x _ _ => .ok (.error (.commandFailed x.address "busy"))
  | q => q.blank

namespace Run

/-- A connection with three endpoints. -/
def triple : Connection := ⟨1, "triple"⟩

/-- A pass finds a connection, and a newer token is acquired before the worker begins. The first
endpoint refuses once and then accepts, the third one refuses twice. -/
def retried : Machine Engine.insistent × List Label :=
  ({} : Machine Engine.insistent).play
    (.begin (.established triple) :: Move.tells 0 8 Request.blank ++
      .begin (.acquire false) :: Move.tells 1 6 (Request.issuing ⟨"new", default⟩) ++
      .begin .reauthenticate :: Move.tells 2 4 Request.blank ++
      .begin (.acquire false) :: Move.tells 4 6 (Request.issuing ⟨"newer", .max⟩) ++
      Move.tells 3 4 Request.listing ++
      [.tellMember 3 0 Request.refusing, .tellMember 3 1 Request.refusing,
        .tellMember 3 0 Request.blank, .tellMember 3 1 Request.refusing,
        .tellMember 3 0 Request.blank, .tellMember 3 1 Request.blank] ++
      Move.tells 3 1 Request.blank ++ Move.tells 2 1 Request.blank)

/-- The pass is over, and both endpoints got two commands with the token of the pass, although the
store holds a newer one. -/
theorem retried_pass_tells :
    retried.1.shared.store.current.map (·.secret) = some "newer" ∧
    retried.2.filterMap (Label.served? 3 0) =
      [⟨.auth ⟨triple, 0, "first"⟩ "app" "new", .ok (.error (.commandFailed "first" "busy"))⟩,
        ⟨.auth ⟨triple, 0, "first"⟩ "app" "new", .ok (.ok ())⟩,
        ⟨.notify (.connectionReauthenticated "first"), ()⟩] ∧
    retried.2.filterMap (Label.served? 3 1) =
      [⟨.auth ⟨triple, 2, "third"⟩ "app" "new", .ok (.error (.commandFailed "third" "busy"))⟩,
        ⟨.auth ⟨triple, 2, "third"⟩ "app" "new", .ok (.error (.commandFailed "third" "busy"))⟩,
        ⟨.notify (.connectionReauthenticationFailed (.commandFailed "third" "busy") "third"), ()⟩] ∧
    ∃ t first token username found tail, retried.1.threads[2]? = some t ∧
      t.rest.ended?.isSome = true ∧
        PassTells retried.2 retried.1 2 t first token username found tail := by
  refine ⟨by decide +kernel, by decide +kernel, by decide +kernel, ?_⟩
  have played : (retried.1.threads[2]?.map fun t => decide (t.duty = .call .reauthenticate) &&
      t.rest.ended?.isSome && t.past.any fun x => x.request.seeks) = some true := by
    decide +kernel
  obtain ⟨t, here, known⟩ := Option.map_eq_some_iff.mp played
  obtain ⟨known, seeks⟩ := (Bool.and_eq_true _ _).mp known
  obtain ⟨duty, ended⟩ := (Bool.and_eq_true _ _).mp known
  rcases (Machine.play_run _ _ : Run _ retried.2 retried.1).pass_tells here
    (of_decide_eq_true duty) with ⟨idle, _⟩ | ⟨first, token, username, found, tail, pass⟩
  · obtain ⟨x, inside, sought⟩ := List.any_eq_true.mp seeks
    rw [idle x inside] at sought
    cases sought
  · exact ⟨t, first, token, username, found, tail, here, ended, pass⟩

end Run
end TokenKeeper
