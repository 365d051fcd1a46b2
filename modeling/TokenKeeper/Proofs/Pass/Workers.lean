import TokenKeeper.Engine.Check
import TokenKeeper.Proofs.Program.Contract

/-!
# One worker for each stale connection

A pass looks at the token and the username, then once at the registry, and from then on leaves
the registry to its workers: it starts one for each connection that it found and waits for all of
them. It ends without a panic, whatever the workers do.
-/

namespace TokenKeeper

open Program (Meets)

variable {told : List Exchange → Exchange → Prop} {asks : List Exchange → Request → Prop}
variable {token : Token} {username : String} {base : List Exchange}

/-- The job of the worker for a stale connection. -/
def Tracked.job (token : Token) (username : String) (x : Tracked) : ConnectionJob :=
  ⟨x.id, x.connection, token, username⟩

namespace Engine

/-- A worker is started for each connection, and no other. -/
theorem startWorkers_meets (l : List Tracked) (more : List Exchange)
    (spawn : ∀ later, ∀ x ∈ l, asks (base ++ later) (.spawnWorker (x.job token username))) :
    (startWorkers token username l).Meets told asks (fun past r =>
      ∃ later workers, past = base ++ (more ++ later) ∧ r = .ok workers ∧
        (∀ x ∈ l, ∃ client w, (client, w) ∈ workers ∧
          ⟨.spawnWorker (x.job token username), w⟩ ∈ more ++ later) ∧
        (∀ w ∈ workers, ∃ job, ⟨.spawnWorker job, w.2⟩ ∈ later) ∧
        ∀ job w, ⟨.spawnWorker job, w⟩ ∈ later → ∃ client, (client, w) ∈ workers)
      (base ++ more) := by
  induction l generalizing more with
  | nil =>
      refine ⟨[], [], by rw [List.append_nil], rfl, ?_, ?_, ?_⟩
      · exact fun x inside => nomatch inside
      · exact fun w inside => nomatch inside
      · exact fun job w inside => nomatch inside
  | cons x l ih =>
      rw [startWorkers]
      refine ⟨spawn more x List.mem_cons_self, fun w _ => ?_⟩
      rw [List.append_assoc]
      show ((startWorkers token username l).bind fun others =>
        .pure ((x.connection.client, w) :: others)).Meets told asks _ _
      refine Meets.bind ((ih _ fun later y inside =>
        spawn later y (List.mem_cons_of_mem x inside)).mono (fun _ _ allowed => allowed) ?_)
      rintro past _ ⟨later, workers, rfl, rfl, each, only, all⟩
      refine ⟨⟨.spawnWorker (x.job token username), w⟩ :: later, _,
        by rw [List.append_assoc more]; rfl, rfl, ?_, ?_, ?_⟩
      · intro y inside
        rw [List.append_cons more]
        rcases List.mem_cons.mp inside with rfl | inside
        · exact ⟨_, w, List.mem_cons_self, by simp [Tracked.job]⟩
        · obtain ⟨client, w', started, spawned⟩ := each y inside
          exact ⟨client, w', List.mem_cons_of_mem _ started, spawned⟩
      · intro w' inside
        rcases List.mem_cons.mp inside with rfl | inside
        · exact ⟨_, List.mem_cons_self⟩
        · obtain ⟨job, spawned⟩ := only w' inside
          exact ⟨job, List.mem_cons_of_mem _ spawned⟩
      · intro job w' spawned
        rcases List.mem_cons.mp spawned with same | spawned
        · cases same
          exact ⟨_, List.mem_cons_self⟩
        · obtain ⟨client, working⟩ := all job w' spawned
          exact ⟨client, List.mem_cons_of_mem _ working⟩

/-- All workers are waited for, also those that panic, and no more are started. -/
theorem joinWorkers_meets (pass : Pass) (workers : List (String × WorkerId))
    (more : List Exchange)
    (join : ∀ later, ∀ w ∈ workers, asks (base ++ (more ++ later)) (.joinWorker w.2))
    (notify : ∀ later event, asks (base ++ later) (.notify event)) :
    (joinWorkers pass workers).Meets told asks (fun past r =>
      ∃ later pass, past = base ++ (more ++ later) ∧ r = .ok pass ∧
        (∀ w ∈ workers, ∃ o, ⟨.joinWorker w.2, o⟩ ∈ more ++ later) ∧
        ∀ job w, ⟨.spawnWorker job, w⟩ ∉ later) (base ++ more) := by
  induction workers generalizing pass more with
  | nil =>
      refine ⟨[], pass, by rw [List.append_nil], rfl, ?_, ?_⟩
      · exact fun w inside => nomatch inside
      · exact fun job w inside => nomatch inside
  | cons worker workers ih =>
      obtain ⟨client, w⟩ := worker
      rw [joinWorkers]
      have now := join [] (client, w) List.mem_cons_self
      rw [List.append_nil] at now
      have next (x : Exchange) (later : List Exchange) (w' : String × WorkerId)
          (inside : w' ∈ workers) : asks (base ++ (more ++ [x] ++ later)) (.joinWorker w'.2) := by
        rw [List.append_assoc more]
        exact join (x :: later) w' (List.mem_cons_of_mem _ inside)
      refine ⟨now, fun o _ => ?_⟩
      rw [List.append_assoc]
      cases o with
      | ok outcome =>
          refine (ih (pass.count outcome) _ (next _)).mono (fun _ _ allowed => allowed) ?_
          rintro past _ ⟨later, pass, rfl, rfl, each, alone⟩
          refine ⟨⟨.joinWorker w, .ok outcome⟩ :: later, pass,
            by rw [List.append_assoc more]; rfl, rfl, ?_, ?_⟩
          · intro other inside
            rw [List.append_cons more]
            rcases List.mem_cons.mp inside with rfl | inside
            · exact ⟨.ok outcome, by simp⟩
            · exact each other inside
          · intro job w' spawned
            rcases List.mem_cons.mp spawned with same | spawned
            · cases same
            · exact alone job w' spawned
      | error p =>
          refine ⟨notify _ _, fun _ _ => ?_⟩
          rw [List.append_assoc]
          refine (ih pass _ fun later w' inside => ?_).mono (fun _ _ allowed => allowed) ?_
          · rw [List.append_assoc (more ++ _)]
            exact next _ (_ :: later) w' inside
          rintro past _ ⟨later, pass, rfl, rfl, each, alone⟩
          refine ⟨⟨.joinWorker w, .error p⟩ ::
            ⟨.notify (.connectionReauthenticationFailed (.panicked client) client), ()⟩ :: later,
            pass, by simp, rfl, ?_, ?_⟩
          · intro other inside
            rcases List.mem_cons.mp inside with rfl | inside
            · exact ⟨.error p, by simp⟩
            · obtain ⟨o, joined⟩ := each other inside
              exact ⟨o, by simpa using joined⟩
          · intro job w' spawned
            rcases List.mem_cons.mp spawned with same | spawned
            · cases same
            · rcases List.mem_cons.mp spawned with same | spawned
              · cases same
              · exact alone job w' spawned

/-- The exchanges by which a pass that has a token and a username begins. -/
def opening (token : Token) (username : String) : List Exchange :=
  [⟨.currentToken, some token⟩, ⟨.username, some username⟩]

/-- The look at the registry with what was found. -/
abbrev finding (token : Token) (found : List Tracked) : Exchange :=
  ⟨.stale token.expiresAt, found⟩

/-- What a pass may ask when it began after some exchanges: it looks at the registry once, right
after its opening, starts workers for what it found there and for nothing else, and waits for no
others. -/
def PassAsks (before past : List Exchange) : Request → Prop
  | .currentToken | .username | .notify _ => True
  | .joinWorker w => ∃ job, (⟨.spawnWorker job, w⟩ : Exchange) ∈ past
  | .stale expiry => ∃ token username, past = before ++ opening token username ∧
      expiry = token.expiresAt
  | .spawnWorker job => ∃ found later, ∃ x ∈ found, job = x.job job.token job.username ∧
      past = before ++ opening job.token job.username ++ finding job.token found :: later
  | _ => False

/-- How a pass ends: without a panic, and after its opening it has looked at the registry and
has started and waited for a worker for each connection that it found. Without a token or a
username it has done nothing more, and it has waited for every worker that it has started. -/
structure PassEnds (before past : List Exchange) (r : Except Panic Pass) : Prop where
  calm : ∃ pass, r = .ok pass
  served : ∀ token username later, past = before ++ opening token username ++ later →
    ∃ found rest, later = finding token found :: rest ∧
      ∀ x ∈ found, ∃ w o, ⟨.spawnWorker (x.job token username), w⟩ ∈ rest ∧
        ⟨.joinWorker w, o⟩ ∈ rest
  looked : ∃ seen name rest, past = before ++ ⟨.currentToken, seen⟩ :: ⟨.username, name⟩ :: rest ∧
    (seen = none ∨ name = none → rest = []) ∧
      ∀ job w, ⟨.spawnWorker job, w⟩ ∈ rest → ∃ o, ⟨.joinWorker w, o⟩ ∈ rest

theorem opening_inj {token token' : Token} {username username' : String}
    {before later later' : List Exchange}
    (same : before ++ opening token username ++ later =
      before ++ opening token' username' ++ later') :
    token = token' ∧ username = username' ∧ later = later' := by
  simp only [opening, List.append_assoc, List.append_cancel_left_eq, List.cons_append,
    List.nil_append, List.cons.injEq, Exchange.mk.injEq, heq_eq_eq, true_and,
    Option.some.injEq] at same
  exact same

/-- One pass. -/
theorem reauthenticateAll_meets (before : List Exchange) :
    reauthenticateAll.Meets told (PassAsks before) (PassEnds before) before := by
  rw [reauthenticateAll]
  refine ⟨trivial, fun current _ => ⟨trivial, fun name _ => ?_⟩⟩
  have unopened (h : current = none ∨ name = none) {token : Token} {username : String}
      {later : List Exchange} (same : before ++ [⟨.currentToken, current⟩] ++ [⟨.username, name⟩] =
        before ++ opening token username ++ later) : False := by
    simp only [opening, List.append_assoc, List.append_cancel_left_eq, List.cons_append,
      List.nil_append, List.cons.injEq, Exchange.mk.injEq, heq_eq_eq, true_and] at same
    obtain ⟨rfl, rfl, _⟩ := same
    rcases h with h | h <;> cases h
  have idle (h : current = none ∨ name = none) :
      PassEnds before (before ++ [⟨.currentToken, current⟩] ++ [⟨.username, name⟩])
        (.ok {}) := by
    refine ⟨⟨_, rfl⟩, fun _ _ _ same => (unopened h same).elim, ?_⟩
    refine ⟨current, name, [], by rw [List.append_assoc]; rfl, fun _ => rfl, ?_⟩
    exact fun job w inside => absurd inside List.not_mem_nil
  cases current with
  | none => exact idle (.inl rfl)
  | some token =>
      cases name with
      | none => exact idle (.inr rfl)
      | some username =>
          refine ⟨⟨token, username, by simp [opening], rfl⟩, fun found _ => ?_⟩
          have opened : before ++ [⟨.currentToken, some token⟩] ++ [⟨.username, some username⟩] ++
              [finding token found] =
                before ++ opening token username ++ [finding token found] ++ [] := by
            simp [opening]
          rw [opened]
          show ((startWorkers token username found).bind fun workers =>
            joinWorkers { stale := found.length } workers).Meets told _ _ _
          refine Meets.bind ((startWorkers_meets found [] ?_).mono (fun _ _ allowed => allowed) ?_)
          · intro later x inside
            exact ⟨found, later, x, inside, rfl, by simp [Tracked.job]⟩
          · rintro past _ ⟨later, workers, rfl, rfl, started, only, all⟩
            refine (joinWorkers_meets _ workers _ (fun last w inside => ?_)
              fun _ _ => trivial).mono (fun _ _ allowed => allowed) ?_
            · obtain ⟨job, spawned⟩ := only w inside
              exact ⟨job, by simp [spawned]⟩
            rintro past _ ⟨last, pass, rfl, rfl, joined, alone⟩
            refine ⟨⟨pass, rfl⟩, fun token' username' rest same => ?_, ?_⟩
            · rw [List.append_assoc _ [finding token found]] at same
              obtain ⟨rfl, rfl, rfl⟩ := opening_inj same
              refine ⟨found, _, rfl, fun x inside => ?_⟩
              obtain ⟨client, w, working, spawned⟩ := started x inside
              obtain ⟨o, done⟩ := joined (client, w) working
              refine ⟨w, o, ?_, done⟩
              rw [List.nil_append] at spawned
              exact List.mem_append_right _ (List.mem_append_left _ spawned)
            · refine ⟨some token, some username, finding token found :: (later ++ last),
                by simp [opening], ?_, ?_⟩
              · rintro (none | none) <;> cases none
              · intro job w spawned
                rcases List.mem_cons.mp spawned with same | spawned
                · cases same
                · have now := (List.mem_append.mp spawned).resolve_right (alone job w)
                  obtain ⟨client, working⟩ := all job w now
                  obtain ⟨o, done⟩ := joined (client, w) working
                  exact ⟨o, List.mem_cons_of_mem _ (by simpa using done)⟩

end Engine
end TokenKeeper
