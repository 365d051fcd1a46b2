import TokenKeeper.Proofs.Pass.Effect

/-!
# What a pass returns

A pass counts how its workers have come out, and each worker comes out as its conduct calls for.
So the result of a pass can be reckoned from the connections that it found, without a look at the
order in which anything happened.
-/

namespace TokenKeeper

open Engine (opening finding)
open Program (Meets)

variable {e : Engine}

namespace Conduct

variable {c : Conduct} {retries : Nat}

/-- The outcome of the worker, unless a part of its work panics. -/
def verdict? (c : Conduct) (retries : Nat) : Option ConnectionOutcome :=
  if c.Panics retries then none
  else if c.Closes retries then some .disposed
  else if c.Accepts retries then some .reauthenticated
  else some .failed

theorem verdict?_of_panics (panics : c.Panics retries) : c.verdict? retries = none :=
  if_pos panics

theorem ComesTo.verdict?_eq {o : ConnectionOutcome} (h : c.ComesTo retries o) :
    c.verdict? retries = some o := by
  rw [verdict?, if_neg h.calm]
  cases o with
  | disposed => rw [if_pos (h.disposed.mp rfl)]
  | reauthenticated =>
      have opens : ¬ c.Closes retries := fun closes => nomatch h.disposed.mpr closes
      rw [if_neg opens, if_pos (h.reauthenticated.mp rfl)]
  | failed =>
      have opens : ¬ c.Closes retries := fun closes => nomatch h.disposed.mpr closes
      have refuses : ¬ c.Accepts retries := fun accepts => nomatch h.reauthenticated.mpr accepts
      rw [if_neg opens, if_neg refuses]

end Conduct

namespace Pass

/-- Counts one worker. A worker that panicked is not counted. -/
def tally (p : Pass) : Option ConnectionOutcome → Pass
  | some o => p.count o
  | none => p

/-- What a pass returns that has found these connections. -/
def ofFound (retries : Nat) (conduct : ConnectionId → Conduct) (found : List Tracked) : Pass :=
  (found.map fun x => (conduct x.id).verdict? retries).foldl tally { stale := found.length }

end Pass

namespace Engine

/-- The workers come out like this, and each worker was started for a job that asks for this. -/
structure Reckons (verdict : WorkerId → Option ConnectionOutcome)
    (want : ConnectionJob → Option ConnectionOutcome) (x : Exchange) : Prop where
  started : ∀ job w, x = ⟨.spawnWorker job, w⟩ → verdict w = want job
  joined : ∀ w o, x = ⟨.joinWorker w, o⟩ → o.toOption = verdict w

variable {verdict : WorkerId → Option ConnectionOutcome}
variable {want : ConnectionJob → Option ConnectionOutcome} {past : List Exchange}

theorem startWorkers_reckons (token : Token) (username : String) (found : List Tracked) :
    (startWorkers token username found).Meets (fun _ => Reckons verdict want) (fun _ _ => True)
      (fun _ r => ∃ workers, r = .ok workers ∧ workers.map (fun w => verdict w.2) =
        found.map fun x => want (x.job token username)) past := by
  induction found generalizing past with
  | nil => exact ⟨[], rfl, rfl⟩
  | cons x found ih =>
      refine ⟨trivial, fun w told => ?_⟩
      show ((startWorkers token username found).bind fun others =>
        .pure ((x.connection.client, w) :: others)).Meets _ _ _ _
      refine Meets.bind (ih.mono (fun _ _ allowed => allowed) ?_)
      rintro _ _ ⟨workers, rfl, same⟩
      refine ⟨_, rfl, ?_⟩
      rw [List.map_cons, List.map_cons, same, told.started _ _ rfl]
      rfl

theorem joinWorkers_reckons (pass : Pass) (workers : List (String × WorkerId)) :
    (joinWorkers pass workers).Meets (fun _ => Reckons verdict want) (fun _ _ => True)
      (fun _ r => r = .ok ((workers.map fun w => verdict w.2).foldl Pass.tally pass)) past := by
  induction workers generalizing pass past with
  | nil => exact rfl
  | cons worker workers ih =>
      obtain ⟨client, w⟩ := worker
      refine ⟨trivial, fun o told => ?_⟩
      have outcome := told.joined w o rfl
      rw [List.map_cons, List.foldl_cons, ← outcome]
      cases o with
      | ok outcome => exact ih _
      | error p => exact ⟨trivial, fun _ _ => ih pass⟩

/-- The result of a pass: nothing, where it has found no token or no username, and otherwise what
is reckoned from the connections that it found. -/
inductive PassReckoned (want : ConnectionJob → Option ConnectionOutcome) :
    List Exchange → Except Panic Pass → Prop
  | idle {seen : Option Token} {name : Option String} (lacks : seen = none ∨ name = none) :
      PassReckoned want [⟨.currentToken, seen⟩, ⟨.username, name⟩] (.ok {})
  | served {token : Token} {username : String} {found : List Tracked} {later : List Exchange} :
      PassReckoned want (opening token username ++ finding token found :: later)
        (.ok ((found.map fun x => want (x.job token username)).foldl Pass.tally
          { stale := found.length }))

theorem reauthenticateAll_reckons :
    reauthenticateAll.Meets (fun _ => Reckons verdict want) (fun _ _ => True)
      (PassReckoned want) [] := by
  refine ⟨trivial, fun seen _ => ⟨trivial, fun name _ => ?_⟩⟩
  cases seen with
  | none => exact .idle (.inl rfl)
  | some token =>
      cases name with
      | none => exact .idle (.inr rfl)
      | some username =>
          refine ⟨trivial, fun found _ => ?_⟩
          have began : (startWorkers token username found).Meets (fun _ => Reckons verdict want)
              (fun _ _ => True) _ (opening token username ++ [finding token found]) :=
            startWorkers_reckons token username found
          show ((startWorkers token username found).bind fun workers =>
            joinWorkers { stale := found.length } workers).Meets _ _ _ _
          refine Meets.bind (began.extends.mono (fun _ _ allowed => allowed) ?_)
          rintro past _ ⟨further, workers, rfl, same⟩
          refine (joinWorkers_reckons _ workers).extends.mono (fun _ _ allowed => allowed) ?_
          rintro past' _ ⟨further', rfl⟩
          obtain ⟨later, rfl⟩ := further.trans further'
          rw [same, List.append_assoc]
          exact .served

end Engine

theorem Call.reauthenticate_reckons (verdict : WorkerId → Option ConnectionOutcome)
    (want : ConnectionJob → Option ConnectionOutcome) :
    (Call.reauthenticate.program e).Meets (fun _ => Engine.Reckons verdict want) (fun _ _ => True)
      (fun past r =>
        ∃ pass, r = .ok (.pass pass) ∧ Engine.PassReckoned want past (.ok pass)) [] := by
  refine Meets.bind (Engine.reauthenticateAll_reckons.mono (fun _ _ allowed => allowed) ?_)
  intro past r reckoned
  cases reckoned with
  | idle lacks => exact ⟨_, rfl, .idle lacks⟩
  | served => exact ⟨_, rfl, .served⟩

end TokenKeeper
