import TokenKeeper.Proofs.Machine.Run
import TokenKeeper.Proofs.Program.Contract

/-!
# Serving one endpoint

An endpoint answers each `AUTH` command in some way: it accepts, it says that its connection is
closed, it refuses, or the command panics. Only a refusal is followed by another command, and
only while retries are left. So what comes of an endpoint is the first of its answers that is not
a refusal, or the last one that there is room for.
-/

namespace TokenKeeper

namespace Request

def isAuth : Request → Bool
  | auth _ _ _ => true
  | _ => false

/-- The requests by which one endpoint is served. -/
def isServing : Request → Bool
  | auth _ _ _ | notify _ => true
  | _ => false

end Request

/-- How many requests of one sort there were. -/
def asked (sort : Request → Bool) (past : List Exchange) : Nat :=
  past.countP fun x => sort x.request

@[simp] theorem asked_snoc (sort : Request → Bool) (past : List Exchange) (x : Exchange) :
    asked sort (past ++ [x]) = asked sort past + if sort x.request then 1 else 0 := by
  rw [asked, List.countP_append, List.countP_singleton]
  rfl

/-- Whether an answer leads to another command, if there is room for one. -/
def refuses : Except Panic AuthReply → Bool
  | .ok (.error .disposed) => false
  | .ok (.error _) => true
  | _ => false

/-- What comes of an endpoint from one command on, with room for some retries. -/
def settle (reply : Nat → Except Panic AuthReply) : (retries attempt : Nat) →
    Except Panic AuthReply
  | 0, attempt => reply attempt
  | retries + 1, attempt =>
    if refuses (reply attempt) then settle reply retries (attempt + 1) else reply attempt

/-- An endpoint comes out in a way that is no refusal if it gets there within its commands. -/
theorem settle_eq_iff {reply : Nat → Except Panic AuthReply} {retries attempt : Nat}
    {r : Except Panic AuthReply} (decisive : refuses r = false) :
    settle reply retries attempt = r ↔
      ∃ i ≤ retries, reply (attempt + i) = r ∧
        ∀ j < i, refuses (reply (attempt + j)) = true := by
  induction retries generalizing attempt with
  | zero =>
      constructor
      · intro same
        exact ⟨0, Nat.le_refl 0, same, fun j low => absurd low (Nat.not_lt_zero j)⟩
      · rintro ⟨i, low, same, _⟩
        obtain rfl : i = 0 := by omega
        exact same
  | succ retries ih =>
      rw [settle]
      cases refused : refuses (reply attempt) with
      | false =>
          rw [if_neg Bool.false_ne_true]
          constructor
          · intro same
            exact ⟨0, Nat.zero_le _, same, fun j low => absurd low (Nat.not_lt_zero j)⟩
          · rintro ⟨i, _, same, earlier⟩
            cases i with
            | zero => exact same
            | succ i =>
                have first := earlier 0 (Nat.succ_pos i)
                rw [Nat.add_zero, refused] at first
                cases first
      | true =>
          rw [if_pos rfl, ih]
          constructor
          · rintro ⟨i, low, same, earlier⟩
            refine ⟨i + 1, by omega, by rwa [Nat.add_assoc, Nat.add_comm 1] at same, ?_⟩
            intro j low
            cases j with
            | zero => exact refused
            | succ j =>
                rw [Nat.add_comm j, ← Nat.add_assoc]
                exact earlier j (by omega)
          · rintro ⟨i, low, same, earlier⟩
            cases i with
            | zero =>
                rw [Nat.add_zero] at same
                rw [same, decisive] at refused
                cases refused
            | succ i =>
                refine ⟨i, by omega, by rwa [Nat.add_assoc, Nat.add_comm 1], ?_⟩
                intro j low
                have next := earlier (j + 1) (by omega)
                rwa [Nat.add_comm j, ← Nat.add_assoc] at next

namespace Engine

/-- The commands of an endpoint are answered in this way. -/
def EndpointAnswers (reply : Nat → Except Panic AuthReply) (past : List Exchange)
    (x : Exchange) : Prop :=
  ∀ endpoint username secret a, x = ⟨.auth endpoint username secret, a⟩ →
    a = reply (asked Request.isAuth past)

/-- Commands go to the endpoint of the job, with its username and its token. -/
def EndpointAsks (job : EndpointJob) (_ : List Exchange) : Request → Prop
  | .auth endpoint username secret =>
    endpoint = job.endpoint ∧ username = job.username ∧ secret = job.token.secret
  | .notify _ => True
  | _ => False

/-- Serving an endpoint ends with what comes of it. -/
theorem serveEndpoint_meets (reply : Nat → Except Panic AuthReply) (job : EndpointJob)
    (retries : Nat) (past : List Exchange) :
    (serveEndpoint job retries).Meets (EndpointAnswers reply) (EndpointAsks job)
      (fun _ r => r = settle reply retries (asked Request.isAuth past)) past := by
  induction retries generalizing past with
  | zero =>
      rw [serveEndpoint]
      refine ⟨⟨rfl, rfl, rfl⟩, fun a said => ?_⟩
      obtain rfl := said _ _ _ a rfl
      rw [settle]
      generalize reply (asked Request.isAuth past) = answer
      match answer with
      | .error p => exact rfl
      | .ok (.ok ()) => exact ⟨trivial, fun _ _ => rfl⟩
      | .ok (.error error) =>
          cases error with
          | disposed => exact rfl
          | _ => exact ⟨trivial, fun _ _ => rfl⟩
  | succ retries ih =>
      rw [serveEndpoint]
      refine ⟨⟨rfl, rfl, rfl⟩, fun a said => ?_⟩
      obtain rfl := said _ _ _ a rfl
      have onward := ih (past ++ [⟨.auth job.endpoint job.username job.token.secret,
        reply (asked Request.isAuth past)⟩])
      rw [asked_snoc] at onward
      rw [settle]
      generalize reply (asked Request.isAuth past) = answer at onward ⊢
      match answer with
      | .error p => exact rfl
      | .ok (.ok ()) => exact ⟨trivial, fun _ _ => rfl⟩
      | .ok (.error error) =>
          cases error with
          | disposed => exact rfl
          | _ => exact onward

/-- An endpoint is served well only if it accepted a command. -/
theorem serveEndpoint_accepted (job : EndpointJob) (retries : Nat) (past : List Exchange) :
    (serveEndpoint job retries).Meets (fun _ _ => True) (EndpointAsks job)
      (fun past r => r = .ok (.ok ()) →
        ⟨.auth job.endpoint job.username job.token.secret, .ok (.ok ())⟩ ∈ past) past := by
  induction retries generalizing past with
  | zero =>
      rw [serveEndpoint]
      refine ⟨⟨rfl, rfl, rfl⟩, fun a _ => ?_⟩
      match a with
      | .error p => exact nofun
      | .ok (.ok ()) => exact ⟨trivial, fun _ _ _ => by simp⟩
      | .ok (.error error) =>
          cases error with
          | disposed => exact nofun
          | _ => exact ⟨trivial, fun _ _ => nofun⟩
  | succ retries ih =>
      rw [serveEndpoint]
      refine ⟨⟨rfl, rfl, rfl⟩, fun a _ => ?_⟩
      match a with
      | .error p => exact nofun
      | .ok (.ok ()) => exact ⟨trivial, fun _ _ _ => by simp⟩
      | .ok (.error error) =>
          cases error with
          | disposed => exact nofun
          | _ => exact ih _

end Engine

/-- What does not serve an endpoint is asked by a task itself and not by one of its members. -/
theorem Deed.member_eq_none {e : Engine} {d : Deed} (sound : d.Sound e)
    (other : d.exchange.request.isServing = false) : d.member = none := by
  obtain ⟨thread, duty, member, past, ⟨q, a⟩⟩ := d
  cases member with
  | none => rfl
  | some member =>
      obtain ⟨resume, reached⟩ := sound
      have met := (Engine.serveEndpoint_accepted member.2 e.policy.immediateRetries []).reaches
        reached fun _ _ _ _ => trivial
      have asks : Engine.EndpointAsks member.2 past q := met.1
      cases q with
      | auth => cases other
      | notify => cases other
      | _ => exact asks.elim

end TokenKeeper
