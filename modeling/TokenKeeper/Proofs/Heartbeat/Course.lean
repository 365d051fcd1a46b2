import TokenKeeper.Engine.Check
import TokenKeeper.Proofs.Program.Contract

/-!
# The course of seeing to the heartbeat

Whoever sees to the heartbeat takes its lock first and gives it back last. In between it comes to a
verdict, whether the heartbeat is wanted, and starts or stops it as the verdict demands. The
contract below says this of the program.
-/

namespace TokenKeeper

open Program (request)

/-- The lock of the heartbeat is taken. -/
abbrev Engine.locked : Exchange := ⟨.lockHeartbeat, ()⟩

/-- The lock of the heartbeat is given back. -/
abbrev Engine.unlocked : Exchange := ⟨.unlockHeartbeat, ()⟩

namespace Exchange

/-- Whether the heartbeat is wanted, where an exchange decides that. -/
def verdict? (x : Exchange) : Option Bool :=
  match x with
  | ⟨.isShutDown, true⟩ => some false
  | ⟨.registryIsEmpty, empty⟩ => some !empty
  | _ => none

/-- Whether the heartbeat runs, where an exchange changes that. -/
def runs? (x : Exchange) : Option Bool :=
  match x with
  | ⟨.startHeartbeat, _⟩ => some true
  | ⟨.stopHeartbeat, _⟩ => some false
  | _ => none

end Exchange

/-- What the latest of some exchanges tells that tells anything. -/
def latestOf (tells : Exchange → Option Bool) (initial : Bool) (past : List Exchange) : Bool :=
  past.foldl (fun b x => (tells x).getD b) initial

theorem latestOf_append (tells : Exchange → Option Bool) (initial : Bool)
    (past since : List Exchange) :
    latestOf tells initial (past ++ since) = latestOf tells (latestOf tells initial past) since :=
  List.foldl_append

@[simp] theorem latestOf_snoc (tells : Exchange → Option Bool) (initial : Bool)
    (past : List Exchange) (x : Exchange) :
    latestOf tells initial (past ++ [x]) = (tells x).getD (latestOf tells initial past) := by
  simp [latestOf]

namespace Engine

/-- What the program that sees to the heartbeat asks. The lock comes first. When it is given back
the verdict has been carried out, if the heartbeat was running or not as the program was told. -/
structure SyncAsks (past : List Exchange) (q : Request) : Prop where
  first : q = .lockHeartbeat → past = []
  holding : q ≠ .lockHeartbeat → locked ∈ past ∧ unlocked ∉ past
  deciding : q = .registryIsEmpty → past = [locked, ⟨.isShutDown, false⟩]
  learning : q = .heartbeatIsRunning → ∀ before, latestOf Exchange.runs? before past = before
  starting : q = .startHeartbeat → ⟨.registryIsEmpty, false⟩ ∈ past
  done : q = .unlockHeartbeat → ∀ before, (∀ r, ⟨.heartbeatIsRunning, r⟩ ∈ past → r = before) →
    latestOf Exchange.runs? before past = latestOf Exchange.verdict? before past

/-- In the end the lock has been given back, and the verdict was that the heartbeat is wanted, or it
was stopped. -/
structure SyncEnds (past : List Exchange) : Prop where
  given : unlocked ∈ past
  decided : ∃ x ∈ past, x.verdict?.isSome = true
  stopped : ⟨.registryIsEmpty, false⟩ ∈ past ∨ ⟨.stopHeartbeat, ()⟩ ∈ past

/-- Starts or stops the heartbeat, as this verdict demands, and gives the lock back. -/
def carryOut (wanted : Bool) : Program Unit := do
  let running ← request .heartbeatIsRunning
  if wanted && !running then request .startHeartbeat
  else if !wanted then request .stopHeartbeat
  request .unlockHeartbeat

theorem syncHeartbeat_eq : syncHeartbeat = (do
    request .lockHeartbeat
    let ended ← request .isShutDown
    let wanted ← if ended then pure false else Bool.not <$> request .registryIsEmpty
    carryOut wanted) := rfl

/-- The lock has been taken and a verdict has been reached, and nothing has been done about it. -/
structure Decided (past : List Exchange) (wanted : Bool) : Prop where
  held : locked ∈ past ∧ unlocked ∉ past
  verdict : ∀ before, latestOf Exchange.verdict? before past = wanted
  unchanged : ∀ before, latestOf Exchange.runs? before past = before
  decided : ∃ x ∈ past, x.verdict?.isSome = true
  filled : wanted = true → ⟨.registryIsEmpty, false⟩ ∈ past

variable {past since : List Exchange} {wanted : Bool}

/-- Once the verdict has been carried out the lock may be given back. -/
theorem Decided.unlock (h : Decided past wanted) (running : Bool)
    (told : ⟨.heartbeatIsRunning, running⟩ ∈ since) (ungiven : unlocked ∉ since)
    (done : latestOf Exchange.runs? running since = wanted)
    (settled : latestOf Exchange.verdict? wanted since = wanted)
    (stopped : wanted = false → ⟨.stopHeartbeat, ()⟩ ∈ since) :
    (request .unlockHeartbeat : Program Unit).Meets (fun _ _ => True) SyncAsks
      (fun past r => r = .ok () ∧ SyncEnds past) (past ++ since) := by
  refine ⟨?asks, fun _ _ => ⟨rfl, ?given, ?decided, ?stopped⟩⟩
  case asks =>
    constructor
    case holding =>
      exact fun _ => ⟨List.mem_append_left _ h.held.1, List.not_mem_append h.held.2 ungiven⟩
    case done =>
      intro _ before known
      obtain rfl := known running (List.mem_append_right _ told)
      rw [latestOf_append, latestOf_append, h.unchanged, h.verdict, done, settled]
    all_goals simp
  case given => simp
  case decided =>
    obtain ⟨x, inside, decides⟩ := h.decided
    exact ⟨x, by simp [inside], decides⟩
  case stopped =>
    cases wanted with
    | true => exact .inl (by simp [h.filled])
    | false => exact .inr (by simp [stopped])

theorem carryOut_meets (h : Decided past wanted) :
    (carryOut wanted).Meets (fun _ _ => True) SyncAsks
      (fun past r => r = .ok () ∧ SyncEnds past) past := by
  obtain ⟨taken, ungiven⟩ := h.held
  refine ⟨by constructor <;> simp [h.unchanged, taken, ungiven], fun running _ => ?_⟩
  have acting {q : Request} (busy : q = .startHeartbeat ∧ wanted = true ∨ q = .stopHeartbeat) :
      SyncAsks (past ++ [⟨.heartbeatIsRunning, running⟩]) q := by
    rcases busy with ⟨rfl, rfl⟩ | rfl <;> constructor <;> simp [taken, ungiven, h.filled]
  cases wanted with
  | false =>
      refine ⟨acting (.inr rfl), fun _ _ => ?_⟩
      rw [List.append_assoc]
      exact h.unlock running (by simp) (by simp) rfl rfl (by simp)
  | true =>
      cases running with
      | true => exact h.unlock true (by simp) (by simp) rfl rfl (by simp)
      | false =>
          refine ⟨acting (.inl ⟨rfl, rfl⟩), fun _ _ => ?_⟩
          rw [List.append_assoc]
          exact h.unlock false (by simp) (by simp) rfl rfl (by simp)

/-- Seeing to the heartbeat, which does not panic. -/
theorem syncHeartbeat_meets : syncHeartbeat.Meets (fun _ _ => True) SyncAsks
    (fun past r => r = .ok () ∧ SyncEnds past) [] := by
  rw [syncHeartbeat_eq]
  refine ⟨by constructor <;> simp, fun _ _ => ⟨by constructor <;> simp, fun ended _ => ?_⟩⟩
  cases ended with
  | true =>
      have decided : Decided [locked, ⟨.isShutDown, true⟩] false :=
        ⟨by simp, fun _ => rfl, fun _ => rfl, ⟨_, List.mem_cons_of_mem _ List.mem_cons_self, rfl⟩,
          by simp⟩
      exact carryOut_meets decided
  | false =>
      refine ⟨by constructor <;> simp, fun empty _ => ?_⟩
      have decided : Decided [locked, ⟨.isShutDown, false⟩, ⟨.registryIsEmpty, empty⟩] !empty :=
        ⟨by simp, fun _ => rfl, fun _ => rfl, ⟨⟨.registryIsEmpty, empty⟩, by simp, rfl⟩, by simp⟩
      exact carryOut_meets decided

end Engine
end TokenKeeper
