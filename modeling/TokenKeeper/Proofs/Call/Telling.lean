import TokenKeeper.Proofs.Call.Requests

/-!
# The subscribers are told last

A task that has told the subscribers something has done its work: an acquisition and the work on a
connection or on an endpoint end with it, and a pass has started all its workers by then and only
waits for them. So nothing that the identity service or an endpoint is asked ever waits for a
subscriber.
-/

namespace TokenKeeper

open Program (Meets Keeps)

variable {e : Engine} {past : List Exchange} {q : Request}

def Request.isNotice : Request → Bool
  | .notify _ => true
  | _ => false

/-- The subscribers have been told nothing. -/
def Silent (past : List Exchange) : Prop := ∀ x ∈ past, x.request.isNotice = false

theorem Silent.snoc {x : Exchange} (silent : Silent past)
    (other : x.request.isNotice = false) : Silent (past ++ [x]) := by
  intro y inside
  rcases List.mem_append.mp inside with inside | inside
  · exact silent y inside
  · rwa [List.mem_singleton.mp inside]

/-- What may be asked once the subscribers have been told something. -/
def Request.IsClosing : Request → Prop
  | .notify _ | .joinWorker _ => True
  | _ => False

namespace Engine

theorem joinWorkers_uses (pass : Pass) (workers : List (String × WorkerId)) :
    (joinWorkers pass workers).Uses Request.IsClosing := by
  induction workers generalizing pass with
  | nil => trivial
  | cons worker workers ih =>
      obtain ⟨client, w⟩ := worker
      refine ⟨trivial, fun outcome => ?_⟩
      cases outcome with
      | ok outcome => exact ih _
      | error p => exact ⟨trivial, fun _ => ih _⟩

end Engine

/-- An acquisition, a pass, or the work on one connection for a pass. -/
def Duty.IsPlain : Duty → Prop
  | call c => c.IsPlain
  | worker _ _ => True

end TokenKeeper
