import TokenKeeper.Proofs.Pass.Endpoint

/-!
# Serving one connection

The outside decides how the work on a connection comes out: the list of its endpoints, which of
them are connected, and how each of those answers. `Conduct` keeps these answers by the places of
the endpoints in the list, and `Conduct.outcome?` reckons the outcome from them. A panic anywhere
beats everything else, and after that a single endpoint that says its connection is closed.

`serveConnection_meets` says that a worker comes to just this outcome, and that it touches the
registry only to record it.
-/

namespace TokenKeeper

def Request.isLook : Request → Bool
  | isConnected _ => true
  | _ => false

def panics {α : Type} : Except Panic α → Bool
  | .error _ => true
  | .ok _ => false

/-- How the outside treats the worker of one connection. -/
structure Conduct where
  servers : Except Panic (Except ReauthenticationError (List Endpoint))
  /-- What the endpoint at a place of the list says about being connected. -/
  connected : Nat → Except Panic Bool
  /-- What the endpoint at a place of the list answers to each of its commands. -/
  replies : Nat → Nat → Except Panic AuthReply

namespace Conduct

variable (c : Conduct) (retries : Nat)

/-- The endpoints are listed. -/
def lists : Bool :=
  match c.servers with
  | .ok (.ok _) => true
  | _ => false

/-- The number of listed endpoints. -/
def listed : Nat :=
  match c.servers with
  | .ok (.ok endpoints) => endpoints.length
  | _ => 0

/-- The places of the connected endpoints among so many from one on. -/
def placesFrom (first count : Nat) : List Nat :=
  (List.range' first count).filter fun k => c.connected k = .ok true

/-- The connected ones among these endpoints, with their places from one on. -/
def present (endpoints : List Endpoint) (first : Nat) : List (Endpoint × Nat) :=
  (endpoints.zipIdx first).filter fun x => c.connected x.2 = .ok true

/-- The places of the connected endpoints. -/
def places : List Nat := c.placesFrom 0 c.listed

/-- What comes of the endpoint at a place. -/
def reply (k : Nat) : Except Panic AuthReply := settle (c.replies k) retries 0

/-- A part of the work panics. -/
def Panics : Prop :=
  panics c.servers = true ∨ (∃ k < c.listed, panics (c.connected k) = true) ∨
    ∃ k ∈ c.places, panics (c.reply retries k) = true

/-- The connection turns out to be closed. -/
def Closes : Prop :=
  ¬ c.Panics retries ∧
    (c.servers = .ok (.error .disposed) ∨
      ∃ k ∈ c.places, c.reply retries k = .ok (.error .disposed))

/-- Every connected endpoint accepts the token. -/
def Accepts : Prop :=
  ¬ c.Panics retries ∧ c.lists = true ∧ ∀ k ∈ c.places, c.reply retries k = .ok (.ok ())

instance : Decidable (c.Panics retries) := inferInstanceAs (Decidable (_ ∨ _ ∨ _))

instance : Decidable (c.Closes retries) := inferInstanceAs (Decidable (_ ∧ (_ ∨ _)))

instance : Decidable (c.Accepts retries) := inferInstanceAs (Decidable (_ ∧ _ ∧ _))

/-- The outcome of the worker, if no part of the work panics. -/
structure ComesTo (o : ConnectionOutcome) : Prop where
  calm : ¬ c.Panics retries
  disposed : o = .disposed ↔ c.Closes retries
  reauthenticated : o = .reauthenticated ↔ c.Accepts retries

/-- An exchange of the worker agrees with the conduct. -/
structure Explains (past : List Exchange) (x : Exchange) : Prop where
  servers : ∀ connection a, x = ⟨.endpoints connection, a⟩ → a = c.servers
  connected : ∀ endpoint a, x = ⟨.isConnected endpoint, a⟩ →
    a = c.connected (asked Request.isLook past)
  replies : ∀ jobs (l : List AuthReply), x = ⟨.together jobs, .ok l⟩ → l.length = jobs.length ∧
    ∀ (j k : Nat) (reply : AuthReply), c.places[j]? = some k → l[j]? = some reply →
      c.reply retries k = .ok reply
  panic : ∀ jobs p, x = ⟨.together jobs, .error p⟩ →
    ∃ j < jobs.length, ∀ k : Nat, c.places[j]? = some k → c.reply retries k = .error p

/-- What a worker may ask: the registry is touched only to record the outcome. -/
def Records (job : ConnectionJob) (_ : List Exchange) : Request → Prop
  | .untrack id => id = job.id ∧ c.Closes retries
  | .mark id expiry => id = job.id ∧ expiry = job.token.expiresAt ∧ c.Accepts retries
  | .endpoints _ | .isConnected _ | .notify _ | .together _ => True
  | _ => False

/-- How a worker ends: with the outcome of the conduct, which has been recorded. -/
def Concludes (job : ConnectionJob) (past : List Exchange) :
    Except Panic ConnectionOutcome → Prop
  | .error _ => c.Panics retries
  | .ok o => c.ComesTo retries o ∧
      (o = .disposed → ∃ a, (⟨.untrack job.id, a⟩ : Exchange) ∈ past) ∧
      (o = .reauthenticated → ⟨.mark job.id job.token.expiresAt, ()⟩ ∈ past)

variable {c retries}

theorem reply_eq_iff {k : Nat} {r : Except Panic AuthReply} (decisive : refuses r = false) :
    c.reply retries k = r ↔
      ∃ i ≤ retries, c.replies k i = r ∧ ∀ j < i, refuses (c.replies k j) = true := by
  have first := @settle_eq_iff (c.replies k) retries 0 r decisive
  simp only [Nat.zero_add] at first
  exact first

theorem present_cons (endpoint : Endpoint) (endpoints : List Endpoint) (first : Nat) :
    c.present (endpoint :: endpoints) first =
      (if c.connected first = .ok true then [(endpoint, first)] else []) ++
        c.present endpoints (first + 1) := by
  rw [present, present, List.zipIdx_cons, List.filter_cons]
  by_cases here : c.connected first = .ok true <;> simp [here]

theorem map_present (endpoints : List Endpoint) (first : Nat) :
    (c.present endpoints first).map (·.2) = c.placesFrom first endpoints.length := by
  rw [present, placesFrom, ← List.zipIdx_map_snd first endpoints, List.filter_map]
  rfl

/-- Without a list of endpoints only the error decides. -/
theorem comesTo_of_unlisted {error : ReauthenticationError}
    (servers : c.servers = .ok (.error error)) :
    c.ComesTo retries (if error = .disposed then .disposed else .failed) := by
  have unlisted : c.listed = 0 := by rw [listed, servers]
  have none_connected : c.places = [] := by rw [places, unlisted]; rfl
  have unlists : c.lists = false := by rw [lists, servers]
  have calm : ¬ c.Panics retries := by
    rintro (panicked | ⟨k, low, _⟩ | ⟨k, inside, _⟩)
    · rw [servers] at panicked
      cases panicked
    · omega
    · rw [none_connected] at inside
      cases inside
  refine ⟨calm, ?_, ?_⟩
  · constructor
    · intro same
      by_cases closed : error = .disposed
      · exact ⟨calm, .inl (by rw [servers, closed])⟩
      · rw [if_neg closed] at same
        cases same
    · rintro ⟨_, said | ⟨k, inside, _⟩⟩
      · rw [servers] at said
        rw [if_pos (Except.error.inj (Except.ok.inj said))]
      · rw [none_connected] at inside
        cases inside
  · constructor
    · intro same
      split at same <;> cases same
    · rintro ⟨_, listed, _⟩
      rw [unlists] at listed
      cases listed

/-- With a list the replies of the connected endpoints decide. -/
theorem comesTo_of_replies {endpoints : List Endpoint} {replies : List AuthReply}
    (servers : c.servers = .ok (.ok endpoints))
    (calm : ∀ k < endpoints.length, panics (c.connected k) = false)
    (answers : c.places.map (c.reply retries) = replies.map .ok) :
    c.ComesTo retries (if replies.any Engine.isDisposed then .disposed
      else if replies.all Engine.isAccepted then .reauthenticated else .failed) := by
  have each (k : Nat) (inside : k ∈ c.places) : ∃ r ∈ replies, c.reply retries k = .ok r := by
    have image := List.mem_map_of_mem inside (f := c.reply retries)
    rw [answers] at image
    obtain ⟨r, here, same⟩ := List.mem_map.mp image
    exact ⟨r, here, same.symm⟩
  have back (r : AuthReply) (inside : r ∈ replies) : ∃ k ∈ c.places, c.reply retries k = .ok r := by
    have image : (.ok r : Except Panic AuthReply) ∈ replies.map .ok := List.mem_map_of_mem inside
    rw [← answers] at image
    exact List.mem_map.mp image
  have quiet : ¬ c.Panics retries := by
    rintro (panicked | ⟨k, low, panicked⟩ | ⟨k, inside, panicked⟩)
    · rw [servers] at panicked
      cases panicked
    · rw [listed, servers] at low
      rw [calm k low] at panicked
      cases panicked
    · obtain ⟨r, _, same⟩ := each k inside
      rw [same] at panicked
      cases panicked
  have closed : replies.any Engine.isDisposed = true ↔ c.Closes retries := by
    rw [List.any_eq_true]
    constructor
    · rintro ⟨r, inside, disposed⟩
      obtain ⟨k, place, same⟩ := back r inside
      refine ⟨quiet, .inr ⟨k, place, ?_⟩⟩
      rw [same]
      unfold Engine.isDisposed at disposed
      split at disposed
      · rfl
      · cases disposed
    · rintro ⟨_, said | ⟨k, place, said⟩⟩
      · rw [servers] at said
        cases said
      · obtain ⟨r, inside, same⟩ := each k place
        obtain rfl := Except.ok.inj (same.symm.trans said)
        exact ⟨_, inside, rfl⟩
  have accepted : replies.all Engine.isAccepted = true ↔ c.Accepts retries := by
    rw [List.all_eq_true]
    constructor
    · intro all
      refine ⟨quiet, by rw [lists, servers], fun k place => ?_⟩
      obtain ⟨r, inside, same⟩ := each k place
      have good := all r inside
      rw [same]
      unfold Engine.isAccepted at good
      split at good
      · rfl
      · cases good
    · rintro ⟨_, _, all⟩ r inside
      obtain ⟨k, place, same⟩ := back r inside
      obtain rfl := Except.ok.inj (same.symm.trans (all k place))
      rfl
  have apart : c.Closes retries → ¬ c.Accepts retries := by
    rintro ⟨_, said | ⟨k, place, said⟩⟩ ⟨_, _, all⟩
    · rw [servers] at said
      cases said
    · cases said.symm.trans (all k place)
  by_cases any : replies.any Engine.isDisposed = true
  · rw [if_pos any]
    exact ⟨quiet, iff_of_true rfl (closed.mp any),
      iff_of_false nofun (apart (closed.mp any))⟩
  · rw [if_neg any]
    have open_ : ¬ c.Closes retries := fun h => any (closed.mpr h)
    by_cases all : replies.all Engine.isAccepted = true
    · rw [if_pos all]
      exact ⟨quiet, iff_of_false nofun open_, iff_of_true rfl (accepted.mp all)⟩
    · rw [if_neg all]
      exact ⟨quiet, iff_of_false nofun open_,
        iff_of_false nofun fun h => all (accepted.mpr h)⟩

end Conduct

namespace Engine

/-- The connected endpoints are found one after another, unless one of them panics. -/
theorem connected_meets {c : Conduct} {told : List Exchange → Exchange → Prop}
    {asks : List Exchange → Request → Prop} (endpoints : List Endpoint) (past : List Exchange)
    (looks : ∀ past endpoint a, told past ⟨.isConnected endpoint, a⟩ →
      a = c.connected (asked Request.isLook past))
    (allowed : ∀ past endpoint, asks past (.isConnected endpoint)) :
    (connected endpoints).Meets told asks (fun _ r =>
      match r with
      | .ok l => l = (c.present endpoints (asked Request.isLook past)).map (·.1) ∧
          ∀ k < endpoints.length, panics (c.connected (asked Request.isLook past + k)) = false
      | .error _ =>
          ∃ k < endpoints.length, panics (c.connected (asked Request.isLook past + k)) = true)
      past := by
  induction endpoints generalizing past with
  | nil => exact ⟨rfl, fun k low => absurd low (Nat.not_lt_zero k)⟩
  | cons endpoint endpoints ih =>
      rw [connected]
      refine ⟨allowed past endpoint, fun a said => ?_⟩
      have answer := looks past endpoint a said
      subst answer
      have others := ih (past ++ [⟨.isConnected endpoint,
        c.connected (asked Request.isLook past)⟩])
      rw [asked_snoc, if_pos (show (Request.isConnected endpoint).isLook = true from rfl)] at others
      cases here : c.connected (asked Request.isLook past) with
      | error p =>
          refine ⟨0, Nat.succ_pos _, ?_⟩
          rw [Nat.add_zero, here]
          rfl
      | ok present =>
          rw [here] at others
          show ((connected endpoints).bind fun others =>
            .pure (if present then endpoint :: others else others)).Meets told asks _ _
          refine Program.Meets.bind (others.mono (fun _ _ allowed => allowed) ?_)
          intro later r ended
          cases r with
          | error p =>
              obtain ⟨k, low, panicked⟩ := ended
              refine ⟨k + 1, Nat.succ_lt_succ low, ?_⟩
              rw [Nat.add_comm k, ← Nat.add_assoc]
              exact panicked
          | ok l =>
              obtain ⟨rfl, calm⟩ := ended
              refine ⟨?_, ?_⟩
              · rw [Conduct.present_cons, here]
                cases present with
                | true => rw [if_pos rfl, if_pos rfl]; rfl
                | false => rw [if_neg Bool.false_ne_true, if_neg (by decide)]; rfl
              · intro k low
                cases k with
                | zero =>
                    rw [Nat.add_zero, here]
                    rfl
                | succ k =>
                    rw [Nat.add_comm k, ← Nat.add_assoc]
                    exact calm k (Nat.lt_of_succ_lt_succ low)

/-- What a worker does once it has the replies. -/
def record (job : ConnectionJob) (replies : List AuthReply) : Program ConnectionOutcome :=
  if replies.any isDisposed then
    (Program.request (.untrack job.id)).bind fun _ => .pure .disposed
  else if replies.all isAccepted then
    (Program.request (.mark job.id job.token.expiresAt)).bind fun _ => .pure .reauthenticated
  else .pure .failed

/-- The outcome of the replies is recorded. -/
theorem record_meets {c : Conduct} {retries : Nat} {job : ConnectionJob}
    {replies : List AuthReply} {told : List Exchange → Exchange → Prop} {past : List Exchange}
    (comesTo : c.ComesTo retries (if replies.any isDisposed then .disposed
      else if replies.all isAccepted then .reauthenticated else .failed)) :
    (record job replies).Meets told (c.Records retries job) (c.Concludes retries job) past := by
  unfold record
  split
  · rename_i any
    rw [if_pos any] at comesTo
    refine ⟨⟨rfl, comesTo.disposed.mp rfl⟩, fun a _ => ⟨comesTo, fun _ => ?_, nofun⟩⟩
    exact ⟨a, List.mem_append_right _ List.mem_cons_self⟩
  · rename_i any
    rw [if_neg any] at comesTo
    split
    · rename_i all
      rw [if_pos all] at comesTo
      refine ⟨⟨rfl, rfl, comesTo.reauthenticated.mp rfl⟩, fun a _ => ⟨comesTo, nofun, fun _ => ?_⟩⟩
      exact List.mem_append_right _ List.mem_cons_self
    · rename_i all
      rw [if_neg all] at comesTo
      exact ⟨comesTo, nofun, nofun⟩

/-- A worker comes to the outcome of the conduct and records it. -/
theorem serveConnection_meets (c : Conduct) (retries : Nat) (job : ConnectionJob) :
    (serveConnection job).Meets (c.Explains retries) (c.Records retries job)
      (c.Concludes retries job) [] := by
  rw [serveConnection]
  refine ⟨trivial, fun a said => ?_⟩
  obtain rfl := said.servers _ _ rfl
  cases servers : c.servers with
  | error p => exact .inl (by rw [servers]; rfl)
  | ok answer =>
      cases answer with
      | error error =>
          have comesTo := @Conduct.comesTo_of_unlisted c retries error servers
          cases error with
          | disposed =>
              refine ⟨⟨rfl, comesTo.disposed.mp rfl⟩, fun a _ => ⟨comesTo, fun _ => ?_, nofun⟩⟩
              exact ⟨a, List.mem_append_right _ List.mem_cons_self⟩
          | _ => exact ⟨trivial, fun _ _ => ⟨comesTo, nofun, nofun⟩⟩
      | ok endpoints =>
          have listed : c.listed = endpoints.length := by rw [Conduct.listed, servers]
          show ((connected endpoints).bind fun l =>
            (Program.request (.together (l.map fun e => ⟨e, job.token, job.username⟩))).bind
              fun r => (Program.ofAnswer r).bind (record job)).Meets _ _ _ _
          refine Program.Meets.bind ((connected_meets endpoints _
            (fun past endpoint a said => said.connected endpoint a rfl)
            fun _ _ => trivial).mono (fun _ _ allowed => allowed) ?_)
          intro past r ended
          cases r with
          | error p =>
              obtain ⟨k, low, panicked⟩ := ended
              have here : panics (c.connected (0 + k)) = true := panicked
              rw [Nat.zero_add] at here
              exact .inr (.inl ⟨k, by rw [listed]; exact low, here⟩)
          | ok l =>
              obtain ⟨same, calm⟩ := ended
              have placed : l.length = c.places.length := by
                rw [show l = (c.present endpoints 0).map (·.1) from same, Conduct.places, listed,
                  ← Conduct.map_present, List.length_map, List.length_map]
              refine ⟨trivial, fun r said => ?_⟩
              cases r with
              | error p =>
                  obtain ⟨j, low, same⟩ := said.panic _ _ rfl
                  rw [List.length_map, placed] at low
                  have panicked := same _ (List.getElem?_eq_getElem low)
                  exact .inr (.inr ⟨_, List.getElem_mem low, by rw [panicked]; rfl⟩)
              | ok replies =>
                  obtain ⟨count, each⟩ := said.replies _ _ rfl
                  rw [List.length_map, placed] at count
                  refine record_meets (Conduct.comesTo_of_replies servers ?_ ?_)
                  · intro k low
                    have here : panics (c.connected (0 + k)) = false := calm k low
                    rwa [Nat.zero_add] at here
                  · refine List.ext_getElem (by rw [List.length_map, List.length_map, count]) ?_
                    intro j low low'
                    rw [List.getElem_map, List.getElem_map]
                    rw [List.length_map] at low low'
                    exact each j _ _ (List.getElem?_eq_getElem low) (List.getElem?_eq_getElem low')

end Engine
end TokenKeeper
