import TokenKeeper.Proofs.Machine.Run
import TokenKeeper.Proofs.Program.Alone

/-!
# Runs from a list of moves

A move says which task goes on and what the outside answers to it. What the shared state and the
other tasks decide is not up to the move, and a move that is not possible is passed over. So every
list of moves gives a run, and the run can be computed.
-/

namespace TokenKeeper

/-- What is to happen next. -/
inductive Move
  | begin (c : Call)
  | tell (thread : Nat) (outside : (q : Request) → q.Answer)
  | tellMember (thread member : Nat) (outside : (q : Request) → q.Answer)
  | drop (c : Connection)

/-- A task goes on so many times with the same outside. -/
def Move.tells (thread count : Nat) (outside : (q : Request) → q.Answer) : List Move :=
  List.replicate count (.tell thread outside)

/-- An outside that issues this token. -/
def Request.issuing (t : AccessToken) : (q : Request) → q.Answer
  | .getToken _ => .issued t
  | q => q.blank

/-- An engine that knows its username. -/
def Engine.sample : Engine := ⟨.standard, some "app"⟩

variable {e : Engine}

namespace Member

def panicked? (m : Member e) : Option Panic :=
  match m.rest with
  | .panic p => some p
  | _ => none

def reply? (m : Member e) : Option AuthReply :=
  match m.rest with
  | .pure r => some r
  | _ => none

theorem rest_of_panicked? {m : Member e} {p : Panic} (h : m.panicked? = some p) :
    m.rest = .panic p := by
  unfold panicked? at h
  split at h
  · rename_i same
    rw [same, Option.some.inj h]
  · cases h

theorem rest_of_reply? {m : Member e} {r : AuthReply} (h : m.reply? = some r) :
    m.rest = .pure r := by
  unfold reply? at h
  split at h
  · rename_i same
    rw [same, Option.some.inj h]
  · cases h

end Member

/-- The replies of members that have all ended. -/
def replies? : List (Member e) → Option (List AuthReply)
  | [] => some []
  | m :: rest => m.reply?.bind fun r => (replies? rest).map (r :: ·)

/-- The answer that members have gathered. -/
def settled? (members : List (Member e)) : Option (Except Panic (List AuthReply)) :=
  match members.findSome? Member.panicked? with
  | some p => some (.error p)
  | none => (replies? members).map .ok

theorem rests_of_replies? {members : List (Member e)} {l : List AuthReply}
    (h : replies? members = some l) : members.map (·.rest) = l.map .pure := by
  induction members generalizing l with
  | nil =>
      obtain rfl := Option.some.inj h
      rfl
  | cons m rest ih =>
      obtain ⟨r, first, h⟩ := Option.bind_eq_some_iff.mp h
      obtain ⟨l, others, rfl⟩ := Option.map_eq_some_iff.mp h
      rw [List.map_cons, List.map_cons, ih others, Member.rest_of_reply? first]

theorem settled_of_settled? {members : List (Member e)} {r : Except Panic (List AuthReply)}
    (h : settled? members = some r) : Settled members r := by
  unfold settled? at h
  split at h
  · rename_i p found
    obtain rfl := Option.some.inj h
    obtain ⟨m, inside, panicked⟩ := List.exists_of_findSome?_eq_some found
    exact ⟨m, inside, Member.rest_of_panicked? panicked⟩
  · obtain ⟨l, replies, rfl⟩ := Option.map_eq_some_iff.mp h
    exact rests_of_replies? replies

namespace Machine

/-- The answer to a request, with that of the outside where nothing else decides. -/
def reply? (m : Machine e) (members : List (Member e)) (outside : (q : Request) → q.Answer) :
    (q : Request) → Option q.Answer
  | .spawnWorker _ => some ⟨m.threads.length⟩
  | .joinWorker w => m.threads[w.number]?.bind Thread.outcome?
  | .together _ => settled? members
  | .backoff attempt error => some (e.policy.backoff attempt error)
  | .lockHeartbeat => if m.shared.heartbeatLocked then none else some ()
  | q => some ((m.shared.answer? m.alive q).getD (outside q))

theorem permits_of_reply? {m : Machine e} {members : List (Member e)}
    {outside : (q : Request) → q.Answer} {q : Request} {a : q.Answer}
    (h : m.reply? members outside q = some a) : m.Permits members q a := by
  have decided {q : Request} {a : q.Answer}
      (h : some ((m.shared.answer? m.alive q).getD (outside q)) = some a) :
      ∀ b, m.shared.answer? m.alive q = some b → a = b := by
    intro b known
    rw [known] at h
    exact (Option.some.inj h).symm
  cases q with
  | spawnWorker job => exact (Option.some.inj h).symm
  | joinWorker w => exact Option.bind_eq_some_iff.mp h
  | together jobs => exact settled_of_settled? h
  | backoff attempt error => exact (Option.some.inj h).symm
  | lockHeartbeat =>
      cases locked : m.shared.heartbeatLocked with
      | false => exact locked
      | true => simp [reply?, locked] at h
  | _ => exact decided h

/-- A task goes on, if it can. -/
def tell? (m : Machine e) (i : Nat) (outside : (q : Request) → q.Answer) :
    Option (Machine e × Label) :=
  match m.threads[i]? with
  | none => none
  | some t =>
    match asks : t.rest with
    | .ask q _ => (m.reply? t.members outside q).map fun a =>
      (m.tell i (t.tell asks a) q, .did ⟨i, t.duty, none, t.past, ⟨q, a⟩⟩)
    | _ => none

/-- A member of a task goes on, if it can. -/
def tellMember? (m : Machine e) (i j : Nat) (outside : (q : Request) → q.Answer) :
    Option (Machine e × Label) :=
  match m.threads[i]? with
  | none => none
  | some t =>
    match inside : t.members[j]? with
    | none => none
    | some mem =>
      match asks : mem.rest with
      | .ask q _ => (m.reply? [] outside q).map fun a =>
        (m.tell i (t.tellMember inside asks a) q,
          .did ⟨i, t.duty, some (j, mem.job), mem.past, ⟨q, a⟩⟩)
      | _ => none

/-- One move, if it is possible. -/
def move? (m : Machine e) : Move → Option (Machine e × Label)
  | .begin c => some ({ m with threads := m.threads ++ [.start (.call c)] }, .began c)
  | .drop c => some ({ m with alive := fun d => if d = c then false else m.alive d }, .dropped c)
  | .tell i outside => m.tell? i outside
  | .tellMember i j outside => m.tellMember? i j outside

/-- A list of moves. -/
def play (m : Machine e) : List Move → Machine e × List Label
  | [] => (m, [])
  | move :: moves =>
    match m.move? move with
    | none => m.play moves
    | some (next, l) => ((next.play moves).1, l :: (next.play moves).2)

variable {m m' : Machine e} {l : Label}

theorem step_of_tell? {i : Nat} {outside : (q : Request) → q.Answer}
    (h : m.tell? i outside = some (m', l)) : Step m l m' := by
  unfold tell? at h
  split at h
  · cases h
  · rename_i t here
    split at h
    · rename_i q resume asks
      obtain ⟨a, answered, same⟩ := Option.map_eq_some_iff.mp h
      obtain ⟨rfl, rfl⟩ := Prod.mk.inj same
      exact .tell here asks (permits_of_reply? answered)
    · cases h

theorem step_of_tellMember? {i j : Nat} {outside : (q : Request) → q.Answer}
    (h : m.tellMember? i j outside = some (m', l)) : Step m l m' := by
  unfold tellMember? at h
  split at h
  · cases h
  · rename_i t here
    split at h
    · cases h
    · rename_i mem inside
      split at h
      · rename_i q resume asks
        obtain ⟨a, answered, same⟩ := Option.map_eq_some_iff.mp h
        obtain ⟨rfl, rfl⟩ := Prod.mk.inj same
        exact .tellMember here inside asks (permits_of_reply? answered)
      · cases h

theorem step_of_move? {move : Move} (h : m.move? move = some (m', l)) : Step m l m' := by
  cases move with
  | begin c =>
      obtain ⟨rfl, rfl⟩ := Prod.mk.inj (Option.some.inj h)
      exact .begin m c
  | drop c =>
      obtain ⟨rfl, rfl⟩ := Prod.mk.inj (Option.some.inj h)
      exact .drop m c
  | tell i outside => exact step_of_tell? h
  | tellMember i j outside => exact step_of_tellMember? h

/-- Moves give a run. -/
theorem play_run (m : Machine e) (moves : List Move) :
    Run m (m.play moves).2 (m.play moves).1 := by
  induction moves generalizing m with
  | nil => exact .refl m
  | cons move moves ih =>
      rw [play]
      split
      · exact ih m
      · rename_i next l possible
        exact (Run.single (step_of_move? possible)).trans (ih next)

end Machine

/-- Whether every deed of a run passes a check. -/
def everyDeed (check : Deed → Bool) (trace : List Label) : Bool :=
  trace.all fun
    | .did d => check d
    | _ => true

theorem of_everyDeed {check : Deed → Bool} {trace : List Label} {d : Deed}
    (all : everyDeed check trace = true) (happened : .did d ∈ trace) : check d = true :=
  List.all_eq_true.mp all (.did d) happened

end TokenKeeper
