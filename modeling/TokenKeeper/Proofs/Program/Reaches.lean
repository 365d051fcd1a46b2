import TokenKeeper.Engine.Shared

/-!
# How far a program has come

A program that runs among others is known by what it has asked and been answered so far. These
exchanges determine what is left of it, whatever the others do in between, so facts about one
program are stated over its exchanges and used wherever it runs.

`Uses` bounds the requests of a program over all answers. It is kept along the exchanges.
-/

namespace TokenKeeper

/-- A request with the answer that it got. -/
structure Exchange where
  request : Request
  answer : request.Answer
  deriving DecidableEq

namespace Program

variable {α β : Type}

@[simp] theorem pure_eq (a : α) : (Pure.pure a : Program α) = pure a := rfl

@[simp] theorem bind_eq (p : Program α) (f : α → Program β) : p >>= f = p.bind f := rfl

@[simp] theorem request_eq (q : Request) : request q = ask q pure := rfl

@[simp] theorem ofAnswer_ok (a : α) : ofAnswer (.ok a) = pure a := rfl

@[simp] theorem ofAnswer_error (p : Panic) : ofAnswer (.error p : Except Panic α) = panic p := rfl

/-- After these exchanges, oldest first, this is left of a program. -/
inductive Reaches : Program α → List Exchange → Program α → Prop
  | refl (p : Program α) : Reaches p [] p
  | ask {q : Request} {resume : q.Answer → Program α} {a : q.Answer} {past : List Exchange}
      {rest : Program α} :
      Reaches (resume a) past rest → Reaches (ask q resume) (⟨q, a⟩ :: past) rest

variable {p rest : Program α} {past : List Exchange}

theorem reaches_ask_iff {q : Request} {resume : q.Answer → Program α} :
    (ask q resume).Reaches past rest ↔
      past = [] ∧ rest = ask q resume ∨
        ∃ a later, past = ⟨q, a⟩ :: later ∧ (resume a).Reaches later rest := by
  constructor
  · intro h
    cases h with
    | refl => exact .inl ⟨rfl, rfl⟩
    | ask h => exact .inr ⟨_, _, rfl, h⟩
  · rintro (⟨rfl, rfl⟩ | ⟨a, later, rfl, h⟩)
    · exact .refl _
    · exact .ask h

namespace Reaches

theorem trans {middle : Program α} {later : List Exchange} (h : p.Reaches past middle)
    (next : middle.Reaches later rest) : p.Reaches (past ++ later) rest := by
  induction h with
  | refl => exact next
  | ask _ ih => exact .ask (ih next)

/-- One more answer. -/
theorem snoc {q : Request} {resume : q.Answer → Program α}
    (h : p.Reaches past (Program.ask q resume)) (a : q.Answer) :
    p.Reaches (past ++ [⟨q, a⟩]) (resume a) :=
  h.trans (.ask (.refl _))

/-- What is left after some exchanges has the remaining ones before it. -/
theorem since {middle : Program α} {later : List Exchange} (h : p.Reaches past middle)
    (all : p.Reaches (past ++ later) rest) : middle.Reaches later rest := by
  induction h with
  | refl => exact all
  | ask _ ih =>
      cases all with
      | ask all => exact ih all

/-- The first of two programs in a row goes its way. -/
theorem bind (h : p.Reaches past rest) (f : α → Program β) :
    (p.bind f).Reaches past (rest.bind f) := by
  induction h with
  | refl => exact .refl _
  | ask _ ih => exact .ask ih

theorem caught (h : p.Reaches past rest) : p.caught.Reaches past rest.caught := by
  induction h with
  | refl => exact .refl _
  | ask _ ih => exact .ask ih

end Reaches

/-- What a program asks first. -/
def request? : Program α → Option Request
  | ask q _ => some q
  | _ => none

theorem request?_bind {q : Request} (f : α → Program β) (first : p.request? = some q) :
    (p.bind f).request? = some q := by
  cases p with
  | ask => exact first
  | _ => cases first

theorem request?_caught {q : Request} (first : p.request? = some q) :
    p.caught.request? = some q := by
  cases p with
  | ask => exact first
  | _ => cases first

theorem Reaches.request?_eq {x : Exchange} {later : List Exchange}
    (h : p.Reaches (x :: later) rest) : p.request? = some x.request := by
  cases h
  rfl

/-- The exchanges determine what is left. -/
theorem Reaches.unique {other : Program α} (h : p.Reaches past rest) (h' : p.Reaches past other) :
    other = rest := by
  induction h with
  | refl =>
      cases h'
      rfl
  | ask _ ih =>
      cases h' with
      | ask h' => exact ih h'

/-- After the same exchanges the same request got the same answer. -/
def Agree (past past' : List Exchange) : Prop :=
  ∀ (earlier : List Exchange) (q : Request) (a a' : q.Answer) (later later' : List Exchange),
    past = earlier ++ ⟨q, a⟩ :: later → past' = earlier ++ ⟨q, a'⟩ :: later' → a = a'

/-- While a program is told the same it goes the same way, so one of two pasts leads on to the
other. -/
theorem Reaches.comparable {past' : List Exchange} {rest' : Program α} (h : p.Reaches past rest)
    (h' : p.Reaches past' rest') (agree : Agree past past') :
    past <+: past' ∨ past' <+: past := by
  induction h generalizing past' with
  | refl => exact .inl (List.nil_prefix)
  | @ask q resume a past rest _ ih =>
      rcases reaches_ask_iff.mp h' with ⟨rfl, _⟩ | ⟨a', later, rfl, onward⟩
      · exact .inr List.nil_prefix
      · obtain rfl := agree [] q a a' past later rfl rfl
        rw [List.prefix_cons_inj, List.prefix_cons_inj]
        refine ih onward fun earlier q' b b' l l' first second => ?_
        exact agree (⟨q, a⟩ :: earlier) q' b b' l l' (by rw [first]; rfl) (by rw [second]; rfl)

/-- A program that has ended after being told the same has ended in the same way. -/
theorem Reaches.same_end {past' : List Exchange} {rest' : Program α} (h : p.Reaches past rest)
    (h' : p.Reaches past' rest') (ended : rest.request? = none) (ended' : rest'.request? = none)
    (agree : Agree past past') : past = past' ∧ rest = rest' := by
  have stop {past later : List Exchange} {rest rest' : Program α} (h : p.Reaches past rest)
      (h' : p.Reaches (past ++ later) rest') (ended : rest.request? = none) : later = [] := by
    cases later with
    | nil => rfl
    | cons x later =>
        have asks := (h.since h').request?_eq
        rw [ended] at asks
        cases asks
  rcases h.comparable h' agree with ⟨later, rfl⟩ | ⟨later, rfl⟩
  · obtain rfl := stop h h' ended
    rw [List.append_nil] at h' ⊢
    exact ⟨rfl, h'.unique h⟩
  · obtain rfl := stop h' h ended'
    rw [List.append_nil] at h ⊢
    exact ⟨rfl, h'.unique h⟩

/-- Every request of a program is allowed, whatever the answers are. -/
def Uses (allowed : Request → Prop) : Program α → Prop
  | pure _ => True
  | panic _ => True
  | ask q resume => allowed q ∧ ∀ a, (resume a).Uses allowed

variable {allowed : Request → Prop}

theorem uses_pure (a : α) : (pure a).Uses allowed := trivial

theorem uses_ofAnswer (r : Except Panic α) : (ofAnswer r).Uses allowed := by
  cases r <;> trivial

theorem Uses.bind {f : α → Program β} (first : p.Uses allowed)
    (second : ∀ a, (f a).Uses allowed) : (p.bind f).Uses allowed := by
  induction p with
  | pure a => exact second a
  | panic e => trivial
  | ask q resume ih => exact ⟨first.1, fun a => ih a (first.2 a)⟩

theorem Uses.mono {wider : Request → Prop} (h : p.Uses allowed)
    (wide : ∀ q, allowed q → wider q) : p.Uses wider := by
  induction p with
  | pure a => trivial
  | panic e => trivial
  | ask q resume ih => exact ⟨wide q h.1, fun a => ih a (h.2 a)⟩

theorem Uses.caught (h : p.Uses allowed) : p.caught.Uses allowed := by
  induction p with
  | pure a => trivial
  | panic e => trivial
  | ask q resume ih => exact ⟨h.1, fun a => ih a (h.2 a)⟩

theorem Uses.thenAlways {after : Program Unit} (first : p.Uses allowed)
    (second : after.Uses allowed) : (p.thenAlways after).Uses allowed :=
  first.caught.bind fun r => second.bind fun _ => uses_ofAnswer r

theorem Uses.reaches (h : p.Uses allowed) (r : p.Reaches past rest) : rest.Uses allowed := by
  induction r with
  | refl => exact h
  | ask _ ih => exact ih (h.2 _)

/-- What a program has asked is of the sort that it uses. -/
theorem Uses.of_mem (h : p.Uses allowed) (r : p.Reaches past rest) :
    ∀ x ∈ past, allowed x.request := by
  induction r with
  | refl =>
      intro x inside
      cases inside
  | ask _ ih =>
      intro x inside
      rcases List.mem_cons.mp inside with rfl | later
      · exact h.1
      · exact ih (h.2 _) x later

end Program
end TokenKeeper
