import TokenKeeper.Proofs.Machine.Shares

/-!
# The share of each member in a run

While a task waits for its members, what one of them did in a run is its past. The task is told
once they are settled, and with that they are gone. So what the members of a task did in a run is
what their pasts were when the task was told, if it waits for members only once.
-/

namespace TokenKeeper

variable {e : Engine} {m m' : Machine e} {trace : List Label} {l : Label} {i j : Nat}
variable {t t' : Thread e} {d : Deed}

def Request.isTogether : Request → Bool
  | together _ => true
  | _ => false

/-- What the member in a place has asked and been told; nothing, if there is no such member. -/
def Thread.memberPast (t : Thread e) (j : Nat) : List Exchange :=
  (t.members[j]?.map (·.past)).getD []

/-- What the member of a task has asked and been told; nothing, if there is no such member. -/
def Machine.memberPast (m : Machine e) (i j : Nat) : List Exchange :=
  (m.threads[i]?.map (·.memberPast j)).getD []

/-- The exchange of a step, if the member in this place had it. -/
def Label.served? (i j : Nat) : Label → Option Exchange
  | .did ⟨k, _, some (place, _), _, x⟩ => if k = i ∧ place = j then some x else none
  | _ => none

namespace Thread

theorem memberPast_of_some {mem : Member e} (inside : t.members[j]? = some mem) :
    t.memberPast j = mem.past := by
  rw [memberPast, inside]
  rfl

theorem memberPast_of_none (absent : t.members[j]? = none) : t.memberPast j = [] := by
  rw [memberPast, absent]
  rfl

/-- Members that have just come have done nothing. -/
theorem memberPast_of_fresh {α : Type} {p : Program α} (fresh : t.members = crew p) :
    t.memberPast j = [] := by
  rw [memberPast, fresh, crew, List.getElem?_map]
  cases p.jobs[j]? <;> rfl

/-- A task that does not wait for members has none. -/
theorem members_of_other {q : Request} {resume : q.Answer → Program Output}
    (asks : t.rest = .ask q resume) (other : q.isTogether = false) : t.members = [] := by
  have jobs : t.rest.jobs = [] := by
    rw [asks]
    cases q with
    | together => cases other
    | _ => rfl
  exact List.map_eq_nil_iff.mp (t.joint.trans jobs)

end Thread

namespace Machine

theorem memberPast_of_some (here : m.threads[i]? = some t) :
    m.memberPast i j = t.memberPast j := by
  rw [memberPast, here]
  rfl

theorem memberPast_of_none (absent : m.threads[i]? = none) : m.memberPast i j = [] := by
  rw [memberPast, absent]
  rfl

/-- Another task's members are not touched by an answer to this one. -/
theorem memberPast_tell_of_ne {k : Nat} {q : Request} (inside : k < m.threads.length)
    (other : k ≠ i) : (m.tell k t q).memberPast i j = m.memberPast i j := by
  cases here : m.threads[i]? with
  | some t' =>
      rw [memberPast_of_some here, memberPast_of_some (getElem?_tell_of_ne here other)]
  | none =>
      rw [memberPast_of_none here]
      cases there : (m.tell k t q).threads[i]? with
      | none => exact memberPast_of_none there
      | some t' =>
          rw [memberPast_of_some there]
          rcases getElem?_tell inside there with ⟨same, _⟩ | ⟨_, old⟩ | ⟨duty, _, _, rfl⟩
          · exact absurd same.symm other
          · rw [old] at here
            cases here
          · exact Thread.memberPast_of_fresh rfl

end Machine

/-- A step adds its exchange to the past of the member that had it, and to no other, until the task
of the member is told. -/
theorem Step.memberPast (step : Step m l m')
    (untold : ∀ x ∈ m'.pastOf i, x.request.isTogether = false) :
    m'.memberPast i j = m.memberPast i j ++ (l.served? i j).toList := by
  cases step with
  | begin c =>
      rw [show Label.served? i j (.began c) = none from rfl, Option.toList_none, List.append_nil]
      cases here : m.threads[i]? with
      | some t =>
          rw [Machine.memberPast_of_some here, Machine.memberPast_of_some]
          rw [List.getElem?_append_left (List.getElem?_eq_some_iff.mp here).1, here]
      | none =>
          rw [Machine.memberPast_of_none here, Machine.memberPast,
            List.getElem?_append_right (List.getElem?_eq_none_iff.mp here), List.getElem?_singleton]
          split
          · exact Thread.memberPast_of_fresh rfl
          · rfl
  | drop c => exact (List.append_nil _).symm
  | @tell k t q resume a here asks permits =>
      have inside := (List.getElem?_eq_some_iff.mp here).1
      rw [show Label.served? i j (.did ⟨k, t.duty, none, t.past, ⟨q, a⟩⟩) = none from rfl,
        Option.toList_none, List.append_nil]
      by_cases same : k = i
      · subst same
        have now := Machine.getElem?_tell_self (q := q) (t := t.tell asks a) inside
        have other : q.isTogether = false := by
          refine untold ⟨q, a⟩ ?_
          rw [Machine.pastOf_of_some now]
          exact List.mem_append_right _ List.mem_cons_self
        rw [Machine.memberPast_of_some now, Machine.memberPast_of_some here,
          Thread.memberPast_of_fresh rfl, Thread.memberPast_of_none]
        rw [Thread.members_of_other asks other]
        rfl
      · exact Machine.memberPast_tell_of_ne inside same
  | @tellMember k place t mem q resume a here within asks permits =>
      have inside := (List.getElem?_eq_some_iff.mp here).1
      by_cases same : k = i
      · subst same
        rw [Machine.memberPast_of_some here, Machine.memberPast_of_some
          (Machine.getElem?_tell_self (q := q) (t := t.tellMember within asks a) inside)]
        have low := (List.getElem?_eq_some_iff.mp within).1
        by_cases its : place = j
        · subst its
          rw [Thread.memberPast_of_some within, Thread.memberPast_of_some
            (show (t.tellMember within asks a).members[place]? = some (mem.tell asks a) from
              List.getElem?_set_self low)]
          simp [Label.served?, Member.tell]
        · have kept : (t.tellMember within asks a).members[j]? = t.members[j]? :=
            List.getElem?_set_ne its
          rw [Thread.memberPast, kept, ← Thread.memberPast]
          simp [Label.served?, its]
      · rw [Machine.memberPast_tell_of_ne inside same]
        simp [Label.served?, same]

/-- Until its task is told, what a member has done in a run is what its past has become longer
by. -/
theorem Run.memberPast (run : Run m trace m')
    (untold : ∀ x ∈ m'.pastOf i, x.request.isTogether = false) :
    m'.memberPast i j = m.memberPast i j ++ trace.filterMap (Label.served? i j) := by
  induction run with
  | refl => rw [List.filterMap_nil, List.append_nil]
  | @snoc _ _ before l _ step ih =>
      rw [step.memberPast untold, ih, filterMap_snoc, List.append_assoc]
      intro x inside
      refine untold x ?_
      rw [step.pastOf]
      exact List.mem_append_left _ inside

/-- A task that is told of its members has waited for them until they were settled. -/
theorem Step.settled {jobs : List EndpointJob} {r : Except Panic (List AuthReply)}
    (step : Step m (.did d) m') (own : d.member = none) (asks : d.exchange = ⟨.together jobs, r⟩) :
    ∃ t resume, m.threads[d.thread]? = some t ∧ t.past = d.past ∧
      t.rest = .ask (.together jobs) resume ∧ Settled t.members r ∧
        t.members.map (·.job) = jobs := by
  cases step with
  | @tell i t q resume a here rest permits =>
      cases asks
      exact ⟨t, resume, here, rfl, rest, permits, by rw [t.joint, rest]; rfl⟩
  | tellMember => cases own

end TokenKeeper
