import Mathlib.Data.List.Induction
import TokenKeeper.Proofs.Machine.Basic
import TokenKeeper.Proofs.Program.Contract

/-!
# Steps and runs

What holds of every step of a machine and of every run: a run can be cut at each of its labels,
each deed is one that its program can come to, its answer is the one that the shared state gives
where it gives one, and the shared state changes by the request alone.
-/

namespace TokenKeeper

/-- What a list is filtered to becomes longer by at most one. -/
theorem filterMap_snoc {α β : Type} (f : α → Option β) (l : List α) (a : α) :
    (l ++ [a]).filterMap f = l.filterMap f ++ (f a).toList := by
  rw [List.filterMap_append, List.filterMap_cons]
  cases f a <;> rfl

/-- A program that was told what was to be reckoned with has ended as its contract says. -/
theorem Program.Meets.ended {α : Type} {told : List Exchange → Exchange → Prop}
    {asks : List Exchange → Request → Prop} {ends : List Exchange → Except Panic α → Prop}
    {p rest : Program α} {before past : List Exchange} {r : Except Panic α}
    (contract : p.Meets told asks ends before) (reached : p.Reaches past rest)
    (ended : rest.ended? = some r)
    (said : ∀ earlier x later, past = earlier ++ x :: later → told (before ++ earlier) x) :
    ends (before ++ past) r := by
  have met := contract.reaches reached said
  cases rest with
  | ask q resume => cases ended
  | pure output =>
      obtain rfl := Option.some.inj ended
      exact met
  | panic p =>
      obtain rfl := Option.some.inj ended
      exact met

variable {e : Engine} {m m' m'' : Machine e} {trace later : List Label} {l : Label}

namespace Run

theorem trans (first : Run m trace m') (second : Run m' later m'') :
    Run m (trace ++ later) m'' := by
  induction second with
  | refl => rwa [List.append_nil]
  | snoc _ step ih =>
      rw [← List.append_assoc]
      exact ih.snoc step

theorem single (step : Step m l m') : Run m [l] m' := (Run.refl m).snoc step

/-- The last step of a run. -/
theorem last (run : Run m (trace ++ [l]) m'') :
    ∃ middle, Run m trace middle ∧ Step middle l m'' := by
  generalize all : trace ++ [l] = whole at run
  cases run with
  | refl => simp at all
  | @snoc middle _ before last run step =>
      obtain ⟨rfl, same⟩ := List.append_inj' all rfl
      obtain rfl := List.singleton_inj.mp same
      exact ⟨middle, run, step⟩

theorem eq_of_nil (run : Run m [] m') : m' = m := by
  generalize nothing : ([] : List Label) = trace at run
  cases run with
  | refl => rfl
  | snoc => simp at nothing

theorem step_of_single (run : Run m [l] m') : Step m l m' := by
  obtain ⟨middle, none, step⟩ := (show Run m ([] ++ [l]) m' from run).last
  obtain rfl := none.eq_of_nil
  exact step

/-- A run can be cut anywhere. -/
theorem split (run : Run m (trace ++ later) m'') :
    ∃ middle, Run m trace middle ∧ Run middle later m'' := by
  induction later using List.reverseRecOn generalizing m'' with
  | nil => exact ⟨m'', by rwa [List.append_nil] at run, .refl m''⟩
  | append_singleton later l ih =>
      rw [← List.append_assoc] at run
      obtain ⟨before, run, step⟩ := run.last
      obtain ⟨middle, first, second⟩ := ih run
      exact ⟨middle, first, second.snoc step⟩

/-- A run can be cut at a label. -/
theorem cut (run : Run m (trace ++ l :: later) m'') :
    ∃ before after, Run m trace before ∧ Step before l after ∧ Run after later m'' := by
  rw [List.append_cons] at run
  obtain ⟨after, first, second⟩ := run.split
  obtain ⟨before, first, step⟩ := first.last
  exact ⟨before, after, first, step, second⟩

end Run

namespace Machine

/-- Where the shared state has an answer, that is the answer. -/
theorem Permits.answer {members : List (Member e)} {q : Request} {a b : q.Answer}
    (permits : m.Permits members q a) (decided : m.shared.answer? m.alive q = some b) :
    a = b := by
  cases q with
  | spawnWorker => cases decided
  | joinWorker => cases decided
  | together => cases decided
  | backoff => cases decided
  | lockHeartbeat => rfl
  | _ => exact permits b decided

end Machine

namespace Deed

/-- The exchange of a deed is one that its program comes to. -/
def Sound (e : Engine) (d : Deed) : Prop :=
  match d.member with
  | none => ∃ resume, (d.duty.program e).Reaches d.past (.ask d.exchange.request resume)
  | some (_, job) => ∃ resume,
      (Engine.serveEndpoint job e.policy.immediateRetries).Reaches d.past
        (.ask d.exchange.request resume)

theorem Sound.reaches {d : Deed} (sound : d.Sound e) (own : d.member = none) :
    ∃ resume, (d.duty.program e).Reaches d.past (.ask d.exchange.request resume) := by
  unfold Sound at sound
  rw [own] at sound
  exact sound

end Deed

namespace Thread

variable {t : Thread e} {j : Nat}

/-- The endpoint of a member is one that its task waits for. -/
theorem waits_of_member {mem : Member e} (inside : t.members[j]? = some mem) :
    ∃ jobs resume, t.rest = .ask (.together jobs) resume ∧ jobs[j]? = some mem.job := by
  have isJob : t.rest.jobs[j]? = some mem.job := by
    rw [← t.joint, List.getElem?_map, inside]
    rfl
  cases rest : t.rest with
  | ask q resume =>
      rw [rest] at isJob
      cases q with
      | together jobs => exact ⟨jobs, resume, rfl, isJob⟩
      | _ => cases isJob
  | pure output =>
      rw [rest] at isJob
      cases isJob
  | panic p =>
      rw [rest] at isJob
      cases isJob

end Thread

namespace Step

variable {d : Deed}

theorem sound (step : Step m (.did d) m') : d.Sound e := by
  cases step with
  | @tell i t q resume a here asks permits => exact ⟨resume, asks ▸ t.sound⟩
  | @tellMember i j t mem q resume a here inside asks permits => exact ⟨resume, asks ▸ mem.sound⟩

/-- The request alone changes the shared state. -/
theorem shared (step : Step m (.did d) m') :
    m'.shared = m.shared.after m.alive d.exchange.request := by
  cases step <;> rfl

theorem shared_of_began {c : Call} (step : Step m (.began c) m') : m'.shared = m.shared := by
  cases step
  rfl

theorem shared_of_dropped {c : Connection} (step : Step m (.dropped c) m') :
    m'.shared = m.shared := by
  cases step
  rfl

theorem alive (step : Step m (.did d) m') : m'.alive = m.alive := by
  cases step <;> rfl

/-- A deed has the answer that the shared state gives. -/
theorem answer {q : Request} {a b : q.Answer} (step : Step m (.did d) m')
    (exchange : d.exchange = ⟨q, a⟩) (decided : m.shared.answer? m.alive q = some b) :
    a = b := by
  cases step with
  | tell here asks permits =>
      cases exchange
      exact permits.answer decided
  | tellMember here inside asks permits =>
      cases exchange
      exact permits.answer decided

/-- The task of a deed. -/
theorem actor (step : Step m (.did d) m') :
    ∃ t, m.threads[d.thread]? = some t ∧ t.duty = d.duty ∧
      (d.member = none → t.past = d.past ∧ ∃ resume, t.rest = .ask d.exchange.request resume) := by
  cases step with
  | @tell i t q resume a here asks permits => exact ⟨t, here, rfl, fun _ => ⟨rfl, resume, asks⟩⟩
  | @tellMember i j t mem q resume a here inside asks permits =>
      exact ⟨t, here, rfl, fun none => nomatch none⟩

/-- A member acts while its task waits for it. -/
theorem waits {j : Nat} {job : EndpointJob} (step : Step m (.did d) m')
    (member : d.member = some (j, job)) :
    ∃ t mem jobs resume, m.threads[d.thread]? = some t ∧ t.duty = d.duty ∧
      t.rest = .ask (.together jobs) resume ∧ t.members[j]? = some mem ∧ mem.job = job ∧
        mem.past = d.past ∧ jobs[j]? = some job := by
  cases step with
  | tell => cases member
  | @tellMember i place t mem q resume a here inside asks permits =>
      obtain ⟨rfl, rfl⟩ := Prod.mk.inj (Option.some.inj member)
      obtain ⟨jobs, resume', rest, isJob⟩ := Thread.waits_of_member inside
      exact ⟨t, mem, jobs, resume', here, rfl, rest, inside, rfl, rfl, isJob⟩

/-- The member of a deed is one that its task waits for. -/
theorem crew {j : Nat} {job : EndpointJob} (step : Step m (.did d) m')
    (member : d.member = some (j, job)) :
    ∃ past jobs resume, (d.duty.program e).Reaches past (.ask (.together jobs) resume) ∧
      job ∈ jobs := by
  obtain ⟨t, _, jobs, resume, _, duty, rest, _, _, _, isJob⟩ := step.waits member
  exact ⟨t.past, jobs, resume, duty ▸ rest ▸ t.sound, List.mem_of_getElem? isJob⟩

/-- Tasks stay where they are, and new ones come after them. -/
theorem length_le (step : Step m l m') : m.threads.length ≤ m'.threads.length := by
  cases step with
  | begin => simp
  | tell => simp [Machine.tell]
  | tellMember => simp [Machine.tell]
  | drop => exact Nat.le_refl _

end Step

namespace Run

variable {d : Deed}

theorem sound (run : Run m trace m') (happened : .did d ∈ trace) : d.Sound e := by
  obtain ⟨earlier, later, rfl⟩ := List.append_of_mem happened
  obtain ⟨_, _, _, step, _⟩ := run.cut
  exact step.sound

theorem length_le (run : Run m trace m') : m.threads.length ≤ m'.threads.length := by
  induction run with
  | refl => exact Nat.le_refl _
  | snoc _ step ih => exact Nat.le_trans ih step.length_le

end Run
end TokenKeeper
