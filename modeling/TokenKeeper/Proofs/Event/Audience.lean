import Mathlib.Logic.Function.Basic
import TokenKeeper.Event.Subscriptions
import TokenKeeper.Proofs.Machine.Run

/-!
# A machine with its subscribers

In a machine a task that tells the subscribers goes on at some time. A hall is a machine together
with what happens until then: the task calls the handlers that are registered for its event, each
call comes to an end as its handler lets it, and once all have ended the task goes on and the log
has a line for each handler that misbehaved. What the handlers do leaves no trace in the machine,
and a task never waits for more than the calls that it has made. So halls with any audiences go the
same ways.
-/

namespace TokenKeeper

variable {e : Engine} {m m' : Machine e} {trace later : List Label} {l : Label} {d : Deed}
variable {Handler : Type}

/-- Who asks: a task, or a member of a task. -/
abbrev Seat := Nat × Option Nat

def Deed.seat (d : Deed) : Seat := (d.thread, d.member.map (·.1))

/-- What is asked at a seat. -/
def Machine.requestAt (m : Machine e) : Seat → Option Request
  | (i, none) => m.threads[i]?.bind fun t => t.rest.request?
  | (i, some j) => m.threads[i]?.bind fun t => t.members[j]?.bind fun mem => mem.rest.request?

/-- A deed answers what is asked at its seat. -/
theorem Step.requestAt (step : Step m (.did d) m') :
    m.requestAt d.seat = some d.exchange.request := by
  cases step with
  | tell here asks permits =>
      simp only [Deed.seat, Machine.requestAt, Option.map_none, here, Option.bind_some, asks]
      rfl
  | tellMember here inside asks permits =>
      simp only [Deed.seat, Machine.requestAt, Option.map_some, here, inside, Option.bind_some,
        asks]
      rfl

/-- Subscribers, and how the calls of their handlers may end. Every call does: a handler that goes
on for too long is not waited for. -/
structure Audience (Handler : Type) where
  subscriptions : Subscriptions Handler
  ends : Handler → Event → HandlerRun → Prop
  settles : ∀ handler event, ∃ run, ends handler event run

namespace Dispatch

/-- How many calls are not over. -/
def unsettled (d : Dispatch Handler) : Nat := d.calls.countP fun c => c.2.isNone

theorem unsettled_settle {d : Dispatch Handler} {k : Nat} {handler : Handler} (run : HandlerRun)
    (waits : d.calls[k]? = some (handler, none)) :
    (d.settle k run).unsettled < d.unsettled := by
  obtain ⟨before, call, after, calls, rfl, settled⟩ := List.exists_of_modify
    (fun c : Handler × Option HandlerRun => (c.1, c.2.or (some run)))
    (List.getElem?_eq_some_iff.mp waits).1
  obtain rfl : call = (handler, none) := by simpa [calls] using waits
  rw [unsettled, unsettled, settle, settled, calls]
  simp

theorem exists_unsettled {d : Dispatch Handler} (undone : d.isDone = false) :
    ∃ (k : Nat) (handler : Handler), d.calls[k]? = some (handler, none) := by
  obtain ⟨⟨handler, run⟩, inside, waits⟩ := List.all_eq_false.mp undone
  obtain ⟨k, here⟩ := List.getElem?_of_mem inside
  cases run with
  | none => exact ⟨k, handler, here⟩
  | some run => exact absurd rfl waits

end Dispatch

/-- A machine, the dispatches that its tasks wait for, and the log. -/
structure Hall (e : Engine) (Handler : Type) where
  machine : Machine e
  pending : Seat → Option (Dispatch Handler) := fun _ => none
  log : List HandlerError := []

namespace Hall

variable {s : Audience Handler} {h h' h'' : Hall e Handler}

/-- The dispatches that are still waited for. -/
def awaited (m : Machine e) (pending : Seat → Option (Dispatch Handler)) :
    Seat → Option (Dispatch Handler) :=
  fun seat => (pending seat).filter fun d => m.requestAt seat = some (.notify d.event)

/-- A dispatch is what this seat waits for. -/
def wait (h : Hall e Handler) (seat : Seat) (d : Dispatch Handler) : Hall e Handler :=
  { h with pending := Function.update h.pending seat (some d) }

@[simp] theorem machine_wait (seat : Seat) (d : Dispatch Handler) :
    (h.wait seat d).machine = h.machine := rfl

@[simp] theorem pending_wait (seat : Seat) (d : Dispatch Handler) :
    (h.wait seat d).pending seat = some d := Function.update_self ..

theorem pending_wait_of_ne {seat other : Seat} (d : Dispatch Handler) (ne : other ≠ seat) :
    (h.wait seat d).pending other = h.pending other := Function.update_of_ne ne ..

@[simp] theorem wait_wait (seat : Seat) (d d' : Dispatch Handler) :
    (h.wait seat d).wait seat d' = h.wait seat d' := by
  simp [wait]

/-- One step: of the machine, or of a dispatch. -/
inductive Step (s : Audience Handler) (h : Hall e Handler) :
    Option Label → Hall e Handler → Prop
  | act {l : Label} {m : Machine e} : TokenKeeper.Step h.machine l m →
      (∀ d event, l = .did d → d.exchange.request ≠ .notify event) →
      Step s h (some l) { h with machine := m, pending := awaited m h.pending }
  | call {seat : Seat} {event : Event} : h.machine.requestAt seat = some (.notify event) →
      h.pending seat = none →
      Step s h none (h.wait seat (s.subscriptions.dispatch event))
  /-- A call comes to an end. -/
  | settle {seat : Seat} {d : Dispatch Handler} {k : Nat} {handler : Handler} {run : HandlerRun} :
      h.pending seat = some d → d.calls[k]? = some (handler, none) → s.ends handler d.event run →
      Step s h none (h.wait seat (d.settle k run))
  | told {m : Machine e} {d : Deed} {dispatch : Dispatch Handler} :
      TokenKeeper.Step h.machine (.did d) m → d.exchange.request = .notify dispatch.event →
      h.pending d.seat = some dispatch → dispatch.isDone = true →
      Step s h (some (.did d)) ⟨m, awaited m (Function.update h.pending d.seat none),
        h.log ++ dispatch.warnings s.subscriptions.timeout⟩

/-- A run, with what happened in the machine. -/
inductive Run (s : Audience Handler) : Hall e Handler → List Label → Hall e Handler → Prop
  | refl (h : Hall e Handler) : Run s h [] h
  | snoc {h h' h'' : Hall e Handler} {trace : List Label} {l : Option Label} :
      Run s h trace h' → Step s h' l h'' → Run s h (trace ++ l.toList) h''

/-- What happens in the machine of a hall is a run of that machine. -/
theorem Run.machine (run : Run s h trace h') : TokenKeeper.Run h.machine trace h'.machine := by
  induction run with
  | refl => exact .refl _
  | snoc _ step ih =>
      cases step with
      | act step => exact ih.snoc step
      | call => simpa using ih
      | settle => simpa using ih
      | told step => exact ih.snoc step

theorem Run.trans (first : Run s h trace h') (second : Run s h' later h'') :
    Run s h (trace ++ later) h'' := by
  induction second with
  | refl => rwa [List.append_nil]
  | snoc _ step ih =>
      rw [← List.append_assoc]
      exact ih.snoc step

/-- Whatever is waited for is what its task has asked for. -/
def Attentive (h : Hall e Handler) : Prop :=
  ∀ seat d, h.pending seat = some d → h.machine.requestAt seat = some (.notify d.event)

theorem attentive_of_awaited {log : List HandlerError}
    {pending : Seat → Option (Dispatch Handler)} :
    (⟨m, awaited m pending, log⟩ : Hall e Handler).Attentive := by
  intro seat d waits
  simpa using (Option.filter_eq_some_iff.mp waits).2

/-- All calls of a dispatch can come to their ends. -/
theorem Run.settles {seat : Seat} {d : Dispatch Handler} (waits : h.pending seat = some d) :
    ∃ d', d'.isDone = true ∧ d'.event = d.event ∧ Run s h [] (h.wait seat d') := by
  generalize size : d.unsettled = n
  induction n using Nat.strongRecOn generalizing h d with
  | _ n ih =>
      cases done : d.isDone with
      | true =>
          refine ⟨d, done, rfl, ?_⟩
          rw [wait, ← waits, Function.update_eq_self]
          exact .refl h
      | false =>
          obtain ⟨k, handler, calls⟩ := Dispatch.exists_unsettled done
          obtain ⟨run, ends⟩ := s.settles handler d.event
          obtain ⟨d', isDone, event, rest⟩ := ih _ (size ▸ Dispatch.unsettled_settle run calls)
            (pending_wait seat (d.settle k run)) rfl
          have whole := ((Run.refl h).snoc (.settle waits calls ends)).trans rest
          rw [wait_wait] at whole
          exact ⟨d', isDone, event, whole⟩

theorem Attentive.wait {seat : Seat} {d : Dispatch Handler} (attentive : h.Attentive)
    (asks : h.machine.requestAt seat = some (.notify d.event)) : (h.wait seat d).Attentive := by
  intro other d' waits
  by_cases same : other = seat
  · subst same
    rw [pending_wait] at waits
    rw [← Option.some.inj waits]
    exact asks
  · rw [pending_wait_of_ne d same] at waits
    exact attentive other d' waits

theorem Step.attentive {l : Option Label} (step : Step s h l h') (attentive : h.Attentive) :
    h'.Attentive := by
  cases step with
  | act => exact attentive_of_awaited
  | told => exact attentive_of_awaited
  | call asks free => exact attentive.wait asks
  | settle waits calls ends =>
      apply attentive.wait
      rw [Dispatch.event_settle]
      exact attentive _ _ waits

theorem Run.attentive (run : Run s h trace h') (attentive : h.Attentive) : h'.Attentive := by
  induction run with
  | refl => exact attentive
  | snoc _ step ih => exact step.attentive ih

end Hall
end TokenKeeper
