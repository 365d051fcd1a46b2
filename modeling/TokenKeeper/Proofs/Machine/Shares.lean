import Mathlib.Data.List.Perm.Basic
import TokenKeeper.Proofs.Machine.Threads

/-!
# The share of each task in a run

The exchanges of a run are those of its tasks, interleaved. What one task did itself is its past,
and what is counted over the whole run may be counted task by task: lists of what is to be seen of
the exchanges agree, up to the order between tasks, if they agree for each task.
-/

namespace TokenKeeper

variable {e : Engine} {m m' : Machine e} {trace : List Label} {l : Label} {i : Nat} {α : Type}

/-- What the task of a number has asked and been told; nothing, if there is no such task. -/
def Machine.pastOf (m : Machine e) (i : Nat) : List Exchange :=
  (m.threads[i]?.map (·.past)).getD []

/-- The exchange of a step, if a task had it itself. -/
def Label.own? (i : Nat) : Label → Option Exchange
  | .did ⟨j, _, none, _, x⟩ => if j = i then some x else none
  | _ => none

namespace Machine

theorem pastOf_of_some {t : Thread e} (here : m.threads[i]? = some t) : m.pastOf i = t.past := by
  rw [pastOf, here]
  rfl

theorem pastOf_of_none (absent : m.threads[i]? = none) : m.pastOf i = [] := by
  rw [pastOf, absent]
  rfl

end Machine

theorem Label.deed_of_own? {x : Exchange} (own : l.own? i = some x) :
    ∃ d, l = .did d ∧ d.thread = i ∧ d.member = none ∧ d.exchange = x := by
  unfold own? at own
  split at own
  · rename_i j duty past y
    split at own
    · rename_i same
      exact ⟨_, rfl, same, rfl, Option.some.inj own⟩
    · cases own
  · cases own

/-- A task that is there only after an answer to another one has no past. -/
theorem Machine.past_of_new {k : Nat} {t t' : Thread e} {q : Request}
    (inside : k < m.threads.length) (absent : m.threads[i]? = none)
    (here : (m.tell k t q).threads[i]? = some t') : t'.past = [] := by
  rcases Machine.getElem?_tell inside here with ⟨rfl, _⟩ | ⟨_, old⟩ | ⟨_, _, _, rfl⟩
  · exact absurd inside (Nat.not_lt.mpr (List.getElem?_eq_none_iff.mp absent))
  · rw [old] at absent
    cases absent
  · rfl

theorem Step.past_of_new {t : Thread e} (step : Step m l m') (absent : m.threads[i]? = none)
    (here : m'.threads[i]? = some t) : t.past = [] := by
  cases step with
  | begin c =>
      rw [List.getElem?_append_right (List.getElem?_eq_none_iff.mp absent),
        List.getElem?_singleton] at here
      split at here
      · rw [← Option.some.inj here]
        rfl
      · cases here
  | tell now asks permits =>
      exact Machine.past_of_new (List.getElem?_eq_some_iff.mp now).1 absent here
  | tellMember now within asks permits =>
      exact Machine.past_of_new (List.getElem?_eq_some_iff.mp now).1 absent here
  | drop c =>
      rw [absent] at here
      cases here

/-- A step adds its exchange to the past of the task that had it, and to no other. -/
theorem Step.pastOf (step : Step m l m') : m'.pastOf i = m.pastOf i ++ (l.own? i).toList := by
  cases own : l.own? i with
  | some x =>
      obtain ⟨d, rfl, rfl, alone, rfl⟩ := Label.deed_of_own? own
      obtain ⟨t, here, _, known⟩ := step.actor
      obtain ⟨t', there, _, added⟩ := step.recorded alone
      rw [Machine.pastOf_of_some here, Machine.pastOf_of_some there, added, (known alone).1]
      rfl
  | none =>
      rw [Option.toList_none, List.append_nil]
      cases here : m.threads[i]? with
      | some t =>
          obtain ⟨t', there, _, same | ⟨x, rfl, _⟩⟩ := step.past here
          · rw [Machine.pastOf_of_some here, Machine.pastOf_of_some there, same]
          · exact absurd (own.symm.trans (if_pos rfl)) (by simp)
      | none =>
          rw [Machine.pastOf_of_none here]
          cases there : m'.threads[i]? with
          | some t => rw [Machine.pastOf_of_some there, step.past_of_new here there]
          | none => exact Machine.pastOf_of_none there

/-- What a task has done itself in a run is what its past has become longer by. -/
theorem Run.pastOf (run : Run m trace m') :
    m'.pastOf i = m.pastOf i ++ trace.filterMap (Label.own? i) := by
  induction run with
  | refl => rw [List.filterMap_nil, List.append_nil]
  | @snoc _ _ before l _ step ih =>
      rw [step.pastOf, ih, filterMap_snoc, List.append_assoc]

/-- What is to be seen of the exchanges of a run, each with the number of its task. -/
def sightings (see : Exchange → Option α) (trace : List Label) : List (Nat × α) :=
  trace.filterMap fun
    | .did d => (see d.exchange).map (d.thread, ·)
    | _ => none

/-- What belongs to one task. -/
def shareOf (i : Nat) (l : List (Nat × α)) : List α :=
  l.filterMap fun x => if x.1 = i then some x.2 else none

theorem mem_shareOf {a : α} {l : List (Nat × α)} :
    a ∈ shareOf i l ↔ (i, a) ∈ l := by
  rw [shareOf, List.mem_filterMap]
  constructor
  · rintro ⟨⟨k, b⟩, inside, same⟩
    split at same
    · rename_i number
      obtain rfl := Option.some.inj same
      obtain rfl : k = i := number
      exact inside
    · cases same
  · exact fun inside => ⟨(i, a), inside, if_pos rfl⟩

theorem shareOf_append (i : Nat) (l l' : List (Nat × α)) :
    shareOf i (l ++ l') = shareOf i l ++ shareOf i l' := List.filterMap_append

/-- Lists whose shares are told by one script are told by whose turn it is. -/
theorem prefix_of_turns {script : Nat → List α} {l l' : List (Nat × α)}
    (told : ∀ i, shareOf i l <+: script i) (told' : ∀ i, shareOf i l' <+: script i)
    (turns : l.map (·.1) <+: l'.map (·.1)) : l <+: l' := by
  induction l using List.reverseRecOn with
  | nil => exact List.nil_prefix
  | append_singleton l x ih =>
      obtain ⟨i, a⟩ := x
      rw [List.map_append] at turns
      obtain ⟨rest, rfl⟩ := ih
        (fun k => (shareOf_append k l _ ▸ List.prefix_append _ _).trans (told k))
        ((List.prefix_append _ _).trans turns)
      rw [List.map_append, List.prefix_append_right_inj] at turns
      cases rest with
      | nil => simp at turns
      | cons y rest =>
          obtain ⟨k, b⟩ := y
          obtain ⟨rfl, _⟩ := List.cons_prefix_cons.mp turns
          have first := told i
          have second := told' i
          rw [shareOf_append, show shareOf i [(i, a)] = [a] by simp [shareOf]] at first
          rw [shareOf_append, show shareOf i ((i, b) :: rest) = b :: shareOf i rest by
            simp [shareOf]] at second
          obtain ⟨tail, whole⟩ := first
          obtain ⟨tail', whole'⟩ := second
          rw [← whole', List.append_assoc, List.append_assoc, List.append_cancel_left_eq] at whole
          obtain rfl := (List.cons.inj whole).1
          exact ⟨rest, by simp⟩

theorem count_shareOf [DecidableEq α] (i : Nat) (a : α) (l : List (Nat × α)) :
    (shareOf i l).count a = l.count (i, a) := by
  induction l with
  | nil => rfl
  | cons x l ih =>
      obtain ⟨j, b⟩ := x
      by_cases same : j = i
      · subst same
        rw [shareOf, List.filterMap_cons, if_pos rfl, ← shareOf, List.count_cons, List.count_cons,
          ih]
        simp
      · rw [shareOf, List.filterMap_cons, if_neg same, ← shareOf, ih,
          List.count_cons_of_ne (by simp [same])]

/-- Lists are the same up to order if they are the same for each task. -/
theorem perm_of_shareOf_eq [DecidableEq α] {l l' : List (Nat × α)}
    (same : ∀ i, shareOf i l = shareOf i l') : l.Perm l' := by
  apply List.perm_iff_count.mpr
  intro x
  rw [← count_shareOf, ← count_shareOf, same]

/-- Where nothing is to be seen of members, the share of a task is what is seen of its past. -/
theorem Run.shareOf_sightings {see : Exchange → Option α} (run : Run ({} : Machine e) trace m)
    (blind : ∀ d, .did d ∈ trace → d.member ≠ none → see d.exchange = none) :
    shareOf i (sightings see trace) = (m.pastOf i).filterMap see := by
  rw [run.pastOf, Machine.pastOf_of_none rfl, List.nil_append, shareOf, sightings,
    List.filterMap_filterMap, List.filterMap_filterMap]
  apply List.filterMap_congr
  intro l inside
  cases l with
  | began c => rfl
  | dropped c => rfl
  | did d =>
      obtain ⟨j, duty, member, past, x⟩ := d
      cases member with
      | none => by_cases same : j = i <;> cases seen : see x <;> simp [Label.own?, same, seen]
      | some member => simp [Label.own?, blind _ inside (by simp)]

end TokenKeeper
