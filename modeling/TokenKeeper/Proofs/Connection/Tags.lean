import TokenKeeper.Proofs.Connection.Numbers

/-!
# Tags along a run

An entry of the registry keeps its number and its connection, and its tag only moves forward. A
number that was given out and is gone does not come back. So an entry at the end of a run was
there ever since it was tracked, and its tag is the one that it was tracked with or the expiry
of a mark that was made in the run, and no earlier than any of these.
-/

namespace TokenKeeper

namespace Instant

theorem le_latest_left (a b : Instant) : a ≤ a.latest b := by
  unfold latest
  split
  · assumption
  · exact le_refl a

theorem le_latest_right (a b : Instant) : b ≤ a.latest b := by
  unfold latest
  split
  · exact le_refl b
  · rename_i h
    exact le_of_lt (not_le.mp h)

theorem latest_eq_or (a b : Instant) : a.latest b = a ∨ a.latest b = b := by
  unfold latest
  split
  · exact .inr rfl
  · exact .inl rfl

end Instant

/-- An entry, and the same entry at some later time. -/
structure Tracked.Becomes (x y : Tracked) : Prop where
  id : y.id = x.id
  connection : y.connection = x.connection
  tag : x.tag ≤ y.tag

namespace Tracked.Becomes

variable {x y z : Tracked}

theorem refl (x : Tracked) : x.Becomes x := ⟨rfl, rfl, Instant.le_refl _⟩

theorem trans (first : x.Becomes y) (second : y.Becomes z) : x.Becomes z :=
  ⟨second.id.trans first.id, second.connection.trans first.connection,
    Instant.le_trans first.tag second.tag⟩

end Tracked.Becomes

/-- Where an entry comes from after a request: it was just tracked, or it was there and has kept
its tag unless the request was a mark. -/
theorem Shared.entry_after {s : Shared} {alive : Connection → Bool} {q : Request} {x : Tracked}
    (inside : x ∈ (s.after alive q).registry.entries) :
    (∃ y ∈ s.registry.entries, y.Becomes x ∧ (x.tag = y.tag ∨ q = .mark x.id x.tag)) ∨
      q = .track x.connection x.tag ∧ x.id = ⟨s.registry.nextId⟩ ∧
        s.registry.entryOf? x.connection = none := by
  cases q with
  | track c tag =>
      simp only [after, Registry.track] at inside
      split at inside
      · exact .inl ⟨x, inside, .refl x, .inl rfl⟩
      · rename_i untracked
        rcases List.mem_append.mp inside with old | new
        · exact .inl ⟨x, old, .refl x, .inl rfl⟩
        · obtain rfl := List.mem_singleton.mp new
          exact .inr ⟨rfl, rfl, untracked⟩
  | stale expiry => exact .inl ⟨x, (List.mem_filter.mp inside).1, .refl x, .inl rfl⟩
  | untrack id => exact .inl ⟨x, (List.mem_filter.mp inside).1, .refl x, .inl rfl⟩
  | mark id expiry =>
      obtain ⟨y, old, rfl⟩ := List.mem_map.mp inside
      refine .inl ⟨y, old, ?_⟩
      split
      · rename_i same
        refine ⟨⟨rfl, rfl, Instant.le_latest_left _ _⟩, ?_⟩
        rcases Instant.latest_eq_or y.tag expiry with kept | moved
        · exact .inl kept
        · exact .inr (by rw [moved, same])
      · exact ⟨.refl y, .inl rfl⟩
  | _ => exact .inl ⟨x, inside, .refl x, .inl rfl⟩

theorem Shared.nextId_le_after (s : Shared) (alive : Connection → Bool) (q : Request) :
    s.registry.nextId ≤ (s.after alive q).registry.nextId := by
  cases q with
  | track c tag =>
      simp only [after, Registry.track]
      split
      · exact Nat.le_refl _
      · exact Nat.le_succ _
  | _ => exact Nat.le_refl _

/-- Right after a mark the tag of the number is no earlier than its expiry. -/
theorem Registry.le_tag_of_mark {r : Registry} {id : ConnectionId} {expiry : Instant} {x : Tracked}
    (inside : x ∈ (r.mark id expiry).entries) (same : x.id = id) : expiry ≤ x.tag := by
  obtain ⟨y, _, rfl⟩ := List.mem_map.mp inside
  split
  · exact Instant.le_latest_right _ _
  · rename_i other
    rw [if_neg other] at same
    exact absurd same other

variable {e : Engine} {m m' : Machine e} {trace : List Label} {l : Label} {x : Tracked}

theorem Step.nextId_le (step : Step m l m') :
    m.shared.registry.nextId ≤ m'.shared.registry.nextId := by
  cases l with
  | began c => exact Nat.le_of_eq (by rw [step.shared_of_began])
  | dropped c => exact Nat.le_of_eq (by rw [step.shared_of_dropped])
  | did d =>
      rw [step.shared]
      exact Shared.nextId_le_after _ _ _

theorem Run.nextId_le (run : Run m trace m') :
    m.shared.registry.nextId ≤ m'.shared.registry.nextId := by
  induction run with
  | refl => exact Nat.le_refl _
  | snoc _ step ih => exact Nat.le_trans ih step.nextId_le

/-- Where an entry comes from after a step. -/
theorem Step.entry (step : Step m l m') (inside : x ∈ m'.shared.registry.entries) :
    (∃ y ∈ m.shared.registry.entries, y.Becomes x ∧
      (x.tag = y.tag ∨ ∃ d, l = .did d ∧ d.exchange.request = .mark x.id x.tag)) ∨
    ∃ d, l = .did d ∧ d.exchange = ⟨.track x.connection x.tag, x.id⟩ ∧
      x.id = ⟨m.shared.registry.nextId⟩ := by
  cases l with
  | began c =>
      rw [step.shared_of_began] at inside
      exact .inl ⟨x, inside, .refl x, .inl rfl⟩
  | dropped c =>
      rw [step.shared_of_dropped] at inside
      exact .inl ⟨x, inside, .refl x, .inl rfl⟩
  | did d =>
      rw [step.shared] at inside
      rcases Shared.entry_after inside with ⟨y, old, becomes, tag⟩ | ⟨asks, number, untracked⟩
      · refine .inl ⟨y, old, becomes, tag.imp_right fun asks => ⟨d, rfl, asks⟩⟩
      · refine .inr ⟨d, rfl, ?_, number⟩
        have answered (a : (Request.track x.connection x.tag).Answer)
            (exchange : d.exchange = ⟨.track x.connection x.tag, a⟩) : a = x.id := by
          rw [step.answer exchange rfl, number, Registry.track, untracked]
        obtain ⟨thread, duty, member, past, q, a⟩ := d
        obtain rfl : q = .track x.connection x.tag := asks
        rw [answered a rfl]

/-- An entry with an old number was there before, for the same connection. -/
theorem Run.entry (run : Run m trace m') (inside : x ∈ m'.shared.registry.entries)
    (old : x.id.number < m.shared.registry.nextId) :
    ∃ y ∈ m.shared.registry.entries, y.Becomes x := by
  induction run generalizing x with
  | refl => exact ⟨x, inside, .refl x⟩
  | snoc run step ih =>
      rcases step.entry inside with ⟨y, before, becomes, _⟩ | ⟨d, _, _, number⟩
      · obtain ⟨z, first, earlier⟩ := ih before (becomes.id ▸ old)
        exact ⟨z, first, earlier.trans becomes⟩
      · have grown := run.nextId_le
        rw [number] at old
        exact absurd old (Nat.not_lt.mpr grown)

/-- The tag of a label that tracks a connection under this number. -/
def Label.tracks? (id : ConnectionId) : Label → Option Instant
  | .did ⟨_, _, _, _, ⟨.track _ tag, given⟩⟩ => if given = id then some tag else none
  | _ => none

/-- The tag that a number was first tracked with. -/
def trackedWith? (id : ConnectionId) (trace : List Label) : Option Instant :=
  trace.findSome? (Label.tracks? id)

theorem trackedWith?_snoc (id : ConnectionId) (trace : List Label) (l : Label) :
    trackedWith? id (trace ++ [l]) = (trackedWith? id trace).or (l.tracks? id) := by
  rw [trackedWith?, List.findSome?_append, List.findSome?_singleton]
  rfl

/-- Only numbers below the next one are given out. -/
theorem Step.tracks?_eq_none (step : Step m l m') (ordered : m.shared.registry.Ordered)
    {id : ConnectionId} (high : m'.shared.registry.nextId ≤ id.number) : l.tracks? id = none := by
  unfold Label.tracks?
  split
  · rename_i thread duty member past c tag given
    rw [if_neg]
    rintro rfl
    have answered : given = (m.shared.registry.track c tag).2 := step.answer rfl rfl
    rw [step.shared] at high
    change (m.shared.registry.track c tag).1.nextId ≤ given.number at high
    rw [answered] at high
    unfold Registry.track at high
    split at high
    · rename_i entry found
      have below := ordered.below entry (List.mem_of_find?_eq_some found)
      exact absurd below (Nat.not_lt.mpr high)
    · exact absurd high (Nat.not_succ_le_self _)
  · rfl

/-- A number that was not given out yet has not been tracked. -/
theorem Run.trackedWith?_eq_none (run : Run {} trace m) {id : ConnectionId}
    (high : m.shared.registry.nextId ≤ id.number) : trackedWith? id trace = none := by
  generalize start : ({} : Machine e) = first at run
  induction run with
  | refl => rfl
  | snoc run step ih =>
      subst start
      rw [trackedWith?_snoc, ih (Nat.le_trans step.nextId_le high),
        step.tracks?_eq_none (run.ordered Registry.Ordered.empty) high]
      rfl

/-- The tag of an entry is what it was tracked with, unless a later expiry was marked. -/
theorem Run.tag_origin (run : Run {} trace m) (inside : x ∈ m.shared.registry.entries) :
    ∃ tag, trackedWith? x.id trace = some tag ∧ tag ≤ x.tag ∧
      (x.tag = tag ∨ ∃ d, .did d ∈ trace ∧ d.exchange.request = .mark x.id x.tag) := by
  generalize start : ({} : Machine e) = first at run
  induction run generalizing x with
  | refl =>
      subst start
      cases inside
  | @snoc _ _ before l run step ih =>
      subst start
      rcases step.entry inside with ⟨y, old, becomes, kept⟩ | ⟨d, rfl, exchange, number⟩
      · obtain ⟨tag, tracked, low, origin⟩ := ih old
        refine ⟨tag, ?_, Instant.le_trans low becomes.tag, ?_⟩
        · rw [trackedWith?_snoc, becomes.id, tracked]
          rfl
        · rcases kept with same | ⟨d, rfl, asks⟩
          · rw [same, becomes.id]
            refine origin.imp_right ?_
            rintro ⟨d, happened, asks⟩
            exact ⟨d, List.mem_append_left _ happened, asks⟩
          · exact .inr ⟨d, List.mem_append_right _ List.mem_cons_self, asks⟩
      · refine ⟨x.tag, ?_, Instant.le_refl _, .inl rfl⟩
        have fresh : trackedWith? x.id before = none := by
          apply run.trackedWith?_eq_none
          exact Nat.le_of_eq (by rw [number])
        obtain ⟨thread, duty, member, past, request, given⟩ := d
        cases exchange
        rw [trackedWith?_snoc, fresh]
        exact if_pos rfl

end TokenKeeper
