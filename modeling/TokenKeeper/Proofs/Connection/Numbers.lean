import TokenKeeper.Proofs.Machine.Run

/-!
# The numbers of connections

Entries stand in the order of their numbers, and every number that was ever given out is below
the next one. So no two entries have the same number, and a number that is gone does not come
back. All operations of the registry keep this, and so does every run.
-/

namespace TokenKeeper

/-- Entries in the order of their numbers, all below the next one. -/
structure Registry.Ordered (r : Registry) : Prop where
  increasing : r.entries.Pairwise fun x y => x.id.number < y.id.number
  below : ∀ x ∈ r.entries, x.id.number < r.nextId

namespace Registry.Ordered

variable {r : Registry}

theorem empty : ({} : Registry).Ordered := ⟨.nil, fun _ inside => nomatch inside⟩

/-- An entry is known by its number. -/
theorem eq_of_id {x y : Tracked} (h : r.Ordered) (hx : x ∈ r.entries) (hy : y ∈ r.entries)
    (same : x.id = y.id) : x = y := by
  by_contra differ
  have order := h.increasing
  have number : x.id.number = y.id.number := by rw [same]
  have ordered := List.pairwise_iff_getElem.mp order
  obtain ⟨i, hi, rfl⟩ := List.getElem_of_mem hx
  obtain ⟨j, hj, rfl⟩ := List.getElem_of_mem hy
  rcases Nat.lt_trichotomy i j with low | rfl | high
  · have := ordered i j hi hj low
    omega
  · exact differ rfl
  · have := ordered j i hj hi high
    omega

theorem filter (h : r.Ordered) (keep : Tracked → Bool) :
    (⟨r.entries.filter keep, r.nextId⟩ : Registry).Ordered :=
  ⟨h.increasing.filter keep, fun x inside => h.below x (List.mem_filter.mp inside).1⟩

theorem track (h : r.Ordered) (c : Connection) (tag : Instant) : (r.track c tag).1.Ordered := by
  unfold Registry.track
  split
  · exact h
  · refine ⟨List.pairwise_append.mpr ⟨h.increasing, List.pairwise_singleton _ _, ?_⟩, ?_⟩
    · intro x inside y new
      obtain rfl := List.mem_singleton.mp new
      exact h.below x inside
    · intro x inside
      rcases List.mem_append.mp inside with old | new
      · exact Nat.lt_succ_of_lt (h.below x old)
      · obtain rfl := List.mem_singleton.mp new
        exact Nat.lt_succ_self _

theorem mark (h : r.Ordered) (id : ConnectionId) (expiry : Instant) :
    (r.mark id expiry).Ordered := by
  have number (x : Tracked) :
      (if x.id = id then { x with tag := x.tag.latest expiry } else x).id = x.id := by
    split <;> rfl
  refine ⟨List.pairwise_map.mpr (h.increasing.imp fun low => ?_), ?_⟩
  · rwa [number, number]
  · intro x inside
    obtain ⟨y, old, rfl⟩ := List.mem_map.mp inside
    rw [number]
    exact h.below y old

theorem after {s : Shared} (h : s.registry.Ordered) (alive : Connection → Bool) (q : Request) :
    (s.after alive q).registry.Ordered := by
  cases q with
  | track c tag => exact h.track c tag
  | stale expiry => exact h.filter _
  | mark id expiry => exact h.mark id expiry
  | untrack id => exact h.filter _
  | _ => exact h

end Registry.Ordered

variable {e : Engine} {m m' : Machine e} {trace : List Label} {l : Label}

theorem Step.ordered (step : Step m l m') (h : m.shared.registry.Ordered) :
    m'.shared.registry.Ordered := by
  cases l with
  | began c => rwa [step.shared_of_began]
  | dropped c => rwa [step.shared_of_dropped]
  | did d =>
      rw [step.shared]
      exact h.after m.alive d.exchange.request

/-- Runs keep the entries in order. -/
theorem Run.ordered (run : Run m trace m') (h : m.shared.registry.Ordered) :
    m'.shared.registry.Ordered := by
  induction run with
  | refl => exact h
  | snoc _ step ih => exact step.ordered ih

end TokenKeeper
