import Mathlib.Data.List.Sort
import Mathlib.Logic.Function.Basic
import TokenKeeper.Proofs.Connection.Tags

/-!
# The registry as a directory

A directory is what a registry is meant to be: a map from numbers to connections with their tags,
a number that comes next, and connections that are gone. It knows nothing of lists and of the order
in which they are searched. A registry and a directory that are used in the same way give the same
answers, and the registry then holds what the directory maps.
-/

namespace TokenKeeper

/-- A use of a registry with its answer, or the loss of a connection, which is known by its serial
number. -/
inductive RegistryAct
  | tracked (c : Connection) (tag : Instant) (id : ConnectionId)
  | marked (id : ConnectionId) (expiry : Instant)
  | untracked (id : ConnectionId) (removed : Bool)
  | searched (expiry : Instant) (found : List Tracked)
  | dropped (serial : Nat)
  deriving DecidableEq

/-- What can have happened since a beginning, by steps of some sort. -/
inductive Leads {σ α : Type} (step : σ → α → σ → Prop) (start : σ) : List α → σ → Prop
  | nil : Leads step start [] start
  | snoc {log : List α} {s s' : σ} {act : α} :
      Leads step start log s → step s act s' → Leads step start (log ++ [act]) s'

/-- A registry, and the serial numbers of the connections that are gone. -/
structure Roster where
  registry : Registry := {}
  lost : List Nat := []

namespace Roster

def alive (s : Roster) (c : Connection) : Bool := c.serial ∉ s.lost

/-- What happens to a registry. Whoever asks gets the answer that the registry gives. -/
inductive Step (s : Roster) : RegistryAct → Roster → Prop
  | track (c : Connection) (tag : Instant) :
      Step s (.tracked c tag (s.registry.track c tag).2)
        { s with registry := (s.registry.track c tag).1 }
  | mark (id : ConnectionId) (expiry : Instant) :
      Step s (.marked id expiry) { s with registry := s.registry.mark id expiry }
  | untrack (id : ConnectionId) :
      Step s (.untracked id (s.registry.untrack id).2)
        { s with registry := (s.registry.untrack id).1 }
  | search (expiry : Instant) :
      Step s (.searched expiry (s.registry.stale s.alive expiry).2)
        { s with registry := (s.registry.stale s.alive expiry).1 }
  | drop (serial : Nat) : Step s (.dropped serial) { s with lost := serial :: s.lost }

/-- A registry from its beginning. -/
abbrev History (log : List RegistryAct) (s : Roster) : Prop := Leads Step {} log s

end Roster

/-- What a number stands for. -/
structure Listing where
  connection : Connection
  tag : Instant
  deriving DecidableEq

/-- A map from numbers to connections with their tags. -/
structure Directory where
  listing? : ConnectionId → Option Listing := fun _ => none
  next : Nat := 1
  lost : List Nat := []

namespace Directory

/-- The directory with another entry, or none, under a number. -/
def put (d : Directory) (id : ConnectionId) (x : Option Listing) : Directory :=
  { d with listing? := Function.update d.listing? id x }

/-- What happens to a directory. A connection that is listed keeps its number and its tag, and
another one gets the next number. Tags move forward only. A search answers with the listed
connections that are behind and not gone, in the order of their numbers, and those that are gone are
no longer listed. -/
inductive Step (d : Directory) : RegistryAct → Directory → Prop
  | again {c : Connection} {tag : Instant} {id : ConnectionId} {x : Listing}
      (listed : d.listing? id = some x) (same : x.connection.serial = c.serial) :
      Step d (.tracked c tag id) d
  | new {c : Connection} {tag : Instant}
      (unlisted : ∀ id x, d.listing? id = some x → x.connection.serial ≠ c.serial) :
      Step d (.tracked c tag ⟨d.next⟩)
        { d.put ⟨d.next⟩ (some ⟨c, tag⟩) with next := d.next + 1 }
  | mark (id : ConnectionId) (expiry : Instant) :
      Step d (.marked id expiry)
        (d.put id ((d.listing? id).map fun x => { x with tag := x.tag.latest expiry }))
  | untrack (id : ConnectionId) :
      Step d (.untracked id (d.listing? id).isSome) (d.put id none)
  | search {expiry : Instant} {found : List Tracked}
      (behind : ∀ x, x ∈ found ↔ d.listing? x.id = some ⟨x.connection, x.tag⟩ ∧
        x.connection.serial ∉ d.lost ∧ x.tag < expiry)
      (ordered : found.Pairwise fun x y => x.id.number < y.id.number) :
      Step d (.searched expiry found)
        { d with
          listing? := fun id => (d.listing? id).filter fun x => x.connection.serial ∉ d.lost }
  | drop (serial : Nat) : Step d (.dropped serial) { d with lost := serial :: d.lost }

/-- A directory from its beginning. -/
abbrev History (log : List RegistryAct) (d : Directory) : Prop := Leads Step {} log d

theorem ext_entries {d d' : Directory}
    (entries : ∀ id x, d.listing? id = some x ↔ d'.listing? id = some x) (next : d.next = d'.next)
    (lost : d.lost = d'.lost) : d = d' := by
  have same : d.listing? = d'.listing? := by
    funext id
    apply Option.ext
    intro x
    exact entries id x
  cases d
  cases d'
  simp_all

theorem listing?_put {d : Directory} {id id' : ConnectionId} {x : Option Listing} {y : Listing} :
    (d.put id x).listing? id' = some y ↔
      id' = id ∧ x = some y ∨ id' ≠ id ∧ d.listing? id' = some y := by
  by_cases same : id' = id
  · subst same
    simp [put]
  · simp [put, same]

end Directory

/-- No two entries are for one connection. -/
def Registry.Distinct (r : Registry) : Prop := (r.entries.map (·.connection.serial)).Nodup

namespace Registry

variable {r : Registry} {c : Connection} {tag expiry : Instant} {id : ConnectionId} {x y : Tracked}

/-- The entry of a connection is one of the registry. -/
theorem entryOf?_eq_some (found : r.entryOf? c = some x) :
    x ∈ r.entries ∧ x.connection.serial = c.serial :=
  ⟨List.mem_of_find?_eq_some found, by simpa using List.find?_some found⟩

theorem entryOf?_eq_none_iff :
    r.entryOf? c = none ↔ ∀ x ∈ r.entries, x.connection.serial ≠ c.serial := by
  simp [entryOf?]

theorem mem_mark_iff :
    x ∈ (r.mark id expiry).entries ↔ ∃ y ∈ r.entries,
      x = if y.id = id then { y with tag := y.tag.latest expiry } else y := by
  simp only [mark, List.mem_map, eq_comm]

theorem mem_untrack_iff : x ∈ (r.untrack id).1.entries ↔ x ∈ r.entries ∧ x.id ≠ id := by
  simp [untrack]

namespace Distinct

theorem empty : ({} : Registry).Distinct := List.nodup_nil

/-- An entry is known by its connection. -/
theorem eq_of_serial (h : r.Distinct) (hx : x ∈ r.entries) (hy : y ∈ r.entries)
    (same : x.connection.serial = y.connection.serial) : x = y :=
  List.inj_on_of_nodup_map h hx hy same

theorem filter (h : r.Distinct) (keep : Tracked → Bool) :
    (⟨r.entries.filter keep, r.nextId⟩ : Registry).Distinct :=
  h.sublist (List.filter_sublist.map _)

theorem track (h : r.Distinct) (c : Connection) (tag : Instant) : (r.track c tag).1.Distinct := by
  unfold Registry.track
  split
  · exact h
  · rename_i unlisted
    unfold Registry.Distinct
    rw [List.map_append]
    apply h.append (List.nodup_singleton _)
    apply List.disjoint_singleton.mpr
    intro inside
    obtain ⟨x, listed, same⟩ := List.mem_map.mp inside
    exact entryOf?_eq_none_iff.mp unlisted x listed same

theorem mark (h : r.Distinct) (id : ConnectionId) (expiry : Instant) :
    (r.mark id expiry).Distinct := by
  have serials : (r.mark id expiry).entries.map (·.connection.serial) =
      r.entries.map (·.connection.serial) := by
    rw [Registry.mark, List.map_map]
    apply List.map_congr_left
    intro x _
    simp only [Function.comp_apply]
    split <;> rfl
  unfold Registry.Distinct
  rwa [serials]

end Distinct

end Registry

namespace Roster

variable {s s' : Roster} {d' : Directory} {act : RegistryAct} {log : List RegistryAct}
variable {id : ConnectionId} {x : Listing}

/-- The directory of what a registry holds. -/
def directory (s : Roster) : Directory where
  listing? id := (s.registry.entries.find? fun x => x.id = id).map fun x => ⟨x.connection, x.tag⟩
  next := s.registry.nextId
  lost := s.lost

/-- What the operations of a registry rely on and keep. -/
structure Kept (s : Roster) : Prop where
  ordered : s.registry.Ordered
  distinct : s.registry.Distinct

theorem Step.kept (step : s.Step act s') (kept : s.Kept) : s'.Kept := by
  obtain ⟨ordered, distinct⟩ := kept
  cases step with
  | track c tag => exact ⟨ordered.track c tag, distinct.track c tag⟩
  | mark id expiry => exact ⟨ordered.mark id expiry, distinct.mark id expiry⟩
  | untrack id => exact ⟨ordered.filter _, distinct.filter _⟩
  | search expiry => exact ⟨ordered.filter _, distinct.filter _⟩
  | drop serial => exact ⟨ordered, distinct⟩

theorem History.kept (h : History log s) : s.Kept := by
  induction h with
  | nil => exact ⟨.empty, .empty⟩
  | snoc _ step ih => exact step.kept ih

/-- What a number stands for, as a registry holds it. -/
theorem listing?_eq_some_iff (kept : s.Kept) :
    s.directory.listing? id = some x ↔ ⟨id, x.connection, x.tag⟩ ∈ s.registry.entries := by
  constructor
  · intro listed
    obtain ⟨y, found, rfl⟩ := Option.map_eq_some_iff.mp listed
    have inside := List.mem_of_find?_eq_some found
    have named : y.id = id := by simpa using List.find?_some found
    subst named
    exact inside
  · intro inside
    have found : (s.registry.entries.find? fun y => y.id = id).isSome = true :=
      List.find?_isSome.mpr ⟨_, inside, decide_eq_true rfl⟩
    obtain ⟨y, found⟩ := Option.isSome_iff_exists.mp found
    have named : y.id = id := by simpa using List.find?_some found
    have same := kept.ordered.eq_of_id (List.mem_of_find?_eq_some found) inside named
    change Option.map _ (s.registry.entries.find? fun y => y.id = id) = _
    rw [found, same]
    rfl

/-- An entry of a registry is listed in its directory. -/
theorem listing?_of_mem (kept : s.Kept) {y : Tracked} (inside : y ∈ s.registry.entries) :
    s.directory.listing? y.id = some ⟨y.connection, y.tag⟩ :=
  (listing?_eq_some_iff kept).mpr inside

/-- Two directories of registries are one if the registries have the same entries. -/
theorem directory_eq {d : Directory} (kept : s.Kept)
    (entries : ∀ id x, d.listing? id = some x ↔ ⟨id, x.connection, x.tag⟩ ∈ s.registry.entries)
    (next : d.next = s.registry.nextId) (lost : d.lost = s.lost) : s.directory = d := by
  apply Directory.ext_entries _ next.symm lost.symm
  intro id x
  rw [listing?_eq_some_iff kept, entries]

/-- A connection that was not tracked is listed under the next number. -/
theorem directory_track (kept : s.Kept) {c : Connection} {tag : Instant}
    (untracked : s.registry.entryOf? c = none) :
    ({ s with registry := (s.registry.track c tag).1 } : Roster).directory =
      { s.directory.put ⟨s.directory.next⟩ (some ⟨c, tag⟩) with next := s.directory.next + 1 } := by
  have later : Kept { s with registry := (s.registry.track c tag).1 } :=
    ⟨kept.ordered.track c tag, kept.distinct.track c tag⟩
  have added : (s.registry.track c tag).1 =
      ⟨s.registry.entries ++ [⟨⟨s.registry.nextId⟩, c, tag⟩], s.registry.nextId + 1⟩ := by
    rw [Registry.track, untracked]
  rw [added] at later ⊢
  apply directory_eq later _ rfl rfl
  intro id x
  change (s.directory.put _ _).listing? id = some x ↔ _
  rw [Directory.listing?_put, listing?_eq_some_iff kept, List.mem_append, List.mem_singleton]
  constructor
  · rintro (⟨rfl, same⟩ | ⟨_, old⟩)
    · cases same
      exact .inr rfl
    · exact .inl old
  · rintro (old | new)
    · refine .inr ⟨?_, old⟩
      rintro rfl
      exact Nat.lt_irrefl _ (kept.ordered.below _ old)
    · cases new
      exact .inl ⟨rfl, rfl⟩

theorem directory_mark (kept : s.Kept) (id : ConnectionId) (expiry : Instant) :
    ({ s with registry := s.registry.mark id expiry } : Roster).directory =
      s.directory.put id
        ((s.directory.listing? id).map fun x => { x with tag := x.tag.latest expiry }) := by
  apply directory_eq ⟨kept.ordered.mark id expiry, kept.distinct.mark id expiry⟩ _ rfl rfl
  intro id' x
  rw [Directory.listing?_put, Registry.mem_mark_iff, Option.map_eq_some_iff]
  simp only [listing?_eq_some_iff kept]
  constructor
  · rintro (⟨rfl, y, inside, rfl⟩ | ⟨other, inside⟩)
    · exact ⟨_, inside, (if_pos rfl).symm⟩
    · exact ⟨_, inside, (if_neg other).symm⟩
  · rintro ⟨y, inside, same⟩
    by_cases named : y.id = id
    · rw [if_pos named] at same
      have one : id' = y.id := congrArg Tracked.id same
      refine .inl ⟨one.trans named, ⟨y.connection, y.tag⟩, named ▸ inside, ?_⟩
      exact congrArg (fun z : Tracked => (⟨z.connection, z.tag⟩ : Listing)) same.symm
    · rw [if_neg named] at same
      have one : id' = y.id := congrArg Tracked.id same
      exact .inr ⟨one ▸ named, same ▸ inside⟩

theorem directory_untrack (kept : s.Kept) (id : ConnectionId) :
    ({ s with registry := (s.registry.untrack id).1 } : Roster).directory =
      s.directory.put id none := by
  apply directory_eq ⟨kept.ordered.filter _, kept.distinct.filter _⟩ _ rfl rfl
  intro id' x
  rw [Directory.listing?_put, Registry.mem_untrack_iff, listing?_eq_some_iff kept]
  simp only [reduceCtorEq, and_false, false_or]
  exact and_comm

theorem directory_prune (kept : s.Kept) :
    ({ s with registry := s.registry.prune s.alive } : Roster).directory =
      { s.directory with listing? := fun id =>
          (s.directory.listing? id).filter fun x => x.connection.serial ∉ s.lost } := by
  apply directory_eq ⟨kept.ordered.filter _, kept.distinct.filter _⟩ _ rfl rfl
  intro id x
  rw [Option.filter_eq_some_iff, listing?_eq_some_iff kept, Registry.entries_prune, List.mem_filter]
  rfl

/-- Whether a number was tracked is whether it is listed. -/
theorem untrack_answer (kept : s.Kept) (id : ConnectionId) :
    (s.registry.untrack id).2 = (s.directory.listing? id).isSome := by
  rw [Bool.eq_iff_iff, Option.isSome_iff_exists]
  simp only [listing?_eq_some_iff kept, Registry.untrack, List.any_eq_true, beq_iff_eq]
  constructor
  · rintro ⟨y, inside, rfl⟩
    exact ⟨⟨y.connection, y.tag⟩, inside⟩
  · rintro ⟨x, inside⟩
    exact ⟨_, inside, rfl⟩

/-- What a search finds: the entries that are behind and whose connections are not gone. -/
theorem mem_stale_iff (kept : s.Kept) {expiry : Instant} {x : Tracked} :
    x ∈ (s.registry.stale s.alive expiry).2 ↔
      s.directory.listing? x.id = some ⟨x.connection, x.tag⟩ ∧ x.connection.serial ∉ s.lost ∧
        x.tag < expiry := by
  rw [listing?_eq_some_iff kept]
  simp only [Registry.stale, Registry.behind, alive, Registry.entries_prune, List.mem_filter,
    decide_eq_true_iff, and_assoc]

/-- A search finds entries in the order of their numbers. -/
theorem stale_ordered (kept : s.Kept) (expiry : Instant) :
    (s.registry.stale s.alive expiry).2.Pairwise fun x y => x.id.number < y.id.number :=
  (kept.ordered.increasing.filter _).filter _

/-- A registry that does something gives the answer that its directory gives, and it goes on to
hold what the directory goes on to map. -/
theorem Step.refines (step : s.Step act s') (kept : s.Kept) :
    s.directory.Step act s'.directory := by
  cases step with
  | track c tag =>
      cases found : s.registry.entryOf? c with
      | some x =>
          obtain ⟨inside, same⟩ := Registry.entryOf?_eq_some found
          rw [Registry.track, found]
          exact .again (listing?_of_mem kept inside) same
      | none =>
          have unlisted := Registry.entryOf?_eq_none_iff.mp found
          rw [directory_track kept found, Registry.track, found]
          exact .new fun id x listed => unlisted _ ((listing?_eq_some_iff kept).mp listed)
  | mark id expiry =>
      rw [directory_mark kept]
      exact .mark id expiry
  | untrack id =>
      rw [directory_untrack kept, untrack_answer kept]
      exact .untrack id
  | search expiry =>
      change s.directory.Step _ (directory { s with registry := s.registry.prune s.alive })
      rw [directory_prune kept]
      exact .search (fun x => mem_stale_iff kept) (stale_ordered kept expiry)
  | drop serial => exact .drop serial

/-- What a directory can do, with that answer, is done by the registry as well. -/
theorem Step.of_directory (step : s.directory.Step act d') (kept : s.Kept) :
    ∃ s', s.Step act s' ∧ s'.directory = d' := by
  generalize known : s.directory = d at step
  cases step with
  | @again c tag id x listed same =>
      subst known
      have inside := (listing?_eq_some_iff kept).mp listed
      have answer : s.registry.track c tag = (s.registry, id) := by
        cases found : s.registry.entryOf? c with
        | none => exact absurd same (Registry.entryOf?_eq_none_iff.mp found _ inside)
        | some y =>
            obtain ⟨there, its⟩ := Registry.entryOf?_eq_some found
            have one := kept.distinct.eq_of_serial there inside (its.trans same.symm)
            rw [Registry.track, found, one]
      have step := Step.track (s := s) c tag
      rw [answer] at step
      exact ⟨s, step, rfl⟩
  | @new c tag unlisted =>
      subst known
      have untracked : s.registry.entryOf? c = none := by
        apply Registry.entryOf?_eq_none_iff.mpr
        intro x inside
        exact unlisted _ _ (listing?_of_mem kept inside)
      have answer : (s.registry.track c tag).2 = ⟨s.registry.nextId⟩ := by
        rw [Registry.track, untracked]
      have step := Step.track (s := s) c tag
      rw [answer] at step
      exact ⟨_, step, directory_track kept untracked⟩
  | mark id expiry =>
      subst known
      exact ⟨_, .mark id expiry, directory_mark kept id expiry⟩
  | untrack id =>
      subst known
      have step := Step.untrack (s := s) id
      rw [untrack_answer kept] at step
      exact ⟨_, step, directory_untrack kept id⟩
  | @search expiry found behind ordered =>
      subst known
      -- Two lists with the same entries in the order of their numbers are one.
      have same : (s.registry.stale s.alive expiry).2 = found := by
        have order := stale_ordered kept expiry
        have apart {x y : Tracked} (low : x.id.number < y.id.number) : x ≠ y := by
          rintro rfl
          exact Nat.lt_irrefl _ low
        apply List.Perm.eq_of_pairwise _ order ordered
        · apply (List.perm_ext_iff_of_nodup _ _).mpr
          · intro x
            rw [mem_stale_iff kept, behind]
            rfl
          · exact order.imp apart
          · exact ordered.imp apart
        · intro x y _ _ low high
          exact absurd low (Nat.lt_asymm high)
      have step := Step.search (s := s) expiry
      rw [same] at step
      exact ⟨_, step, directory_prune kept⟩
  | drop serial =>
      subst known
      exact ⟨_, .drop serial, rfl⟩

/-- The directory of a registry that has been used in some way has been used in the same way, and
the other way round. -/
theorem history_directory_iff {d : Directory} :
    Directory.History log d ↔ ∃ s : Roster, History log s ∧ s.directory = d := by
  constructor
  · intro h
    induction h with
    | nil => exact ⟨{}, .nil, rfl⟩
    | snoc _ step ih =>
        obtain ⟨s, before, rfl⟩ := ih
        obtain ⟨s', onward, same⟩ := Step.of_directory step before.kept
        exact ⟨s', before.snoc onward, same⟩
  · rintro ⟨s, h, rfl⟩
    induction h with
    | nil => exact .nil
    | snoc before step ih => exact ih.snoc (step.refines (History.kept before))

end Roster

end TokenKeeper
