import Mathlib.Order.Bounds.Defs
import TokenKeeper.Proofs.Connection.Directory

/-!
# What the uses of a registry come to

All that has been asked of a registry since its beginning says what it holds: which numbers were
given out and which of them are gone, and for each entry the tag that it was tracked with and what
was marked for its number since. Numbers grow and do not come back, so what is asked for an old
number does not reach a connection that is tracked anew.
-/

namespace TokenKeeper

namespace Leads

variable {σ α : Type} {step : σ → α → σ → Prop} {start s s' : σ} {log more : List α} {act : α}

theorem last (h : Leads step start (log ++ [act]) s) :
    ∃ middle, Leads step start log middle ∧ step middle act s := by
  generalize all : log ++ [act] = whole at h
  cases h with
  | nil => simp at all
  | snoc before taken =>
      obtain ⟨rfl, same⟩ := List.append_inj' all rfl
      obtain rfl := List.singleton_inj.mp same
      exact ⟨_, before, taken⟩

/-- What happened can be cut anywhere. -/
theorem split (h : Leads step start (log ++ more) s) :
    ∃ middle, Leads step start log middle ∧ Leads step middle more s := by
  induction more using List.reverseRecOn generalizing s with
  | nil => exact ⟨s, by rwa [List.append_nil] at h, .nil⟩
  | append_singleton more act ih =>
      rw [← List.append_assoc] at h
      obtain ⟨before, h, taken⟩ := h.last
      obtain ⟨middle, first, second⟩ := ih h
      exact ⟨middle, first, second.snoc taken⟩

theorem cut (h : Leads step start (log ++ act :: more) s) :
    ∃ before after, Leads step start log before ∧ step before act after ∧
      Leads step after more s := by
  rw [List.append_cons] at h
  obtain ⟨after, first, second⟩ := h.split
  obtain ⟨before, first, taken⟩ := first.last
  exact ⟨before, after, first, taken, second⟩

/-- What happened says where it has led to, if each step does. -/
theorem unique (h : Leads step start log s) (h' : Leads step start log s')
    (once : ∀ s act t t', step s act t → step s act t' → t = t') : s = s' := by
  induction h generalizing s' with
  | nil =>
      generalize none : ([] : List α) = log at h'
      cases h' with
      | nil => rfl
      | snoc => simp at none
  | snoc _ taken ih =>
      obtain ⟨middle, before, last⟩ := h'.last
      obtain rfl := ih before
      exact once _ _ _ _ taken last

end Leads

namespace RegistryAct

def isTracking : RegistryAct → Bool
  | tracked _ _ _ => true
  | _ => false

end RegistryAct

namespace Roster

variable {s s' middle : Roster} {act : RegistryAct} {log earlier later : List RegistryAct}
variable {c : Connection} {tag : Instant} {id : ConnectionId} {x : Tracked}

/-- A number that is given out is that of an entry for the connection, or it is the next one. -/
theorem Step.number (step : s.Step (.tracked c tag id) s') :
    (∃ x ∈ s.registry.entries, x.connection.serial = c.serial ∧ x.id = id ∧ s' = s) ∨
      s.registry.entryOf? c = none ∧ id = ⟨s.registry.nextId⟩ ∧
        s'.registry = ⟨s.registry.entries ++ [⟨id, c, tag⟩], s.registry.nextId + 1⟩ := by
  cases step with
  | track =>
      cases found : s.registry.entryOf? c with
      | some x =>
          obtain ⟨inside, same⟩ := Registry.entryOf?_eq_some found
          refine .inl ⟨x, inside, same, ?_, ?_⟩ <;> rw [Registry.track, found]
      | none =>
          refine .inr ⟨rfl, ?_, ?_⟩ <;> rw [Registry.track, found]

theorem Step.unique (step : s.Step act s') (other : s.Step act middle) : s' = middle := by
  cases step with
  | track c tag =>
      generalize answer : (s.registry.track c tag).2 = id at other
      cases other
      rfl
  | mark id expiry =>
      cases other
      rfl
  | untrack id =>
      generalize answer : (s.registry.untrack id).2 = removed at other
      cases other
      rfl
  | search expiry =>
      generalize answer : (s.registry.stale s.alive expiry).2 = found at other
      cases other
      rfl
  | drop serial =>
      cases other
      rfl

/-- The history says what has become of a registry. -/
theorem History.unique (h : History log s) (h' : History log s') : s = s' :=
  Leads.unique h h' fun _ _ _ _ step other => step.unique other

theorem Step.nextId_le (step : s.Step act s') : s.registry.nextId ≤ s'.registry.nextId := by
  cases step with
  | track c tag => exact Shared.nextId_le_after { registry := s.registry } s.alive (.track c tag)
  | _ => exact Nat.le_refl _

/-- Where an entry comes from: it was just tracked, or it was there, with this tag or an earlier one
that a mark has moved forward. -/
theorem Step.origin (step : s.Step act s') (inside : x ∈ s'.registry.entries) :
    (act = .tracked x.connection x.tag x.id ∧ x.id = ⟨s.registry.nextId⟩) ∨
      ∃ y ∈ s.registry.entries, y.id = x.id ∧ y.connection = x.connection ∧
        ((x.tag = y.tag ∧ ∀ expiry, act ≠ .marked x.id expiry) ∨
          ∃ expiry, act = .marked x.id expiry ∧ x.tag = y.tag.latest expiry) := by
  have kept {y : Tracked} (there : y ∈ s.registry.entries)
      (other : ∀ expiry, act ≠ .marked y.id expiry) :
      ∃ z ∈ s.registry.entries, z.id = y.id ∧ z.connection = y.connection ∧
        ((y.tag = z.tag ∧ ∀ expiry, act ≠ .marked y.id expiry) ∨
          ∃ expiry, act = .marked y.id expiry ∧ y.tag = z.tag.latest expiry) :=
    ⟨y, there, rfl, rfl, .inl ⟨rfl, other⟩⟩
  cases step with
  | track c tag =>
      obtain ⟨_, _, _, _, unchanged⟩ | ⟨_, number, added⟩ := (Step.track (s := s) c tag).number
      · rw [unchanged] at inside
        exact .inr (kept inside fun _ same => nomatch same)
      · rw [added] at inside
        rcases List.mem_append.mp inside with old | new
        · exact .inr (kept old fun _ same => nomatch same)
        · obtain rfl := List.mem_singleton.mp new
          exact .inl ⟨rfl, number⟩
  | mark id expiry =>
      obtain ⟨y, there, rfl⟩ := Registry.mem_mark_iff.mp inside
      by_cases named : y.id = id
      · refine .inr ⟨y, there, ?_⟩
        rw [if_pos named, named]
        exact ⟨rfl, rfl, .inr ⟨expiry, rfl, rfl⟩⟩
      · rw [if_neg named]
        apply Or.inr (kept there _)
        rintro expiry' same
        cases same
        exact named rfl
  | untrack id =>
      exact .inr (kept (Registry.mem_untrack_iff.mp inside).1 fun _ same => nomatch same)
  | search expiry => exact .inr (kept (List.mem_filter.mp inside).1 fun _ same => nomatch same)
  | drop serial => exact .inr (kept inside fun _ same => nomatch same)

/-- Every number that was given out is below the next one. -/
theorem History.number_lt (h : History log s) (given : .tracked c tag id ∈ log) :
    id.number < s.registry.nextId := by
  induction h with
  | nil => cases given
  | @snoc log s s' act before step ih =>
      rcases List.mem_append.mp given with old | now
      · exact Nat.lt_of_lt_of_le (ih old) step.nextId_le
      · obtain rfl := List.mem_singleton.mp now
        obtain ⟨x, inside, _, rfl, rfl⟩ | ⟨_, rfl, added⟩ := step.number
        · exact (History.kept before).ordered.below x inside
        · rw [added]
          exact Nat.lt_succ_self _

/-- There have been as many numbers as trackings, at most. -/
theorem History.nextId_le (h : History log s) :
    s.registry.nextId ≤ log.countP RegistryAct.isTracking + 1 := by
  induction h with
  | nil => exact Nat.le_refl _
  | @snoc log s s' act before step ih =>
      rw [List.countP_append, List.countP_singleton]
      cases step with
      | track c tag =>
          obtain ⟨_, _, _, _, unchanged⟩ | ⟨_, _, added⟩ := (Step.track (s := s) c tag).number
          · rw [unchanged]
            exact Nat.le_trans ih (by omega)
          · rw [added]
            exact Nat.succ_le_succ ih
      | _ => exact ih

/-- A number that is gone stays away, and it is not given out again. -/
theorem stays_away (h : Leads Step middle later s) (kept : middle.Kept)
    (old : id.number < middle.registry.nextId) (gone : ∀ x ∈ middle.registry.entries, x.id ≠ id) :
    id.number < s.registry.nextId ∧ s.Kept ∧ (∀ x ∈ s.registry.entries, x.id ≠ id) ∧
      ∀ c tag, .tracked c tag id ∉ later := by
  induction h with
  | nil => exact ⟨old, kept, gone, fun _ _ inside => nomatch inside⟩
  | @snoc later s s' act before step ih =>
      obtain ⟨old, kept, gone, never⟩ := ih
      refine ⟨Nat.lt_of_lt_of_le old step.nextId_le, step.kept kept, ?_, ?_⟩
      · intro x inside same
        obtain ⟨_, number⟩ | ⟨y, there, named, _⟩ := step.origin inside
        · rw [← same, number] at old
          exact Nat.lt_irrefl _ old
        · exact gone y there (named.trans same)
      · intro c tag given
        rcases List.mem_append.mp given with before | now
        · exact never c tag before
        · obtain rfl := List.mem_singleton.mp now
          obtain ⟨x, inside, _, same, _⟩ | ⟨_, rfl, _⟩ := step.number
          · exact gone x inside same
          · exact Nat.lt_irrefl _ old

/-- An entry was tracked once and for all, and its tag is the latest of what it was tracked with and
what was marked for its number since. -/
theorem History.greatest_tag (h : History log s) (inside : x ∈ s.registry.entries) :
    ∃ before tag since, log = before ++ .tracked x.connection tag x.id :: since ∧
      (∀ c t, .tracked c t x.id ∉ before) ∧
      IsGreatest {t | t = tag ∨ .marked x.id t ∈ since} x.tag := by
  induction h generalizing x with
  | nil => cases inside
  | @snoc log s s' act before step ih =>
      obtain ⟨rfl, number⟩ | ⟨y, there, named, same, moved⟩ := step.origin inside
      · refine ⟨log, x.tag, [], rfl, ?_, .inl rfl, ?_⟩
        · intro c t given
          have low := History.number_lt before given
          rw [number] at low
          exact Nat.lt_irrefl _ low
        · rintro t (rfl | none)
          · exact Instant.le_refl _
          · cases none
      · obtain ⟨front, tag, since, rfl, first, among, above⟩ := ih there
        rw [named] at first among above
        rw [named, same]
        refine ⟨front, tag, since ++ [act], List.append_assoc _ _ _, first, ?_⟩
        obtain ⟨kept, other⟩ | ⟨expiry, rfl, later⟩ := moved
        · rw [kept]
          refine ⟨among.imp_right (List.mem_append_left _), ?_⟩
          rintro t (first | marked)
          · exact above (.inl first)
          · rcases List.mem_append.mp marked with old | new
            · exact above (.inr old)
            · exact absurd (List.mem_singleton.mp new).symm (other t)
        · rw [later]
          constructor
          · rcases Instant.latest_eq_or y.tag expiry with kept | moved
            · rw [kept]
              exact among.imp_right (List.mem_append_left _)
            · rw [moved]
              exact .inr (List.mem_append_right _ List.mem_cons_self)
          · have earlier := Instant.le_latest_left y.tag expiry
            rintro t (first | marked)
            · exact Instant.le_trans (above (.inl first)) earlier
            · rcases List.mem_append.mp marked with old | new
              · exact Instant.le_trans (above (.inr old)) earlier
              · cases List.mem_singleton.mp new
                exact Instant.le_latest_right _ _

/-- What a registry holds and answers after it has been used in some way. -/
structure Lawful (log : List RegistryAct) (s : Roster) : Prop where
  /-- A connection that is not tracked gets a number above all that were given out before. -/
  increasing : ∀ earlier later c tag id middle, log = earlier ++ .tracked c tag id :: later →
    History earlier middle → (∀ x ∈ middle.registry.entries, x.connection.serial ≠ c.serial) →
      ∀ c' tag' id', .tracked c' tag' id' ∈ earlier → id'.number < id.number
  /-- A number that was given out and is gone stays away. -/
  gone : ∀ earlier later c tag id middle, log = earlier ++ later → History earlier middle →
    .tracked c tag id ∈ earlier → (∀ x ∈ middle.registry.entries, x.id ≠ id) →
      (∀ x ∈ s.registry.entries, x.id ≠ id) ∧ ∀ c' tag', .tracked c' tag' id ∉ later
  /-- The numbers of so many trackings reach no further than their count. -/
  numbers : ∀ c tag id, .tracked c tag id ∈ log → id.number ≤ log.countP RegistryAct.isTracking
  distinct : s.registry.Distinct
  /-- A connection that is tracked keeps its number and its tag. -/
  again : ∀ x ∈ s.registry.entries, ∀ c tag, c.serial = x.connection.serial →
    s.registry.track c tag = (s.registry, x.id)
  /-- A tag is the latest of what the number was tracked with and what was marked for it since. -/
  tags : ∀ x ∈ s.registry.entries, ∃ before tag since,
    log = before ++ .tracked x.connection tag x.id :: since ∧
      (∀ c t, .tracked c t x.id ∉ before) ∧
        IsGreatest {t | t = tag ∨ .marked x.id t ∈ since} x.tag
  /-- What is asked for a number that is not tracked changes nothing. -/
  untracked : ∀ id, (∀ x ∈ s.registry.entries, x.id ≠ id) →
    (∀ expiry, s.registry.mark id expiry = s.registry) ∧
      s.registry.untrack id = (s.registry, false)
  /-- A search finds what is behind and alive, in the order of the numbers, and drops what is gone
  and nothing else. -/
  search : ∀ expiry, ∃ r found, s.registry.stale s.alive expiry = (r, found) ∧
    r.nextId = s.registry.nextId ∧
    (∀ x, x ∈ r.entries ↔ x ∈ s.registry.entries ∧ x.connection.serial ∉ s.lost) ∧
    (∀ x, x ∈ found ↔
      x ∈ s.registry.entries ∧ x.connection.serial ∉ s.lost ∧ x.tag < expiry) ∧
    found.Pairwise fun x y => x.id.number < y.id.number

/-- A connection that is tracked is found, under the number of its entry. -/
theorem track_of_mem (kept : s.Kept) (inside : x ∈ s.registry.entries)
    (same : c.serial = x.connection.serial) : s.registry.track c tag = (s.registry, x.id) := by
  cases found : s.registry.entryOf? c with
  | none => exact absurd same.symm (Registry.entryOf?_eq_none_iff.mp found x inside)
  | some y =>
      obtain ⟨there, its⟩ := Registry.entryOf?_eq_some found
      rw [Registry.track, found, kept.distinct.eq_of_serial there inside (its.trans same)]

theorem mark_of_absent (absent : ∀ x ∈ s.registry.entries, x.id ≠ id) (expiry : Instant) :
    s.registry.mark id expiry = s.registry := by
  have same : s.registry.entries.map (fun x =>
      if x.id = id then { x with tag := x.tag.latest expiry } else x) = s.registry.entries := by
    rw [List.map_congr_left fun x inside => if_neg (absent x inside)]
    exact List.map_id _
  rw [Registry.mark, same]

theorem untrack_of_absent (absent : ∀ x ∈ s.registry.entries, x.id ≠ id) :
    s.registry.untrack id = (s.registry, false) := by
  have same : s.registry.entries.filter (fun x => x.id != id) = s.registry.entries := by
    apply List.filter_eq_self.mpr
    intro x inside
    exact bne_iff_ne.mpr (absent x inside)
  have nowhere : (s.registry.entries.any fun x => x.id == id) = false := by
    apply List.any_eq_false.mpr
    intro x inside
    simpa using absent x inside
  rw [Registry.untrack, same, nowhere]

theorem History.lawful (h : History log s) : Lawful log s where
  increasing earlier later c tag id middle cut before unlisted c' tag' id' given := by
    subst cut
    obtain ⟨middle', _, first, step, _⟩ := h.cut
    obtain rfl := History.unique before first
    obtain ⟨x, inside, same, _⟩ | ⟨_, rfl, _⟩ := step.number
    · exact absurd same (unlisted x inside)
    · exact History.number_lt before given
  gone earlier later c tag id middle cut before given gone := by
    subst cut
    obtain ⟨middle', first, second⟩ := h.split
    obtain rfl := History.unique before first
    have low := History.number_lt before given
    exact (stays_away second before.kept low gone).2.2
  numbers c tag id given := by
    have low := h.number_lt given
    have few := h.nextId_le
    omega
  distinct := h.kept.distinct
  again x inside c tag same := track_of_mem h.kept inside same
  tags x inside := h.greatest_tag inside
  untracked id absent := ⟨mark_of_absent absent, untrack_of_absent absent⟩
  search expiry := by
    refine ⟨_, _, rfl, rfl, ?_, ?_, stale_ordered h.kept expiry⟩
    · intro x
      simp [alive]
    · intro x
      rw [← listing?_eq_some_iff h.kept (x := ⟨x.connection, x.tag⟩)]
      exact mem_stale_iff h.kept

/-- A registry gives the answers of a directory, whatever it is used for, and holds what the
directory maps; and what it has been used for says what that is. -/
theorem answers_as_directory (log : List RegistryAct) :
    (∀ d, Directory.History log d ↔ ∃ s : Roster, History log s ∧ s.directory = d) ∧
      ∀ s, History log s → Lawful log s :=
  ⟨fun _ => history_directory_iff, fun _ h => h.lawful⟩

/-- A connection that leaves and comes back. -/
def returning : Connection := ⟨1, "returning"⟩

/-- A connection that is dropped. -/
def vanished : Connection := ⟨2, "vanished"⟩

/-- Two connections are tracked. One is lost, and a search drops it; the other one leaves, comes
back under a new number, and is tracked once more. What is asked for the old numbers comes too
late. -/
def returned : List RegistryAct :=
  [.tracked returning .min ⟨1⟩, .tracked vanished default ⟨2⟩, .marked ⟨1⟩ default,
    .marked ⟨1⟩ .min, .dropped 2, .searched .max [⟨⟨1⟩, returning, default⟩],
    .untracked ⟨1⟩ true, .tracked returning .min ⟨3⟩, .marked ⟨1⟩ .max, .untracked ⟨2⟩ false,
    .tracked returning .max ⟨3⟩]

/-- The connection that came back is the only one, with the tag that it came back with. -/
def afterReturn : Roster := ⟨⟨[⟨⟨3⟩, returning, .min⟩], 4⟩, [2]⟩

theorem directory_of_returned :
    History returned afterReturn ∧ Directory.History returned afterReturn.directory ∧
      Lawful returned afterReturn := by
  have begun : History [] {} := .nil
  have tracked := (begun.snoc (.track returning .min)).snoc (.track vanished default)
  have searched := ((((tracked.snoc (.mark ⟨1⟩ default)).snoc (.mark ⟨1⟩ .min)).snoc
    (.drop 2)).snoc (.search .max))
  have back := (searched.snoc (.untrack ⟨1⟩)).snoc (.track returning .min)
  have happened : History returned afterReturn :=
    ((back.snoc (.mark ⟨1⟩ .max)).snoc (.untrack ⟨2⟩)).snoc (.track returning .max)
  obtain ⟨same, lawful⟩ := answers_as_directory returned
  exact ⟨happened, (same _).mpr ⟨_, happened, rfl⟩, lawful _ happened⟩

end Roster

end TokenKeeper
