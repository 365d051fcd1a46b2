import Mathlib.Data.List.Nodup
import TokenKeeper.Settings.Sources

/-!
# Settings by name

What is laid over a table of settings changes only the settings that it names, and the options of a
table are those that its settings stand for one by one. So options that are read before and after
differ at most in what was named.
-/

namespace TokenKeeper

namespace Json

variable {j j' value : Json} {name other : String} {members : List (String × Json)}

/-- A table of members with different names. -/
def IsTable (j : Json) : Prop := ∃ members, j = object members ∧ (members.map Prod.fst).Nodup

theorem get?_setMember (j : Json) (name : String) (value : Json) :
    (j.setMember name value).get? name = some value := by
  cases j with
  | object members =>
      by_cases there : members.any fun m => m.1 == name
      · have found : (members.reverse.find? fun m => m.1 == name).isSome := by
          simpa [List.find?_isSome] using there
        obtain ⟨m, found⟩ := Option.isSome_iff_exists.mp found
        have named : m.1 = name := by simpa using List.find?_some found
        have same : ((fun m : String × Json => m.1 == name) ∘
            fun m => if m.1 == name then (name, value) else m) = fun m => m.1 == name := by
          funext m
          by_cases hm : m.1 = name <;> simp [hm]
        rw [setMember, if_pos there, get?, ← List.map_reverse, List.find?_map, same, found]
        simp [named]
      · simp [setMember, there, get?]
  | _ => simp [setMember, get?]

theorem get?_setMember_of_ne (different : other ≠ name) :
    (j.setMember name value).get? other = j.get? other := by
  have apart : (name == other) = false := beq_eq_false_iff_ne.mpr different.symm
  cases j with
  | object members =>
      by_cases there : members.any fun m => m.1 == name
      · rw [setMember, if_pos there, get?, get?, ← List.map_reverse, List.find?_map]
        have same : ((fun m : String × Json => m.1 == other) ∘
            fun m => if m.1 == name then (name, value) else m) = fun m => m.1 == other := by
          funext m
          by_cases named : m.1 = name <;> simp [named, apart]
        rw [same, Option.map_map]
        apply Option.map_congr
        intro m found
        have named : m.1 = other := by simpa using List.find?_some found
        simp [named, different]
      · simp [setMember, there, get?, apart]
  | _ => simp [setMember, get?, apart]

namespace IsTable

theorem empty : (object []).IsTable := ⟨[], rfl, List.nodup_nil⟩

/-- A table with a member set is a table, and so is what becomes one. -/
theorem setMember (h : j.IsTable) (name : String) (value : Json) :
    (j.setMember name value).IsTable := by
  obtain ⟨members, rfl, distinct⟩ := h
  by_cases there : members.any fun m => m.1 == name
  · refine ⟨members.map fun m => if m.1 == name then (name, value) else m, ?_, ?_⟩
    · rw [Json.setMember, if_pos there]
    · have names : (members.map fun m => if m.1 == name then (name, value) else m).map Prod.fst =
          members.map Prod.fst := by
        rw [List.map_map]
        apply List.map_congr_left
        intro m _
        by_cases named : m.1 = name <;> simp [named]
      rwa [names]
  · refine ⟨members ++ [(name, value)], by rw [Json.setMember, if_neg there], ?_⟩
    have new : name ∉ members.map Prod.fst := by
      intro inside
      obtain ⟨m, inside, named⟩ := List.mem_map.mp inside
      exact there (List.any_eq_true.mpr ⟨m, inside, beq_iff_eq.mpr named⟩)
    rw [List.map_append]
    exact distinct.append (List.nodup_singleton _) (List.disjoint_singleton.mpr new)

/-- The only member of a name. -/
theorem filter_eq (distinct : (members.map Prod.fst).Nodup) (name : String) :
    (members.filter fun m => m.1 == name) =
      (((object members).get? name).map fun value => (name, value)).toList := by
  induction members with
  | nil => rfl
  | cons m rest ih =>
      obtain ⟨new, distinct⟩ := List.nodup_cons.mp distinct
      by_cases named : m.1 = name
      · subst named
        have alone : (rest.filter fun m' => m'.1 == m.1) = [] := by
          apply List.filter_eq_nil_iff.mpr
          intro m' inside same
          exact new (List.mem_map.mpr ⟨m', inside, beq_iff_eq.mp same⟩)
        have nowhere : rest.reverse.find? (fun m' => m'.1 == m.1) = none := by
          apply List.find?_eq_none.mpr
          intro m' inside same
          exact new (List.mem_map.mpr ⟨m', List.mem_reverse.mp inside, beq_iff_eq.mp same⟩)
        simp [get?, alone, List.find?_append, nowhere]
      · have skip : (object (m :: rest)).get? name = (object rest).get? name := by
          simp [get?, List.find?_append, named]
        rw [skip, ← ih distinct]
        simp [named]

/-- A table gives the values of any names. -/
theorem members?_eq (h : j.IsTable) (names : List String) :
    j.members? names = some (names.map j.get?) := by
  obtain ⟨members, rfl, distinct⟩ := h
  rw [members?]
  induction names with
  | nil => rfl
  | cons name rest ih =>
      rw [List.mapM_cons, ih, filter_eq distinct, List.map_cons]
      cases value : (object members).get? name <;> rfl

end IsTable

/-- Two tables that differ in one member at most. -/
structure AgreeOff (name : String) (j j' : Json) : Prop where
  left : j.IsTable
  right : j'.IsTable
  same : ∀ other, other ≠ name → j.get? other = j'.get? other

namespace AgreeOff

variable {k : Json}

theorem symm (h : AgreeOff name j j') : AgreeOff name j' j where
  left := h.right
  right := h.left
  same other different := (h.same other different).symm

theorem trans (h : AgreeOff name j j') (h' : AgreeOff name j' k) : AgreeOff name j k where
  left := h.left
  right := h'.right
  same other different := (h.same other different).trans (h'.same other different)

end AgreeOff

end Json

namespace Settings

open Json

variable {j j' value : Json} {name : String} {source : List (String × Json)}

namespace Step

/-- A path begins with a name. -/
theorem path_eq (top : String) : ∃ s rest, path top = .name s :: rest := by
  unfold path
  cases read : readName top.toList with
  | none => exact ⟨_, _, rfl⟩
  | some first =>
      obtain ⟨step, rest⟩ := first
      obtain ⟨s, rfl⟩ : ∃ s, step = .name s := by
        dsimp only [readName] at read
        split at read
        · cases read
        · cases read
          exact ⟨_, rfl⟩
      simp only [Option.bind_eq_bind, Option.bind_some, Option.pure_def]
      cases readRest rest.length rest with
      | none => exact ⟨_, _, rfl⟩
      | some steps => exact ⟨_, _, rfl⟩

/-- Whether a setting at the top of a source is one of this name or a part of it. -/
def LeadsTo (top name : String) : Prop := (path top).head? = some (.name name)

end Step

theorem put_isTable (h : j.IsTable) (top : String) (value : Json) :
    (put j (Step.path top) value).IsTable := by
  obtain ⟨s, rest, path⟩ := Step.path_eq top
  rw [path, put_name]
  exact h.setMember _ _

theorem lay_isTable (h : j.IsTable) (source : List (String × Json)) : (lay j source).IsTable := by
  induction source generalizing j with
  | nil => exact h
  | cons m rest ih => exact ih (put_isTable h m.1 m.2)

theorem lay_append (j : Json) (source more : List (String × Json)) :
    lay j (source ++ more) = lay (lay j source) more := List.foldl_append

/-- What is put elsewhere leaves a setting alone. -/
theorem get?_put_of_not_leadsTo {top : String} (elsewhere : ¬ Step.LeadsTo top name) :
    (put j (Step.path top) value).get? name = j.get? name := by
  obtain ⟨s, rest, path⟩ := Step.path_eq top
  have different : name ≠ s := by
    rintro rfl
    exact elsewhere (by rw [Step.LeadsTo, path]; rfl)
  rw [path, put_name, get?_setMember_of_ne different]

theorem get?_lay_of_not_leadsTo (elsewhere : ∀ m ∈ source, ¬ Step.LeadsTo m.1 name) :
    (lay j source).get? name = j.get? name := by
  induction source generalizing j with
  | nil => rfl
  | cons m rest ih =>
      have first := elsewhere m List.mem_cons_self
      have others := ih (j := put j (Step.path m.1) m.2)
        fun m' inside => elsewhere m' (List.mem_cons_of_mem _ inside)
      rw [lay, List.foldl_cons, ← lay, others, get?_put_of_not_leadsTo first]

/-- What is put over two tables makes no new difference between them. -/
theorem agreeOff_put (h : AgreeOff name j j') (top : String) (value : Json) :
    AgreeOff name (put j (Step.path top) value) (put j' (Step.path top) value) where
  left := put_isTable h.left top value
  right := put_isTable h.right top value
  same other different := by
    obtain ⟨s, rest, path⟩ := Step.path_eq top
    rw [path, put_name, put_name]
    by_cases named : other = s
    · subst named
      rw [get?_setMember, get?_setMember, Json.member, Json.member, h.same other different]
    · rw [get?_setMember_of_ne named, get?_setMember_of_ne named, h.same other different]

theorem agreeOff_lay (h : AgreeOff name j j') (source : List (String × Json)) :
    AgreeOff name (lay j source) (lay j' source) := by
  induction source generalizing j j' with
  | nil => exact h
  | cons m rest ih => exact ih (agreeOff_put h m.1 m.2)

/-- A setting that is put changes no other one. -/
theorem agreeOff_of_put (h : j.IsTable) (value : Json) {top : String}
    (there : Step.LeadsTo top name) : AgreeOff name j (put j (Step.path top) value) where
  left := h
  right := put_isTable h top value
  same other different := by
    obtain ⟨s, rest, path⟩ := Step.path_eq top
    rw [Step.LeadsTo, path] at there
    obtain rfl : s = name := by simpa using there
    rw [path, put_name, get?_setMember_of_ne different]

end Settings

end TokenKeeper
