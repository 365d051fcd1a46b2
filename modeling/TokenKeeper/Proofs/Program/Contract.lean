import TokenKeeper.Proofs.Program.Reaches

/-!
# Contracts of programs

A contract is kept along the exchanges of a program. It says which exchanges are to be reckoned
with, what the program may ask after some exchanges, and with which results it may end after
them. That a program meets a contract is shown by going through its text once; it then holds
wherever the program is run, of each request and of the end.
-/

namespace TokenKeeper.Program

variable {α β : Type}

/-- After the given exchanges a program asks and ends as it should, as long as the answers are
such as are reckoned with. -/
def Meets (told : List Exchange → Exchange → Prop) (asks : List Exchange → Request → Prop)
    (ends : List Exchange → Except Panic α → Prop) : List Exchange → Program α → Prop
  | past, pure a => ends past (.ok a)
  | past, panic p => ends past (.error p)
  | past, ask q resume => asks past q ∧
      ∀ a, told past ⟨q, a⟩ → (resume a).Meets told asks ends (past ++ [⟨q, a⟩])

variable {told : List Exchange → Exchange → Prop} {asks : List Exchange → Request → Prop}
variable {ends : List Exchange → Except Panic α → Prop} {p rest : Program α}
variable {before past : List Exchange}

/-- Two programs in a row: the first one has to end so that the second one can go on. -/
theorem Meets.bind {f : α → Program β} {ends : List Exchange → Except Panic β → Prop}
    (first : p.Meets told asks (fun past r =>
      match r with
      | .ok a => (f a).Meets told asks ends past
      | .error e => ends past (.error e)) before) :
    (p.bind f).Meets told asks ends before := by
  induction p generalizing before with
  | pure a => exact first
  | panic e => exact first
  | ask q resume ih => exact ⟨first.1, fun a said => ih a (first.2 a said)⟩

/-- A panic that an answer brings is the end. -/
theorem Meets.ofAnswer {r : Except Panic α} (h : ends before r) :
    (ofAnswer r).Meets told asks ends before := by
  cases r <;> exact h

/-- A contract may be weakened where more was reckoned with. -/
theorem Meets.mono {asks' : List Exchange → Request → Prop}
    {ends' : List Exchange → Except Panic α → Prop} (h : p.Meets told asks ends before)
    (ask : ∀ past q, asks past q → asks' past q) (finish : ∀ past r, ends past r → ends' past r) :
    p.Meets told asks' ends' before := by
  induction p generalizing before with
  | pure a => exact finish _ _ h
  | panic e => exact finish _ _ h
  | ask q resume ih => exact ⟨ask _ _ h.1, fun a said => ih a (h.2 a said)⟩

/-- Requests that are allowed at any time need no look at the exchanges. -/
theorem Uses.meets {allowed : Request → Prop} (h : p.Uses allowed)
    (ask : ∀ past q, allowed q → asks past q) (finish : ∀ past r, ends past r) :
    p.Meets told asks ends before := by
  induction p generalizing before with
  | pure a => exact finish _ _
  | panic e => exact finish _ _
  | ask q resume ih => exact ⟨ask _ _ h.1, fun a _ => ih a (h.2 a)⟩

/-- What is left of a program after such answers meets the contract as well. -/
theorem Meets.reaches (h : p.Meets told asks ends before) (reached : p.Reaches past rest)
    (said : ∀ earlier x later, past = earlier ++ x :: later → told (before ++ earlier) x) :
    rest.Meets told asks ends (before ++ past) := by
  induction reached generalizing before with
  | refl => rwa [List.append_nil]
  | @ask q resume a past rest _ ih =>
      have now : told before ⟨q, a⟩ := by
        have first := said [] ⟨q, a⟩ past rfl
        rwa [List.append_nil] at first
      have onward := ih (h.2 a now) fun earlier x later cut => by
        have next := said (⟨q, a⟩ :: earlier) x later (by rw [cut]; rfl)
        rwa [← List.append_cons]
      rwa [← List.append_cons] at onward

/-- What was said before the beginning has still been said at the end. -/
theorem Meets.extends (h : p.Meets told asks ends before) :
    p.Meets told asks (fun past r => before <+: past ∧ ends past r) before := by
  induction p generalizing before with
  | pure a => exact ⟨List.prefix_rfl, h⟩
  | panic e => exact ⟨List.prefix_rfl, h⟩
  | ask q resume ih =>
      refine ⟨h.1, fun a said => (ih a (h.2 a said)).mono (fun _ _ allowed => allowed) ?_⟩
      intro past r ended
      exact ⟨(List.prefix_append before _).trans ended.1, ended.2⟩

/-- A caught panic is an ordinary end. -/
theorem Meets.caught {ends : List Exchange → Except Panic (Except Panic α) → Prop}
    (h : p.Meets told asks (fun past r => ends past (.ok r)) before) :
    p.caught.Meets told asks ends before := by
  induction p generalizing before with
  | pure a => exact h
  | panic e => exact h
  | ask q resume ih => exact ⟨h.1, fun a said => ih a (h.2 a said)⟩

/-- Two contracts are one. -/
theorem Meets.and {asks' : List Exchange → Request → Prop}
    {ends' : List Exchange → Except Panic α → Prop} (h : p.Meets told asks ends before)
    (h' : p.Meets told asks' ends' before) :
    p.Meets told (fun past q => asks past q ∧ asks' past q)
      (fun past r => ends past r ∧ ends' past r) before := by
  induction p generalizing before with
  | pure a => exact ⟨h, h'⟩
  | panic e => exact ⟨h, h'⟩
  | ask q resume ih => exact ⟨⟨h.1, h'.1⟩, fun a said => ih a (h.2 a said) (h'.2 a said)⟩

/-- What a program may ask at all, whatever it is told. -/
theorem Meets.uses {allowed : Request → Prop} (h : p.Meets (fun _ _ => True) asks ends before)
    (ask : ∀ past q, asks past q → allowed q) : p.Uses allowed := by
  induction p generalizing before with
  | pure a => trivial
  | panic e => trivial
  | ask q resume ih => exact ⟨ask _ _ h.1, fun a => ih a (h.2 a trivial)⟩

/-- A program may ask and end as the exchanges that lead it there allow. -/
theorem meets_reaches (p : Program α) (before : List Exchange) :
    p.Meets told
      (fun past q => ∃ since resume, past = before ++ since ∧ p.Reaches since (.ask q resume))
      (fun past r => ∃ since, past = before ++ since ∧ p.Reaches since (.ofAnswer r)) before := by
  have onward {rest : Program α} {start : List Exchange} (there : p.Reaches start rest) :
      rest.Meets told
        (fun past q => ∃ since resume, past = before ++ since ∧ p.Reaches since (.ask q resume))
        (fun past r => ∃ since, past = before ++ since ∧ p.Reaches since (.ofAnswer r))
        (before ++ start) := by
    induction rest generalizing start with
    | pure a => exact ⟨start, rfl, there⟩
    | panic e => exact ⟨start, rfl, there⟩
    | ask q resume ih =>
        refine ⟨⟨start, resume, rfl, there⟩, fun a _ => ?_⟩
        rw [List.append_assoc]
        exact ih a (there.snoc a)
  have whole := onward (.refl p)
  rwa [List.append_nil] at whole

end Program

/-- Some exchanges went on with requests of one sort only. -/
def Adds (allowed : Request → Prop) (before past : List Exchange) : Prop :=
  ∃ since, past = before ++ since ∧ ∀ x ∈ since, allowed x.request

namespace Adds

variable {allowed wider : Request → Prop} {before past later : List Exchange}

theorem refl (past : List Exchange) : Adds allowed past past :=
  ⟨[], (List.append_nil past).symm, fun _ inside => nomatch inside⟩

theorem snoc (h : Adds allowed before past) {x : Exchange} (next : allowed x.request) :
    Adds allowed before (past ++ [x]) := by
  obtain ⟨since, rfl, all⟩ := h
  refine ⟨since ++ [x], List.append_assoc before since [x], ?_⟩
  intro y inside
  rcases List.mem_append.mp inside with old | new
  · exact all y old
  · rwa [List.mem_singleton.mp new]

theorem trans (first : Adds allowed before past) (second : Adds allowed past later) :
    Adds allowed before later := by
  obtain ⟨since, rfl, all⟩ := first
  obtain ⟨more, rfl, rest⟩ := second
  refine ⟨since ++ more, List.append_assoc before since more, ?_⟩
  intro y inside
  rcases List.mem_append.mp inside with old | new
  · exact all y old
  · exact rest y new

theorem mono (h : Adds allowed before past) (wide : ∀ q, allowed q → wider q) :
    Adds wider before past := by
  obtain ⟨since, rfl, all⟩ := h
  exact ⟨since, rfl, fun x inside => wide _ (all x inside)⟩

theorem isPrefix (h : Adds allowed before past) : before <+: past := by
  obtain ⟨since, rfl, _⟩ := h
  exact List.prefix_append before since

/-- An exchange is one of those before, or it is of that sort. -/
theorem mem {x : Exchange} (h : Adds allowed before past) (inside : x ∈ past) :
    x ∈ before ∨ allowed x.request := by
  obtain ⟨since, rfl, all⟩ := h
  exact (List.mem_append.mp inside).imp_right (all x)

end Adds

/-- A request that may come wherever an invariant of the exchanges holds, and that leaves it
alone. -/
def Request.Free (inv : List Exchange → Prop) (asks : List Exchange → Request → Prop)
    (q : Request) : Prop :=
  ∀ past, inv past → asks past q ∧ ∀ a, inv (past ++ [⟨q, a⟩])

namespace Program

variable {α β : Type}
variable {told : List Exchange → Exchange → Prop} {asks : List Exchange → Request → Prop}
variable {ends : List Exchange → Except Panic α → Prop} {p rest : Program α}
variable {before past : List Exchange}

/-- The exchanges of a program are of the sort that it uses. -/
theorem Uses.adds {allowed : Request → Prop} (h : p.Uses allowed) (before : List Exchange) :
    p.Meets told (fun past q => Adds allowed before past ∧ allowed q)
      (fun past _ => Adds allowed before past) before := by
  have onward {start : List Exchange} (there : Adds allowed before start) :
      p.Meets told (fun past q => Adds allowed before past ∧ allowed q)
        (fun past _ => Adds allowed before past) start := by
    induction p generalizing start with
    | pure a => exact there
    | panic e => exact there
    | ask q resume ih => exact ⟨⟨there, h.1⟩, fun a _ => ih a (h.2 a) (there.snoc h.1)⟩
  exact onward (.refl before)

/-- Where an invariant of the exchanges holds, a program asks only what it may, and it ends where
the invariant holds again. On the way it need not hold. -/
def Keeps (inv : List Exchange → Prop) (asks : List Exchange → Request → Prop)
    (p : Program α) : Prop :=
  ∀ before, inv before → p.Meets (fun _ _ => True) asks (fun past _ => inv past) before

namespace Keeps

variable {inv : List Exchange → Prop}

theorem pure (a : α) : (Program.pure a).Keeps inv asks := fun _ holds => holds

theorem ofAnswer (r : Except Panic α) : (Program.ofAnswer r).Keeps inv asks :=
  fun _ holds => Meets.ofAnswer holds

theorem bind {f : α → Program β} (first : p.Keeps inv asks)
    (second : ∀ a, (f a).Keeps inv asks) : (p.bind f).Keeps inv asks := by
  intro before holds
  apply Meets.bind
  apply (first before holds).mono (fun _ _ allowed => allowed)
  intro past r again
  cases r with
  | ok a => exact second a past again
  | error e => exact again

theorem ask {q : Request} {resume : q.Answer → Program α} (free : q.Free inv asks)
    (rest : ∀ a, (resume a).Keeps inv asks) : (Program.ask q resume).Keeps inv asks :=
  fun before holds => ⟨(free before holds).1, fun a _ => rest a _ ((free before holds).2 a)⟩

theorem caught (h : p.Keeps inv asks) : p.caught.Keeps inv asks :=
  fun before holds => Meets.caught (h before holds)

theorem thenAlways {after : Program Unit} (first : p.Keeps inv asks)
    (second : after.Keeps inv asks) : (p.thenAlways after).Keeps inv asks :=
  first.caught.bind fun r => second.bind fun _ => .ofAnswer r

end Keeps

/-- A program that asks only for what leaves the invariant alone. -/
theorem Uses.keeps {inv : List Exchange → Prop} {allowed : Request → Prop} (h : p.Uses allowed)
    (free : ∀ q, allowed q → q.Free inv asks) : p.Keeps inv asks := by
  induction p with
  | pure a => exact .pure a
  | panic e => exact fun _ holds => holds
  | ask q resume ih => exact .ask (free q h.1) fun a => ih a (h.2 a)

/-- Whatever was said before and is answered, a program asks only what it may. -/
def Heeds (asks : List Exchange → Request → Prop) (p : Program α) : Prop :=
  ∀ before, p.Meets (fun _ _ => True) asks (fun _ _ => True) before

theorem heeds_iff_keeps : p.Heeds asks ↔ p.Keeps (fun _ => True) asks :=
  ⟨fun h before _ => h before, fun h before => h before trivial⟩

namespace Heeds

theorem pure (a : α) : (Program.pure a).Heeds asks := fun _ => trivial

theorem bind {f : α → Program β} (first : p.Heeds asks) (second : ∀ a, (f a).Heeds asks) :
    (p.bind f).Heeds asks :=
  heeds_iff_keeps.mpr
    ((heeds_iff_keeps.mp first).bind fun a => heeds_iff_keeps.mp (second a))

/-- Contracts of what a program asks are kept wherever it gets. -/
theorem reaches {q : Request} {resume : q.Answer → Program α} (h : p.Heeds asks)
    (reached : p.Reaches past (.ask q resume)) : asks past q :=
  ((h []).reaches reached fun _ _ _ _ => trivial).1

end Heeds

/-- A program whose requests may all come at any time. -/
theorem Uses.heeds {allowed : Request → Prop} (h : p.Uses allowed)
    (ask : ∀ past q, allowed q → asks past q) : p.Heeds asks :=
  fun _ => h.meets ask fun _ _ => trivial

end TokenKeeper.Program
