import Mathlib.Data.List.DropRight
import TokenKeeper.Json

/-!
# What follows a value

A reader that takes a value off the front of a text does so whatever follows the text, as long as
that does not carry on a number, and whatever fuel it has beyond what it needs.
-/

namespace TokenKeeper.Json

variable {p : Purpose} {q : String → Purpose} {minus : Bool} {fuel more depth m dropped : Nat}
  {e : Int} {cs t rest : List Char} {found : List Char} {j : Json} {s : String} {c : Char}

/-- A text that does not carry on a number in front of it. -/
def EndsNumber (t : List Char) : Prop :=
  ∀ c ∈ t.head?, c.isDigit = false ∧ c ∉ ['.', 'e', 'E', '+', '-']

/-- What a reader gives when more text follows. -/
def followedBy {α : Type} (t : List Char) (r : α × List Char) : α × List Char := (r.1, r.2 ++ t)

section Blanks

theorem skipBlank_append (visible : skipBlank cs ≠ []) :
    skipBlank (cs ++ t) = skipBlank cs ++ t := by
  unfold skipBlank at *
  rw [List.dropWhile_append, if_neg (by simpa using visible)]

theorem skipBlank_append_of_blank (blank : skipBlank cs = []) :
    skipBlank (cs ++ t) = skipBlank t := by
  unfold skipBlank at *
  rw [List.dropWhile_append, if_pos (by simpa using blank)]

theorem skipBlank_skipBlank (cs : List Char) : skipBlank (skipBlank cs) = skipBlank cs :=
  List.dropWhile_idempotent isBlank cs

end Blanks

section Numbers

theorem takeWhile_append (ends : EndsNumber t) :
    (cs ++ t).takeWhile Char.isDigit = cs.takeWhile Char.isDigit := by
  induction cs with
  | nil =>
      cases t with
      | nil => rfl
      | cons c t => simp [(ends c rfl).1]
  | cons c cs ih => simp [List.takeWhile_cons, ih]

theorem dropWhile_append (ends : EndsNumber t) :
    (cs ++ t).dropWhile Char.isDigit = cs.dropWhile Char.isDigit ++ t := by
  induction cs with
  | nil =>
      cases t with
      | nil => rfl
      | cons c t => simp [(ends c rfl).1]
  | cons c cs ih =>
      rw [List.cons_append, List.dropWhile_cons, List.dropWhile_cons]
      split <;> simp [ih]

theorem splitSign_append (ends : EndsNumber t) :
    Decimal.splitSign (cs ++ t) = ((Decimal.splitSign cs).1, (Decimal.splitSign cs).2 ++ t) := by
  cases cs with
  | nil =>
      cases t with
      | nil => rfl
      | cons c t =>
          have other := (ends c rfl).2
          simp only [List.mem_cons, not_or] at other
          unfold Decimal.splitSign
          split <;> simp_all
  | cons c cs =>
      rw [List.cons_append]
      unfold Decimal.splitSign
      split <;> simp_all

theorem readExponent_append (ends : EndsNumber t) :
    readExponent (cs ++ t) = (readExponent cs).map (followedBy t) := by
  simp only [readExponent, splitSign_append ends, takeWhile_append ends, dropWhile_append ends]
  split <;> rfl

theorem ofScaled_append (cs t : List Char) :
    ofScaled p minus m e (cs ++ t) = (ofScaled p minus m e cs).map (followedBy t) := by
  cases p with
  | value => simp [ofScaled, followedBy, Function.comp_def]
  | extent => rfl

theorem readScaled_append (cs : List Char) (ends : EndsNumber t) :
    readScaled p minus m e (cs ++ t) = (readScaled p minus m e cs).map (followedBy t) := by
  cases cs with
  | nil =>
      cases t with
      | nil => exact ofScaled_append [] []
      | cons c t =>
          have other := (ends c rfl).2
          simp only [List.mem_cons, not_or] at other
          simp only [List.nil_append, readScaled, other, or_self, if_false]
          exact ofScaled_append [] _
  | cons c cs =>
      rw [List.cons_append, readScaled, readScaled]
      split
      · rw [readExponent_append ends]
        cases readExponent cs with
        | none => rfl
        | some r => exact ofScaled_append _ t
      · exact ofScaled_append (c :: cs) t

theorem readRest_append (ends : EndsNumber t) :
    readRest p minus m dropped (cs ++ t) = (readRest p minus m dropped cs).map (followedBy t) := by
  cases cs with
  | nil =>
      cases t with
      | nil =>
          rw [List.nil_append, readRest]
          split
          · exact ofScaled_append [] []
          · rfl
      | cons c t =>
          have other := (ends c rfl).2
          simp only [List.mem_cons, not_or] at other
          simp only [List.nil_append, readRest, readScaled, other, or_self, if_false, false_or]
          split
          · exact ofScaled_append [] _
          · rfl
  | cons c cs =>
      rw [List.cons_append, readRest, readRest]
      split
      · simp only [takeWhile_append ends, dropWhile_append ends]
        split
        · rfl
        · exact readScaled_append _ ends
      · split
        · exact readScaled_append (c :: cs) ends
        · rfl

theorem readNumber_append (ends : EndsNumber t) :
    readNumber p minus (cs ++ t) = (readNumber p minus cs).map (followedBy t) := by
  simp only [readNumber, takeWhile_append ends, dropWhile_append ends]
  split
  · rfl
  · exact readRest_append ends

/-- A number begins with a digit. -/
theorem exists_digit_of_readNumber {r : Json × List Char} (read : readNumber p minus cs = some r) :
    ∃ c rest, cs = c :: rest ∧ c.isDigit = true := by
  cases cs with
  | nil => cases read
  | cons c rest =>
      refine ⟨c, rest, rfl, ?_⟩
      by_contra other
      simp [readNumber, other] at read

end Numbers

section Strings

theorem readUnit_append {u : Nat} (read : readUnit cs = some (u, rest)) :
    readUnit (cs ++ t) = some (u, rest ++ t) := by
  unfold readUnit at read
  split at read
  · simp only [Option.bind_eq_bind, Option.bind_eq_some_iff, Option.some.injEq, Prod.mk.injEq]
      at read
    obtain ⟨a, ha, b, hb, c, hc, d, hd, rfl, rfl⟩ := read
    simp [readUnit, ha, hb, hc, hd]
  · cases read

theorem readEscapedUnit_append (read : readEscapedUnit p cs = some (c, rest)) :
    readEscapedUnit p (cs ++ t) = some (c, rest ++ t) := by
  simp only [readEscapedUnit, Option.bind_eq_bind, Option.bind_eq_some_iff] at read ⊢
  obtain ⟨⟨u, behind⟩, first, read⟩ := read
  refine ⟨(u, behind ++ t), readUnit_append first, ?_⟩
  dsimp only at read ⊢
  split at read
  · rename_i extent
    cases read
    rw [if_pos extent]
  · rename_i value
    rw [if_neg value]
    split at read
    · cases read
    · rename_i low
      rw [if_neg low]
      split at read
      · rename_i high
        rw [if_pos high]
        split at read
        · simp only [Option.bind_eq_some_iff, List.cons_append] at read ⊢
          obtain ⟨⟨v, behind⟩, second, read⟩ := read
          refine ⟨(v, behind ++ t), readUnit_append second, ?_⟩
          dsimp only at read ⊢
          split at read
          · rename_i pair
            obtain ⟨rfl, rfl⟩ := Prod.mk.inj (Option.some.inj read)
            rw [if_pos pair]
          · cases read
        · cases read
      · rename_i one
        cases read
        rw [if_neg one]

theorem readString_append (read : readString p fuel found cs = some (s, rest))
    (enough : fuel ≤ more) : readString p more found (cs ++ t) = some (s, rest ++ t) := by
  induction fuel generalizing more found cs with
  | zero => cases read
  | succ fuel ih =>
      obtain ⟨more, rfl⟩ : ∃ k, more = k + 1 := ⟨more - 1, by omega⟩
      have enough : fuel ≤ more := by omega
      unfold readString at read
      dsimp only at read
      split at read
      · cases read
      · cases read
        simp [readString]
      · simp only [Option.bind_eq_bind, Option.bind_eq_some_iff] at read
        obtain ⟨⟨c, behind⟩, escaped, read⟩ := read
        simp [readString, readEscapedUnit_append escaped, ih read enough]
      · rename_i c behind other
        simp only [Option.bind_eq_bind, Option.bind_eq_some_iff] at read
        obtain ⟨d, escaped, read⟩ := read
        simp only [List.cons_append]
        unfold readString
        simp [escaped, ih read enough]
      · rename_i c behind _ _ _
        split at read
        · cases read
        · rename_i plain
          have shown : 32 ≤ c.toNat := Nat.not_lt.mp fun control => plain (.inl control)
          have unescaped : c ≠ '\\' := fun same => plain (.inr same)
          simp [readString, shown, unescaped, ih read enough]

theorem readName_append {name : String} (read : readName p cs = some (name, rest)) :
    readName p (cs ++ t) = some (name, rest ++ t) := by
  unfold readName at read ⊢
  split at read
  · rename_i behind quote
    rw [skipBlank_append (by simp [quote]), quote]
    simp only [Option.bind_eq_bind, Option.bind_eq_some_iff, List.cons_append] at read ⊢
    obtain ⟨⟨name, behind⟩, named, read⟩ := read
    refine ⟨(name, behind ++ t), readString_append named (by simp), ?_⟩
    dsimp only at read ⊢
    split at read
    · rename_i behind colon
      cases read
      rw [skipBlank_append (by simp [colon]), colon]
      rfl
    · cases read
  · cases read

end Strings

section Values

/-- What readers with this fuel take off the front, they take off with more fuel and when more text
follows. -/
structure Carries (fuel : Nat) (t : List Char) : Prop where
  value {p : Purpose} {depth : Nat} {cs : List Char} {j : Json} {rest : List Char} {more : Nat} :
    readValue p fuel depth cs = some (j, rest) → fuel ≤ more →
      readValue p more depth (cs ++ t) = some (j, rest ++ t)
  items {p : Purpose} {depth : Nat} {found : List Json} {cs : List Char} {j : Json}
    {rest : List Char} {more : Nat} :
    readItems p fuel depth found cs = some (j, rest) → fuel ≤ more →
      readItems p more depth found (cs ++ t) = some (j, rest ++ t)
  members {p : Purpose} {q : String → Purpose} {depth : Nat} {found : List (String × Json)}
    {cs : List Char} {j : Json} {rest : List Char} {more : Nat} :
    readMembers p q fuel depth found cs = some (j, rest) → fuel ≤ more →
      readMembers p q more depth found (cs ++ t) = some (j, rest ++ t)

variable {items : List Json} {members : List (String × Json)}

theorem readValue_of_digit (shown : skipBlank cs = c :: rest) (digit : c.isDigit = true) :
    readValue p (fuel + 1) depth cs = readNumber p false (c :: rest) := by
  unfold readValue
  rw [shown]
  split <;> simp_all

theorem readUpTo_append {close : Char} {empty : Json} {filled filled' : Reader Json}
    (kept : ∀ {cs j rest}, filled cs = some (j, rest) → filled' (cs ++ t) = some (j, rest ++ t))
    (read : readUpTo close empty filled cs = some (j, rest)) :
    readUpTo close empty filled' (cs ++ t) = some (j, rest ++ t) := by
  unfold readUpTo at read ⊢
  split at read
  · cases read
  · rename_i c behind first
    rw [skipBlank_append (by simp [first]), first]
    dsimp only [List.cons_append]
    split at read
    · rename_i same
      cases read
      rw [if_pos same]
    · rename_i other
      rw [if_neg other]
      exact kept read

theorem readNext_append {close : Char} {whole : Json} {next next' : Reader Json}
    (kept : ∀ {cs j rest}, next cs = some (j, rest) → next' (cs ++ t) = some (j, rest ++ t))
    (read : readNext close whole next cs = some (j, rest)) :
    readNext close whole next' (cs ++ t) = some (j, rest ++ t) := by
  unfold readNext at read ⊢
  split at read
  · cases read
  · rename_i c behind first
    rw [skipBlank_append (by simp [first]), first]
    dsimp only [List.cons_append]
    split at read
    · rename_i comma
      rw [if_pos comma]
      exact kept read
    · rename_i other
      rw [if_neg other]
      split at read
      · rename_i same
        cases read
        rw [if_pos same]
      · cases read

theorem readItems_append (carries : Carries fuel t)
    (read : readItems p (fuel + 1) depth items cs = some (j, rest)) (enough : fuel ≤ more) :
    readItems p (more + 1) depth items (cs ++ t) = some (j, rest ++ t) := by
  simp only [readItems, Option.bind_eq_bind, Option.bind_eq_some_iff] at read ⊢
  obtain ⟨⟨item, behind⟩, first, read⟩ := read
  exact ⟨(item, behind ++ t), carries.value first enough,
    readNext_append (fun items => carries.items items enough) read⟩

theorem readMembers_append (carries : Carries fuel t)
    (read : readMembers p q (fuel + 1) depth members cs = some (j, rest)) (enough : fuel ≤ more) :
    readMembers p q (more + 1) depth members (cs ++ t) = some (j, rest ++ t) := by
  simp only [readMembers, Option.bind_eq_bind, Option.bind_eq_some_iff] at read ⊢
  obtain ⟨⟨name, behind⟩, named, ⟨item, behind'⟩, first, read⟩ := read
  exact ⟨(name, behind ++ t), readName_append named, (item, behind' ++ t),
    carries.value first enough,
    readNext_append (fun members => carries.members members enough) read⟩

theorem readValue_append (ends : EndsNumber t) (carries : Carries fuel t)
    (read : readValue p (fuel + 1) depth cs = some (j, rest)) (enough : fuel ≤ more) :
    readValue p (more + 1) depth (cs ++ t) = some (j, rest ++ t) := by
  have visible : skipBlank cs ≠ [] := by
    intro blank
    simp [readValue, blank, readNumber] at read
  have shown := skipBlank_append (t := t) visible
  unfold readValue at read
  split at read
  · rename_i word
    cases read
    rw [word] at shown
    simp [readValue, shown]
  · rename_i word
    cases read
    rw [word] at shown
    simp [readValue, shown]
  · rename_i word
    cases read
    rw [word] at shown
    simp [readValue, shown]
  · rename_i inside quote
    rw [quote] at shown
    obtain ⟨⟨text, behind⟩, closed, same⟩ := Option.map_eq_some_iff.mp read
    cases same
    have longer : inside.length + 1 ≤ (inside ++ t).length + 1 := by simp
    simp only [readValue, shown, List.cons_append, readString_append closed longer,
      Option.map_some]
  · rename_i behind sign
    rw [sign] at shown
    simp [readValue, shown, readNumber_append ends, read, followedBy]
  · rename_i behind bracket
    rw [bracket] at shown
    split at read
    · cases read
    · rename_i allowed
      simp only [readValue, shown, List.cons_append, if_neg allowed]
      exact readUpTo_append (fun items => carries.items items enough) read
  · rename_i behind brace
    rw [brace] at shown
    split at read
    · cases read
    · rename_i allowed
      simp only [readValue, shown, List.cons_append, if_neg allowed]
      exact readUpTo_append (fun members => carries.members members enough) read
  · obtain ⟨c, behind, first, digit⟩ := exists_digit_of_readNumber read
    rw [first] at shown read
    rw [readValue_of_digit shown digit]
    exact (readNumber_append ends).trans (by rw [read])

theorem carries (ends : EndsNumber t) (fuel : Nat) : Carries fuel t := by
  induction fuel with
  | zero =>
      exact
        { value := fun read _ => by cases read
          items := fun read _ => by cases read
          members := fun read _ => by cases read }
  | succ fuel ih =>
      constructor
      · intro p depth cs j rest more read enough
        obtain ⟨more, rfl⟩ : ∃ k, more = k + 1 := ⟨more - 1, by omega⟩
        exact readValue_append ends ih read (by omega)
      · intro p depth found cs j rest more read enough
        obtain ⟨more, rfl⟩ : ∃ k, more = k + 1 := ⟨more - 1, by omega⟩
        exact readItems_append ih read (by omega)
      · intro p q depth found cs j rest more read enough
        obtain ⟨more, rfl⟩ : ∃ k, more = k + 1 := ⟨more - 1, by omega⟩
        exact readMembers_append ih read (by omega)

end Values
end TokenKeeper.Json
