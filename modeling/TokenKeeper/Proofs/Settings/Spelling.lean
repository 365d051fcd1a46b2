import Mathlib.Data.List.Basic
import TokenKeeper.Settings.Sources

/-!
# The spelling of a variable

A variable is read as a truth value or a number where its text looks like one, and an option that
is text gets what was read in a spelling of its own. This is the text of the variable again unless
the variable is a word in capitals, a whole number with a plus or with zeros that it does not need,
or another number that is not in its shortest form.
-/

namespace TokenKeeper.Settings.Environment

variable {v : String} {n : Int} {cs : List Char}

/-- The words for truth values, in any case. -/
def isWord (v : String) : Bool := v.toLower = "true" ∨ v.toLower = "false"

/-- What a text becomes that is read as a value and written as text again. -/
def respelt (v : String) : String :=
  if isWord v then v.toLower
  else
    match integer? v, Decimal.read? v with
    | some n, _ => toString n
    | none, some x => Decimal.plain x
    | none, none => v

theorem value_ne_object (v : String) (members : List (String × Json)) :
    value v ≠ .object members := by
  unfold value Json.ofInt
  dsimp only
  split_ifs
  · simp
  · simp
  · split
    · split_ifs <;> simp
    · simp
    · simp

theorem textOf?_ofInt (n : Int) : Conversion.textOf? (.ofInt n) = some (toString n) := by
  unfold Json.ofInt
  split_ifs with below
  · rfl
  · obtain ⟨m, rfl⟩ := Int.eq_ofNat_of_zero_le (Int.not_lt.mp below)
    rfl

theorem textOf?_value (v : String) : Conversion.textOf? (value v) = some (respelt v) := by
  unfold value respelt isWord
  by_cases yes : v.toLower = "true"
  · simp [yes, Conversion.textOf?]
  · by_cases no : v.toLower = "false"
    · simp [no, Conversion.textOf?]
    · simp only [yes, no, if_false, or_self, decide_false, Bool.false_eq_true]
      cases integer? v with
      | some n => exact textOf?_ofInt n
      | none => cases Decimal.read? v <;> rfl

/-- The usual form of a whole number: no plus, and no zero in front of other digits or after a
minus. -/
def IsUsual (cs : List Char) : Prop :=
  cs = ['0'] ∨ cs.head? ≠ some '+' ∧ cs.head? ≠ some '0' ∧ ¬ ['-', '0'] <+: cs

instance : DecidablePred IsUsual := fun _ => inferInstanceAs (Decidable (_ ∨ _))

/-- A text that does not come back. -/
inductive Altered (v : String) : Prop
  | word (word : isWord v) (capital : v ≠ v.toLower)
  | whole (word : isWord v = false) (n : Int) (read : integer? v = some n)
      (unusual : ¬ IsUsual v.toList)
  | number (word : isWord v = false) (whole : integer? v = none) (x : Float)
      (read : Decimal.read? v = some x) (longer : v ≠ Decimal.plain x)

section Digits

variable {c : Char} {m : Nat}

theorem digit_bounds (digit : c.isDigit = true) : 48 ≤ c.toNat ∧ c.toNat ≤ 57 :=
  Char.isDigit_iff_toNat.mp digit

theorem digitChar_of_digit (digit : c.isDigit = true) : (c.toNat - 48).digitChar = c := by
  obtain ⟨low, high⟩ := digit_bounds digit
  apply Char.toNat_inj.mp
  rw [Nat.toNat_digitChar_of_lt_ten (by omega)]
  omega

/-- Digits behind those of a number are those of a greater one. -/
theorem toDigits_append (positive : 0 < m) (digits : ∀ c ∈ cs, c.isDigit = true) :
    Nat.toDigits 10 m ++ cs = Nat.toDigits 10 (Nat.ofDigitChars 10 cs m) := by
  induction cs generalizing m with
  | nil => rw [List.append_nil, Nat.ofDigitChars_nil]
  | cons c rest ih =>
      have digit := digits c List.mem_cons_self
      obtain ⟨low, high⟩ := digit_bounds digit
      have small : c.toNat - 48 < 10 := by omega
      have one := Nat.toDigits_append_toDigits (by omega : 1 < 10) positive small
      rw [Nat.toDigits_of_lt_base small, digitChar_of_digit digit] at one
      have more := ih (m := 10 * m + (c.toNat - 48)) (by omega)
        fun c inside => digits c (List.mem_cons_of_mem _ inside)
      rw [Nat.ofDigitChars_cons, List.append_cons]
      exact (congrArg (· ++ rest) one).trans more

/-- The digits of a number do not begin with a zero. -/
theorem head?_toDigits (positive : 0 < m) : (Nat.toDigits 10 m).head? ≠ some '0' := by
  induction m using Nat.strongRecOn with
  | ind m ih =>
      by_cases small : m < 10
      · rw [Nat.toDigits_of_lt_base small, List.head?_cons]
        intro zero
        have same := congrArg Char.toNat (Option.some.inj zero)
        rw [Nat.toNat_digitChar_of_lt_ten small] at same
        have : '0'.toNat = 48 := rfl
        omega
      · have more := ih (m / 10) (by omega) (by omega)
        rw [Nat.toDigits_of_base_le (by omega) (by omega)]
        rwa [List.head?_append_of_ne_nil _ Nat.toDigits_ne_nil]

/-- Digits are those of their value, unless there is a zero in front that is not alone. -/
theorem toDigits_digitsValue_iff (digits : ∀ c ∈ cs, c.isDigit = true) (present : cs ≠ []) :
    Nat.toDigits 10 (Decimal.digitsValue cs) = cs ↔ cs = ['0'] ∨ cs.head? ≠ some '0' := by
  cases cs with
  | nil => exact absurd rfl present
  | cons c rest =>
      obtain ⟨low, high⟩ := digit_bounds (digits c List.mem_cons_self)
      have others : ∀ c ∈ rest, c.isDigit = true :=
        fun c inside => digits c (List.mem_cons_of_mem _ inside)
      have value : Decimal.digitsValue (c :: rest) = Nat.ofDigitChars 10 rest (c.toNat - 48) := by
        change Nat.ofDigitChars 10 rest (10 * 0 + (c.toNat - 48)) = _
        rw [Nat.mul_zero, Nat.zero_add]
      constructor
      · intro same
        by_cases positive : 0 < Decimal.digitsValue (c :: rest)
        · exact .inr (same ▸ head?_toDigits positive)
        · rw [Nat.eq_zero_of_not_pos positive, Nat.toDigits_zero] at same
          exact .inl same.symm
      · rintro (alone | first)
        · rw [alone]
          rfl
        · have nonzero : c.toNat ≠ 48 := by
            intro zero
            apply first
            have same : c = '0' := Char.toNat_inj.mp zero
            rw [same, List.head?_cons]
          have more := toDigits_append (m := c.toNat - 48) (by omega) others
          rw [Nat.toDigits_of_lt_base (by omega), digitChar_of_digit (digits c List.mem_cons_self)]
            at more
          rw [value, ← more]
          rfl

end Digits

theorem toList_toString_natCast (m : Nat) : (toString (m : Int)).toList = Nat.toDigits 10 m :=
  Nat.toList_repr

theorem toList_toString_neg {m : Nat} (positive : 0 < m) :
    (toString (-(m : Int))).toList = '-' :: Nat.toDigits 10 m := by
  rw [Int.toString_eq_repr, Int.repr_eq_if, if_neg (by omega), String.toList_append, Int.neg_neg,
    Int.toNat_natCast, Nat.toList_repr]
  rfl

theorem integer?_eq_some (read : integer? v = some n) :
    ∃ minus digits, Decimal.splitSign v.toList = (minus, digits) ∧ digits ≠ [] ∧
      (∀ c ∈ digits, c.isDigit = true) ∧
      n = if minus then -(Decimal.digitsValue digits : Int) else Decimal.digitsValue digits := by
  unfold integer? at read
  cases sign : Decimal.splitSign v.toList with
  | mk minus digits =>
      simp only [sign] at read
      split at read
      · cases read
      · rename_i whole
        obtain ⟨present, all⟩ := not_or.mp whole
        refine ⟨minus, digits, rfl, by simpa using present, by simpa using all, ?_⟩
        by_cases fits : Width.isSigned64
            (if minus = true then -(Decimal.digitsValue digits : Int)
              else Decimal.digitsValue digits) = true
        · rw [if_pos fits] at read
          exact (Option.some.inj read).symm
        · rw [if_neg fits] at read
          cases read

/-- What stands in front of the rest of a text after its sign. -/
theorem eq_of_splitSign {minus : Bool} {digits : List Char}
    (split : Decimal.splitSign cs = (minus, digits)) :
    minus = true ∧ cs = '-' :: digits ∨ minus = false ∧ (cs = '+' :: digits ∨ cs = digits) := by
  unfold Decimal.splitSign at split
  split at split <;> cases split
  · exact .inl ⟨rfl, rfl⟩
  · exact .inr ⟨rfl, .inl rfl⟩
  · exact .inr ⟨rfl, .inr rfl⟩

/-- A whole number comes back if it is in its usual form. -/
theorem toString_eq_iff (read : integer? v = some n) : toString n = v ↔ IsUsual v.toList := by
  rw [← String.toList_inj]
  obtain ⟨minus, digits, sign, present, all, rfl⟩ := integer?_eq_some read
  have same := toDigits_digitsValue_iff all present
  have first (c : Char) (no : c.isDigit = false) : digits.head? ≠ some c := by
    intro head
    rw [all c (List.mem_of_mem_head? head)] at no
    cases no
  obtain ⟨rfl, minus⟩ | ⟨rfl, plus | none⟩ := eq_of_splitSign sign
  · have usual : IsUsual v.toList ↔ digits.head? ≠ some '0' := by
      obtain ⟨c, rest, rfl⟩ := List.exists_cons_of_ne_nil present
      simp [minus, IsUsual, eq_comm]
    rw [usual, if_pos rfl, minus]
    by_cases positive : 0 < Decimal.digitsValue digits
    · rw [toList_toString_neg positive, List.cons_inj_right, same]
      refine ⟨?_, .inr⟩
      rintro (rfl | head)
      · cases positive
      · exact head
    · have zero := Nat.eq_zero_of_not_pos positive
      rw [zero, Nat.toDigits_zero] at same
      rw [zero]
      constructor
      · intro impossible
        cases impossible
      · intro head
        obtain rfl := same.mpr (.inr head)
        exact absurd rfl head
  · have digit : '+' ∉ Nat.toDigits 10 (Decimal.digitsValue digits) := fun inside =>
      nomatch Nat.isDigit_of_mem_toDigits (by omega) (by omega) inside
    rw [if_neg (by decide), toList_toString_natCast, plus]
    constructor
    · intro impossible
      exact absurd (impossible ▸ List.mem_cons_self) digit
    · rintro (alone | ⟨head, _⟩)
      · cases alone
      · exact absurd rfl head
  · rw [if_neg (by decide), toList_toString_natCast, none, same, IsUsual]
    have minus : ¬ ['-', '0'] <+: digits := by
      rintro ⟨rest, rfl⟩
      exact first '-' rfl rfl
    simp [first '+' rfl, minus]

/-- A text comes back unless it is altered. -/
theorem respelt_eq_iff (v : String) : respelt v = v ↔ ¬ Altered v := by
  unfold respelt
  cases word : isWord v with
  | true =>
      rw [if_pos rfl]
      constructor
      · intro same altered
        cases altered with
        | word _ capital => exact capital same.symm
        | whole no | number no => simp [word] at no
      · intro kept
        by_contra capital
        exact kept (.word word (Ne.symm capital))
  | false =>
      cases whole : integer? v with
      | some n =>
          have usual := toString_eq_iff whole
          simp only [Bool.false_eq_true, if_false, usual]
          constructor
          · intro kept altered
            cases altered with
            | word yes => simp [word] at yes
            | whole _ m read unusual => exact unusual kept
            | number _ no => simp [whole] at no
          · intro kept
            by_contra unusual
            exact kept (.whole word n whole unusual)
      | none =>
          cases number : Decimal.read? v with
          | some x =>
              simp only [Bool.false_eq_true, if_false]
              constructor
              · intro kept altered
                cases altered with
                | word yes => simp [word] at yes
                | whole _ m read => simp [whole] at read
                | number _ _ y read longer =>
                    obtain rfl := Option.some.inj (number.symm.trans read)
                    exact longer kept.symm
              · intro kept
                by_contra longer
                exact kept (.number word whole x number (Ne.symm longer))
          | none =>
              simp only [Bool.false_eq_true, if_false, true_iff]
              intro altered
              cases altered with
              | word yes => simp [word] at yes
              | whole _ m read => simp [whole] at read
              | number _ _ y read => simp [number] at read

end TokenKeeper.Settings.Environment
