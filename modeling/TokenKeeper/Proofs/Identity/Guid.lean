import TokenKeeper.Identity.Guid

/-!
# Which texts are unique identifiers

The forms in which an identifier is accepted, by what they are made of. `isGuid_iff` says that the
recognizer, which goes by lengths and positions, accepts exactly these.
-/

namespace TokenKeeper.Identity

variable {cs front rest : List Char} {c : Char} {k n : Nat}

/-- A hexadecimal digit of either case. -/
def IsHexDigit (c : Char) : Prop :=
  ('0' ≤ c ∧ c ≤ '9') ∨ ('A' ≤ c ∧ c ≤ 'F') ∨ ('a' ≤ c ∧ c ≤ 'f')

theorem isHexDigit_iff : isHexDigit c = true ↔ IsHexDigit c := by
  simp only [IsHexDigit, isHexDigit, Url.hexValue?, Char.le_def, UInt32.le_iff_toNat_le]
  change _ ↔ (48 ≤ c.toNat ∧ c.toNat ≤ 57) ∨ (65 ≤ c.toNat ∧ c.toNat ≤ 70) ∨
    97 ≤ c.toNat ∧ c.toNat ≤ 102
  split
  · simp_all
  · split
    · simp_all
    · split <;> simp_all

/-- So many hexadecimal digits. -/
structure IsDigits (n : Nat) (cs : List Char) : Prop where
  length : cs.length = n
  digits : ∀ c ∈ cs, IsHexDigit c

/-- Thirty-two digits in five groups joined by dashes. -/
inductive Grouped : List Char → Prop
  | mk {a b c d e : List Char} (first : IsDigits 8 a) (second : IsDigits 4 b)
      (third : IsDigits 4 c) (fourth : IsDigits 4 d) (fifth : IsDigits 12 e) :
      Grouped (a ++ '-' :: (b ++ '-' :: (c ++ '-' :: (d ++ '-' :: e))))

/-- The forms of an identifier. -/
inductive IsIdentifier : List Char → Prop
  | plain {cs : List Char} (digits : IsDigits 32 cs) : IsIdentifier cs
  | grouped {cs : List Char} (groups : Grouped cs) : IsIdentifier cs
  | braced {cs : List Char} (groups : Grouped cs) : IsIdentifier ('\x7b' :: (cs ++ ['\x7d']))
  | named {lead cs : List Char} (name : lead.map Char.toLower = "urn:uuid:".toList)
      (groups : Grouped cs) : IsIdentifier (lead ++ cs)

theorem isDigits_iff : IsDigits n cs ↔ cs.length = n ∧ cs.all isHexDigit = true := by
  simp only [List.all_eq_true, isHexDigit_iff]
  exact ⟨fun h => ⟨h.length, h.digits⟩, fun h => ⟨h.1, h.2⟩⟩

theorem IsDigits.all (h : IsDigits n cs) : cs.all isHexDigit = true := (isDigits_iff.mp h).2

theorem Grouped.length (h : Grouped cs) : cs.length = 36 := by
  cases h with
  | mk first second third fourth fifth =>
      simp [first.length, second.length, third.length, fourth.length, fifth.length]

/-- What is asked of a character at its position in the groups. -/
def fits (r : Char × Nat) : Bool := if r.2 ∈ [8, 13, 18, 23] then r.1 == '-' else isHexDigit r.1

/-- Where no dash belongs there are digits. -/
theorem all_fits_append (clear : ∀ i ∈ [8, 13, 18, 23], i < k ∨ k + front.length ≤ i) :
    ((front ++ rest).zipIdx k).all fits =
      (front.all isHexDigit && (rest.zipIdx (k + front.length)).all fits) := by
  induction front generalizing k with
  | nil => simp
  | cons c front ih =>
      have digit : fits (c, k) = isHexDigit c := by
        refine if_neg fun dash => ?_
        have away := clear k dash
        rw [List.length_cons] at away
        omega
      rw [List.cons_append, List.zipIdx_cons, List.all_cons, List.all_cons, digit, ih,
        Bool.and_assoc, List.length_cons, Nat.add_comm front.length, ← Nat.add_assoc]
      intro i dash
      have away := clear i dash
      rw [List.length_cons] at away
      have other : i ≠ k := by omega
      omega

theorem all_fits_cons (dash : k ∈ [8, 13, 18, 23]) :
    ((c :: rest).zipIdx k).all fits = (c == '-' && (rest.zipIdx (k + 1)).all fits) := by
  rw [List.zipIdx_cons, List.all_cons, fits, if_pos dash]

/-- A long text is cut in two around a character. -/
theorem exists_cut (long : n < cs.length) :
    ∃ front c rest, cs = front ++ c :: rest ∧ front.length = n := by
  refine ⟨cs.take n, cs[n], cs.drop (n + 1), ?_, List.length_take_of_le (Nat.le_of_lt long)⟩
  rw [List.getElem_cons_drop, List.take_append_drop]

/-- With the groups at their places it is left to look at their characters. -/
theorem isGrouped_cut {a b c d e : List Char} {w x y z : Char} (first : a.length = 8)
    (second : b.length = 4) (third : c.length = 4) (fourth : d.length = 4) (fifth : e.length = 12) :
    isGrouped (a ++ w :: (b ++ x :: (c ++ y :: (d ++ z :: e)))) =
      (a.all isHexDigit && (w == '-' && (b.all isHexDigit && (x == '-' && (c.all isHexDigit &&
        (y == '-' && (d.all isHexDigit && (z == '-' && e.all isHexDigit)))))))) := by
  have last : (e.zipIdx 24).all fits = e.all isHexDigit := by
    have whole : ((e ++ []).zipIdx 24).all fits = _ := all_fits_append (by simp)
    simpa using whole
  have long : (a ++ w :: (b ++ x :: (c ++ y :: (d ++ z :: e)))).length = 36 := by
    simp [first, second, third, fourth, fifth]
  change (_ == 36 && (List.zipIdx _).all fits) = _
  rw [long, all_fits_append (by simp [first]), first, all_fits_cons (by decide),
    all_fits_append (by simp [second]), second, all_fits_cons (by decide),
    all_fits_append (by simp [third]), third, all_fits_cons (by decide),
    all_fits_append (by simp [fourth]), fourth, all_fits_cons (by decide), last]
  rfl

theorem isGrouped_iff : isGrouped cs = true ↔ Grouped cs := by
  constructor
  · intro grouped
    have long : cs.length = 36 := by
      simp only [isGrouped, Bool.and_eq_true, beq_iff_eq] at grouped
      exact grouped.1
    obtain ⟨a, w, cs, rfl, first⟩ := exists_cut (show 8 < cs.length by omega)
    rw [List.length_append, List.length_cons, first] at long
    obtain ⟨b, x, cs, rfl, second⟩ := exists_cut (show 4 < cs.length by omega)
    rw [List.length_append, List.length_cons, second] at long
    obtain ⟨c, y, cs, rfl, third⟩ := exists_cut (show 4 < cs.length by omega)
    rw [List.length_append, List.length_cons, third] at long
    obtain ⟨d, z, e, rfl, fourth⟩ := exists_cut (show 4 < cs.length by omega)
    rw [List.length_append, List.length_cons, fourth] at long
    have fifth : e.length = 12 := by omega
    rw [isGrouped_cut first second third fourth fifth] at grouped
    simp only [Bool.and_eq_true, beq_iff_eq] at grouped
    obtain ⟨a', rfl, b', rfl, c', rfl, d', rfl, e'⟩ := grouped
    exact .mk (isDigits_iff.mpr ⟨first, a'⟩) (isDigits_iff.mpr ⟨second, b'⟩)
      (isDigits_iff.mpr ⟨third, c'⟩) (isDigits_iff.mpr ⟨fourth, d'⟩) (isDigits_iff.mpr ⟨fifth, e'⟩)
  · intro grouped
    cases grouped with
    | mk first second third fourth fifth =>
        rw [isGrouped_cut first.length second.length third.length fourth.length fifth.length,
          first.all, second.all, third.all, fourth.all, fifth.all]
        rfl

/-- A text is an identifier exactly if it has one of the forms. -/
theorem isGuid_iff {s : String} : isGuid s = true ↔ IsIdentifier s.toList := by
  rw [isGuid]
  generalize s.toList = cs
  constructor
  · intro accepted
    split at accepted
    · rename_i long
      exact .plain (isDigits_iff.mpr ⟨long, accepted⟩)
    split at accepted
    · rename_i long
      simp only [Bool.and_eq_true, beq_iff_eq] at accepted
      obtain ⟨⟨opens, closes⟩, groups⟩ := accepted
      obtain ⟨front, rfl⟩ := List.getLast?_eq_some_iff.mp closes
      cases front with
      | nil => simp at long
      | cons c front =>
          obtain rfl : c = '\x7b' := by simpa using opens
          exact .braced (isGrouped_iff.mp (by simpa using groups))
    split at accepted
    · simp only [Bool.and_eq_true, beq_iff_eq] at accepted
      obtain ⟨name, groups⟩ := accepted
      rw [← List.take_append_drop 9 cs]
      exact .named name (isGrouped_iff.mp groups)
    · exact .grouped (isGrouped_iff.mp accepted)
  · intro known
    cases known with
    | plain digits => simp [digits.length, digits.all]
    | grouped groups => simp [groups.length, isGrouped_iff.mpr groups]
    | @braced cs groups =>
        have closes : ('\x7b' :: (cs ++ ['\x7d'])).getLast? = some '\x7d' :=
          List.getLast?_concat (l := '\x7b' :: cs)
        simp [groups.length, isGrouped_iff.mpr groups, closes]
    | @named lead cs name groups =>
        have long : lead.length = 9 := by simpa using congrArg List.length name
        simp [groups.length, isGrouped_iff.mpr groups, long, List.take_left' long,
          List.drop_left' long, ← name]

end TokenKeeper.Identity
