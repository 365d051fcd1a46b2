import TokenKeeper.Proofs.Json.Reading
import TokenKeeper.Url.Percent

/-!
# A record with a place left open

An object is written with any blanks, names and values around one member whose value is left open.
What is read from such a text depends only on what is read from the text that fills the place.
-/

namespace TokenKeeper.Json

variable {p : Purpose} {q : String → Purpose} {names : List String} {name : String}
  {cs t rest nameText : List Char} {c : Char} {out : Option Json} {fuel : Nat}
  {found : List (String × Json)} {j : Json}

/-! ## Texts of values and names -/

/-- A text from which a value of a record is read, with nothing but blanks around it. -/
def Spells (p : Purpose) (cs : List Char) (j : Json) : Prop :=
  ∃ rest, readValue p (2 * cs.length + 2) 127 cs = some (j, rest) ∧ skipBlank rest = []

/-- A text from which the name of a member is read when a colon follows. -/
def SpellsName (cs : List Char) (name : String) : Prop :=
  readName .value (cs ++ [':']) = some (name, [])

/-- What stands for a text in front of any other: a value, or that none can be read. -/
def StandsFor (p : Purpose) (cs : List Char) (out : Option Json) : Prop :=
  ∀ fuel t, 2 * cs.length + 2 ≤ fuel → EndsNumber t →
    (readValue p fuel 127 (cs ++ t)).map (fun r => (r.1, skipBlank r.2)) =
      out.map fun j => (j, skipBlank t)

theorem Spells.standsFor (spelt : Spells p cs j) : StandsFor p cs (some j) := by
  intro fuel t enough ends
  obtain ⟨rest, read, blank⟩ := spelt
  rw [(carries ends _).value read enough]
  simp [skipBlank_append_of_blank blank]

theorem SpellsName.readName (named : SpellsName nameText name) :
    Json.readName .value (nameText ++ ':' :: t) = some (name, t) := by
  have read := readName_append (t := t) named
  rwa [List.append_assoc] at read

theorem SpellsName.begins (named : SpellsName nameText name) :
    ∃ text, skipBlank (nameText ++ t) = '"' :: text := by
  have quote : ∃ text, skipBlank (nameText ++ [':']) = '"' :: text := by
    unfold SpellsName Json.readName at named
    split at named
    · rename_i text quote
      exact ⟨text, quote⟩
    · cases named
  obtain ⟨text, quote⟩ := quote
  have visible : skipBlank nameText ≠ [] := by
    intro blank
    rw [skipBlank_append_of_blank blank] at quote
    have other : ':' ≠ '"' := by decide
    exact other (List.cons.inj quote).1
  rw [skipBlank_append visible] at quote ⊢
  obtain ⟨c, behind, first⟩ := List.exists_cons_of_ne_nil visible
  rw [first, List.cons_append, List.cons.injEq] at quote
  exact ⟨behind ++ t, by rw [first, quote.1]; rfl⟩

theorem endsNumber_comma : EndsNumber (',' :: t) := by
  intro c head
  cases head
  decide

theorem endsNumber_brace : EndsNumber ('\x7d' :: t) := by
  intro c head
  cases head
  decide

theorem readNext_comma {close : Char} {whole : Json} {next : Reader Json} :
    readNext close whole next (',' :: t) = next t := rfl

theorem readNext_brace {whole : Json} {next : Reader Json} :
    readNext '\x7d' whole next ('\x7d' :: t) = some (whole, t) := rfl

/-- One member of an object, and what follows it. -/
theorem readMembers_member (found : List (String × Json)) (named : SpellsName nameText name)
    (stands : StandsFor (q name) cs out) (enough : 2 * cs.length + 2 ≤ fuel)
    (ends : EndsNumber t) :
    readMembers .value q (fuel + 1) 127 found (nameText ++ ':' :: (cs ++ t)) =
      out.bind fun j => readNext '\x7d' (object ((name, j) :: found).reverse)
        (readMembers .value q fuel 127 ((name, j) :: found)) t := by
  have value := stands fuel t enough ends
  simp only [readMembers, named.readName, Option.bind_eq_bind, Option.bind_some]
  cases out with
  | none =>
      rw [Option.map_none, Option.map_eq_none_iff] at value
      rw [value]
      rfl
  | some j =>
      obtain ⟨⟨item, behind⟩, taken, same⟩ := Option.map_eq_some_iff.mp value
      obtain ⟨rfl, behind⟩ := Prod.mk.inj same
      simp only [taken, Option.bind_some, readNext, behind]

/-! ## Records -/

/-- A member as text, of a record of which the members with these names matter. -/
structure Member (names : List String) where
  nameText : List Char
  valueText : List Char
  name : String
  value : Json
  named : SpellsName nameText name
  spelt : Spells (purposeAmong names name) valueText value

namespace Member

variable (m : Member names)

/-- The text of a member. -/
def chars : List Char := m.nameText ++ ':' :: m.valueText

/-- The name and the value. -/
def pair : String × Json := (m.name, m.value)

theorem valueText_length_lt : m.valueText.length < m.chars.length := by
  simp [chars]
  omega

end Member

/-- How many characters some members take, each with a comma. -/
def spread : List (Member names) → Nat
  | [] => 0
  | m :: ms => m.chars.length + 1 + spread ms

theorem length_flatMap_comma (ms : List (Member names)) :
    (ms.flatMap fun m => m.chars ++ [',']).length = spread ms := by
  induction ms with
  | nil => rfl
  | cons m ms ih =>
      rw [List.flatMap_cons, List.length_append, List.length_append, ih]
      rfl

theorem length_flatMap_cons (ms : List (Member names)) :
    (ms.flatMap fun m => ',' :: m.chars).length = spread ms := by
  induction ms with
  | nil => rfl
  | cons m ms ih =>
      rw [List.flatMap_cons, List.length_append, List.length_cons, ih]
      rfl

theorem length_le_spread (ms : List (Member names)) : ms.length ≤ spread ms := by
  induction ms with
  | nil => exact Nat.zero_le _
  | cons m ms ih =>
      rw [spread, List.length_cons]
      omega

theorem length_lt_spread {ms : List (Member names)} {m : Member names} (inside : m ∈ ms) :
    m.valueText.length + ms.length < spread ms := by
  induction ms with
  | nil => cases inside
  | cons first ms ih =>
      rw [spread, List.length_cons]
      cases inside with
      | head =>
          have own := m.valueText_length_lt
          have others := length_le_spread ms
          omega
      | tail _ inside =>
          have others := ih inside
          omega

/-- Members in front of others. -/
theorem readMembers_before {ms : List (Member names)} (found : List (String × Json))
    (enough : ∀ m ∈ ms, 2 * m.valueText.length + 2 ≤ fuel) :
    readMembers .value (purposeAmong names) (fuel + ms.length) 127 found
        ((ms.flatMap fun m => m.chars ++ [',']) ++ t) =
      readMembers .value (purposeAmong names) fuel 127
        ((ms.map Member.pair).reverse ++ found) t := by
  induction ms generalizing found with
  | nil => rfl
  | cons m ms ih =>
      have room : 2 * m.valueText.length + 2 ≤ fuel + ms.length :=
        Nat.le_trans (enough m List.mem_cons_self) (Nat.le_add_right _ _)
      have others := ih (m.pair :: found)
        fun m inside => enough m (List.mem_cons_of_mem _ inside)
      have first := readMembers_member found m.named m.spelt.standsFor room
        (endsNumber_comma (t := (ms.flatMap fun m => m.chars ++ [',']) ++ t))
      simp only [List.flatMap_cons, Member.chars, List.append_assoc, List.cons_append,
        List.nil_append, List.length_cons, List.map_cons, List.reverse_cons] at first others ⊢
      rw [← Nat.add_assoc, first]
      exact others

/-- The last members of an object, of which the first one is left open. -/
theorem readMembers_after {ms : List (Member names)} (found : List (String × Json))
    (named : SpellsName nameText name) (stands : StandsFor (purposeAmong names name) cs out)
    (room : 2 * cs.length + 2 ≤ fuel) (enough : ∀ m ∈ ms, 2 * m.valueText.length + 2 ≤ fuel) :
    readMembers .value (purposeAmong names) (fuel + ms.length + 1) 127 found
        (nameText ++ ':' :: (cs ++ ((ms.flatMap fun m => ',' :: m.chars) ++ '\x7d' :: t))) =
      out.map fun j =>
        (object (found.reverse ++ (name, j) :: ms.map Member.pair), t) := by
  induction ms generalizing found name nameText cs out with
  | nil =>
      rw [List.flatMap_nil, List.nil_append, List.length_nil, Nat.add_zero,
        readMembers_member found named stands room endsNumber_brace]
      cases out with
      | none => rfl
      | some j => simp [readNext_brace]
  | cons m ms ih =>
      have larger : 2 * cs.length + 2 ≤ fuel + (m :: ms).length :=
        Nat.le_trans room (Nat.le_add_right _ _)
      have others (j : Json) := ih ((name, j) :: found) m.named m.spelt.standsFor
        (enough m List.mem_cons_self) fun m inside => enough m (List.mem_cons_of_mem _ inside)
      rw [List.flatMap_cons, List.cons_append, List.cons_append,
        readMembers_member found named stands larger endsNumber_comma]
      cases out with
      | none => rfl
      | some j =>
          have other := others j
          simp only [Member.chars, List.append_assoc, List.cons_append] at other ⊢
          rw [Option.bind_some, readNext_comma, List.length_cons, ← Nat.add_assoc, other]
          simp [Member.pair]

/-- Blanks in front of the members do not matter. -/
theorem readMembers_skipBlank :
    readMembers p q fuel 127 found (skipBlank cs) = readMembers p q fuel 127 found cs := by
  cases fuel with
  | zero => rfl
  | succ fuel =>
      have name : readName p (skipBlank cs) = readName p cs := by
        rw [readName, readName, skipBlank_skipBlank]
      rw [readMembers, readMembers, name]

/-- An object as text in which the value of one member is left open. -/
structure OpenRecord (names : List String) (name : String) where
  lead : List Char
  before : List (Member names)
  nameText : List Char
  after : List (Member names)
  trail : List Char
  lead_blank : skipBlank lead = []
  trail_blank : skipBlank trail = []
  named : SpellsName nameText name

namespace OpenRecord

variable (o : OpenRecord names name)

/-- The object with a text in the open place. -/
def fill (cs : List Char) : List Char :=
  o.lead ++ '\x7b' :: ((o.before.flatMap fun m => m.chars ++ [',']) ++ o.nameText ++ ':' :: cs ++
    (o.after.flatMap fun m => ',' :: m.chars) ++ '\x7d' :: o.trail)

/-- The members with a value in the open place. -/
def members (j : Json) : List (String × Json) :=
  o.before.map Member.pair ++ (name, j) :: o.after.map Member.pair

/-- What is behind the opening brace. -/
def inside (cs : List Char) : List Char :=
  (o.before.flatMap fun m => m.chars ++ [',']) ++
    (o.nameText ++ ':' :: (cs ++ ((o.after.flatMap fun m => ',' :: m.chars) ++
      '\x7d' :: o.trail)))

theorem fill_eq : o.fill cs = o.lead ++ '\x7b' :: o.inside cs := by
  simp [fill, inside]

theorem readMembers_inside (fuel : Nat) (stands : StandsFor (purposeAmong names name) cs out)
    (room : 2 * cs.length + 2 ≤ fuel) (before : 2 * spread o.before ≤ fuel + o.before.length)
    (after : 2 * spread o.after ≤ fuel + o.after.length) :
    readMembers .value (purposeAmong names) (fuel + o.after.length + 1 + o.before.length) 127 []
        (o.inside cs) =
      out.map fun j => (object (o.members j), o.trail) := by
  have small {ms : List (Member names)} (enough : 2 * spread ms ≤ fuel + ms.length)
      (m : Member names) (inside : m ∈ ms) : 2 * m.valueText.length + 2 ≤ fuel := by
    have := length_lt_spread inside
    omega
  rw [inside, readMembers_before [] fun m inside => Nat.le_trans (small before m inside) (by omega),
    readMembers_after _ o.named stands room (small after)]
  simp [members]

theorem inside_begins (cs : List Char) : ∃ text, skipBlank (o.inside cs) = '"' :: text := by
  unfold inside
  cases o.before with
  | nil => exact o.named.begins
  | cons m ms =>
      simp only [List.flatMap_cons, Member.chars, List.append_assoc]
      exact m.named.begins

/-- An object is read whatever its layout, with the value that the text in the open place stands
for; and it is not read if that text stands for none. -/
theorem ofRecord?_fill (stands : StandsFor (purposeAmong names name) cs out) :
    ofRecord? names (o.fill cs) = out.map fun j => object (o.members j) := by
  have size : (o.fill cs).length = o.lead.length + o.nameText.length + cs.length +
      spread o.before + spread o.after + o.trail.length + 3 := by
    simp only [fill, List.length_append, List.length_cons, length_flatMap_comma,
      length_flatMap_cons]
    omega
  have before := length_le_spread o.before
  have after := length_le_spread o.after
  obtain ⟨fuel, same⟩ : ∃ fuel,
      2 * (o.fill cs).length + 2 = fuel + o.after.length + 1 + o.before.length :=
    ⟨2 * (o.fill cs).length + 1 - o.after.length - o.before.length, by omega⟩
  obtain ⟨text, first⟩ := o.inside_begins cs
  have brace : skipBlank (o.fill cs) = '\x7b' :: o.inside cs := by
    rw [fill_eq]
    exact skipBlank_append_of_blank o.lead_blank
  have read := o.readMembers_inside fuel stands (by omega) (by omega) (by omega)
  rw [← readMembers_skipBlank, first, ← same] at read
  have other : '"' ≠ '\x7d' := by decide
  simp only [ofRecord?, brace, readUpTo, first, if_neg other, read]
  cases out with
  | none => rfl
  | some j => simp [alone, o.trail_blank]

/-- The values of the members of a name, without the open one. -/
def valuesOf (n : String) : List Json :=
  ((o.before ++ o.after).filter fun m => m.name == n).map Member.value

theorem filter_pairs (ms : List (Member names)) (n : String) :
    (ms.map Member.pair).filter (fun m => m.1 == n) =
      (ms.filter fun m => m.name == n).map Member.pair := by
  rw [List.filter_map]
  rfl

/-- Members of another name are those that are written. -/
theorem filter_members_of_ne {n : String} (other : n ≠ name) :
    (o.members j).filter (fun m => m.1 == n) =
      ((o.before ++ o.after).filter fun m => m.name == n).map Member.pair := by
  rw [members, List.filter_append, List.filter_cons_of_neg (by simpa using Ne.symm other),
    ← List.filter_append, ← List.map_append, filter_pairs]

/-- The open member is alone with its name if no other is written with it. -/
theorem filter_members_of_free (free : o.valuesOf name = []) :
    (o.members j).filter (fun m => m.1 == name) = [(name, j)] := by
  have unwritten := List.map_eq_nil_iff.mp free
  rw [List.filter_append, List.append_eq_nil_iff] at unwritten
  rw [members, List.filter_append, List.filter_cons_of_pos (by simp), filter_pairs, filter_pairs,
    unwritten.1, unwritten.2]
  rfl

/-- The members that a record is read for: one that is written, and the open one. -/
theorem members?_members {n : String} {v : Json} (other : n ≠ name) (once : o.valuesOf n = [v])
    (free : o.valuesOf name = []) :
    (object (o.members j)).members? [n, name] = some [some v, some j] := by
  obtain ⟨m, alone, rfl⟩ := List.map_eq_singleton_iff.mp once
  have written := o.filter_members_of_ne (j := j) other
  rw [alone] at written
  simp only [members?, List.mapM_cons, List.mapM_nil, written, o.filter_members_of_free free]
  rfl

end OpenRecord

/-! ## From bytes -/

theorem ofBytes?_bytesOf (cs : List Char) : ofBytes? (Url.bytesOf cs) = ofChars? cs := by
  have text := Url.textOf?_bytesOf cs
  unfold Url.textOf? at text
  rw [ofBytes?, text, Option.bind_some, ofText?, String.toList_ofList]

theorem membersOfBytes?_bytesOf (cs : List Char) :
    membersOfBytes? names (Url.bytesOf cs) =
      (ofRecord? names cs).bind fun j => j.members? names := by
  have text := Url.textOf?_bytesOf cs
  unfold Url.textOf? at text
  rw [membersOfBytes?, text, Option.bind_some, membersOfText?, String.toList_ofList]

end TokenKeeper.Json
