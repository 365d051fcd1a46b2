import TokenKeeper.Proofs.Identity.Encoding
import TokenKeeper.Proofs.Json.Record

/-!
# The object id in every dialect of base 64

A token carries the same object id however its claims are written in base 64: the text of the last
member `oid` of the object that the claims are.
-/

namespace TokenKeeper

namespace Json

variable {members : List (String × Json)} {name : String} {v : Json}

/-- The last member of a name. -/
def LastMember (members : List (String × Json)) (name : String) (v : Json) : Prop :=
  ∃ before after, members = before ++ (name, v) :: after ∧ ∀ m ∈ after, m.1 ≠ name

theorem get?_object_eq_some_iff :
    (object members).get? name = some v ↔ LastMember members name v := by
  simp only [get?, Option.map_eq_some_iff, List.find?_eq_some_iff_append]
  constructor
  · rintro ⟨⟨n, w⟩, ⟨same, after, before, split, others⟩, rfl⟩
    obtain rfl : n = name := by simpa using same
    refine ⟨before.reverse, after.reverse, ?_, fun m inside => ?_⟩
    · rw [← List.reverse_reverse members, split]
      simp
    · simpa using others m (List.mem_reverse.mp inside)
  · rintro ⟨before, after, rfl, others⟩
    refine ⟨(name, v), ⟨by simp, after.reverse, before.reverse, by simp, fun m inside => ?_⟩, rfl⟩
    simpa using others m (List.mem_reverse.mp inside)

theorem text?_eq_some_iff {j : Json} {s : String} : j.text? = some s ↔ j = text s := by
  cases j <;> simp [text?]

end Json

namespace Identity

variable {bs : List UInt8} {o : String}

/-- Bytes that are an object whose last member `oid` is a text. -/
def CarriesObjectId (bs : List UInt8) (o : String) : Prop :=
  ∃ members, Json.ofBytes? bs = some (.object members) ∧ Json.LastMember members "oid" (.text o)

theorem objectIdOfClaims?_eq_some_iff :
    objectIdOfClaims? bs = some o ↔ CarriesObjectId bs o := by
  simp only [objectIdOfClaims?, Option.bind_eq_some_iff, Json.text?_eq_some_iff]
  constructor
  · rintro ⟨_, ⟨j, read, member⟩, rfl⟩
    cases j with
    | object members => exact ⟨members, read, Json.get?_object_eq_some_iff.mp member⟩
    | _ => cases member
  · rintro ⟨members, read, last⟩
    exact ⟨_, ⟨_, read, Json.get?_object_eq_some_iff.mpr last⟩, rfl⟩

/-- The second segment stands between the first point and the next one, or the end. -/
theorem secondSegment?_eq {header middle rest : List Char} (first : '.' ∉ header)
    (second : '.' ∉ middle) (behind : rest = [] ∨ rest.head? = some '.') :
    secondSegment? (header ++ '.' :: (middle ++ rest)) = some middle := by
  have visible {cs : List Char} (no : '.' ∉ cs) : ∀ c ∈ cs, (c != '.') = true := by
    intro c inside
    simp only [bne_iff_ne]
    rintro rfl
    exact no inside
  have ends : rest.takeWhile (· != '.') = [] := by
    rcases behind with rfl | point
    · rfl
    · obtain ⟨tail, rfl⟩ := List.head?_eq_some_iff.mp point
      rfl
  rw [secondSegment?, List.dropWhile_append_of_pos (visible first)]
  simp [List.takeWhile_append_of_pos (visible second), ends]

theorem objectId?_eq {header rest : String} (a : Base64.Alphabet) (padded : Bool)
    (first : '.' ∉ header.toList) (behind : rest = "" ∨ rest.toList.head? = some '.') :
    objectId? (header ++ "." ++ String.ofList (Base64.encode a padded bs) ++ rest) =
      objectIdOfClaims? bs := by
  have behind : rest.toList = [] ∨ rest.toList.head? = some '.' :=
    behind.imp_left fun none => by rw [none]; rfl
  have segment := secondSegment?_eq first (Base64.point_not_mem_encode a padded bs) behind
  have split : (header ++ "." ++ String.ofList (Base64.encode a padded bs) ++ rest).toList =
      header.toList ++ '.' :: (Base64.encode a padded bs ++ rest.toList) := by
    simp [String.toList_append]
  rw [objectId?, split, segment, Option.bind_some, Base64.map_webDigit_encode,
    Base64.decode?_encode, Option.bind_some]

/-- Whichever alphabet the claims are written in, with or without padding, the answer is the same:
the last member `oid` of the claims if they are an object and it is a text, else none. -/
theorem objectId?_of_every_dialect (bs : List UInt8) (header rest : String)
    (first : '.' ∉ header.toList) (behind : rest = "" ∨ rest.toList.head? = some '.') :
    ∃ answer : Option String,
      (∀ a padded, objectId?
        (header ++ "." ++ String.ofList (Base64.encode a padded bs) ++ rest) = answer) ∧
      (∀ o, answer = some o ↔ CarriesObjectId bs o) ∧
      (answer = none ↔ ∀ o, ¬ CarriesObjectId bs o) := by
  refine ⟨objectIdOfClaims? bs, fun a padded => objectId?_eq a padded first behind,
    fun o => objectIdOfClaims?_eq_some_iff, ?_⟩
  rw [Option.eq_none_iff_forall_ne_some]
  exact forall_congr' fun o => not_congr objectIdOfClaims?_eq_some_iff

/-- Claims of which the base 64 needs the digits 62 and 63 and padding. -/
def claimsText : List Char :=
  ['\x7b', '"', 'o', 'i', 'd', '"', ':', '"', '~', '~', '~', '?', '"', '\x7d']

theorem objectId?_of_four_dialects :
    objectId? "h.eyJvaWQiOiJ+fn4/In0=.s" = some "~~~?" ∧
    objectId? "h.eyJvaWQiOiJ+fn4/In0.s" = some "~~~?" ∧
    objectId? "h.eyJvaWQiOiJ-fn4_In0=.s" = some "~~~?" ∧
    objectId? "h.eyJvaWQiOiJ-fn4_In0.s" = some "~~~?" := by
  have read : Json.ofChars? claimsText = some (.object [("oid", .text "~~~?")]) := rfl
  have carries : CarriesObjectId (Url.bytesOf claimsText) "~~~?" := by
    refine ⟨_, (Json.ofBytes?_bytesOf _).trans read, [], [], rfl, ?_⟩
    intro m inside
    cases inside
  obtain ⟨answer, same, text, -⟩ := objectId?_of_every_dialect _ "h" ".s" (by decide) (.inr rfl)
  rw [(text "~~~?").mpr carries] at same
  refine ⟨?_, ?_, ?_, ?_⟩
  · exact (congrArg objectId? (by decide +kernel)).trans (same .standard true)
  · exact (congrArg objectId? (by decide +kernel)).trans (same .standard false)
  · exact (congrArg objectId? (by decide +kernel)).trans (same .urlSafe true)
  · exact (congrArg objectId? (by decide +kernel)).trans (same .urlSafe false)

end Identity
end TokenKeeper
