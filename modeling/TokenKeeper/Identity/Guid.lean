import TokenKeeper.Url.Percent

/-!
# Unique identifiers

The forms in which an identifier of 128 bits is accepted: thirty-two hexadecimal digits, the
same digits in five groups joined by dashes, and the grouped form in braces or after `urn:uuid:`.
-/

namespace TokenKeeper.Identity

def isHexDigit (c : Char) : Bool := (Url.hexValue? c).isSome

/-- The dashes stand behind the eighth, twelfth, sixteenth and twentieth digit. -/
def isGrouped (cs : List Char) : Bool :=
  cs.length == 36 && cs.zipIdx.all fun r =>
    if r.2 ∈ [8, 13, 18, 23] then r.1 == '-' else isHexDigit r.1

/-- Whether a text is an identifier in one of its forms. -/
def isGuid (s : String) : Bool :=
  let cs := s.toList
  let marked := cs.take 9
  if cs.length = 32 then cs.all isHexDigit
  else if cs.length = 38 then
    cs.head? == some '\x7b' && cs.getLast? == some '\x7d' && isGrouped (cs.drop 1).dropLast
  else if cs.length = 45 then
    marked.map Char.toLower == "urn:uuid:".toList && isGrouped (cs.drop 9)
  else isGrouped cs

end TokenKeeper.Identity
