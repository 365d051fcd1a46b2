import TokenKeeper.Base64
import TokenKeeper.Json

/-!
# The object id in a token

A signed token is three segments joined by points; the second holds its claims as JSON in
base 64. Tokens that are copied around use either alphabet, with or without padding, and all of
them are read. The signature is not looked at.
-/

namespace TokenKeeper.Identity

/-- The text between the first and the second point, if there is a first point. -/
def secondSegment? (cs : List Char) : Option (List Char) :=
  match cs.dropWhile (· != '.') with
  | [] => none
  | _ :: rest => some (rest.takeWhile (· != '.'))

/-- The same digit in the alphabet of web addresses. -/
def webDigit (c : Char) : Char := if c = '+' then '-' else if c = '/' then '_' else c

/-- The text member `oid` of claims given as bytes. -/
def objectIdOfClaims? (claims : List UInt8) : Option String :=
  ((Json.ofBytes? claims).bind fun j => j.get? "oid").bind Json.text?

/-- The object id that a token carries. -/
def objectId? (token : String) : Option String :=
  (secondSegment? token.toList).bind fun segment =>
    (Base64.decode? .urlSafe .optional (segment.map webDigit)).bind objectIdOfClaims?

end TokenKeeper.Identity
