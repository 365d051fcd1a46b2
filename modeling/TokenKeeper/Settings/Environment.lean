import TokenKeeper.Settings.Overlay

/-!
# Settings from the environment

Variables whose names begin with `AZURE_REDIS_` are settings. The case of a name does not
matter, and two underscores lead into a table. A value that reads as a truth value or as a
number is one, so its text is not kept; any other value is text.
-/

namespace TokenKeeper.Settings.Environment

/-- The lower case of a character, for the letters whose lower case is an ASCII letter. -/
def lower (c : Char) : Char := if c = '\u212A' then 'k' else c.toLower

def lead : List Char := "azure_redis_".toList

/-- Two underscores become a point. -/
def withPoints : List Char → List Char
  | '_' :: '_' :: rest => '.' :: withPoints rest
  | c :: rest => c :: withPoints rest
  | [] => []

/-- The setting that the variable of a name is for, if it is for one. -/
def setting? (name : String) : Option String :=
  let name := name.toList.map lower
  if lead.isPrefixOf name then some (String.ofList (withPoints (name.drop lead.length))) else none

/-- A whole number of 64 bits with an optional sign. -/
def integer? (s : String) : Option Int :=
  let (minus, digits) := Decimal.splitSign s.toList
  if digits.isEmpty ∨ !digits.all Char.isDigit then none
  else
    let n : Int := Decimal.digitsValue digits
    let n := if minus then -n else n
    if Width.isSigned64 n then some n else none

/-- The value of a text: a truth value in any case, a whole number, a number, or the text. -/
def value (s : String) : Json :=
  let word := s.toLower
  if word = "true" then .boolean true
  else if word = "false" then .boolean false
  else
    match integer? s, Decimal.read? s with
    | some n, _ => .ofInt n
    | none, some x => .decimal x
    | none, none => .text s

/-- The settings among the variables. Of two variables for one setting the later counts. -/
def settings (environment : List (String × String)) : List (String × Json) :=
  environment.filterMap fun v => (setting? v.1).map fun name => (name, value v.2)

end TokenKeeper.Settings.Environment
