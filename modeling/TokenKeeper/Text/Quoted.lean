import TokenKeeper.Text.Hidden

/-!
# Quoted text and records

The form in which values are shown in diagnostics: text in double quotes with escapes, options
as `Some(..)` and `None`, records as a name with its fields in braces. A record is left open
(`..`) when it has fields that are not shown.
-/

namespace TokenKeeper.Text

/-- The number of a character in hexadecimal, without leading zeros. -/
def hexNumber (n : Nat) : String := String.ofList (Nat.toDigits 16 n)

/-- One character inside double quotes. -/
def escaped (c : Char) : String :=
  match c with
  | '"' => "\\\""
  | '\\' => "\\\\"
  | '\n' => "\\n"
  | '\r' => "\\r"
  | '\t' => "\\t"
  | '\x00' => "\\0"
  | c => if isHidden c then "\\u\x7b" ++ hexNumber c.toNat ++ "\x7d" else c.toString

/-- The text in double quotes; hidden characters are shown by their number. -/
def quoted (s : String) : String :=
  "\"" ++ String.join (s.toList.map escaped) ++ "\""

/-- An optional value whose content is already shown. -/
def optional : Option String → String
  | none => "None"
  | some s => "Some(" ++ s ++ ")"

/-- An optional text. -/
def optionalQuoted (s : Option String) : String := optional (s.map quoted)

/-- The mark that stands in for a secret. -/
def redacted : String := quoted "<redacted>"

/-- A record with its fields in order; `more` says that further fields are not shown. -/
def record (name : String) (fields : List (String × String)) (more : Bool) : String :=
  let shown := fields.map fun f => f.1 ++ ": " ++ f.2
  let shown := if more then shown ++ [".."] else shown
  name ++ " \x7b " ++ String.intercalate ", " shown ++ " \x7d"

end TokenKeeper.Text
