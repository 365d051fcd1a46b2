import TokenKeeper.Options.Reading
import TokenKeeper.Settings.Ini
import TokenKeeper.Settings.Toml.Document
import TokenKeeper.Settings.Yaml.Block

/-!
# Options from a file and the environment

A settings file has one of four formats, which its name tells. The environment is laid over the
file. Scalars are then converted to what the options need.
-/

namespace TokenKeeper

namespace Settings

/-- The formats of a settings file. -/
inductive Format
  | toml
  | json
  | yaml
  | ini
  deriving DecidableEq, Repr

namespace Format

/-- The format of an extension, which is in small letters. -/
def ofExtension? (extension : String) : Option Format :=
  if extension = "toml" then some toml
  else if extension = "json" then some json
  else if extension = "yaml" ∨ extension = "yml" then some yaml
  else if extension = "ini" then some ini
  else none

/-- What comes after the last point of a file name, if something stands before that point. -/
def extension? (name : String) : Option String :=
  let file := (name.toList.reverse.takeWhile (· != '/')).reverse
  let last := (file.reverse.takeWhile (· != '.')).reverse
  if last.length + 1 < file.length then some (String.ofList last) else none

/-- The format of a file. -/
def ofName? (name : String) : Option Format := (extension? name).bind ofExtension?

/-- The value of a text. -/
def parse? (f : Format) (cs : List Char) : Option Json :=
  match f with
  | toml => Toml.read? cs
  | json => (Json.ofChars? cs).map Json.distinct
  | yaml => Yaml.read? cs
  | ini => Ini.read? cs

end Format

mutual

/-- The value in which whole numbers have a sign: one that is too large for that becomes a
floating-point number. -/
def signed : Json → Json
  | .natural n => if n < Width.signedBound64 then .natural n else .decimal (UInt64.ofNat n).toFloat
  | .array items => .array (signedItems items)
  | .object members => .object (signedMembers members)
  | j => j

def signedItems : List Json → List Json
  | [] => []
  | j :: rest => signed j :: signedItems rest

def signedMembers : List (String × Json) → List (String × Json)
  | [] => []
  | (name, j) :: rest => (name, signed j) :: signedMembers rest

end

/-- The text without a mark of its byte order in front. -/
def withoutMark : List Char → List Char
  | '\uFEFF' :: rest => rest
  | cs => cs

/-- The settings of a file, which has to be a table. -/
def ofFile? (name : String) (content : Option String) : Option (List (String × Json)) := do
  let f ← Format.ofName? name
  match ← f.parse? (withoutMark (← content).toList) with
  | .object members => some (signedMembers members)
  | _ => none

end Settings

namespace Options

/-- Options from a settings file, with the environment laid over it. No content means that there
is no such file. -/
def load (name : String) (content : Option String) (environment : List (String × String)) :
    Except ConfigurationError Options :=
  match Settings.ofFile? name content with
  | none => .error (.load .sources)
  | some file =>
    let base := Settings.lay (.object []) file
    match ofJson? .lenient (Settings.lay base (Settings.Environment.settings environment)) with
    | some o => .ok o
    | none => .error (.load .values)

/-- Options from the environment alone. -/
def ofEnvironment (environment : List (String × String)) : Except ConfigurationError Options :=
  let tree := Settings.lay (.object []) (Settings.Environment.settings environment)
  match ofJson? .lenient tree with
  | some o => .ok o
  | none => .error (.load .sources)

end Options
end TokenKeeper
