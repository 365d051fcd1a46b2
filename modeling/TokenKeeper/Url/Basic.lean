import TokenKeeper.Url.Form
import TokenKeeper.Url.Host

/-!
# Web addresses

An absolute address is read into its parts and written in one normal form: scheme and host in
lower case, no default port, no `.` and `..` in the path, everything escaped that has to be.
Schemes of the web need a host and take a backslash for a slash; other schemes may have text in
place of a path.
-/

namespace TokenKeeper

/-- The part after the host. -/
inductive Url.Path
  | segments (parts : List String)
  /-- Text that has no structure. -/
  | unstructured (s : String)
  deriving DecidableEq, Repr

/-- An absolute address. -/
structure Url where
  scheme : String
  username : String := ""
  password : Option String := none
  host : Option Url.Host := none
  port : Option Nat := none
  path : Url.Path := .segments []
  query : Option String := none
  fragment : Option String := none
  deriving DecidableEq, Repr

namespace Url

/-- The port that is meant where a scheme of the web names none. -/
def defaultPort? : String → Option Nat
  | "http" => some 80
  | "https" => some 443
  | "ws" => some 80
  | "wss" => some 443
  | "ftp" => some 21
  | _ => none

/-- Schemes of the web, and that of files. -/
def isSpecial (scheme : String) : Bool := (defaultPort? scheme).isSome || scheme == "file"

/-! ## Writing -/

def credentialsText (u : Url) : String :=
  match u.username, u.password with
  | "", none => ""
  | name, none => name ++ "@"
  | name, some p => name ++ ":" ++ p ++ "@"

def pathText : Path → String
  | .segments parts => String.join (parts.map ("/" ++ ·))
  | .unstructured s => s

/-- The address as text. -/
def text (u : Url) : String :=
  let authority := match u.host with
    | some h =>
      "//" ++ u.credentialsText ++ h.text ++
        (match u.port with
          | some p => ":" ++ toString p
          | none => "")
    | none =>
      if u.scheme == "file" then "//"
      else match u.path with
        | .segments ("" :: _ :: _) => "/."
        | _ => ""
  u.scheme ++ ":" ++ authority ++ pathText u.path ++
    (match u.query with
      | some q => "?" ++ q
      | none => "") ++
    (match u.fragment with
      | some f => "#" ++ f
      | none => "")

/-! ## Reading -/

def isSlash (special : Bool) (c : Char) : Bool := c == '/' || (special && c == '\\')

/-- Blanks and controls at both ends, and line breaks and tabs anywhere, do not count. -/
def cleaned (cs : List Char) : List Char :=
  let outer (c : Char) : Bool := c.toNat ≤ 32
  let cs := ((cs.dropWhile outer).reverse.dropWhile outer).reverse
  cs.filter fun c => c != '\t' && c != '\n' && c != '\r'

/-- The scheme and what follows its colon. -/
def splitScheme? (cs : List Char) : Option (String × List Char) :=
  let ok (c : Char) : Bool := c.isAlphanum || c == '+' || c == '-' || c == '.'
  match cs with
  | c :: _ =>
    if !c.isAlpha then none
    else match cs.dropWhile ok with
      | ':' :: rest => some (String.ofList ((cs.takeWhile ok).map Char.toLower), rest)
      | _ => none
  | [] => none

/-- Cuts off what follows a character, and the character. -/
def cut (c : Char) (cs : List Char) : List Char × Option (List Char) :=
  match cs.dropWhile (· != c) with
  | [] => (cs, none)
  | _ :: rest => (cs.takeWhile (· != c), some rest)

/-- Whether a part of a path means the same directory. -/
def isDot (s : String) : Bool := s.toLower ∈ [".", "%2e"]

/-- Whether a part of a path means the directory above. -/
def isDotDot (s : String) : Bool := s.toLower ∈ ["..", ".%2e", "%2e.", "%2e%2e"]

/-- Parts between slashes. -/
def pathParts (special : Bool) (cs : List Char) : List (List Char) :=
  cs.foldr (fun c parts =>
    if isSlash special c then [] :: parts
    else match parts with
      | [] => [[c]]
      | p :: rest => (c :: p) :: rest) [[]]

/-- Resolves `.` and `..` in a path. Where one of them comes last the path ends in a slash. -/
def resolve (found : List String) : List String → List String
  | [] => found
  | [last] =>
    if isDotDot last then found.dropLast ++ [""]
    else if isDot last then found ++ [""]
    else found ++ [last]
  | p :: rest =>
    if isDotDot p then resolve found.dropLast rest
    else if isDot p then resolve found rest
    else resolve (found ++ [p]) rest

/-- A path from its text, which begins with a slash unless it is empty. -/
def readPath (special : Bool) (cs : List Char) : Path :=
  let body := match cs with
    | [] => if special then some [] else none
    | c :: rest => if isSlash special c then some rest else some (c :: rest)
  match body with
  | none => .segments []
  | some body =>
    .segments (resolve [] ((pathParts special body).map fun p => String.ofList (encode pathSet p)))

/-- User name and password in front of the last `@`. -/
def splitCredentials (cs : List Char) : Option (List Char) × List Char :=
  if cs.contains '@' then
    let back := cs.reverse
    (some ((back.dropWhile (· != '@')).drop 1).reverse, (back.takeWhile (· != '@')).reverse)
  else (none, cs)

/-- Host and port; a colon in brackets belongs to the host. -/
def splitPort (cs : List Char) : List Char × Option (List Char) :=
  match cs with
  | '[' :: _ =>
    match cs.dropWhile (· != ']') with
    | ']' :: ':' :: port => (cs.takeWhile (· != ']') ++ [']'], some port)
    | _ => (cs, none)
  | cs => cut ':' cs

/-- A port, which is left out where it is empty or the default. -/
def readPort? (scheme : String) : Option (List Char) → Option (Option Nat)
  | none => some none
  | some cs =>
    if !cs.all Char.isDigit then none
    else
      let n := cs.foldl (fun n c => if 65535 < n then n else 10 * n + (c.toNat - 48)) 0
      if cs.isEmpty then some none
      else if 65535 < n then none
      else some (if defaultPort? scheme = some n then none else some n)

/-- User, host and port. -/
def readAuthority? (scheme : String) (cs : List Char) : Option Url := do
  let web := isSpecial scheme
  let (credentials, rest) := splitCredentials cs
  let (hostText, portText) := splitPort rest
  let (user, password) := match credentials with
    | none => ([], none)
    | some c => cut ':' c
  if hostText.isEmpty ∧ (web ∨ credentials.isSome ∨ portText.isSome) then none
  else
    let host ← if web then Host.ofWeb? hostText else Host.ofOther? hostText
    let port ← readPort? scheme portText
    let shown (cs : List Char) : String := String.ofList (encode userSet cs)
    let password := match password.map shown with
      | some "" => none
      | p => p
    return { scheme, username := shown user, password, host := some host, port }

/-- The address of a file: the host may be missing, and `localhost` stands for none. -/
def readFile? (cs : List Char) : Option Url := do
  match cs with
  | a :: b :: rest =>
    if isSlash true a && isSlash true b then
      let name := rest.takeWhile fun c => !isSlash true c
      let path := rest.dropWhile fun c => !isSlash true c
      let host ← if name.isEmpty then some none else (Host.ofWeb? name).map some
      let host := if host = some (.name "localhost") then none else host
      return { scheme := "file", host, path := readPath true path }
    else return { scheme := "file", path := readPath true cs }
  | cs => return { scheme := "file", path := readPath true cs }

/-- The part of an address between scheme and query. -/
def readBody? (scheme : String) (cs : List Char) : Option Url :=
  let web := isSpecial scheme
  let withAuthority (cs : List Char) : Option Url := do
    let u ← readAuthority? scheme (cs.takeWhile fun c => !isSlash web c)
    return { u with path := readPath web (cs.dropWhile fun c => !isSlash web c) }
  if scheme == "file" then readFile? cs
  else if web then withAuthority (cs.dropWhile (isSlash true))
  else match cs with
    | '/' :: '/' :: rest => withAuthority rest
    | '/' :: rest => some { scheme, path := readPath false ('/' :: rest) }
    | rest => some { scheme, path := .unstructured (String.ofList (encode isControl rest)) }

/-- Reads an absolute address. -/
def read? (s : String) : Option Url := do
  let (scheme, rest) ← splitScheme? (cleaned s.toList)
  let (rest, fragment) := cut '#' rest
  let (body, query) := cut '?' rest
  let u ← readBody? scheme body
  let shown (set : Char → Bool) (cs : List Char) : String := String.ofList (encode set cs)
  return { u with
    query := query.map (shown (querySet (isSpecial scheme)))
    fragment := fragment.map (shown fragmentSet) }

/-! ## Queries -/

/-- Adds pairs to the query. -/
def addPairs (u : Url) (pairs : List (String × String)) : Url :=
  let added := String.ofList (Form.render pairs)
  { u with query := some (match u.query with
      | some q => if q.isEmpty then added else q ++ "&" ++ added
      | none => added) }

/-- The address without user name and password. -/
def withoutCredentials (u : Url) : Url := { u with username := "", password := none }

end Url
end TokenKeeper
