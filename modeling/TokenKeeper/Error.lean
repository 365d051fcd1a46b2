/-!
# What can go wrong

Each kind of failure is a type of its own and its wording is one function. Settings are checked
before any token is asked for; the identity service fails per request; a server endpoint fails
per `AUTH` command; a subscriber fails alone. An application's function that gives no answer at
all is a `Panic`.
-/

namespace TokenKeeper

/-- What an application's function left behind instead of an answer. -/
inductive Panic
  | text (message : String)
  /-- Something that is not text. -/
  | other
  deriving DecidableEq, Repr

namespace Panic

def message : Panic → String
  | text m => m
  | other => "unknown panic payload"

end Panic

/-- How far reading the settings came. -/
inductive LoadStage
  /-- A source could not be read, or the environment alone does not fit. -/
  | sources
  /-- A file and the environment were read, and their values do not fit. -/
  | values
  deriving DecidableEq, Repr

/-- Settings that are invalid or ambiguous. -/
inductive ConfigurationError
  /-- Two settings exclude each other. -/
  | conflict (what : String)
  /-- A setting is needed and absent. -/
  | missing (field reason : String)
  /-- A setting has a value that cannot be used. -/
  | invalid (field reason : String)
  /-- A settings file or the environment could not be used. -/
  | load (stage : LoadStage)
  deriving DecidableEq, Repr

namespace ConfigurationError

def message : ConfigurationError → String
  | conflict what => "Conflicting credential configuration: " ++ what
  | missing field reason => "Missing required setting '" ++ field ++ "': " ++ reason
  | invalid field reason => "Invalid value for '" ++ field ++ "': " ++ reason
  | load .sources => "Failed to load configuration: a source could not be read"
  | load .values =>
    "Failed to load configuration: Failed to deserialize options: a value does not fit"

end ConfigurationError

/-- Why the identity service gave no token. -/
inductive IdentityError
  /-- The request could not be completed. -/
  | requestFailed (url reason : String)
  /-- No answer before the deadline. -/
  | timeout (seconds : Nat)
  /-- The attempt was called off. -/
  | cancelled
  /-- The service refused. -/
  | service (status : Nat) (code description : String)
  /-- The answer is not a token. -/
  | invalidResponse (reason : String)
  /-- The credential cannot be used. -/
  | credential (reason : String)
  deriving DecidableEq, Repr

namespace IdentityError

def message : IdentityError → String
  | requestFailed url reason => "Token request failed: " ++ url ++ " - " ++ reason
  | timeout seconds => "Token request timed out after " ++ toString seconds ++ "s"
  | cancelled => "Token request was cancelled"
  | service status code description =>
    "Identity service rejected the token request (" ++ toString status ++ "): " ++ code ++
      " - " ++ description
  | invalidResponse reason => "Invalid token response: " ++ reason
  | credential reason => "Credential error: " ++ reason

end IdentityError

/-- Why a connection could not be brought up to the current token. -/
inductive ReauthenticationError
  /-- The application has closed the connection. -/
  | disposed
  /-- The server refused the `AUTH` command. -/
  | commandFailed (endpoint reason : String)
  /-- The servers of the connection could not be listed. -/
  | serversUnavailable (client reason : String)
  /-- The work on the connection panicked. -/
  | panicked (client : String)
  deriving DecidableEq, Repr

namespace ReauthenticationError

def message : ReauthenticationError → String
  | disposed => "Connection has been disposed"
  | commandFailed endpoint reason => "AUTH command to '" ++ endpoint ++ "' failed: " ++ reason
  | serversUnavailable client reason =>
    "Failed to enumerate servers of '" ++ client ++ "': " ++ reason
  | panicked client => "Re-authentication of '" ++ client ++ "' panicked"

end ReauthenticationError

/-- How a subscriber misbehaved. -/
inductive HandlerError
  | timedOut (name : String) (millis : Nat)
  | failed (name reason : String)
  deriving DecidableEq, Repr

namespace HandlerError

def message : HandlerError → String
  | timedOut name millis =>
    "Handler for " ++ name ++ " timed out after " ++ toString millis ++ " ms"
  | failed name reason => "Handler for " ++ name ++ " failed: " ++ reason

end HandlerError

/-- What a caller of the library is told. -/
inductive AuthError
  | configuration (e : ConfigurationError)
  | identity (e : IdentityError)
  /-- No username is set and the token names none. -/
  | missingUsername
  /-- There is nothing that could run the heartbeat. -/
  | noRuntime
  deriving DecidableEq, Repr

namespace AuthError

def message : AuthError → String
  | configuration e => e.message
  | identity e => e.message
  | missingUsername =>
    "Unable to determine the Redis username: " ++
      "set principal_id or use a token that carries an 'oid' claim"
  | noRuntime => "An asynchronous runtime is required"

end AuthError
end TokenKeeper
