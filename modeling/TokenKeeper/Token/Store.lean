import TokenKeeper.Token.Basic

/-!
# The token store

The token in use and the username that goes with it. A token is replaced only by one that
expires strictly later, and the first username stays.
-/

namespace TokenKeeper

/-- The expiry of a token, and the first instant where there is none. -/
def Token.expiryOf : Option Token → Instant
  | some t => t.expiresAt
  | none => .min

/-- The token in use and its username. -/
structure TokenStore where
  current : Option Token := none
  username : Option String := none
  deriving DecidableEq

namespace TokenStore

/-- The expiry of the current token, and the first instant while there is none. -/
def expiry (s : TokenStore) : Instant := Token.expiryOf s.current

/-- Whether a token would be taken. -/
def accepts (s : TokenStore) (t : Token) : Bool :=
  match s.current with
  | some old => old.expiresAt < t.expiresAt
  | none => true

/-- Takes a token if it expires later than the current one. -/
def offer (s : TokenStore) (t : Token) : TokenStore :=
  if s.accepts t then { s with current := some t } else s

/-- Sets the username unless there is one. -/
def setUsernameIfAbsent (s : TokenStore) (name : String) : TokenStore :=
  match s.username with
  | some _ => s
  | none => { s with username := some name }

@[simp] theorem username_offer (s : TokenStore) (t : Token) :
    (s.offer t).username = s.username := by
  unfold offer; split <;> rfl

theorem offer_of_accepts {s : TokenStore} {t : Token} (h : s.accepts t = true) :
    s.offer t = { s with current := some t } := by
  simp [offer, h]

theorem offer_of_not_accepts {s : TokenStore} {t : Token} (h : s.accepts t = false) :
    s.offer t = s := by
  simp [offer, h]

@[simp] theorem current_setUsernameIfAbsent (s : TokenStore) (name : String) :
    (s.setUsernameIfAbsent name).current = s.current := by
  unfold setUsernameIfAbsent; split <;> rfl

end TokenStore
end TokenKeeper
