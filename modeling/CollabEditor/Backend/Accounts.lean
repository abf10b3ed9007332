import CollabEditor.Foundation.History
import CollabEditor.Backend.TokenKinds

/-! # Accounts and the tokens they are given

A signup checks the name and saves the user in two steps, and the unique constraint decides
between signups that overlap. Tokens are stateless: what the service has issued is only recorded
here. Times are in milliseconds, as `System.currentTimeMillis` gives them.
-/

namespace CollabEditor.Backend

open Foundation

/-- The two kinds of tokens. -/
inductive TokenKind
  | access
  | refresh
deriving DecidableEq, Repr

/-- The `tokenType` claim. -/
def TokenKind.claim : TokenKind → String
  | access => "access"
  | refresh => "refresh"

/-- A time of `System.currentTimeMillis`. -/
def Instant.ofEpochMilli (milliseconds : Int) : Instant := milliseconds * 1000000

/-- The claims `buildToken` sets. -/
structure TokenClaims where
  kind : TokenKind
  subject : String
  userId : UserId
  issuedAt : Int
  expiration : Int
deriving DecidableEq, Repr

namespace TokenClaims

/-- A date in a token is in seconds. -/
def expiresAt (claims : TokenClaims) : Int := claims.expiration / 1000 * 1000

/-- The claims as a parser gives them. -/
def read (claims : TokenClaims) : Claims where
  subject := some claims.subject
  userId := .value claims.userId
  tokenType := .value claims.kind.claim
  expiration := some (Instant.ofEpochMilli claims.expiresAt)

end TokenClaims

/-- The library that signs and parses tokens, with the two keys. -/
structure Jwts where
  parser : JwtParser
  /-- `compact` of a signed builder. -/
  compact : TokenClaims → String
  /-- A token that was signed is parsed until it expires. -/
  parse_compact : ∀ (now : Int) (claims : TokenClaims),
    parser.parseClaimsJws (Instant.ofEpochMilli now) (compact claims) =
      if now ≤ claims.expiresAt then some claims.read else none

/-- `PasswordEncoder`; `encode` draws a salt, and is `none` when it throws. -/
structure PasswordEncoder where
  encode : (salt : Nat) → String → Option String
  doesMatch : String → String → Bool
  doesMatch_encode : ∀ salt password hash,
    encode salt password = some hash → doesMatch password hash = true

/-- `jwt.access-token-expiration-ms` and `jwt.refresh-token-expiration-ms`. -/
structure TokenConfig where
  accessTokenExpirationMs : Int
  refreshTokenExpirationMs : Int

def TokenConfig.lifetime (config : TokenConfig) : TokenKind → Int
  | .access => config.accessTokenExpirationMs
  | .refresh => config.refreshTokenExpirationMs

/-- A row of `users`. -/
structure Account where
  id : UserId
  username : String
  passwordHash : String
deriving DecidableEq, Repr

def Account.toUser (account : Account) : User := ⟨account.id, account.username⟩

/-- `buildToken`, by the two callers that fix the kind and the lifetime. -/
def JwtService.buildToken (config : TokenConfig) (kind : TokenKind) (account : Account)
    (now : Int) : TokenClaims where
  kind := kind
  subject := account.username
  userId := account.id
  issuedAt := now
  expiration := now + config.lifetime kind

def JwtService.generateAccessToken (config : TokenConfig) : Account → Int → TokenClaims :=
  JwtService.buildToken config .access

def JwtService.generateRefreshToken (config : TokenConfig) : Account → Int → TokenClaims :=
  JwtService.buildToken config .refresh

/-- The tokens of an `AuthResponse`. -/
def JwtService.tokenPair (config : TokenConfig) (account : Account) (now : Int) :
    List TokenClaims :=
  [generateAccessToken config account now, generateRefreshToken config account now]

namespace AuthService

variable (jwts : Jwts) (encoder : PasswordEncoder) (accounts : List Account) (now : Int)

/-- `existsByUsername`; no row has a null name. -/
def existsByUsername (username : Option String) : Bool :=
  accounts.any fun account => username == some account.username

/-- `signup` up to `save`: the hash of the new user. -/
def signup (username password : Option String) (salt : Nat) : Except ServiceError String :=
  if existsByUsername accounts username then
    .error (.appException ("Username '" ++ username.getD "null" ++ "' is already taken") 409)
  else
    match password.bind (encoder.encode salt) with
    | none => .error .illegalArgument
    | some hash => .ok hash

/-- `save` of a new user: the name is not null and unique. -/
def save (nextUserId : Nat) (username : Option String) (passwordHash : String) :
    Except ServiceError Account :=
  match username with
  | none => .error .constraintViolation
  | some name =>
      if existsByUsername accounts (some name) then .error .constraintViolation
      else .ok ⟨nextUserId, name, passwordHash⟩

/-- `findByUsername` on the rows with their hashes. -/
def findAccount (username : Option String) : Option Account :=
  accounts.find? fun account => username == some account.username

/-- `login`: the user who gets new tokens. -/
def login (username password : Option String) : Except ServiceError Account :=
  match findAccount accounts username with
  | none => .error (.notFound ("Username '" ++ username.getD "null" ++ "' not found"))
  | some account =>
      match password with
      -- `matches` refuses a null password
      | none => .error .illegalArgument
      | some password =>
          if encoder.doesMatch password account.passwordHash then .ok account
          else .error (.appException "Invalid username or password" 401)

/-- `refresh`: the user who gets new tokens. -/
def refresh (token : String) : Except AuthError Account := do
  let answer ← refreshTokens jwts.parser (accounts.map Account.toUser)
    (Instant.ofEpochMilli now) token
  match findAccount accounts answer.username with
  | none => throw .nullPointer
  | some account => return account

end AuthService

/-- A signup between its check and its `save`. -/
structure PendingSignup where
  username : Option String
  passwordHash : String
deriving DecidableEq, Repr

/-- The users, the signups in progress and, a record, the tokens issued so far. -/
structure AuthState where
  accounts : List Account
  nextUserId : Nat
  signups : List PendingSignup
  issued : List TokenClaims
  now : Int

inductive AuthEvent
  | signup (username password : Option String) (salt : Nat)
  | save (index : Nat)
  | login (username password : Option String)
  | refresh (token : String)
  | logout
  | advance (milliseconds : Nat)
deriving DecidableEq, Repr

namespace AuthState

variable (jwts : Jwts) (encoder : PasswordEncoder) (config : TokenConfig) (state : AuthState)

/-- Both tokens of a response are issued. -/
def issue (account : Account) : AuthState :=
  { state with issued := state.issued ++ JwtService.tokenPair config account state.now }

/-- The endpoints of `AuthController`. A request that fails leaves everything as it is, except that
the database may have drawn an id for it. -/
def step : AuthEvent → Option AuthState
  | .signup username password salt =>
      match AuthService.signup encoder state.accounts username password salt with
      | .error _ => some state
      | .ok hash => some { state with signups := state.signups ++ [⟨username, hash⟩] }
  | .save index => do
      let pending ← state.signups[index]?
      let drawn : AuthState :=
        { state with
          signups := state.signups.eraseIdx index
          nextUserId := state.nextUserId + 1 }
      match AuthService.save state.accounts state.nextUserId pending.username
          pending.passwordHash with
      | .error _ => some drawn
      | .ok account =>
          some (issue config { drawn with accounts := drawn.accounts ++ [account] } account)
  | .login username password =>
      match AuthService.login encoder state.accounts username password with
      | .error _ => some state
      | .ok account => some (state.issue config account)
  | .refresh token =>
      match AuthService.refresh jwts state.accounts state.now token with
      | .error _ => some state
      | .ok account => some (state.issue config account)
  -- only the cookie is cleared
  | .logout => some state
  | .advance milliseconds => some { state with now := state.now + milliseconds }

/-- What a step can have been. -/
inductive Steps : AuthEvent → AuthState → Prop
  | signup {username password : Option String} {salt : Nat} (hash : String)
      (hsignup : AuthService.signup encoder state.accounts username password salt = .ok hash) :
      Steps (.signup username password salt)
        { state with signups := state.signups ++ [⟨username, hash⟩] }
  | save {index : Nat} (pending : PendingSignup) (name : String)
      (hpending : state.signups[index]? = some pending) (hname : pending.username = some name)
      (hfresh : AuthService.existsByUsername state.accounts (some name) = false) :
      Steps (.save index)
        (issue config
          { state with
            accounts := state.accounts ++ [⟨state.nextUserId, name, pending.passwordHash⟩]
            signups := state.signups.eraseIdx index
            nextUserId := state.nextUserId + 1 }
          ⟨state.nextUserId, name, pending.passwordHash⟩)
  | saveFailed {index : Nat} :
      Steps (.save index)
        { state with
          signups := state.signups.eraseIdx index
          nextUserId := state.nextUserId + 1 }
  | login {username password : Option String} (account : Account)
      (hlogin : AuthService.login encoder state.accounts username password = .ok account) :
      Steps (.login username password) (state.issue config account)
  | refresh {token : String} (account : Account)
      (hrefresh : AuthService.refresh jwts state.accounts state.now token = .ok account) :
      Steps (.refresh token) (state.issue config account)
  /-- A refused request, or a logout. -/
  | unchanged {event : AuthEvent} : Steps event state
  | advance (milliseconds : Nat) :
      Steps (.advance milliseconds) { state with now := state.now + milliseconds }

variable {jwts encoder config state}

theorem step_cases {event : AuthEvent} {next : AuthState}
    (hstep : state.step jwts encoder config event = some next) :
    Steps jwts encoder config state event next := by
  cases event with
  | signup username password salt =>
      unfold step at hstep
      dsimp only at hstep
      split at hstep
      next =>
        cases hstep
        exact .unchanged
      next hash hsignup =>
        cases hstep
        exact .signup hash hsignup
  | save index =>
      unfold step at hstep
      obtain ⟨pending, hpending, hstep⟩ := Option.bind_eq_some_iff.mp hstep
      dsimp only at hstep
      split at hstep
      next =>
        cases hstep
        exact .saveFailed
      next account hsave =>
        cases hstep
        unfold AuthService.save at hsave
        split at hsave
        next => cases hsave
        next name hname =>
          split at hsave
          next => cases hsave
          next hfresh =>
            cases hsave
            exact .save pending name hpending hname (by simpa using hfresh)
  | login username password =>
      unfold step at hstep
      dsimp only at hstep
      split at hstep
      next =>
        cases hstep
        exact .unchanged
      next account hlogin =>
        cases hstep
        exact .login account hlogin
  | refresh token =>
      unfold step at hstep
      dsimp only at hstep
      split at hstep
      next =>
        cases hstep
        exact .unchanged
      next account hrefresh =>
        cases hstep
        exact .refresh account hrefresh
  | logout =>
      cases hstep
      exact .unchanged
  | advance milliseconds =>
      cases hstep
      exact .advance milliseconds

variable (jwts encoder config)

/-- The service with no users. -/
def system : TransitionSystem AuthState AuthEvent where
  init state := state.accounts = [] ∧ state.signups = [] ∧ state.issued = []
  step := step jwts encoder config

/-! ## What holds in every state -/

/-- Names and ids are those of one user each, and every token names a user. -/
structure Sound (state : AuthState) : Prop where
  usernames : (state.accounts.map Account.username).Nodup
  ids : (state.accounts.map Account.id).Nodup
  bound : ∀ account ∈ state.accounts, account.id < state.nextUserId
  issued : ∀ claims ∈ state.issued, claims.issuedAt ≤ state.now ∧
    ∃ account ∈ state.accounts,
      claims = JwtService.buildToken config claims.kind account claims.issuedAt

variable {jwts encoder config} {state : AuthState}

theorem mem_issue {account : Account} {claims : TokenClaims}
    (hclaims : claims ∈ (state.issue config account).issued) :
    claims ∈ state.issued ∨
      claims = JwtService.buildToken config claims.kind account state.now := by
  rcases List.mem_append.mp hclaims with hold | hnew
  · exact .inl hold
  · simp only [JwtService.tokenPair, List.mem_cons, List.not_mem_nil, or_false] at hnew
    rcases hnew with rfl | rfl
    · exact .inr rfl
    · exact .inr rfl

/-- Tokens for a user who is there. -/
theorem Sound.issue (h : Sound config state) {account : Account}
    (haccount : account ∈ state.accounts) : Sound config (state.issue config account) where
  usernames := h.usernames
  ids := h.ids
  bound := h.bound
  issued claims hclaims := by
    rcases mem_issue hclaims with hold | hnew
    · exact h.issued claims hold
    · rw [hnew]
      exact ⟨Int.le_refl _, account, haccount, rfl⟩

theorem existsByUsername_false {accounts : List Account} {name : String}
    (hfresh : AuthService.existsByUsername accounts (some name) = false) :
    ∀ account ∈ accounts, account.username ≠ name := by
  intro account haccount hname
  unfold AuthService.existsByUsername at hfresh
  rw [List.any_eq_false] at hfresh
  exact hfresh account haccount (by simp [hname])

/-- A new user has a new name and a new id. -/
theorem Sound.insert (h : Sound config state) {name hash : String} (signups : List PendingSignup)
    (hfresh : AuthService.existsByUsername state.accounts (some name) = false) :
    Sound config
      { state with
        accounts := state.accounts ++ [⟨state.nextUserId, name, hash⟩]
        signups := signups
        nextUserId := state.nextUserId + 1 } where
  usernames := by
    have hnames := existsByUsername_false hfresh
    simp only [List.map_append, List.map_cons, List.map_nil, List.nodup_append, List.nodup_cons,
      List.not_mem_nil, not_false_eq_true, List.nodup_nil, and_self, true_and, List.mem_singleton,
      List.mem_map]
    refine ⟨h.usernames, ?_⟩
    rintro _ ⟨account, haccount, rfl⟩ _ rfl
    exact hnames account haccount
  ids := by
    simp only [List.map_append, List.map_cons, List.map_nil, List.nodup_append, List.nodup_cons,
      List.not_mem_nil, not_false_eq_true, List.nodup_nil, and_self, true_and, List.mem_singleton,
      List.mem_map]
    refine ⟨h.ids, ?_⟩
    rintro _ ⟨account, haccount, rfl⟩ _ rfl
    exact Int.ne_of_lt (h.bound account haccount)
  bound account haccount := by
    rcases List.mem_append.mp haccount with hold | hnew
    · have hbound := h.bound account hold
      push_cast
      lia
    · cases List.mem_singleton.mp hnew
      push_cast
      lia
  issued claims hclaims := by
    obtain ⟨htime, account, haccount, hclaims⟩ := h.issued claims hclaims
    exact ⟨htime, account, List.mem_append_left _ haccount, hclaims⟩

theorem findAccount_some {accounts : List Account} {username : Option String} {account : Account}
    (hfind : AuthService.findAccount accounts username = some account) :
    account ∈ accounts ∧ username = some account.username :=
  ⟨List.mem_of_find?_eq_some hfind, by simpa using List.find?_some hfind⟩

theorem login_ok {accounts : List Account} {username password : Option String} {account : Account}
    (hlogin : AuthService.login encoder accounts username password = .ok account) :
    account ∈ accounts ∧ username = some account.username ∧
      ∃ text, password = some text ∧ encoder.doesMatch text account.passwordHash = true := by
  unfold AuthService.login at hlogin
  split at hlogin
  next => cases hlogin
  next found hfind =>
    split at hlogin
    next => cases hlogin
    next text =>
      split at hlogin
      next hmatch =>
        cases hlogin
        obtain ⟨hmem, hname⟩ := findAccount_some hfind
        exact ⟨hmem, hname, text, rfl, hmatch⟩
      next => cases hlogin

/-- A refresh token of this user has been presented. -/
theorem refresh_ok {accounts : List Account} {now : Int} {token : String} {account : Account}
    (hrefresh : AuthService.refresh jwts accounts now token = .ok account) :
    account ∈ accounts ∧ ∃ claims,
      jwts.parser.parseClaimsJws (Instant.ofEpochMilli now) token = some claims ∧
        claims.tokenType = .value "refresh" ∧ claims.subject = some account.username := by
  obtain ⟨answer, hanswer, hrefresh⟩ := Except.bind_eq_ok_iff.mp hrefresh
  split at hrefresh
  next => cases hrefresh
  next found hfind =>
    cases hrefresh
    obtain ⟨hmem, hname⟩ := findAccount_some hfind
    obtain ⟨-, claims, hclaims, htype, hsubject⟩ := refreshTokens_ok hanswer
    exact ⟨hmem, claims, hclaims, htype, hsubject.trans hname⟩

theorem step_sound (h : Sound config state) {event : AuthEvent} {next : AuthState}
    (hstep : state.step jwts encoder config event = some next) : Sound config next := by
  cases step_cases hstep with
  | signup hash hsignup => exact ⟨h.usernames, h.ids, h.bound, h.issued⟩
  | save pending name hpending hname hfresh =>
      exact (h.insert _ hfresh).issue (List.mem_append_right _ List.mem_cons_self)
  | saveFailed =>
      refine ⟨h.usernames, h.ids, fun account haccount => ?_, h.issued⟩
      have hbound := h.bound account haccount
      push_cast
      lia
  | login account hlogin => exact h.issue (login_ok hlogin).1
  | refresh account hrefresh => exact h.issue (refresh_ok hrefresh).1
  | unchanged => exact h
  | advance milliseconds =>
      refine ⟨h.usernames, h.ids, h.bound, fun claims hclaims => ?_⟩
      obtain ⟨htime, haccount⟩ := h.issued claims hclaims
      exact ⟨by show claims.issuedAt ≤ state.now + milliseconds; lia, haccount⟩

theorem reachable_sound (hreach : (system jwts encoder config).Reachable state) :
    Sound config state := by
  refine hreach.invariant (system jwts encoder config) (Sound config) ?_ ?_
  · rintro start ⟨haccounts, -, hissued⟩
    constructor <;> simp [haccounts, hissued]
  · exact fun _ _ _ _ h _ hstep => step_sound h hstep

end AuthState

end CollabEditor.Backend
