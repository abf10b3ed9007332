import CollabEditor.Foundation.Except
import CollabEditor.Backend.Database

/-! # Access tokens and refresh tokens

Both kinds are signed with one key and differ in a claim, which every entry point has to look
at by itself. A request is answered at one instant. The signature and the expiry are checked by
the library that parses a token.
-/

namespace CollabEditor.Backend

open Foundation

/-- A claim as `claims.get(name, type)` finds it. -/
inductive ClaimValue (α : Type)
  | absent
  | wrongType
  | value (value : α)
deriving DecidableEq, Repr

/-- The claims that are read, with `getSubject` and `getExpiration`. -/
structure Claims where
  subject : Option String
  userId : ClaimValue UserId
  tokenType : ClaimValue String
  expiration : Option Instant
deriving DecidableEq, Repr

def Claims.Unexpired (claims : Claims) (now : Instant) : Prop :=
  ∀ expiration, claims.expiration = some expiration → now ≤ expiration

/-- `Jwts.parserBuilder()` with the public key. A token is parsed only if it is signed, and not
after its expiry. -/
structure JwtParser where
  /-- `parseClaimsJws`; `none` when it throws. -/
  parseClaimsJws : Instant → String → Option Claims
  unexpired : ∀ now token claims, parseClaimsJws now token = some claims → claims.Unexpired now

inductive AuthError
  /-- A `JwtException` or an `IllegalArgumentException`. -/
  | jwt
  | nullPointer
  | appException (message : String) (status : Nat)
deriving DecidableEq, Repr

/-- A value of another type than the required one makes `get` throw. -/
def ClaimValue.get {α : Type} : ClaimValue α → Except AuthError (Option α)
  | absent => .ok none
  | wrongType => .error .jwt
  | value found => .ok (some found)

/-- `User.jwtPrincipal`. -/
structure Principal where
  id : UserId
  username : Option String
deriving DecidableEq, Repr

namespace JwtService

variable (parser : JwtParser) (now : Instant) (token : String)

def extractAllClaims : Except AuthError Claims :=
  match parser.parseClaimsJws now token with
  | none => .error .jwt
  | some claims => .ok claims

/-- `getExpiration().before(new Date())`. -/
def expired (claims : Claims) : Except AuthError Bool :=
  match claims.expiration with
  | none => .error .nullPointer
  | some expiration => .ok (decide (expiration < now))

def isAccessTokenValid : Except AuthError Bool := do
  let claims ← extractAllClaims parser now token
  let tokenType ← claims.tokenType.get
  if tokenType = some "access" then return !(← expired now claims) else return false

def extractUser : Except AuthError Principal := do
  let claims ← extractAllClaims parser now token
  match ← claims.userId.get with
  | none => throw .nullPointer
  | some userId => return ⟨userId, claims.subject⟩

def extractTokenType : Except AuthError (Option String) := do
  let claims ← extractAllClaims parser now token
  claims.tokenType.get

def isTokenExpired : Except AuthError Bool := do
  let claims ← extractAllClaims parser now token
  expired now claims

def extractUsername : Except AuthError (Option String) := do
  let claims ← extractAllClaims parser now token
  return claims.subject

end JwtService

/-- The entry points, by their paths. -/
inductive Endpoint
  /-- Any path that is not one of the others. -/
  | api
  /-- `/internal/**`. -/
  | internal
  | me
  | refresh
  /-- `/auth/signup`, `/auth/login` and `/auth/logout`. -/
  | credentials
deriving DecidableEq, Repr

structure AuthRequest where
  endpoint : Endpoint
  authHeader : Option String
  /-- The `refreshToken` of the body. -/
  body : Option String
  cookieToken : Option String
deriving DecidableEq, Repr

namespace AuthRequest

variable (request : AuthRequest)

/-- The Authorization header without its `Bearer`. -/
def bearerToken : Option String :=
  request.authHeader.bind fun header =>
    if header.startsWith "Bearer " then some (header.drop 7).toString else none

/-- The token of a refresh: that of the body comes first. -/
def refreshToken : Option String := request.body.or request.cookieToken

/-- The token an endpoint is given. -/
def presented : Option String :=
  match request.endpoint with
  | .refresh => request.refreshToken
  | _ => request.bearerToken

end AuthRequest

/-- The token and the user a request has been answered for. -/
structure Answer where
  token : String
  username : Option String
deriving DecidableEq, Repr

section Endpoints

variable (parser : JwtParser) (internalToken : String) (users : List User) (now : Instant)

/-- `JwtAuthFilter.doFilterInternal`: the user it puts into the security context. -/
def jwtAuthFilter (request : AuthRequest) : Except AuthError (Option (String × Principal)) :=
  match request.bearerToken with
  | none => .ok none
  | some jwt =>
      let authenticated : Except AuthError (Option (String × Principal)) := do
        if ← JwtService.isAccessTokenValid parser now jwt then
          let user ← JwtService.extractUser parser now jwt
          return some (jwt, user)
        else return none
      match authenticated with
      -- logged, and the chain goes on without a user
      | .error .jwt => .ok none
      | result => result

/-- `findByUsername`. -/
def findByUsername (username : Option String) : Option User :=
  users.find? fun user => username = some user.username

/-- `AuthService.refresh`: the user who gets new tokens. -/
def refreshTokens (token : String) : Except AuthError Answer := do
  let tokenType ← JwtService.extractTokenType parser now token
  if tokenType ≠ some "refresh" then throw (.appException "Invalid refresh token" 401)
  else if ← JwtService.isTokenExpired parser now token then
    throw (.appException "Invalid refresh token" 401)
  else
    let username ← JwtService.extractUsername parser now token
    match findByUsername users username with
    | none => throw (.appException ("Username '" ++ username.getD "null" ++ "' not found") 404)
    | some user => return ⟨token, some user.username⟩

/-- `AuthController.me`. -/
def me (request : AuthRequest) : Except AuthError Answer :=
  match request.bearerToken with
  | none => .error (.appException "Missing or invalid authorization header" 401)
  | some token => do
      let username ← JwtService.extractUsername parser now token
      match findByUsername users username with
      | none => throw (.appException "User not found" 404)
      | some user => return ⟨token, some user.username⟩

/-- The filter chains and the controllers: the token a request is answered for. An answer that
depends on no token is `none`. -/
def answer (request : AuthRequest) : Except AuthError (Option Answer) :=
  match request.endpoint with
  | .internal =>
      -- the worker is no user
      if request.bearerToken = some internalToken then .ok none
      else .error (.appException "Unauthorized" 401)
  | .api => do
      match ← jwtAuthFilter parser now request with
      | none => throw (.appException "Unauthorized" 401)
      | some (token, user) => return some ⟨token, user.username⟩
  | .me => do
      let _ ← jwtAuthFilter parser now request
      some <$> me parser users now request
  | .refresh => do
      let _ ← jwtAuthFilter parser now request
      match request.refreshToken with
      | none => throw (.appException "Missing refresh token" 401)
      | some token => some <$> refreshTokens parser users now token
  | .credentials => do
      let _ ← jwtAuthFilter parser now request
      return none

/-- The kind of token an endpoint is for. -/
def requiredKind : Endpoint → String
  | .refresh => "refresh"
  | _ => "access"

/-- A request is answered only for the subject of the token it presents, which is unexpired
and of the required kind. -/
def KindsRespected (request : AuthRequest) : Prop :=
  ∀ answered, answer parser internalToken users now request = .ok (some answered) →
    request.presented = some answered.token ∧
      ∃ claims, parser.parseClaimsJws now answered.token = some claims ∧ claims.Unexpired now ∧
        claims.tokenType = .value (requiredKind request.endpoint) ∧
        claims.subject = answered.username

/-- `/auth/me` is given a signed token of another kind, of a known user. -/
def ForeignKindAtMe (request : AuthRequest) : Prop :=
  request.endpoint = .me ∧ ∃ token claims, request.bearerToken = some token ∧
    parser.parseClaimsJws now token = some claims ∧ claims.tokenType ≠ .value "access" ∧
      ∃ user ∈ users, claims.subject = some user.username

variable {parser internalToken users now}

theorem extractAllClaims_ok {token : String} {claims : Claims} :
    JwtService.extractAllClaims parser now token = .ok claims ↔
      parser.parseClaimsJws now token = some claims := by
  unfold JwtService.extractAllClaims
  cases parser.parseClaimsJws now token with
  | none => exact iff_of_false nofun nofun
  | some found => simp

theorem ClaimValue.get_some {α : Type} {claim : ClaimValue α} {found : α} :
    claim.get = .ok (some found) ↔ claim = .value found := by
  cases claim with
  | absent | wrongType => exact iff_of_false nofun nofun
  | value other => simp [ClaimValue.get]

theorem isAccessTokenValid_true {token : String}
    (hvalid : JwtService.isAccessTokenValid parser now token = .ok true) :
    ∃ claims, parser.parseClaimsJws now token = some claims ∧
      claims.tokenType = .value "access" := by
  simp only [JwtService.isAccessTokenValid, Except.bind_eq_ok_iff] at hvalid
  obtain ⟨claims, hclaims, tokenType, htype, hvalid⟩ := hvalid
  split at hvalid
  next haccess =>
    subst haccess
    exact ⟨claims, extractAllClaims_ok.mp hclaims, ClaimValue.get_some.mp htype⟩
  next => cases hvalid

/-- The filter only lets the subject of an access token in. -/
theorem jwtAuthFilter_some {request : AuthRequest} {token : String} {user : Principal}
    (hfilter : jwtAuthFilter parser now request = .ok (some (token, user))) :
    request.bearerToken = some token ∧
      ∃ claims, parser.parseClaimsJws now token = some claims ∧
        claims.tokenType = .value "access" ∧ claims.subject = user.username := by
  unfold jwtAuthFilter at hfilter
  split at hfilter
  next => cases hfilter
  next jwt hbearer =>
    dsimp only at hfilter
    split at hfilter
    next => cases hfilter
    next =>
      simp only [Except.bind_eq_ok_iff] at hfilter
      obtain ⟨valid, hvalid, hfilter⟩ := hfilter
      split at hfilter
      next htrue =>
        subst htrue
        obtain ⟨claims, hclaims, htype⟩ := isAccessTokenValid_true hvalid
        simp only [JwtService.extractUser, Except.bind_eq_ok_iff] at hfilter
        obtain ⟨found, ⟨claims', hclaims', userId, -, huser⟩, hsome⟩ := hfilter
        cases hsome
        rw [extractAllClaims_ok, hclaims] at hclaims'
        cases hclaims'
        split at huser
        next => cases huser
        next id _ =>
          cases huser
          exact ⟨hbearer, claims, hclaims, htype, rfl⟩
      next => cases hfilter

/-- A token of another kind passes the filter without a user. -/
theorem jwtAuthFilter_foreign {request : AuthRequest} {token : String} {claims : Claims}
    (hbearer : request.bearerToken = some token)
    (hclaims : parser.parseClaimsJws now token = some claims)
    (htype : claims.tokenType ≠ .value "access") :
    jwtAuthFilter parser now request = .ok none := by
  have hvalid : JwtService.isAccessTokenValid parser now token = .ok false ∨
      JwtService.isAccessTokenValid parser now token = .error .jwt := by
    unfold JwtService.isAccessTokenValid
    rw [extractAllClaims_ok.mpr hclaims]
    cases hkind : claims.tokenType with
    | absent =>
        left
        simp [hkind, ClaimValue.get, bind, Except.bind, pure, Except.pure]
    | wrongType =>
        right
        simp [hkind, ClaimValue.get, bind, Except.bind]
    | value kind =>
        have hother : kind ≠ "access" := by
          rintro rfl
          exact htype hkind
        left
        simp [hkind, hother, ClaimValue.get, bind, Except.bind, pure, Except.pure]
  unfold jwtAuthFilter
  rw [hbearer]
  obtain hvalid | hvalid := hvalid
  · simp [hvalid, bind, Except.bind, pure, Except.pure]
  · simp [hvalid, bind, Except.bind]

theorem findByUsername_some {username : Option String} {user : User}
    (hfind : findByUsername users username = some user) :
    user ∈ users ∧ username = some user.username := by
  have hname := List.find?_some hfind
  exact ⟨List.mem_of_find?_eq_some hfind, of_decide_eq_true hname⟩

/-- Only a refresh token is exchanged. -/
theorem refreshTokens_ok {token : String} {answered : Answer}
    (hrefresh : refreshTokens parser users now token = .ok answered) :
    answered.token = token ∧ ∃ claims, parser.parseClaimsJws now token = some claims ∧
      claims.tokenType = .value "refresh" ∧ claims.subject = answered.username := by
  simp only [refreshTokens, JwtService.extractTokenType, JwtService.isTokenExpired,
    JwtService.extractUsername, Except.bind_eq_ok_iff] at hrefresh
  obtain ⟨tokenType, ⟨claims, hclaims, htype⟩, hrefresh⟩ := hrefresh
  split at hrefresh
  next => cases hrefresh
  next hkind =>
    have hsome := not_ne_iff.mp hkind
    subst hsome
    obtain ⟨late, -, hrefresh⟩ := Except.bind_eq_ok_iff.mp hrefresh
    split at hrefresh
    next => cases hrefresh
    next =>
      obtain ⟨username, husername, hrefresh⟩ := Except.bind_eq_ok_iff.mp hrefresh
      obtain ⟨claims', hclaims', husername⟩ := Except.bind_eq_ok_iff.mp husername
      rw [extractAllClaims_ok] at hclaims hclaims'
      rw [hclaims] at hclaims'
      cases hclaims'
      cases husername
      split at hrefresh
      next => cases hrefresh
      next user hfind =>
        cases hrefresh
        exact ⟨rfl, claims, hclaims, ClaimValue.get_some.mp htype, (findByUsername_some hfind).2⟩

/-- The controller asks for a signed token of a known user, and nothing else. -/
theorem me_ok {request : AuthRequest} {answered : Answer} :
    me parser users now request = .ok answered ↔
      request.bearerToken = some answered.token ∧
      ∃ claims user, parser.parseClaimsJws now answered.token = some claims ∧
        findByUsername users claims.subject = some user ∧
        answered.username = some user.username := by
  unfold me
  cases hbearer : request.bearerToken with
  | none => exact iff_of_false nofun nofun
  | some token =>
      simp only [JwtService.extractUsername, Except.bind_eq_ok_iff, Option.some.injEq]
      constructor
      · rintro ⟨username, ⟨claims, hclaims, husername⟩, hme⟩
        cases husername
        split at hme
        next => cases hme
        next user hfind =>
          cases hme
          exact ⟨rfl, claims, user, extractAllClaims_ok.mp hclaims, hfind, rfl⟩
      · rintro ⟨rfl, claims, user, hclaims, hfind, husername⟩
        refine ⟨claims.subject, ⟨claims, extractAllClaims_ok.mpr hclaims, rfl⟩, ?_⟩
        rw [hfind]
        obtain ⟨token, username⟩ := answered
        cases husername
        rfl

theorem map_some_ok {result : Except AuthError Answer} {answered : Answer}
    (hmap : some <$> result = .ok (some answered)) : result = .ok answered := by
  cases result with
  | error error => cases hmap
  | ok found =>
      cases hmap
      rfl

/-- The kinds are respected by every request that is not one to `/auth/me` with a token of
another kind. -/
theorem kindsRespected_iff {request : AuthRequest} :
    KindsRespected parser internalToken users now request ↔
      ¬ForeignKindAtMe parser users now request := by
  constructor
  · rintro hrespected ⟨hme, token, claims, hbearer, hclaims, htype, user, huser, hsubject⟩
    have hfound : (findByUsername users claims.subject).isSome :=
      List.find?_isSome.mpr ⟨user, huser, decide_eq_true hsubject⟩
    obtain ⟨found, hfind⟩ := Option.isSome_iff_exists.mp hfound
    have hanswer : answer parser internalToken users now request =
        .ok (some ⟨token, some found.username⟩) := by
      unfold answer
      rw [hme]
      have hcontroller : me parser users now request = .ok ⟨token, some found.username⟩ :=
        me_ok.mpr ⟨hbearer, claims, found, hclaims, hfind, rfl⟩
      simp [jwtAuthFilter_foreign hbearer hclaims htype, hcontroller, bind, Except.bind]
    obtain ⟨-, claims', hclaims', -, htype', -⟩ := hrespected _ hanswer
    rw [hclaims] at hclaims'
    cases hclaims'
    rw [hme] at htype'
    exact htype htype'
  · intro hown answered hanswer
    unfold answer at hanswer
    cases hendpoint : request.endpoint with
    | internal =>
        rw [hendpoint] at hanswer
        dsimp only at hanswer
        split at hanswer <;> cases hanswer
    | api =>
        rw [hendpoint] at hanswer
        obtain ⟨filtered, hfilter, hanswer⟩ := Except.bind_eq_ok_iff.mp hanswer
        split at hanswer
        next => cases hanswer
        next token user =>
          cases hanswer
          obtain ⟨hbearer, claims, hclaims, htype, hsubject⟩ := jwtAuthFilter_some hfilter
          exact ⟨by rw [AuthRequest.presented, hendpoint]; exact hbearer, claims, hclaims,
            parser.unexpired _ _ _ hclaims, htype, hsubject⟩
    | me =>
        rw [hendpoint] at hanswer
        obtain ⟨filtered, -, hanswer⟩ := Except.bind_eq_ok_iff.mp hanswer
        obtain ⟨hbearer, claims, user, hclaims, hfind, husername⟩ := me_ok.mp (map_some_ok hanswer)
        obtain ⟨huser, hsubject⟩ := findByUsername_some hfind
        have htype : claims.tokenType = .value "access" := by
          by_contra hother
          exact hown ⟨hendpoint, _, claims, hbearer, hclaims, hother, user, huser, hsubject⟩
        exact ⟨by rw [AuthRequest.presented, hendpoint]; exact hbearer, claims, hclaims,
          parser.unexpired _ _ _ hclaims, htype, hsubject.trans husername.symm⟩
    | refresh =>
        rw [hendpoint] at hanswer
        obtain ⟨filtered, -, hanswer⟩ := Except.bind_eq_ok_iff.mp hanswer
        split at hanswer
        next => cases hanswer
        next token htoken =>
          obtain ⟨rfl, claims, hclaims, htype, hsubject⟩ :=
            refreshTokens_ok (map_some_ok hanswer)
          exact ⟨by rw [AuthRequest.presented, hendpoint]; exact htoken, claims, hclaims,
            parser.unexpired _ _ _ hclaims, htype, hsubject⟩
    | credentials =>
        rw [hendpoint] at hanswer
        obtain ⟨filtered, -, hanswer⟩ := Except.bind_eq_ok_iff.mp hanswer
        cases hanswer

end Endpoints

/-- The claims of a refresh token. -/
def refreshClaims : Claims where
  subject := some "owner"
  userId := .value 1
  tokenType := .value "refresh"
  expiration := some 604800

/-- The library on one refresh token. -/
def refreshParser : JwtParser where
  parseClaimsJws now token :=
    if token = "refresh-token" ∧ now ≤ 604800 then some refreshClaims else none
  unexpired now token claims hclaims := by
    obtain ⟨⟨-, hnow⟩, hsame⟩ := Option.ite_none_right_eq_some.mp hclaims
    cases hsame
    intro expiration hexpiration
    cases hexpiration
    exact hnow

/-- A refresh token in the header of `/auth/me`. -/
theorem me_answers_refresh_token :
    ¬ ∀ (parser : JwtParser) (internalToken : String) (users : List User) (now : Instant)
      (request : AuthRequest), KindsRespected parser internalToken users now request := by
  intro hclaim
  let request : AuthRequest := ⟨.me, some "Bearer refresh-token", none, none⟩
  have hanswer : answer refreshParser "internal" [⟨1, "owner"⟩] 0 request =
      .ok (some ⟨"refresh-token", some "owner"⟩) := by
    decide +kernel
  obtain ⟨-, claims, hclaims, -, htype, -⟩ :=
    hclaim refreshParser "internal" [⟨1, "owner"⟩] 0 request _ hanswer
  have hsame : refreshParser.parseClaimsJws 0 "refresh-token" = some refreshClaims := by
    decide +kernel
  rw [hsame] at hclaims
  cases hclaims
  revert htype
  decide

end CollabEditor.Backend
