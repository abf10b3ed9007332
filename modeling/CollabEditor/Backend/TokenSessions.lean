import Mathlib.Data.List.Nodup
import CollabEditor.Backend.Accounts

/-! # What a token is good for, where it comes from, and how long it can be renewed

The service keeps no sessions. What it accepts is decided by the token alone: logging out, or
exchanging a refresh token for a new one, takes nothing back.
-/

namespace CollabEditor.Backend

open Foundation

/-! ## Parsing an issued token -/

section Issued

variable {jwts : Jwts} {claims : TokenClaims} {now : Int}

theorem parse_live (hlive : now ≤ claims.expiresAt) :
    JwtService.extractAllClaims jwts.parser (Instant.ofEpochMilli now) (jwts.compact claims) =
      .ok claims.read := by
  rw [extractAllClaims_ok, jwts.parse_compact, if_pos hlive]

theorem parse_expired (hexpired : ¬now ≤ claims.expiresAt) :
    JwtService.extractAllClaims jwts.parser (Instant.ofEpochMilli now) (jwts.compact claims) =
      .error .jwt := by
  rw [JwtService.extractAllClaims, jwts.parse_compact, if_neg hexpired]

theorem read_unexpired (hlive : now ≤ claims.expiresAt) :
    JwtService.expired (Instant.ofEpochMilli now) claims.read = .ok false := by
  have hlater : ¬now * 1000000 > claims.expiresAt * 1000000 := by lia
  have hsame : decide (claims.expiresAt * 1000000 < now * 1000000) = false :=
    decide_eq_false hlater
  exact congrArg Except.ok hsame

theorem isAccessTokenValid_live (hlive : now ≤ claims.expiresAt) :
    JwtService.isAccessTokenValid jwts.parser (Instant.ofEpochMilli now) (jwts.compact claims) =
      .ok (decide (claims.kind = .access)) := by
  unfold JwtService.isAccessTokenValid
  rw [parse_live hlive]
  change (if some claims.kind.claim = some "access" then _ else _) = _
  cases hkind : claims.kind with
  | access =>
      rw [if_pos (by rfl), read_unexpired hlive]
      rfl
  | refresh =>
      rw [if_neg (by decide)]
      rfl

theorem extractUser_live (hlive : now ≤ claims.expiresAt) :
    JwtService.extractUser jwts.parser (Instant.ofEpochMilli now) (jwts.compact claims) =
      .ok ⟨claims.userId, some claims.subject⟩ := by
  unfold JwtService.extractUser
  rw [parse_live hlive]
  rfl

/-- The filter lets the user of a live access token in, and nobody else. -/
theorem jwtAuthFilter_issued {request : AuthRequest}
    (hbearer : request.bearerToken = some (jwts.compact claims)) :
    jwtAuthFilter jwts.parser (Instant.ofEpochMilli now) request =
      .ok (if claims.kind = .access ∧ now ≤ claims.expiresAt then
        some (jwts.compact claims, ⟨claims.userId, some claims.subject⟩) else none) := by
  unfold jwtAuthFilter
  rw [hbearer]
  by_cases hlive : now ≤ claims.expiresAt
  · simp only [isAccessTokenValid_live hlive, extractUser_live hlive, hlive, and_true]
    cases claims.kind <;> rfl
  · have hinvalid : JwtService.isAccessTokenValid jwts.parser (Instant.ofEpochMilli now)
        (jwts.compact claims) = .error .jwt := by
      unfold JwtService.isAccessTokenValid
      rw [parse_expired hlive]
      rfl
    simp only [hinvalid, hlive, and_false, if_false]
    rfl

/-- A live refresh token is exchanged if its user is found. -/
theorem refreshTokens_issued (users : List User) :
    refreshTokens jwts.parser users (Instant.ofEpochMilli now) (jwts.compact claims) =
      if now ≤ claims.expiresAt then
        if claims.kind = .refresh then
          match findByUsername users (some claims.subject) with
          | none => .error (.appException ("Username '" ++ claims.subject ++ "' not found") 404)
          | some user => .ok ⟨jwts.compact claims, some user.username⟩
        else .error (.appException "Invalid refresh token" 401)
      else .error .jwt := by
  unfold refreshTokens JwtService.extractTokenType JwtService.isTokenExpired
    JwtService.extractUsername
  by_cases hlive : now ≤ claims.expiresAt
  · rw [parse_live hlive, if_pos hlive]
    change (if some claims.kind.claim ≠ some "refresh" then _ else _) = _
    cases hkind : claims.kind with
    | access =>
        rw [if_pos (by decide), if_neg (by decide)]
        rfl
    | refresh =>
        rw [if_neg (by decide), if_pos rfl]
        change (do
          let late ← JwtService.expired (Instant.ofEpochMilli now) claims.read
          if late then _ else _) = _
        rw [read_unexpired hlive]
        have hsubject : claims.read.subject = some claims.subject := rfl
        simp only [bind, Except.bind, pure, Except.pure, Bool.false_eq_true, if_false, hsubject]
        cases findByUsername users (some claims.subject) <;> rfl
  · rw [parse_expired hlive, if_neg hlive]
    rfl

end Issued

namespace AuthState

variable {jwts : Jwts} {encoder : PasswordEncoder} {config : TokenConfig} {state : AuthState}

theorem find_account (h : Sound config state) {account : Account}
    (haccount : account ∈ state.accounts) :
    AuthService.findAccount state.accounts (some account.username) = some account := by
  cases hfind : AuthService.findAccount state.accounts (some account.username) with
  | none =>
      have hnone := List.find?_eq_none.mp hfind account haccount
      simp at hnone
  | some found =>
      obtain ⟨hmem, hname⟩ := findAccount_some hfind
      rw [Option.some.injEq] at hname
      rw [List.inj_on_of_nodup_map h.usernames hmem haccount hname.symm]

theorem find_user (h : Sound config state) {account : Account}
    (haccount : account ∈ state.accounts) :
    findByUsername (state.accounts.map Account.toUser) (some account.username) =
      some account.toUser := by
  have hsame : ((fun user : User => decide (some account.username = some user.username)) ∘
      Account.toUser) = fun found => some account.username == some found.username := by
    funext found
    rw [Bool.eq_iff_iff, beq_iff_eq]
    exact decide_eq_true_iff
  have hfind := find_account h haccount
  unfold AuthService.findAccount at hfind
  unfold findByUsername
  rw [List.find?_map, hsame, hfind]
  rfl

/-- An issued token is exchanged for tokens of its user as long as it is a live refresh token. -/
theorem refresh_issued (jwts : Jwts) (h : Sound config state) {claims : TokenClaims}
    {account : Account} (haccount : account ∈ state.accounts)
    (hsubject : claims.subject = account.username) (now : Int) :
    AuthService.refresh jwts state.accounts now (jwts.compact claims) =
      if now ≤ claims.expiresAt then
        if claims.kind = .refresh then .ok account
        else .error (.appException "Invalid refresh token" 401)
      else .error .jwt := by
  unfold AuthService.refresh
  rw [refreshTokens_issued, hsubject, find_user h haccount]
  split
  next =>
    split
    next =>
      simp only [bind, Except.bind, Account.toUser, find_account h haccount]
      rfl
    next => rfl
  next => rfl

/-! ## One service -/

/-- A number in decimals behind its sign. -/
def decimals (value : Int) : List Char :=
  (if value < 0 then '-' else '+') :: Nat.toDigits 10 value.natAbs

/-- The number in front of a comma, and what follows the comma. -/
def readDecimals : List Char → Option (Int × List Char)
  | [] => none
  | sign :: text =>
      let value : Int := Nat.ofDigitChars 10 (text.takeWhile Char.isDigit) 0
      match text.dropWhile Char.isDigit with
      | ',' :: rest => some (if sign = '-' then -value else value, rest)
      | _ => none

theorem readDecimals_decimals (value : Int) (rest : List Char) :
    readDecimals (decimals value ++ ',' :: rest) = some (value, rest) := by
  have hdigits : ∀ digit ∈ Nat.toDigits 10 value.natAbs, digit.isDigit = true :=
    fun digit hdigit => Nat.isDigit_of_mem_toDigits (by decide) (by decide) hdigit
  have htake : (Nat.toDigits 10 value.natAbs ++ ',' :: rest).takeWhile Char.isDigit =
      Nat.toDigits 10 value.natAbs := by
    rw [List.takeWhile_append_of_pos hdigits, List.takeWhile_cons_of_neg (by decide),
      List.append_nil]
  have hdrop : (Nat.toDigits 10 value.natAbs ++ ',' :: rest).dropWhile Char.isDigit =
      ',' :: rest := by
    rw [List.dropWhile_append_of_pos hdigits, List.dropWhile_cons_of_neg (by decide)]
  simp only [decimals, List.cons_append, readDecimals, htake, hdrop,
    Nat.ofDigitChars_ten_toDigits]
  by_cases hneg : value < 0
  · simp only [hneg, if_true, Option.some.injEq, Prod.mk.injEq, and_true]
    omega
  · simp only [hneg, if_false, Option.some.injEq, Prod.mk.injEq, and_true]
    rw [if_neg (by decide)]
    omega

def plainCompact (claims : TokenClaims) : String :=
  .ofList (decimals (if claims.kind = .access then 0 else 1) ++ ',' ::
    (decimals claims.userId ++ ',' :: (decimals claims.issuedAt ++ ',' ::
      (decimals claims.expiration ++ ',' :: claims.subject.toList))))

def plainParse (token : String) : Option TokenClaims := do
  let (kind, text) ← readDecimals token.toList
  let (userId, text) ← readDecimals text
  let (issuedAt, text) ← readDecimals text
  let (expiration, text) ← readDecimals text
  return ⟨if kind = 0 then .access else .refresh, .ofList text, userId, issuedAt, expiration⟩

theorem plainParse_plainCompact (claims : TokenClaims) :
    plainParse (plainCompact claims) = some claims := by
  simp only [plainParse, plainCompact, String.toList_ofList, readDecimals_decimals,
    Option.pure_def, Option.bind_eq_bind, Option.bind_some, String.ofList_toList]
  obtain ⟨kind, subject, userId, issuedAt, expiration⟩ := claims
  cases kind <;> rfl

/-- Tokens that are their claims in plain text: fit for one run, in which nobody forges any. -/
def plainJwts : Jwts where
  parser := {
    parseClaimsJws := fun now token =>
      (plainParse token).bind fun claims =>
        if now ≤ Instant.ofEpochMilli claims.expiresAt then some claims.read else none
    unexpired := by
      intro now token read hread expiration hexpiration
      obtain ⟨claims, -, hclaims⟩ := Option.bind_eq_some_iff.mp hread
      rw [Option.ite_none_right_eq_some, Option.some.injEq] at hclaims
      obtain ⟨hlive, rfl⟩ := hclaims
      cases hexpiration
      exact hlive }
  compact := plainCompact
  parse_compact now claims := by
    have hscale : Instant.ofEpochMilli now ≤ Instant.ofEpochMilli claims.expiresAt ↔
        now ≤ claims.expiresAt := by
      show now * 1000000 ≤ claims.expiresAt * 1000000 ↔ _
      lia
    simp only [plainParse_plainCompact, Option.bind_some, hscale]

/-- A hash that is the salt and the password. -/
def plainEncoder : PasswordEncoder where
  encode salt password := some (.ofList (decimals salt ++ ',' :: password.toList))
  doesMatch password hash :=
    (readDecimals hash.toList).any fun read => read.2 == password.toList
  doesMatch_encode salt password hash hencode := by
    cases hencode
    rw [String.toList_ofList, readDecimals_decimals]
    simp

/-- A quarter of an hour, and a week. -/
def plainConfig : TokenConfig := ⟨900000, 604800000⟩

def plainSystem : TransitionSystem AuthState AuthEvent :=
  system plainJwts plainEncoder plainConfig

/-- The refresh token of the first user. -/
def firstRefresh : TokenClaims := ⟨.refresh, "ada", 1, 0, 604800000⟩

/-- The access token of a refresh some minutes later. -/
def renewedAccess : TokenClaims := ⟨.access, "ada", 1, 1000000, 1900000⟩

/-! ## Until it expires, and no longer -/

theorem mem_issue_of_mem {account : Account} {claims : TokenClaims}
    (hclaims : claims ∈ state.issued) : claims ∈ (state.issue config account).issued :=
  List.mem_append_left _ hclaims

/-- No step takes a token or a user back. -/
theorem step_grows {event : AuthEvent} {next : AuthState}
    (hstep : state.step jwts encoder config event = some next) :
    state.issued ⊆ next.issued ∧ state.accounts ⊆ next.accounts := by
  cases step_cases hstep with
  | save =>
      exact ⟨fun _ hclaims => mem_issue_of_mem hclaims,
        fun _ haccount => List.mem_append_left _ haccount⟩
  | login | refresh => exact ⟨fun _ hclaims => mem_issue_of_mem hclaims, fun _ haccount => haccount⟩
  | signup | saveFailed | unchanged | advance =>
      exact ⟨fun _ hclaims => hclaims, fun _ haccount => haccount⟩

/-- What has been issued decides what is accepted: from then on, whatever happens, an access
token is accepted exactly until it expires, and a refresh token is exchanged exactly until it
expires. No logout and no exchange ends either. -/
theorem issued_decides {later : AuthState} (hreach : (system jwts encoder config).Reachable state)
    (hlater : (system jwts encoder config).Leads state later) {claims : TokenClaims}
    (hclaims : claims ∈ state.issued) :
    ∃ account ∈ later.accounts, claims.userId = account.id ∧ claims.subject = account.username ∧
      (∀ request : AuthRequest, request.bearerToken = some (jwts.compact claims) →
        jwtAuthFilter jwts.parser (Instant.ofEpochMilli later.now) request =
          .ok (if claims.kind = .access ∧ later.now ≤ claims.expiresAt then
            some (jwts.compact claims, ⟨account.id, some account.username⟩) else none)) ∧
      AuthService.refresh jwts later.accounts later.now (jwts.compact claims) =
        if later.now ≤ claims.expiresAt then
          if claims.kind = .refresh then .ok account
          else .error (.appException "Invalid refresh token" 401)
        else .error .jwt := by
  have hkept : claims ∈ later.issued := by
    refine hlater.keeps (fun state => claims ∈ state.issued) hreach hclaims ?_
    exact fun _ _ _ _ hmem hstep => (step_grows hstep).1 hmem
  have hsound := reachable_sound (TransitionSystem.Leads.reachable hlater hreach)
  obtain ⟨-, account, haccount, hbuilt⟩ := hsound.issued claims hkept
  have huserId : claims.userId = account.id := by rw [hbuilt]; rfl
  have hsubject : claims.subject = account.username := by rw [hbuilt]; rfl
  refine ⟨account, haccount, huserId, hsubject, fun request hbearer => ?_,
    refresh_issued jwts hsound haccount hsubject later.now⟩
  rw [jwtAuthFilter_issued hbearer, huserId, hsubject]

/-- After a logout, and when the access token has expired, the refresh token is still good. -/
theorem issued_decides_logout :
    ∃ state later, plainSystem.Reachable state ∧ plainSystem.Leads state later ∧
      firstRefresh ∈ state.issued ∧ later.now = 1000000 ∧ ∃ account ∈ later.accounts,
      account.username = "ada" ∧ AuthService.refresh plainJwts later.accounts later.now
        (plainJwts.compact firstRefresh) = .ok account := by
  have hstart : plainSystem.Reachable ⟨[], 1, [], [], 0⟩ := .init ⟨rfl, rfl, rfl⟩
  have hrun : ((plainSystem.exec (fun _ _ => True) ⟨[], 1, [], [], 0⟩
      [.signup (some "ada") (some "password") 3, .save 0]).bind fun state =>
        (plainSystem.exec (fun _ _ => True) state [.logout, .advance 1000000]).map fun later =>
          decide (firstRefresh ∈ state.issued ∧ later.now = 1000000)) = some true := by
    decide +kernel
  obtain ⟨state, hstate, hrest⟩ := Option.bind_eq_some_iff.mp hrun
  obtain ⟨later, hlater, hcheck⟩ := Option.map_eq_some_iff.mp hrest
  obtain ⟨hissued, hnow⟩ := of_decide_eq_true hcheck
  have hreach := TransitionSystem.ReachableUnder.exec plainSystem hstart hstate
  have hleads : plainSystem.Leads state later := .exec hlater
  obtain ⟨account, haccount, -, hname, -, hrefresh⟩ := issued_decides hreach hleads hissued
  refine ⟨state, later, hreach, hleads, hissued, hnow, account, haccount, hname.symm, ?_⟩
  rw [hrefresh, if_pos (by rw [hnow]; decide)]
  exact if_pos rfl

/-! ## Whose tokens they are -/

/-- Nobody but the service can sign: a token that is parsed was issued. -/
def Unforged (jwts : Jwts) (state : AuthState) (token : String) : Prop :=
  ∀ claims, jwts.parser.parseClaimsJws (Instant.ofEpochMilli state.now) token = some claims →
    ∃ issued ∈ state.issued, token = jwts.compact issued

/-- The step at which the user of the tokens gave a password: one that matches the hash, or the
one of the signup. -/
inductive ByPassword (encoder : PasswordEncoder) (claims : TokenClaims) :
    AuthState × AuthEvent → Prop
  | login (before : AuthState) (password : String) (account : Account)
      (haccount : account ∈ before.accounts) (hid : account.id = claims.userId)
      (hname : account.username = claims.subject)
      (hmatch : encoder.doesMatch password account.passwordHash = true)
      (hnow : claims.issuedAt = before.now) :
      ByPassword encoder claims (before, .login (some claims.subject) (some password))
  | signup (before : AuthState) (index : Nat) (pending : PendingSignup)
      (hpending : before.signups[index]? = some pending)
      (hname : pending.username = some claims.subject) (hid : claims.userId = before.nextUserId)
      (hnow : claims.issuedAt = before.now) : ByPassword encoder claims (before, .save index)

/-- The token goes back to a password, by refreshes each of which was in the lifetime of the
refresh token before. -/
inductive Session (jwts : Jwts) (encoder : PasswordEncoder)
    (past : List (AuthState × AuthEvent)) : TokenClaims → Prop
  | password {claims : TokenClaims} (entry : AuthState × AuthEvent) (hentry : entry ∈ past)
      (hpassword : ByPassword encoder claims entry) : Session jwts encoder past claims
  | renewed {old claims : TokenClaims} (before : AuthState)
      (hentry : (before, .refresh (jwts.compact old)) ∈ past)
      (hold : Session jwts encoder past old) (hkind : old.kind = .refresh)
      (hid : claims.userId = old.userId) (hname : claims.subject = old.subject)
      (hnow : claims.issuedAt = before.now) (hlive : before.now ≤ old.expiresAt) :
      Session jwts encoder past claims

theorem Session.grow {past : List (AuthState × AuthEvent)} {claims : TokenClaims}
    (h : Session jwts encoder past claims) (entry : AuthState × AuthEvent) :
    Session jwts encoder (past ++ [entry]) claims := by
  induction h with
  | password step hentry hpassword =>
      exact .password step (List.mem_append_left _ hentry) hpassword
  | renewed before hentry hold hkind hid hname hnow hlive ih =>
      exact .renewed before (List.mem_append_left _ hentry) ih hkind hid hname hnow hlive

/-- The refresh tokens that are presented are not forged. -/
def Signed (jwts : Jwts) (past : List (AuthState × AuthEvent)) : Prop :=
  ∀ before token, (before, AuthEvent.refresh token) ∈ past → Unforged jwts before token

/-- The tokens of a step have a session when those before it had. -/
theorem step_sessions {past : List (AuthState × AuthEvent)} (hsound : Sound config state)
    (hsessions : ∀ claims ∈ state.issued, Session jwts encoder past claims) {event : AuthEvent}
    {next : AuthState} (hsigned : Signed jwts (past ++ [(state, event)]))
    (hstep : state.step jwts encoder config event = some next) :
    ∀ claims ∈ next.issued, Session jwts encoder (past ++ [(state, event)]) claims := by
  have hlast : (state, event) ∈ past ++ [(state, event)] := by simp
  have hold : ∀ claims ∈ state.issued, Session jwts encoder (past ++ [(state, event)]) claims :=
    fun claims hclaims => (hsessions claims hclaims).grow _
  intro claims hclaims
  cases step_cases hstep with
  | save pending name hpending hname hfresh =>
      rcases mem_issue hclaims with hmem | hnew
      · exact hold claims hmem
      · refine .password _ hlast (.signup state _ pending hpending ?_ ?_ ?_)
        · rw [hname, hnew]
          rfl
        · rw [hnew]
          rfl
        · rw [hnew]
          rfl
  | login account hlogin =>
      rcases mem_issue hclaims with hmem | hnew
      · exact hold claims hmem
      · obtain ⟨haccount, rfl, password, rfl, hmatch⟩ := login_ok hlogin
        have hname : account.username = claims.subject := by rw [hnew]; rfl
        rw [hname] at hlast ⊢
        refine .password _ hlast (.login state password account haccount ?_ hname hmatch ?_)
        · rw [hnew]
          rfl
        · rw [hnew]
          rfl
  | @refresh token account hrefresh =>
      rcases mem_issue hclaims with hmem | hnew
      · exact hold claims hmem
      · obtain ⟨-, parsed, hparsed, -, -⟩ := refresh_ok hrefresh
        obtain ⟨old, hmem, rfl⟩ := hsigned state token hlast parsed hparsed
        obtain ⟨-, owner, howner, hbuilt⟩ := hsound.issued old hmem
        have hsubject : old.subject = owner.username := by rw [hbuilt]; rfl
        rw [refresh_issued jwts hsound howner hsubject] at hrefresh
        split at hrefresh
        next hlive =>
          split at hrefresh
          next hkind =>
            cases hrefresh
            refine .renewed state hlast (hold old hmem) hkind ?_ ?_ ?_ hlive
            · rw [hnew, hbuilt]
              rfl
            · rw [hnew, hsubject]
              rfl
            · rw [hnew]
              rfl
          next => cases hrefresh
        next => cases hrefresh
  | signup | saveFailed | unchanged | advance => exact hold claims hclaims

theorem issued_sessions {past : List (AuthState × AuthEvent)}
    (hreach : (system jwts encoder config).ReachableBy past state) (hsigned : Signed jwts past) :
    ∀ claims ∈ state.issued, Session jwts encoder past claims := by
  refine hreach.invariant (fun past state => Signed jwts past →
    ∀ claims ∈ state.issued, Session jwts encoder past claims) ?_ ?_ hsigned
  · rintro start ⟨-, -, hissued⟩ - claims hclaims
    simp [hissued] at hclaims
  · intro past before event next hbefore h hstep hsigned
    refine step_sessions (reachable_sound hbefore.reachable) (h ?_) hsigned hstep
    exact fun other token hentry => hsigned other token (List.mem_append_left _ hentry)

/-- Whoever the filter lets in on a token that is not forged is a user of the table, the only one
of that name, and the session of the token goes back to a password of that user. -/
theorem authenticated_user {past : List (AuthState × AuthEvent)}
    (hreach : (system jwts encoder config).ReachableBy past state) (hsigned : Signed jwts past)
    {request : AuthRequest} {token : String} {principal : Principal}
    (hfilter : jwtAuthFilter jwts.parser (Instant.ofEpochMilli state.now) request =
      .ok (some (token, principal))) (hunforged : Unforged jwts state token) :
    ∃ account ∈ state.accounts, principal = ⟨account.id, some account.username⟩ ∧
      (∀ other ∈ state.accounts, other.username = account.username → other = account) ∧
      ∃ claims ∈ state.issued, token = jwts.compact claims ∧ claims.kind = .access ∧
        claims.userId = account.id ∧ state.now ≤ claims.expiresAt ∧
        Session jwts encoder past claims := by
  have hsound := reachable_sound hreach.reachable
  obtain ⟨hbearer, parsed, hparsed, -, -⟩ := jwtAuthFilter_some hfilter
  obtain ⟨claims, hclaims, rfl⟩ := hunforged parsed hparsed
  obtain ⟨-, account, haccount, hbuilt⟩ := hsound.issued claims hclaims
  have huserId : claims.userId = account.id := by rw [hbuilt]; rfl
  have hsubject : claims.subject = account.username := by rw [hbuilt]; rfl
  rw [jwtAuthFilter_issued hbearer] at hfilter
  split at hfilter
  next hlive =>
    cases hfilter
    refine ⟨account, haccount, by rw [huserId, hsubject], fun other hother hname => ?_, claims,
      hclaims, rfl, hlive.1, huserId, hlive.2, issued_sessions hreach hsigned claims hclaims⟩
    exact List.inj_on_of_nodup_map hsound.usernames hother haccount hname
  next => cases hfilter

/-- The access token that a refresh has given. -/
theorem authenticated_user_renewed :
    ∃ past state, plainSystem.ReachableBy past state ∧ Signed plainJwts past ∧
      ∃ account ∈ state.accounts, account.username = "ada" ∧
        (∀ other ∈ state.accounts, other.username = account.username → other = account) ∧
        ∃ claims ∈ state.issued, claims.issuedAt = 1000000 ∧ claims.kind = .access ∧
          Session plainJwts plainEncoder past claims := by
  let guard : AuthState → AuthEvent → Prop := fun _ _ => True
  have hstart : plainSystem.ReachableBy [] ⟨[], 1, [], [], 0⟩ := .init ⟨rfl, rfl, rfl⟩
  have hrun : ((plainSystem.exec guard ⟨[], 1, [], [], 0⟩
      [.signup (some "ada") (some "password") 3, .save 0, .advance 1000000]).bind fun before =>
        (plainSystem.step before (.refresh (plainCompact firstRefresh))).map fun state =>
          decide (firstRefresh ∈ before.issued ∧ state.now = 1000000 ∧
            renewedAccess ∈ state.issued)) =
      some true := by
    decide +kernel
  obtain ⟨before, hbefore, hrest⟩ := Option.bind_eq_some_iff.mp hrun
  obtain ⟨state, hstate, hcheck⟩ := Option.map_eq_some_iff.mp hrest
  obtain ⟨hold, hnow, hissued⟩ := of_decide_eq_true hcheck
  obtain ⟨steps, hsteps, hreach⟩ := hstart.exec hbefore
  have hsigned : Signed plainJwts (steps ++ [(before, .refresh (plainCompact firstRefresh))]) := by
    intro other token hentry
    rcases List.mem_append.mp hentry with hstep | hlast
    · have hevent := List.mem_map_of_mem (f := Prod.snd) hstep
      rw [hsteps] at hevent
      simp at hevent
    · cases List.mem_singleton.mp hlast
      exact fun _ _ => ⟨firstRefresh, hold, rfl⟩
  let request : AuthRequest :=
    ⟨.me, some ("Bearer " ++ plainCompact renewedAccess), none, none⟩
  have hfilter : jwtAuthFilter plainJwts.parser (Instant.ofEpochMilli state.now) request =
      .ok (some (plainCompact renewedAccess, ⟨1, some "ada"⟩)) := by
    rw [hnow]
    decide +kernel
  obtain ⟨account, haccount, hprincipal, hunique, claims, hclaims, htoken, hkind, -, -, hsession⟩ :=
    authenticated_user (hreach.step hstate) hsigned hfilter fun _ _ => ⟨renewedAccess, hissued, rfl⟩
  refine ⟨_, state, hreach.step hstate, hsigned, account, haccount, ?_, hunique, claims, hclaims,
    ?_, hkind, hsession⟩
  · simpa using (congrArg Principal.username hprincipal).symm
  · have hread : some renewedAccess = some claims := by
      rw [← plainParse_plainCompact, ← plainParse_plainCompact claims, htoken]
      rfl
    cases hread
    rfl

/-! ## How long a session can be -/

/-- The events of a page that only stays open. -/
def Renewal : AuthEvent → Prop
  | .refresh _ | .advance _ => True
  | _ => False

instance : DecidablePred Renewal
  | .refresh _ | .advance _ => isTrue trivial
  | .signup .. | .save _ | .login .. | .logout => isFalse id

/-- One refresh, and a millisecond passes. -/
theorem renew (jwts : Jwts) (encoder : PasswordEncoder) (h : Sound config state)
    (hlifetime : 1000 ≤ config.refreshTokenExpirationMs)
    {claims : TokenClaims} (hclaims : claims ∈ state.issued) (hkind : claims.kind = .refresh)
    (hlive : state.now ≤ claims.expiresAt) :
    ∃ next renewed, (system jwts encoder config).exec (fun _ event => Renewal event) state
        [.refresh (jwts.compact claims), .advance 1] = some next ∧
      next.now = state.now + 1 ∧ renewed ∈ next.issued ∧ renewed.kind = .refresh ∧
      renewed.userId = claims.userId ∧ next.now ≤ renewed.expiresAt := by
  obtain ⟨-, account, haccount, hbuilt⟩ := h.issued claims hclaims
  have huserId : claims.userId = account.id := by rw [hbuilt]; rfl
  have hsubject : claims.subject = account.username := by rw [hbuilt]; rfl
  have hrefresh := refresh_issued jwts h haccount hsubject state.now
  rw [if_pos hlive, if_pos hkind] at hrefresh
  have hstep : state.step jwts encoder config (.refresh (jwts.compact claims)) =
      some (state.issue config account) := by
    unfold step
    simp only [hrefresh]
  refine ⟨{ state.issue config account with now := state.now + 1 },
    JwtService.generateRefreshToken config account state.now, ?_, rfl, ?_, rfl, huserId.symm, ?_⟩
  · simp only [TransitionSystem.exec, Renewal, if_true, system, hstep, Option.bind_some]
    rfl
  · exact List.mem_append_right _ (by simp [JwtService.tokenPair])
  · show state.now + 1 ≤ (state.now + config.refreshTokenExpirationMs) / 1000 * 1000
    omega

/-- As long as a refresh token lives for a second, a session never has to end: refreshes alone carry
a live refresh token of the user past every deadline. -/
theorem renewed_forever (hreach : (system jwts encoder config).Reachable state)
    (hlifetime : 1000 ≤ config.refreshTokenExpirationMs) {claims : TokenClaims}
    (hclaims : claims ∈ state.issued) (hkind : claims.kind = .refresh)
    (hlive : state.now ≤ claims.expiresAt) (deadline : Int) :
    ∃ events later renewed, (system jwts encoder config).exec (fun _ event => Renewal event) state
        events = some later ∧ deadline ≤ later.now ∧ renewed ∈ later.issued ∧
      renewed.kind = .refresh ∧ renewed.userId = claims.userId ∧
      later.now ≤ renewed.expiresAt := by
  obtain ⟨left, hleft⟩ : ∃ left : Nat, deadline ≤ state.now + left :=
    ⟨(deadline - state.now).toNat, by omega⟩
  -- every round takes a millisecond off what is left
  induction left generalizing state claims with
  | zero => exact ⟨[], state, claims, rfl, by lia, hclaims, hkind, rfl, hlive⟩
  | succ left ih =>
      obtain ⟨next, renewed, hexec, hnow, hmem, hrenewed, huserId, hfresh⟩ :=
        renew jwts encoder (reachable_sound hreach) hlifetime hclaims hkind hlive
      have hnext : (system jwts encoder config).Reachable next :=
        (TransitionSystem.Leads.exec hexec).reachable hreach
      obtain ⟨events, later, last, hevents, hdeadline, hlast, hlastKind, hlastUser, hlastLive⟩ :=
        ih hnext hmem hrenewed hfresh (by lia)
      refine ⟨[.refresh (jwts.compact claims), .advance 1] ++ events, later, last, ?_, hdeadline,
        hlast, hlastKind, hlastUser.trans huserId, hlastLive⟩
      rw [TransitionSystem.exec_append, hexec]
      exact hevents

/-- A year on the password of the first day. -/
theorem renewed_forever_year :
    ∃ state events later renewed, plainSystem.Reachable state ∧ state.now = 0 ∧
      plainSystem.exec (fun _ event => Renewal event) state events = some later ∧
      31536000000 ≤ later.now ∧ renewed ∈ later.issued ∧ renewed.kind = .refresh ∧
      renewed.userId = 1 ∧ later.now ≤ renewed.expiresAt := by
  have hstart : plainSystem.Reachable ⟨[], 1, [], [], 0⟩ := .init ⟨rfl, rfl, rfl⟩
  have hrun : ((plainSystem.exec (fun _ _ => True) ⟨[], 1, [], [], 0⟩
      [.signup (some "ada") (some "password") 3, .save 0]).map fun state =>
        decide (firstRefresh ∈ state.issued ∧ state.now = 0)) = some true := by
    decide +kernel
  obtain ⟨state, hstate, hcheck⟩ := Option.map_eq_some_iff.mp hrun
  obtain ⟨hissued, hnow⟩ := of_decide_eq_true hcheck
  have hreach := TransitionSystem.ReachableUnder.exec plainSystem hstart hstate
  obtain ⟨events, later, renewed, hrenewed⟩ :=
    renewed_forever hreach (by decide) hissued rfl (by rw [hnow]; decide) 31536000000
  exact ⟨state, events, later, renewed, hreach, hnow, hrenewed⟩

end AuthState

end CollabEditor.Backend
