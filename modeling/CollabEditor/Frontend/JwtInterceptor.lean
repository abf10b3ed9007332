import CollabEditor.Foundation.TransitionSystem

/-! # Requests, refreshes and the queue of the interceptor

Every request of the application passes through `jwtInterceptor`, those that its own
refresh path issues among them. The server answers outstanding exchanges in any order, and
a component that is destroyed unsubscribes from what it has asked for.
-/

namespace CollabEditor.Frontend

open Foundation

/-- An access token. -/
structure Token where
  text : String
  /-- The login session whose credentials it was obtained with, a record. -/
  session : Nat
deriving DecidableEq, Repr

/-- `authReq`. -/
structure AuthRequest where
  pathname : String
  authorization : Option Token
  /-- The login session the request was issued in, a record. -/
  session : Nat
deriving DecidableEq, Repr

def isAuthEndpoint (pathname : String) : Bool :=
  "/auth/signup".toList.isPrefixOf pathname.toList ||
    "/auth/login".toList.isPrefixOf pathname.toList ||
    "/auth/refresh".toList.isPrefixOf pathname.toList

/-- The request with the header of a retry. An empty token leaves the headers alone. -/
def AuthRequest.withToken (request : AuthRequest) (token : Token) : AuthRequest :=
  if token.text = "" then request else { request with authorization := some token }

/-- An intercepted request with what its caller does when it completes. -/
inductive Call
  /-- Nothing that concerns the interceptor. -/
  | app (request : AuthRequest)
  | logout (request : AuthRequest)
  /-- `loadMe` in `tryRestoreSession`. -/
  | restoreMe (request : AuthRequest)
  /-- `loadMe` in the refresh path, for the request that triggered the refresh. -/
  | loadMe (request : AuthRequest) (newToken : Token) (original : Call)
deriving DecidableEq, Repr

def Call.request : Call → AuthRequest
  | .app request | .logout request | .restoreMe request | .loadMe request _ _ => request

/-- The call belongs to a refresh. -/
def Call.isLoadMe : Call → Bool
  | .loadMe _ _ _ => true
  | _ => false

/-- A request at the network. -/
inductive Exchange
  /-- `next(authReq)` -/
  | first (call : Call)
  /-- `auth.refresh()` for a request answered with 401 in the given session. -/
  | refresh (session : Nat) (original : Call)
  /-- The request that triggered a refresh is retried. -/
  | retry (original : Call)
  /-- A request that waited for a refresh is retried. -/
  | resend (call : Call)
  | login
  /-- `refresh` in `tryRestoreSession`. -/
  | restore (session : Nat)
deriving DecidableEq, Repr

/-- The server's answer. The access token is that of an `AuthResponse`. -/
inductive Answer
  | ok (accessToken : String)
  | error (status : Nat)
deriving DecidableEq, Repr

/-- The state that all calls of the interceptor share, with the network. -/
structure Interceptor where
  accessToken : Option Token
  refreshing : Bool
  refreshSubject : Option Token
  /-- The subscribers of `refreshSubject`. -/
  waiters : List Call
  exchanges : List Exchange
  /-- The number of logins so far, a record. -/
  session : Nat
  /-- The session in which the last refresh attempt began, a record. -/
  attempt : Nat
  /-- What has been sent through `next`, a record. -/
  sent : List AuthRequest
deriving DecidableEq, Repr

namespace Interceptor

variable (state : Interceptor)

/-- `authReq` of a request issued now. -/
def authReq (pathname : String) : AuthRequest where
  pathname := pathname
  authorization := state.accessToken.filter fun token =>
    token.text ≠ "" && !isAuthEndpoint pathname
  session := state.session

/-- The request passes through the interceptor for the first time. -/
def issue (call : AuthRequest → Call) (pathname : String) : Interceptor :=
  { state with
    exchanges := state.exchanges ++ [.first (call (state.authReq pathname))]
    sent := state.sent ++ [state.authReq pathname] }

/-- `next(cloned)` -/
def sendAgain (exchange : Call → Exchange) (call : Call) (token : Token) : Interceptor :=
  { state with
    exchanges := state.exchanges ++ [exchange call]
    sent := state.sent ++ [call.request.withToken token] }

/-- `refreshing = false; refreshSubject.next(newToken)` -/
def release (newToken : Token) : Interceptor :=
  { state with
    refreshing := false
    refreshSubject := some newToken
    waiters := []
    exchanges := state.exchanges ++ state.waiters.map .resend
    sent := state.sent ++ state.waiters.map fun call => call.request.withToken newToken }

/-- `AuthService.clear` -/
def clear : Interceptor := { state with accessToken := none }

/-- `AuthService.logout` -/
def logout : Interceptor := state.issue .logout "/auth/logout"

/-- The `catchError` of the refresh path. The subscribers filter the null out. -/
def refreshFailed : Interceptor :=
  { state with refreshing := false, refreshSubject := none }.clear

/-- A call completes, successfully or not. -/
def complete : Call → Bool → Interceptor → Interceptor
  | .app _, _, state => state
  | .logout _, _, state => state.clear
  | .restoreMe _, true, state => state
  | .restoreMe _, false, state => state.logout
  -- the waiters are sent again before the request that triggered the refresh
  | .loadMe _ newToken original, true, state =>
      (state.release newToken).sendAgain .retry original newToken
  | .loadMe _ _ original, false, state => complete original false state.refreshFailed

/-- The 401 branch of the interceptor. -/
def unauthorized (call : Call) : Interceptor :=
  if state.refreshing then
    -- `filter(t => t !== null), take(1)`: a value there is taken at once
    match state.refreshSubject with
    | some token => state.sendAgain .resend call token
    | none => { state with waiters := state.waiters ++ [call] }
  else
    { state with
      refreshing := true
      refreshSubject := none
      attempt := state.session
      exchanges := state.exchanges ++ [.refresh state.session call] }

/-- An exchange succeeds. -/
def succeed : Exchange → String → Interceptor
  | .first call, _ => complete call true state
  | .refresh session original, text =>
      { state with accessToken := some ⟨text, session⟩ }.issue
        (fun request => .loadMe request ⟨text, session⟩ original) "/auth/me"
  | .retry original, _ => complete original true state
  | .resend call, _ => complete call true state
  | .login, text =>
      { state with
        session := state.session + 1
        accessToken := some ⟨text, state.session + 1⟩ }.issue .app "/auth/me"
  | .restore session, text =>
      { state with accessToken := some ⟨text, session⟩ }.issue .restoreMe "/auth/me"

/-- An exchange fails. -/
def fail : Exchange → Nat → Interceptor
  | .first call, status =>
      if status = 401 ∧ isAuthEndpoint call.request.pathname = false then state.unauthorized call
      else complete call false state
  | .refresh _ original, _ => complete original false state.refreshFailed
  -- the retry is inside the pipe of the refresh, so its error is taken for a failed refresh
  | .retry original, _ => complete original false state.refreshFailed
  | .resend call, _ => complete call false state
  | .login, _ => state
  | .restore _, _ => state.logout

/-- The exchange is no longer at the network. -/
def answered (index : Nat) : Interceptor :=
  { state with exchanges := state.exchanges.eraseIdx index }

/-- Exchanges are named by their index. -/
inductive Event
  /-- The application issues a request. -/
  | request (pathname : String)
  /-- A user logs in or signs up. -/
  | login
  | logout
  /-- `tryRestoreSession` -/
  | restore
  | answer (index : Nat) (answer : Answer)
  /-- The subscriber of an exchange goes, and with it the pipe that the exchange is part of:
  neither `switchMap` nor `catchError` runs. -/
  | cancel (index : Nat)
  /-- The subscriber of a waiting request goes. -/
  | cancelWaiting (index : Nat)
deriving DecidableEq, Repr

def step : Event → Option Interceptor
  | .request pathname => some (state.issue .app pathname)
  | .login => some { state with exchanges := state.exchanges ++ [.login] }
  | .logout => some state.logout
  | .restore => some { state with exchanges := state.exchanges ++ [.restore state.session] }
  | .answer index answer => do
      let exchange ← state.exchanges[index]?
      match answer with
      | .ok text => some ((state.answered index).succeed exchange text)
      | .error status => some ((state.answered index).fail exchange status)
  | .cancel index => (state.exchanges[index]?).map fun _ => state.answered index
  | .cancelWaiting index => some { state with waiters := state.waiters.eraseIdx index }

/-- The application has been loaded. -/
def start : Interceptor where
  accessToken := none
  refreshing := false
  refreshSubject := none
  waiters := []
  exchanges := []
  session := 0
  attempt := 0
  sent := []

def system : TransitionSystem Interceptor Event where
  init state := state = start
  step := step

end Interceptor

end CollabEditor.Frontend
