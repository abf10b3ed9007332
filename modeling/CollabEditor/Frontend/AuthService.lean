import CollabEditor.Foundation.TransitionSystem
import Mathlib.Tactic.Common

/-! # Tokens, the current user and logging out

The service sends a request for each call and writes its two signals when the answer
arrives. Answers arrive in any order, before or after a `clear`.
-/

namespace CollabEditor.Frontend

open Foundation

structure MeResponse where
  id : Int
  username : String
deriving DecidableEq, Repr

/-- What subscribes to a `refresh` or a `loadMe`. -/
inductive AuthCaller
  /-- A component, or `login` and `signup` for their `loadMe`. -/
  | direct
  | tryRestoreSession
  /-- The refresh branch of `jwtInterceptor`. -/
  | interceptor
deriving DecidableEq, Repr

inductive AuthCall
  | login
  | signup
  | refresh (caller : AuthCaller)
  | me (caller : AuthCaller)
  | logout
deriving DecidableEq, Repr

/-- A request that has not been answered. -/
structure AuthExchange where
  request : AuthCall
  /-- How often `clear` had run when the request was sent, a record. -/
  epoch : Nat
deriving DecidableEq, Repr

structure AuthService where
  accessToken : Option String
  me : Option MeResponse
  exchanges : List AuthExchange
  /-- How often the user has been sent to `/login`. -/
  redirects : Nat
  /-- How often `clear` has run, a record. -/
  clears : Nat
  /-- A login, signup or refresh that was started after the last `clear` has succeeded, a
  record. -/
  authenticated : Bool
deriving DecidableEq, Repr

namespace AuthService

variable (state : AuthService)

def issue (request : AuthCall) : AuthService :=
  { state with exchanges := state.exchanges ++ [{ request := request, epoch := state.clears }] }

def login : AuthService := state.issue .login

def signup : AuthService := state.issue .signup

def refresh (caller : AuthCaller) : AuthService := state.issue (.refresh caller)

def loadMe (caller : AuthCaller) : AuthService := state.issue (.me caller)

def clear : AuthService :=
  { state with
    accessToken := none
    me := none
    clears := state.clears + 1
    authenticated := false }

def logout : AuthService := state.issue .logout

def tryRestoreSession : AuthService := state.refresh .tryRestoreSession

/-- `accessToken.set(res.accessToken)` -/
def setAccessToken (exchange : AuthExchange) (accessToken : String) : AuthService :=
  { state with
    accessToken := some accessToken
    authenticated := state.authenticated || exchange.epoch == state.clears }

/-- The `catchError` of whoever subscribed. -/
def failed : AuthCaller → AuthService
  | .direct => state
  | .tryRestoreSession => { state.logout with redirects := state.redirects + 1 }
  | .interceptor => { state.clear with redirects := state.redirects + 1 }

inductive AuthAnswer
  /-- `AuthResponse` -/
  | token (accessToken : String)
  | me (me : MeResponse)
  /-- The answer to a logout has no body that matters. -/
  | done
  | error
deriving DecidableEq, Repr

/-- What the pipes do with an answer of the right kind. -/
def receive (exchange : AuthExchange) : AuthAnswer → Option AuthService
  | .token accessToken =>
      let granted := state.setAccessToken exchange accessToken
      match exchange.request with
      | .login | .signup => some (granted.loadMe .direct)
      | .refresh .direct => some granted
      | .refresh caller => some (granted.loadMe caller)
      | .me _ | .logout => none
  | .me me =>
      match exchange.request with
      | .me _ => some { state with me := some me }
      | _ => none
  | .done =>
      match exchange.request with
      | .logout => some state.clear
      | _ => none
  | .error =>
      match exchange.request with
      | .login | .signup => some state
      | .refresh caller => some (state.failed caller)
      | .me caller => some (failed { state with me := none } caller)
      -- the client-side state is cleared all the same
      | .logout => some state.clear

/-- The calls of the service, and the answers by the index of their request. -/
inductive Event
  | login
  | signup
  | refresh
  | loadMe
  | logout
  | clear
  | tryRestoreSession
  /-- A request was answered with 401. -/
  | unauthorized
  | answer (index : Nat) (answer : AuthAnswer)
deriving DecidableEq, Repr

def step : Event → Option AuthService
  | .login => some state.login
  | .signup => some state.signup
  | .refresh => some (state.refresh .direct)
  | .loadMe => some (state.loadMe .direct)
  | .logout => some state.logout
  | .clear => some state.clear
  | .tryRestoreSession => some state.tryRestoreSession
  | .unauthorized => some (state.refresh .interceptor)
  | .answer index answer => do
      let exchange ← state.exchanges[index]?
      receive { state with exchanges := state.exchanges.eraseIdx index } exchange answer

/-- The service as it is injected. -/
def start : AuthService where
  accessToken := none
  me := none
  exchanges := []
  redirects := 0
  clears := 0
  authenticated := false

def system : TransitionSystem AuthService Event where
  init state := state = start
  step := step

/-- A `clear` has run, and nobody has logged in since. -/
def LoggedOut : Prop := 0 < state.clears ∧ state.authenticated = false

instance : Decidable state.LoggedOut := inferInstanceAs (Decidable (_ ∧ _))

/-- While logged out there is neither a token nor a user. -/
def LogoutFinal : Prop := state.LoggedOut → state.accessToken = none ∧ state.me = none

/-- While logged out no token arrives for a call that was started before the `clear`, and
no profile at all. -/
def NothingLate : Event → Prop
  | .answer index (.token _) => state.LoggedOut →
      ∀ exchange ∈ state.exchanges[index]?, exchange.epoch = state.clears
  | .answer _ (.me _) => ¬state.LoggedOut
  | _ => True

instance : (event : Event) → Decidable (state.NothingLate event)
  | .answer index (.token _) => inferInstanceAs (Decidable (state.LoggedOut →
      ∀ exchange ∈ state.exchanges[index]?, exchange.epoch = state.clears))
  | .answer _ (.me _) => inferInstanceAs (Decidable (¬state.LoggedOut))
  | .answer _ .done | .answer _ .error | .login | .signup | .refresh | .loadMe | .logout
  | .clear | .tryRestoreSession | .unauthorized => .isTrue trivial

/-! ## What the answers do -/

variable {state} {next : AuthService} {exchange : AuthExchange}

/-- A token is set, and it counts for the session if its call is younger than the `clear`. -/
theorem receive_token {accessToken : String}
    (hreceive : state.receive exchange (.token accessToken) = some next) :
    next.accessToken = some accessToken ∧ next.clears = state.clears ∧
      next.authenticated = (state.authenticated || exchange.epoch == state.clears) := by
  simp only [receive] at hreceive
  split at hreceive
  next =>
    cases hreceive
    exact ⟨rfl, rfl, rfl⟩
  next =>
    cases hreceive
    exact ⟨rfl, rfl, rfl⟩
  next =>
    cases hreceive
    exact ⟨rfl, rfl, rfl⟩
  next =>
    cases hreceive
    exact ⟨rfl, rfl, rfl⟩
  next => cases hreceive
  next => cases hreceive

theorem receive_me {me : MeResponse}
    (hreceive : state.receive exchange (.me me) = some next) :
    next = { state with me := some me } := by
  simp only [receive] at hreceive
  split at hreceive
  next =>
    cases hreceive
    rfl
  next => cases hreceive

/-- A `clear` leaves neither token nor user. -/
theorem clear_final (state : AuthService) : state.clear.LogoutFinal :=
  fun _ => ⟨rfl, rfl⟩

namespace LogoutFinal

theorem issue (hfinal : state.LogoutFinal) (request : AuthCall) :
    (state.issue request).LogoutFinal :=
  hfinal

theorem forget (hfinal : state.LogoutFinal) : LogoutFinal { state with me := none } :=
  fun hout => ⟨(hfinal hout).1, rfl⟩

theorem failed (hfinal : state.LogoutFinal) (caller : AuthCaller) :
    (state.failed caller).LogoutFinal := by
  cases caller with
  | direct | tryRestoreSession => exact hfinal
  | interceptor => exact state.clear_final

/-- Neither a failed request nor the answer to a logout brings anything back. -/
theorem receive_error (hfinal : state.LogoutFinal)
    (hreceive : state.receive exchange .error = some next) : next.LogoutFinal := by
  simp only [receive] at hreceive
  split at hreceive
  next =>
    cases hreceive
    exact hfinal
  next =>
    cases hreceive
    exact hfinal
  next caller _ =>
    cases hreceive
    exact hfinal.failed caller
  next caller _ =>
    cases hreceive
    exact hfinal.forget.failed caller
  next =>
    cases hreceive
    exact state.clear_final

theorem receive_done (hreceive : state.receive exchange .done = some next) :
    next.LogoutFinal := by
  simp only [receive] at hreceive
  split at hreceive
  next =>
    cases hreceive
    exact state.clear_final
  next => cases hreceive

/-- A step keeps the logout final exactly if nothing late arrives. -/
theorem step_iff (hfinal : state.LogoutFinal) {event : Event}
    (hstep : state.step event = some next) : next.LogoutFinal ↔ state.NothingLate event := by
  cases event with
  | login | signup | refresh | loadMe | logout | tryRestoreSession | unauthorized =>
      cases hstep
      exact iff_of_true (hfinal.issue _) trivial
  | clear =>
      cases hstep
      exact iff_of_true state.clear_final trivial
  | answer index answer =>
      obtain ⟨exchange, hexchange, hreceive⟩ := Option.bind_eq_some_iff.mp hstep
      cases answer with
      | token accessToken =>
          obtain ⟨htoken, hclears, hauthenticated⟩ := receive_token hreceive
          dsimp only at hclears hauthenticated
          constructor
          · rintro hnext ⟨hcleared, hnobody⟩ found hfound
            cases hexchange.symm.trans hfound
            by_contra hold
            -- an older call leaves the user logged out, with its token set
            have hout : next.LoggedOut := by
              refine ⟨hclears ▸ hcleared, ?_⟩
              rw [hauthenticated, hnobody, Bool.false_or]
              exact beq_eq_false_iff_ne.mpr hold
            cases htoken.symm.trans (hnext hout).1
          · rintro hnothing ⟨hcleared, hnobody⟩
            rw [hclears] at hcleared
            obtain ⟨hbefore, hyoung⟩ := Bool.or_eq_false_iff.mp (hauthenticated.symm.trans hnobody)
            exact absurd (hnothing ⟨hcleared, hbefore⟩ exchange hexchange)
              (beq_eq_false_iff_ne.mp hyoung)
      | me me =>
          cases receive_me hreceive
          constructor
          · intro hnext hout
            cases (hnext hout).2
          · exact fun hnothing hout => absurd hout hnothing
      | done => exact iff_of_true (receive_done hreceive) trivial
      | error =>
          have hwithout : LogoutFinal { state with exchanges := state.exchanges.eraseIdx index } :=
            hfinal
          exact iff_of_true (hwithout.receive_error hreceive) trivial

end LogoutFinal

/-- In every run in which nothing late arrives, a logout is final; and from there a step keeps
it so exactly if nothing late arrives in it. -/
theorem logout_is_final (hreach : system.ReachableUnder NothingLate state) :
    state.LogoutFinal ∧ ∀ event next, state.step event = some next →
      (next.LogoutFinal ↔ state.NothingLate event) := by
  have hfinal : state.LogoutFinal := by
    refine hreach.invariant system LogoutFinal ?_ ?_
    · rintro state rfl ⟨hcleared, -⟩
      exact absurd hcleared (Nat.lt_irrefl 0)
    · intro state event next _ hfinal hguard hstep
      exact (hfinal.step_iff hstep).mpr hguard
  exact ⟨hfinal, fun event next hstep => hfinal.step_iff hstep⟩

/-- A user logs in and out again while nothing is under way. -/
theorem logout_is_final_quiet : ∃ state, system.ReachableUnder NothingLate state ∧
    state.LoggedOut ∧ state.LogoutFinal ∧ ∀ event next, state.step event = some next →
      (next.LogoutFinal ↔ state.NothingLate event) := by
  obtain ⟨state, hreach, hcheck⟩ := system.exists_reachable_of_exec
    (.init rfl : system.ReachableUnder NothingLate start)
    [.login, .answer 0 (.token "token"), .answer 0 (.me ⟨1, "user"⟩), .logout, .answer 0 .done]
    (fun state => state.LoggedOut) (by decide +kernel)
  exact ⟨state, hreach, of_decide_eq_true hcheck, logout_is_final hreach⟩

/-- A refresh that was under way at the logout sets its token afterwards. -/
theorem late_refresh_logs_in : ¬ ∀ state, system.Reachable state → state.LogoutFinal := by
  intro hall
  obtain ⟨state, hreach, hcheck⟩ := system.exists_reachable_of_exec
    (.init rfl : system.Reachable start)
    [.refresh, .logout, .answer 1 .done, .answer 0 (.token "token")]
    (fun state => state.LoggedOut ∧ state.accessToken = some "token") (by decide +kernel)
  obtain ⟨hout, htoken⟩ := of_decide_eq_true hcheck
  cases htoken.symm.trans (hall state hreach hout).1

end AuthService

end CollabEditor.Frontend
