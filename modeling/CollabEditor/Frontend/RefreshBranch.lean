import CollabEditor.Foundation.Observable
import CollabEditor.Frontend.JwtInterceptor

/-! # One request in the interceptor

The pipe of `jwtInterceptor` for one request, operator by operator. Whenever it waits, other
calls may change what they share with it; an arrival brings what they have done by then.
-/

namespace CollabEditor.Frontend

open Foundation

structure HttpRequest where
  pathname : String
  authorization : Option String
deriving DecidableEq, Repr

/-- What the calls of the interceptor share: the signals of the auth service, the route and
the variables beside the interceptor. -/
structure AuthShared (Body : Type) where
  accessToken : Option String
  me : Option Body
  url : String
  refreshing : Bool
  refreshSubject : Option String

/-- What a call asks of the services. -/
inductive InterceptorEffect
  | next (request : HttpRequest)
  | clear
  | navigate (url : String)
deriving DecidableEq, Repr

/-- The shared state, with what this call has done so far, a record. -/
structure Interception (Body : Type) where
  shared : AuthShared Body
  effects : List InterceptorEffect

/-- What the others have done meanwhile, and the response; an error is its status. -/
structure Arrival (Body : Type) where
  meanwhile : AuthShared Body → AuthShared Body
  response : Except Nat Body

namespace Interception

variable {Body : Type}

abbrev Pipe (Body α : Type) : Type :=
  Observable (Interception Body) (Arrival Body) Nat α

def setShared (f : AuthShared Body → AuthShared Body) (state : Interception Body) :
    Interception Body :=
  { state with shared := f state.shared }

def log (effect : InterceptorEffect) (state : Interception Body) : Interception Body :=
  { state with effects := state.effects ++ [effect] }

/-- `next(request)` -/
def next (request : HttpRequest) : Pipe Body Body :=
  .after (log (.next request)) <|
    .receive fun arrival state => (arrival.response, state.setShared arrival.meanwhile)

/-- A header is set for a token that is not empty. -/
def withToken (request : HttpRequest) (token : Option String) : HttpRequest :=
  { request with authorization := (token.filter (· ≠ "")).or request.authorization }

/-- `AuthService.refresh` -/
def refresh (accessToken : Body → String) : Pipe Body Body :=
  ((next { pathname := "/auth/refresh", authorization := none }).tap fun res =>
    setShared fun shared => { shared with accessToken := some (accessToken res) }).catchError .fail

/-- `AuthService.loadMe` -/
def loadMe : Pipe Body Body :=
  .defer fun state =>
    ((next (withToken { pathname := "/auth/me", authorization := none }
      state.shared.accessToken)).tap fun me =>
        setShared fun shared => { shared with me := some me }).catchError fun err =>
      .after (setShared fun shared => { shared with me := none }) (.fail err)

/-- `auth.clear(); router.navigate(['/login'])` -/
def logOut (state : Interception Body) : Interception Body :=
  ((state.setShared fun shared =>
    { shared with accessToken := none, me := none, url := "/login" }).log .clear).log
      (.navigate "/login")

/-- The arrivals until the subject has a value. -/
def waitForToken (state : Interception Body) : List (Arrival Body) →
    Option (Except Nat String × Interception Body × List (Arrival Body))
  | [] => none
  | arrival :: rest =>
      let next := state.setShared arrival.meanwhile
      match next.shared.refreshSubject with
      | some token => some (.ok token, next, rest)
      | none => waitForToken next rest

/-- `filter(t => t !== null), take(1)`: a value that is there is taken at once. -/
def awaitToken : Pipe Body String := fun state arrivals =>
  match state.shared.refreshSubject with
  | some token => some (.ok token, state, arrivals)
  | none => waitForToken state arrivals

/-- What the refresh switches to: the profile, the release of the waiting requests and the
retry. -/
def afterRefresh (authReq : HttpRequest) : Pipe Body Body :=
  .defer fun state =>
    let newToken := state.shared.accessToken
    loadMe.switchMap fun _ =>
      .after (setShared fun shared =>
        { shared with refreshing := false, refreshSubject := newToken }) <|
          next (withToken authReq newToken)

/-- The branch of the first request that is answered with 401. -/
def refreshBranch (accessToken : Body → String) (authReq : HttpRequest) : Pipe Body Body :=
  .after (setShared fun shared => { shared with refreshing := true, refreshSubject := none }) <|
    ((refresh accessToken).switchMap fun _ => afterRefresh authReq).catchError fun err =>
      .after (fun state => (state.setShared fun shared =>
        { shared with refreshing := false, refreshSubject := none }).logOut) (.fail err)

def jwtInterceptor (accessToken : Body → String) (req : HttpRequest) : Pipe Body Body :=
  .defer fun state =>
    let authReq :=
      if isAuthEndpoint req.pathname then req else withToken req state.shared.accessToken
    (next authReq).catchError fun err =>
      if err = 401 ∧ isAuthEndpoint req.pathname = false then
        .defer fun state =>
          if state.shared.refreshing then
            awaitToken.switchMap fun token => next (withToken authReq (some token))
          else refreshBranch accessToken authReq
      else .fail err

/-! ## When the user is logged out -/

variable (accessToken : Body → String) (req : HttpRequest) (shared : AuthShared Body)

/-- The run of the pipe for a request. -/
def run (arrivals : List (Arrival Body)) :
    Option (Except Nat Body × Interception Body × List (Arrival Body)) :=
  jwtInterceptor accessToken req { shared := shared, effects := [] } arrivals

/-- The first response starts a refresh attempt. -/
def StartsRefresh (first : Arrival Body) : Prop :=
  first.response = .error 401 ∧ isAuthEndpoint req.pathname = false ∧
    (first.meanwhile shared).refreshing = false

/-- A refresh attempt fails in its `/auth/refresh` or its `/auth/me` call. -/
def AttemptFails (arrivals : List (Arrival Body)) : Prop :=
  ∃ first refreshed rest, arrivals = first :: refreshed :: rest ∧ StartsRefresh req shared first ∧
    ((∃ status, refreshed.response = .error status) ∨
      ∃ profile rest' status, rest = profile :: rest' ∧ profile.response = .error status)

/-- Both calls succeed, and the retried request fails with `status`. -/
structure RetryFails (arrivals : List (Arrival Body)) (first refreshed profile retried : Arrival Body)
    (rest : List (Arrival Body)) (res me : Body) (status : Nat) : Prop where
  arrivals : arrivals = first :: refreshed :: profile :: retried :: rest
  starts : StartsRefresh req shared first
  refreshed : refreshed.response = .ok res
  profile : profile.response = .ok me
  retried : retried.response = .error status

/-- What is shared when the response to the retry arrives. -/
def atRetry (first refreshed profile retried : Arrival Body) (res me : Body) : AuthShared Body :=
  let started := { first.meanwhile shared with refreshing := true, refreshSubject := none }
  let granted := { refreshed.meanwhile started with accessToken := some (accessToken res) }
  let loaded := { profile.meanwhile granted with
    me := some me
    refreshing := false
    refreshSubject := some (accessToken res) }
  retried.meanwhile loaded

/-- The user is logged out for a failed refresh attempt alone. A retry that fails passes its
error on and leaves token, user and route as they are. -/
structure LogsOutRightly (arrivals : List (Arrival Body)) : Prop where
  blame : ∀ outcome final rest, run accessToken req shared arrivals = some (outcome, final, rest) →
    (.clear ∈ final.effects ∨ ∃ url, .navigate url ∈ final.effects) →
      AttemptFails req shared arrivals
  retry : ∀ first refreshed profile retried rest res me status,
    RetryFails req shared arrivals first refreshed profile retried rest res me status →
      ∃ final, run accessToken req shared arrivals = some (.error status, final, rest) ∧
        final.shared.accessToken =
          (atRetry accessToken shared first refreshed profile retried res me).accessToken ∧
        final.shared.me = (atRetry accessToken shared first refreshed profile retried res me).me ∧
        final.shared.url = (atRetry accessToken shared first refreshed profile retried res me).url

/-! ## The run, response by response -/

variable {accessToken req shared} {state : Interception Body} {first : Arrival Body}
  {rest : List (Arrival Body)}

/-- Nothing has been asked of the services but requests. -/
def Quiet (state : Interception Body) : Prop :=
  ∀ effect ∈ state.effects, ∃ request, effect = .next request

theorem Quiet.not_loggedOut (hquiet : state.Quiet) :
    ¬(.clear ∈ state.effects ∨ ∃ url, .navigate url ∈ state.effects) := by
  rintro (hclear | ⟨url, hnavigate⟩)
  · obtain ⟨request, hrequest⟩ := hquiet _ hclear
    cases hrequest
  · obtain ⟨request, hrequest⟩ := hquiet _ hnavigate
    cases hrequest

theorem Quiet.sent (hquiet : state.Quiet) (request : HttpRequest)
    (f : AuthShared Body → AuthShared Body) :
    ((state.log (.next request)).setShared f).Quiet := by
  intro effect heffect
  rcases List.mem_append.mp heffect with hold | hnew
  · exact hquiet effect hold
  · exact ⟨request, List.mem_singleton.mp hnew⟩

theorem Quiet.setShared (hquiet : state.Quiet) (f : AuthShared Body → AuthShared Body) :
    (state.setShared f).Quiet := hquiet

theorem next_cons (request : HttpRequest) : next request state (first :: rest) =
    some (first.response, (state.log (.next request)).setShared first.meanwhile, rest) := rfl

theorem next_of_response (request : HttpRequest) {outcome : Except Nat Body}
    (hfirst : first.response = outcome) : next request state (first :: rest) =
      some (outcome, (state.log (.next request)).setShared first.meanwhile, rest) := by
  rw [next_cons, hfirst]

/-- A request ends as its response says, and asks nothing but to be sent. -/
theorem next_quiet (hquiet : state.Quiet) (request : HttpRequest) {arrivals : List (Arrival Body)}
    {outcome : Except Nat Body} {final : Interception Body}
    (hrun : next request state arrivals = some (outcome, final, rest)) : final.Quiet := by
  cases arrivals with
  | nil => cases hrun
  | cons first others =>
      cases hrun
      exact hquiet.sent request first.meanwhile

theorem waitForToken_quiet (hquiet : state.Quiet) {arrivals : List (Arrival Body)}
    {outcome : Except Nat String} {final : Interception Body}
    (hrun : waitForToken state arrivals = some (outcome, final, rest)) :
    final.Quiet ∧ ∃ token, outcome = .ok token := by
  induction arrivals generalizing state with
  | nil => cases hrun
  | cons arrival others ih =>
      simp only [waitForToken] at hrun
      split at hrun
      next token _ =>
        cases hrun
        exact ⟨hquiet.setShared _, token, rfl⟩
      next => exact ih (hquiet.setShared _) hrun

/-- Waiting for the refresh of another request and retrying logs nobody out. -/
theorem waiting_quiet (hquiet : state.Quiet) (authReq : HttpRequest)
    {arrivals : List (Arrival Body)} {outcome : Except Nat Body} {final : Interception Body}
    (hrun : (awaitToken.switchMap fun token => next (withToken authReq (some token))) state
      arrivals = some (outcome, final, rest)) : final.Quiet := by
  have hend : ∀ {middle : Interception Body} {token : String} {others : List (Arrival Body)},
      awaitToken state arrivals = some (.ok token, middle, others) → middle.Quiet →
        final.Quiet := by
    intro middle token others htoken hmiddle
    rw [Observable.switchMap_of_ok _ htoken] at hrun
    exact next_quiet hmiddle _ hrun
  cases hawait : awaitToken state arrivals with
  | none =>
      rw [Observable.switchMap_of_none _ hawait] at hrun
      cases hrun
  | some result =>
      obtain ⟨ended, middle, others⟩ := result
      have hwaited : middle.Quiet ∧ ∃ token, ended = .ok token := by
        unfold awaitToken at hawait
        split at hawait
        next token _ =>
          cases hawait
          exact ⟨hquiet, token, rfl⟩
        next => exact waitForToken_quiet hquiet hawait
      obtain ⟨hmiddle, token, rfl⟩ := hwaited
      exact hend hawait hmiddle

/-! ## The refresh branch -/

/-- The state in which the refresh has been answered. -/
def refreshAnswered (state : Interception Body) (first : Arrival Body) : Interception Body :=
  (state.log (.next { pathname := "/auth/refresh", authorization := none })).setShared
    first.meanwhile

theorem refresh_of_ok {res : Body} (hfirst : first.response = .ok res) :
    refresh accessToken state (first :: rest) =
      some (.ok res, (refreshAnswered state first).setShared fun shared =>
        { shared with accessToken := some (accessToken res) }, rest) := by
  simp only [refresh, Observable.catchError, Observable.tap, next_cons, hfirst]
  rfl

/-- The state in which the profile has been answered. -/
def profileAnswered (state : Interception Body) (first : Arrival Body) : Interception Body :=
  (state.log (.next (withToken { pathname := "/auth/me", authorization := none }
    state.shared.accessToken))).setShared first.meanwhile

theorem loadMe_of_ok {me : Body} (hfirst : first.response = .ok me) :
    loadMe state (first :: rest) = some (.ok me,
      (profileAnswered state first).setShared fun shared => { shared with me := some me },
      rest) := by
  simp only [loadMe, Observable.defer, Observable.catchError, Observable.tap, next_cons, hfirst]
  rfl

/-- The handler of the branch. -/
def refreshFailed (state : Interception Body) : Interception Body :=
  (state.setShared fun shared =>
    { shared with refreshing := false, refreshSubject := none }).logOut

theorem refreshFailed_effects (state : Interception Body) :
    .clear ∈ (refreshFailed state).effects := by
  simp [refreshFailed, logOut, log, setShared]

/-- The branch once it has told the others that a refresh is under way. -/
theorem refreshBranch_apply (authReq : HttpRequest) (arrivals : List (Arrival Body)) :
    refreshBranch accessToken authReq state arrivals =
      (((refresh accessToken).switchMap fun _ => afterRefresh authReq).catchError fun err =>
        .after refreshFailed (.fail err))
        (state.setShared fun shared => { shared with refreshing := true, refreshSubject := none })
        arrivals := rfl

/-- With refresh and profile there, the branch ends as the retry does; but its handler also
handles the error of the retry. -/
theorem refreshBranch_retry (accessToken : Body → String) (authReq : HttpRequest)
    (rest : List (Arrival Body)) {refreshed profile : Arrival Body} {res me : Body}
    (hrefreshed : refreshed.response = .ok res) (hprofile : profile.response = .ok me)
    (hquiet : state.Quiet) :
    ∃ before request, before.Quiet ∧
      before.shared = { profile.meanwhile { refreshed.meanwhile
        { state.shared with refreshing := true, refreshSubject := none } with
          accessToken := some (accessToken res) } with
            me := some me
            refreshing := false
            refreshSubject := some (accessToken res) } ∧
      refreshBranch accessToken authReq state (refreshed :: profile :: rest) =
        ((next request).catchError fun err => .after refreshFailed (.fail err)) before rest := by
  rw [refreshBranch_apply, Observable.catchError_switchMap_of_ok _ _ (refresh_of_ok hrefreshed)]
  simp only [afterRefresh, Observable.defer, Observable.catchError,
    Observable.switchMap_of_ok _ (loadMe_of_ok hprofile), Observable.after]
  refine ⟨_, _, ?_, rfl, rfl⟩
  exact ((((hquiet.setShared _).sent _ _).setShared _).sent _ _).setShared _ |>.setShared _

/-- The branch ends without a logout unless the refresh, the profile or the retry fails. -/
theorem refreshBranch_end (hquiet : state.Quiet) {authReq : HttpRequest}
    {arrivals : List (Arrival Body)} {outcome : Except Nat Body} {final : Interception Body}
    (hrun : refreshBranch accessToken authReq state arrivals = some (outcome, final, rest)) :
    final.Quiet ∨
      (∃ refreshed others, arrivals = refreshed :: others ∧
        ((∃ status, refreshed.response = .error status) ∨
          ∃ profile others' status, others = profile :: others' ∧
            profile.response = .error status)) ∨
      ∃ refreshed profile retried others res me status,
        arrivals = refreshed :: profile :: retried :: others ∧
          refreshed.response = .ok res ∧ profile.response = .ok me ∧
          retried.response = .error status := by
  cases arrivals with
  | nil =>
      rw [refreshBranch_apply] at hrun
      cases hrun
  | cons refreshed others =>
      cases hrefreshed : refreshed.response with
      | error status => exact .inr (.inl ⟨refreshed, others, rfl, .inl ⟨status, hrefreshed⟩⟩)
      | ok res =>
          cases others with
          | nil =>
              rw [refreshBranch_apply,
                Observable.catchError_switchMap_of_ok _ _ (refresh_of_ok hrefreshed)] at hrun
              cases hrun
          | cons profile others =>
              cases hprofile : profile.response with
              | error status =>
                  exact .inr (.inl ⟨refreshed, _, rfl,
                    .inr ⟨profile, others, status, rfl, hprofile⟩⟩)
              | ok me =>
                  obtain ⟨before, request, hbefore, -, hbranch⟩ := refreshBranch_retry
                    accessToken authReq others hrefreshed hprofile hquiet
                  rw [hbranch] at hrun
                  cases others with
                  | nil => cases hrun
                  | cons retried others =>
                      cases hretried : retried.response with
                      | error status =>
                          exact .inr (.inr ⟨refreshed, profile, retried, others, res, me, status,
                            rfl, hrefreshed, hprofile, hretried⟩)
                      | ok body =>
                          rw [Observable.catchError_of_ok _
                            (next_of_response request hretried)] at hrun
                          cases hrun
                          exact .inl (hbefore.sent request retried.meanwhile)

/-! ## The whole pipe -/

/-- The request as it is sent first. -/
def authReq (req : HttpRequest) (shared : AuthShared Body) : HttpRequest :=
  if isAuthEndpoint req.pathname then req else withToken req shared.accessToken

/-- The state in which the first response has arrived. -/
def answered (req : HttpRequest) (shared : AuthShared Body) (first : Arrival Body) :
    Interception Body :=
  (log (.next (authReq req shared)) { shared := shared, effects := [] }).setShared first.meanwhile

theorem answered_quiet (req : HttpRequest) (shared : AuthShared Body) (first : Arrival Body) :
    (answered req shared first).Quiet := by
  have hstart : Quiet { shared := shared, effects := [] } := nofun
  exact hstart.sent _ _

theorem run_of_ok {body : Body} (hfirst : first.response = .ok body) :
    run accessToken req shared (first :: rest) =
      some (.ok body, answered req shared first, rest) := by
  simp only [run, jwtInterceptor, Observable.defer, Observable.catchError, next_cons, hfirst]
  rfl

theorem run_of_error {status : Nat} (hfirst : first.response = .error status) :
    run accessToken req shared (first :: rest) =
      if status = 401 ∧ isAuthEndpoint req.pathname = false then
        if (first.meanwhile shared).refreshing then
          (awaitToken.switchMap fun token => next (withToken (authReq req shared) (some token)))
            (answered req shared first) rest
        else refreshBranch accessToken (authReq req shared) (answered req shared first) rest
      else some (.error status, answered req shared first, rest) := by
  simp only [run, jwtInterceptor, Observable.defer_apply, Observable.catchError, next_cons,
    hfirst]
  by_cases hunauthorized : status = 401 ∧ isAuthEndpoint req.pathname = false
  · rw [if_pos hunauthorized, if_pos hunauthorized]
    by_cases hrefreshing : (first.meanwhile shared).refreshing = true
    · rw [if_pos hrefreshing, Observable.defer_apply]
      exact congrFun (congrFun (if_pos hrefreshing) _) _
    · rw [if_neg hrefreshing, Observable.defer_apply]
      exact congrFun (congrFun (if_neg hrefreshing) _) _
  · rw [if_neg hunauthorized, if_neg hunauthorized]
    rfl

theorem run_of_starts (hstarts : StartsRefresh req shared first) :
    run accessToken req shared (first :: rest) =
      refreshBranch accessToken (authReq req shared) (answered req shared first) rest := by
  obtain ⟨hfirst, hendpoint, hidle⟩ := hstarts
  rw [run_of_error hfirst, if_pos ⟨rfl, hendpoint⟩, hidle]
  rfl

/-- A retry that fails logs the user out. -/
theorem run_of_retryFails (accessToken : Body → String) {arrivals : List (Arrival Body)}
    {refreshed profile retried : Arrival Body} {res me : Body} {status : Nat}
    (hfails : RetryFails req shared arrivals first refreshed profile retried rest res me status) :
    ∃ final, run accessToken req shared arrivals = some (.error status, final, rest) ∧
      .clear ∈ final.effects := by
  rw [hfails.arrivals, run_of_starts hfails.starts]
  obtain ⟨before, request, -, -, hbranch⟩ := refreshBranch_retry accessToken
    (authReq req shared) (retried :: rest) hfails.refreshed hfails.profile
    (answered_quiet req shared first)
  rw [hbranch, Observable.catchError_of_error _ (next_of_response request hfails.retried)]
  exact ⟨_, rfl, refreshFailed_effects _⟩

/-- The interceptor logs the user out rightly, for every request and every sequence of
responses, exactly if it is not the retry of the request that fails. -/
theorem logsOutRightly_iff (accessToken : Body → String) (req : HttpRequest)
    (shared : AuthShared Body) (arrivals : List (Arrival Body)) :
    LogsOutRightly accessToken req shared arrivals ↔
      ¬∃ first refreshed profile retried rest res me status,
        RetryFails req shared arrivals first refreshed profile retried rest res me status := by
  constructor
  · rintro hright ⟨first, refreshed, profile, retried, rest, res, me, status, hfails⟩
    obtain ⟨final, hrun, hclear⟩ := run_of_retryFails accessToken hfails
    obtain ⟨first', refreshed', rest', harrivals, -, hfailed⟩ :=
      hright.blame _ final rest hrun (.inl hclear)
    cases hfails.arrivals.symm.trans harrivals
    rcases hfailed with ⟨status', herror⟩ | ⟨profile', rest', status', hrest, herror⟩
    · cases hfails.refreshed.symm.trans herror
    · cases hrest
      cases hfails.profile.symm.trans herror
  · intro hnoRetry
    refine ⟨?_, ?_⟩
    · intro outcome final rest hrun heffect
      cases arrivals with
      | nil => cases hrun
      | cons first others =>
          cases hfirst : first.response with
          | ok body =>
              rw [run_of_ok hfirst] at hrun
              cases hrun
              exact absurd heffect (answered_quiet _ _ _).not_loggedOut
          | error status =>
              rw [run_of_error hfirst] at hrun
              split at hrun
              next hunauthorized =>
                split at hrun
                next => exact absurd heffect (waiting_quiet (answered_quiet _ _ _) _ hrun).not_loggedOut
                next hidle =>
                  have hstarts : StartsRefresh req shared first :=
                    ⟨hunauthorized.1 ▸ hfirst, hunauthorized.2, Bool.not_eq_true _ ▸ hidle⟩
                  rcases refreshBranch_end (answered_quiet _ _ _) hrun with hquiet |
                    ⟨refreshed, others', rfl, hfailed⟩ |
                    ⟨refreshed, profile, retried, others', res, me, failed, rfl, hrefreshed,
                      hprofile, hretried⟩
                  · exact absurd heffect hquiet.not_loggedOut
                  · exact ⟨first, refreshed, others', rfl, hstarts, hfailed⟩
                  · exact absurd ⟨first, refreshed, profile, retried, others', res, me, failed,
                      rfl, hstarts, hrefreshed, hprofile, hretried⟩ hnoRetry
              next =>
                cases hrun
                exact absurd heffect (answered_quiet _ _ _).not_loggedOut
    · intro first refreshed profile retried rest res me status hfails
      exact absurd ⟨first, refreshed, profile, retried, rest, res, me, status, hfails⟩ hnoRetry

/-- A save whose token has run out: the refresh and the profile succeed, and the retry meets
the lock of another user. -/
def lockedRetry : List (Arrival String) :=
  [⟨id, .error 401⟩, ⟨id, .ok "token"⟩, ⟨id, .ok "user"⟩, ⟨id, .error 423⟩]

theorem locked_retry_logs_out :
    ¬ ∀ (req : HttpRequest) (shared : AuthShared String) (arrivals : List (Arrival String)),
      LogsOutRightly id req shared arrivals := by
  intro hall
  have hright := hall { pathname := "/documents/1", authorization := none }
    { accessToken := some "expired"
      me := some "user"
      url := "/documents/1"
      refreshing := false
      refreshSubject := none } lockedRetry
  obtain ⟨final, hrun, -, -, hurl⟩ := hright.retry ⟨id, .error 401⟩ ⟨id, .ok "token"⟩
    ⟨id, .ok "user"⟩ ⟨id, .error 423⟩ [] "token" "user" 423
    ⟨rfl, ⟨rfl, by decide, rfl⟩, rfl, rfl, rfl⟩
  have hpage : (run id { pathname := "/documents/1", authorization := none }
      { accessToken := some "expired"
        me := some "user"
        url := "/documents/1"
        refreshing := false
        refreshSubject := none } lockedRetry).map (·.2.1.shared.url) = some "/login" := by
    decide +kernel
  rw [hrun, Option.map_some, hurl] at hpage
  exact absurd hpage (by decide +kernel)

end Interception

end CollabEditor.Frontend
