import CollabEditor.Frontend.JwtInterceptor

/-! # Requests that wait for a refresh

A request that is answered with 401 while a refresh is in progress waits for the next
token. It should wait no longer than for that refresh, and so never go out with a token
of a later login session than its own.
-/

namespace CollabEditor.Frontend

open Foundation

/-- The token of the request is not of a later login session than the request. -/
def AuthRequest.Timely (request : AuthRequest) : Prop :=
  ∀ token ∈ request.authorization, token.session ≤ request.session

instance (request : AuthRequest) : Decidable request.Timely :=
  inferInstanceAs (Decidable (∀ token ∈ request.authorization, token.session ≤ request.session))

/-- An error in answer to the exchange ends a refresh path. -/
def Exchange.endsRefresh : Exchange → Nat → Bool
  | .refresh _ _, _ | .retry _, _ => true
  | .first call, status =>
      call.isLoadMe && !(status = 401 && !isAuthEndpoint call.request.pathname)
  | .resend call, _ => call.isLoadMe
  | .login, _ | .restore _, _ => false

/-- The call that an error in answer to the exchange makes refresh or wait. -/
def Exchange.unauthorized : Exchange → Nat → Option Call
  | .first call, status =>
      if status = 401 ∧ isAuthEndpoint call.request.pathname = false then some call else none
  | _, _ => none

namespace Interceptor

variable (state : Interceptor)

/-- Waiting requests end with their refresh. -/
structure QueueEnds (guard : Interceptor → Event → Prop) : Prop where
  /-- No request waits when no refresh is in progress. -/
  idle : state.refreshing = false → state.waiters = []
  /-- A step after which none is in progress retries the requests that waited. -/
  retried : ∀ event next, guard state event → state.step event = some next →
    next.refreshing = false → ∀ call ∈ state.waiters, .resend call ∈ next.exchanges
  timely : ∀ request ∈ state.sent, request.Timely

/-- The session of the credentials that a 401 now leads to. -/
def refreshSession : Nat := if state.refreshing then state.attempt else state.session

/-- A refresh path fails only when no request waits, and a request is answered with 401
only before a later session than its own has begun or is being refreshed. -/
def Current : Event → Prop
  | .answer index (.error status) => ∀ exchange ∈ state.exchanges[index]?,
      (exchange.endsRefresh status = true → state.waiters = []) ∧
        ∀ call ∈ exchange.unauthorized status, state.refreshSession ≤ call.request.session
  | _ => True

instance (event : Event) : Decidable (state.Current event) :=
  match event with
  | .answer index (.error status) =>
      inferInstanceAs (Decidable (∀ exchange ∈ state.exchanges[index]?,
        (exchange.endsRefresh status = true → state.waiters = []) ∧
          ∀ call ∈ exchange.unauthorized status, state.refreshSession ≤ call.request.session))
  | .answer _ (.ok _) | .request _ | .login | .logout | .restore | .cancel _
  | .cancelWaiting _ => inferInstanceAs (Decidable True)

end Interceptor

/-! ## The invariant -/

/-- No token in the hands of the call is of a session later than its request, or than the
last refresh attempt. -/
def Call.Sound (attempt : Nat) : Call → Prop
  | .app request | .logout request | .restoreMe request => request.Timely
  | .loadMe request newToken original => request.Timely ∧ newToken.session ≤ attempt ∧
      newToken.session ≤ original.request.session ∧ original.Sound attempt

def Exchange.Sound (attempt session : Nat) : Exchange → Prop
  | .first call | .retry call | .resend call => call.Sound attempt
  | .refresh refreshed original => refreshed ≤ attempt ∧ refreshed ≤ original.request.session ∧
      original.Sound attempt
  | .login => True
  | .restore restored => restored ≤ session

theorem AuthRequest.Timely.withToken {request : AuthRequest} (h : request.Timely) {token : Token}
    (htoken : token.session ≤ request.session) : (request.withToken token).Timely := by
  rw [AuthRequest.withToken]
  split
  · exact h
  · rintro _ ⟨⟩
    exact htoken

theorem Call.Sound.timely {attempt : Nat} {call : Call} (h : call.Sound attempt) :
    call.request.Timely := by
  cases call with
  | app request => exact h
  | logout request => exact h
  | restoreMe request => exact h
  | loadMe request newToken original => exact h.1

theorem Call.Sound.mono {attempt later : Nat} (hle : attempt ≤ later) {call : Call}
    (h : call.Sound attempt) : call.Sound later := by
  induction call with
  | app request => exact h
  | logout request => exact h
  | restoreMe request => exact h
  | loadMe request newToken original ih =>
      obtain ⟨htimely, hattempt, horiginal, hsound⟩ := h
      exact ⟨htimely, Nat.le_trans hattempt hle, horiginal, ih hsound⟩

theorem Exchange.Sound.mono {attempt later session current : Nat} (hattempt : attempt ≤ later)
    (hsession : session ≤ current) {exchange : Exchange} (h : exchange.Sound attempt session) :
    exchange.Sound later current := by
  cases exchange with
  | first call => exact Call.Sound.mono hattempt h
  | refresh refreshed original =>
      obtain ⟨hrefreshed, horiginal, hsound⟩ := h
      exact ⟨Nat.le_trans hrefreshed hattempt, horiginal, hsound.mono hattempt⟩
  | retry original => exact Call.Sound.mono hattempt h
  | resend call => exact Call.Sound.mono hattempt h
  | login => trivial
  | restore restored => exact Nat.le_trans h hsession

namespace Interceptor

/-- While requests wait, a refresh is in progress, and its token is not of a later session
than theirs. -/
structure Sound (state : Interceptor) : Prop where
  idle : state.refreshing = false → state.waiters = []
  attempt : state.attempt ≤ state.session
  accessToken : ∀ token ∈ state.accessToken, token.session ≤ state.session
  subject : ∀ token ∈ state.refreshSubject, token.session ≤ state.attempt
  waiters : ∀ call ∈ state.waiters,
    state.attempt ≤ call.request.session ∧ call.Sound state.attempt
  exchanges : ∀ exchange ∈ state.exchanges, exchange.Sound state.attempt state.session
  sent : ∀ request ∈ state.sent, request.Timely

variable {state : Interceptor}

theorem Sound.authReq (h : state.Sound) (pathname : String) : (state.authReq pathname).Timely := by
  intro token htoken
  exact h.accessToken token (Option.filter_eq_some_iff.mp htoken).1

/-- An exchange is added for a request that is sent. -/
theorem Sound.send (h : state.Sound) {exchange : Exchange} {request : AuthRequest}
    (hexchange : exchange.Sound state.attempt state.session) (hrequest : request.Timely) :
    Sound { state with
      exchanges := state.exchanges ++ [exchange]
      sent := state.sent ++ [request] } where
  __ := h
  exchanges := List.forall_mem_append.mpr ⟨h.exchanges, List.forall_mem_singleton.mpr hexchange⟩
  sent := List.forall_mem_append.mpr ⟨h.sent, List.forall_mem_singleton.mpr hrequest⟩

theorem Sound.issue (h : state.Sound) {call : AuthRequest → Call} {pathname : String}
    (hcall : (state.authReq pathname).Timely → (call (state.authReq pathname)).Sound state.attempt) :
    (state.issue call pathname).Sound :=
  h.send (hcall (h.authReq pathname)) (h.authReq pathname)

theorem Sound.sendAgain (h : state.Sound) {exchange : Call → Exchange} {call : Call}
    {token : Token} (hexchange : (exchange call).Sound state.attempt state.session)
    (hcall : call.Sound state.attempt) (htoken : token.session ≤ call.request.session) :
    (state.sendAgain exchange call token).Sound :=
  h.send hexchange (hcall.timely.withToken htoken)

/-- The token of a refresh path is of an attempt that the waiting requests waited for. -/
theorem Sound.release (h : state.Sound) {newToken : Token}
    (htoken : newToken.session ≤ state.attempt) : (state.release newToken).Sound where
  __ := h
  idle := fun _ => rfl
  subject := by
    rintro _ ⟨⟩
    exact htoken
  waiters := fun _ hcall => absurd hcall List.not_mem_nil
  exchanges := by
    apply List.forall_mem_append.mpr ⟨h.exchanges, ?_⟩
    intro exchange hexchange
    obtain ⟨call, hcall, rfl⟩ := List.mem_map.mp hexchange
    exact (h.waiters call hcall).2
  sent := by
    apply List.forall_mem_append.mpr ⟨h.sent, ?_⟩
    intro request hrequest
    obtain ⟨call, hcall, rfl⟩ := List.mem_map.mp hrequest
    obtain ⟨hattempt, hsound⟩ := h.waiters call hcall
    exact hsound.timely.withToken (Nat.le_trans htoken hattempt)

theorem Sound.clear (h : state.Sound) : state.clear.Sound where
  __ := h
  accessToken := fun _ htoken => nomatch htoken

theorem Sound.refreshFailed (h : state.Sound) (hwaiters : state.waiters = []) :
    state.refreshFailed.Sound :=
  Sound.clear
    { h with
      idle := fun _ => hwaiters
      subject := fun _ htoken => nomatch htoken }

theorem Sound.logout (h : state.Sound) : state.logout.Sound := h.issue id

theorem Sound.complete (h : state.Sound) {call : Call} (hcall : call.Sound state.attempt)
    {success : Bool}
    (hends : success = false → call.isLoadMe = true → state.waiters = []) :
    (complete call success state).Sound := by
  induction call generalizing success state with
  | app request => exact h
  | logout request => exact h.clear
  | restoreMe request =>
      cases success with
      | true => exact h
      | false => exact h.logout
  | loadMe request newToken original ih =>
      obtain ⟨_, hattempt, horiginal, hsound⟩ := hcall
      cases success with
      | true => exact (h.release hattempt).sendAgain hsound hsound horiginal
      | false =>
          have hwaiters := hends rfl rfl
          exact ih (h.refreshFailed hwaiters) hsound fun _ _ => hwaiters

/-- A request waits for an attempt of its own session or an earlier one. -/
theorem Sound.unauthorized (h : state.Sound) {call : Call} (hcall : call.Sound state.attempt)
    (hsession : state.refreshSession ≤ call.request.session) : (state.unauthorized call).Sound := by
  rw [Interceptor.unauthorized]
  rw [refreshSession] at hsession
  split
  next hrefreshing =>
    rw [if_pos hrefreshing] at hsession
    split
    next token htoken =>
      exact h.sendAgain hcall hcall (Nat.le_trans (h.subject token htoken) hsession)
    next =>
      exact
        { h with
          idle := fun hidle => nomatch hidle.symm.trans hrefreshing
          waiters := List.forall_mem_append.mpr
            ⟨h.waiters, List.forall_mem_singleton.mpr ⟨hsession, hcall⟩⟩ }
  next hrefreshing =>
    rw [if_neg hrefreshing] at hsession
    have hwaiters := h.idle (Bool.eq_false_iff.mpr hrefreshing)
    exact
      { idle := fun hidle => nomatch hidle
        attempt := Nat.le_refl _
        accessToken := h.accessToken
        subject := fun _ htoken => nomatch htoken
        waiters := by
          intro waiting hwaiting
          rw [hwaiters] at hwaiting
          cases hwaiting
        exchanges := by
          refine List.forall_mem_append.mpr ⟨?_, List.forall_mem_singleton.mpr ?_⟩
          · intro exchange hexchange
            exact (h.exchanges exchange hexchange).mono h.attempt (Nat.le_refl _)
          · exact ⟨Nat.le_refl _, hsession, hcall.mono h.attempt⟩
        sent := h.sent }

theorem Sound.setToken (h : state.Sound) {token : Token} (htoken : token.session ≤ state.session) :
    Sound { state with accessToken := some token } where
  __ := h
  accessToken := by
    rintro _ ⟨⟩
    exact htoken

theorem Sound.succeed (h : state.Sound) {exchange : Exchange}
    (hexchange : exchange.Sound state.attempt state.session) (text : String) :
    (state.succeed exchange text).Sound := by
  cases exchange with
  | first call => exact h.complete hexchange fun hfail => nomatch hfail
  | refresh refreshed original =>
      obtain ⟨hrefreshed, horiginal, hsound⟩ := hexchange
      have htoken : (⟨text, refreshed⟩ : Token).session ≤ state.session :=
        Nat.le_trans hrefreshed h.attempt
      rw [Interceptor.succeed]
      apply (h.setToken htoken).issue
      intro htimely
      exact ⟨htimely, hrefreshed, horiginal, hsound⟩
  | retry original => exact h.complete hexchange fun hfail => nomatch hfail
  | resend call => exact h.complete hexchange fun hfail => nomatch hfail
  | login =>
      apply Sound.issue _ id
      exact
        { h with
          attempt := Nat.le_succ_of_le h.attempt
          accessToken := by
            rintro _ ⟨⟩
            exact Nat.le_refl _
          exchanges := by
            intro exchange hexchange
            exact (h.exchanges exchange hexchange).mono (Nat.le_refl _) (Nat.le_succ _) }
  | restore restored =>
      have htoken : (⟨text, restored⟩ : Token).session ≤ state.session := hexchange
      exact (h.setToken htoken).issue id

theorem Sound.fail (h : state.Sound) {exchange : Exchange}
    (hexchange : exchange.Sound state.attempt state.session) {status : Nat}
    (hends : exchange.endsRefresh status = true → state.waiters = [])
    (hcurrent : ∀ call ∈ exchange.unauthorized status,
      state.refreshSession ≤ call.request.session) :
    (state.fail exchange status).Sound := by
  cases exchange with
  | first call =>
      rw [Interceptor.fail]
      split
      next hunauthorized =>
        exact h.unauthorized hexchange (hcurrent call (if_pos hunauthorized))
      next hother =>
        apply h.complete hexchange
        intro _ hcall
        apply hends
        simp only [Exchange.endsRefresh, hcall, Bool.true_and, Bool.not_eq_true']
        simpa using hother
  | refresh refreshed original =>
      have hwaiters := hends rfl
      exact (h.refreshFailed hwaiters).complete hexchange.2.2 fun _ _ => hwaiters
  | retry original =>
      have hwaiters := hends rfl
      exact (h.refreshFailed hwaiters).complete hexchange fun _ _ => hwaiters
  | resend call => exact h.complete hexchange fun _ hcall => hends hcall
  | login => exact h
  | restore restored => exact h.logout

theorem Sound.answered (h : state.Sound) (index : Nat) : (state.answered index).Sound where
  __ := h
  exchanges := fun exchange hexchange =>
    h.exchanges exchange (List.mem_of_mem_eraseIdx hexchange)

theorem Sound.addExchange (h : state.Sound) {exchange : Exchange}
    (hexchange : exchange.Sound state.attempt state.session) :
    Sound { state with exchanges := state.exchanges ++ [exchange] } where
  __ := h
  exchanges := List.forall_mem_append.mpr ⟨h.exchanges, List.forall_mem_singleton.mpr hexchange⟩

theorem Sound.step (h : state.Sound) {event : Event} {next : Interceptor}
    (hguard : state.Current event) (hstep : state.step event = some next) : next.Sound := by
  cases event with
  | request pathname =>
      cases hstep
      exact h.issue id
  | login =>
      cases hstep
      exact h.addExchange trivial
  | logout =>
      cases hstep
      exact h.logout
  | restore =>
      cases hstep
      exact h.addExchange (Nat.le_refl _)
  | answer index answer =>
      obtain ⟨exchange, hexchange, hstep⟩ := Option.bind_eq_some_iff.mp hstep
      have hrest := h.answered index
      have hsound := h.exchanges exchange (List.mem_of_getElem? hexchange)
      cases answer with
      | ok text =>
          cases hstep
          exact hrest.succeed hsound text
      | error status =>
          cases hstep
          obtain ⟨hends, hcurrent⟩ := hguard exchange hexchange
          exact hrest.fail hsound hends hcurrent
  | cancel index =>
      obtain ⟨exchange, -, rfl⟩ := Option.map_eq_some_iff.mp hstep
      exact h.answered index
  | cancelWaiting index =>
      cases hstep
      exact
        { h with
          idle := fun hidle => by
            show state.waiters.eraseIdx index = []
            rw [h.idle hidle, List.eraseIdx_nil]
          waiters := fun call hcall => h.waiters call (List.mem_of_mem_eraseIdx hcall) }

theorem reachable_sound (hreach : system.ReachableUnder Current state) : state.Sound := by
  apply hreach.invariant system Sound
  · intro state hinit
    cases hinit
    exact
      { idle := fun _ => rfl
        attempt := Nat.le_refl _
        accessToken := fun _ htoken => nomatch htoken
        subject := fun _ htoken => nomatch htoken
        waiters := fun _ hcall => nomatch hcall
        exchanges := fun _ hexchange => nomatch hexchange
        sent := fun _ hrequest => nomatch hrequest }
  · intro state event next _ hsound hguard hstep
    exact hsound.step hguard hstep

/-! ## The requests that waited -/

theorem complete_true_retried {waiting : Call} (hwaiting : waiting ∈ state.waiters)
    (hrefreshing : state.refreshing = true) {call : Call}
    (hdone : (complete call true state).refreshing = false) :
    .resend waiting ∈ (complete call true state).exchanges := by
  cases call with
  | app request => cases hdone.symm.trans hrefreshing
  | logout request => cases hdone.symm.trans hrefreshing
  | restoreMe request => cases hdone.symm.trans hrefreshing
  | loadMe request newToken original =>
      apply List.mem_append_left
      exact List.mem_append_right _ (List.mem_map_of_mem hwaiting)

theorem complete_false_refreshing {call : Call} (hcall : call.isLoadMe = false) :
    (complete call false state).refreshing = state.refreshing := by
  cases call with
  | app request => rfl
  | logout request => rfl
  | restoreMe request => rfl
  | loadMe request newToken original => cases hcall

theorem succeed_retried {waiting : Call} (hwaiting : waiting ∈ state.waiters)
    (hrefreshing : state.refreshing = true) {exchange : Exchange} {text : String}
    (hdone : (state.succeed exchange text).refreshing = false) :
    .resend waiting ∈ (state.succeed exchange text).exchanges := by
  cases exchange with
  | first call => exact complete_true_retried hwaiting hrefreshing hdone
  | refresh refreshed original => cases hdone.symm.trans hrefreshing
  | retry original => exact complete_true_retried hwaiting hrefreshing hdone
  | resend call => exact complete_true_retried hwaiting hrefreshing hdone
  | login => cases hdone.symm.trans hrefreshing
  | restore restored => cases hdone.symm.trans hrefreshing

/-- An error that does not end a refresh path leaves the refresh in progress. -/
theorem fail_refreshing (hrefreshing : state.refreshing = true) {exchange : Exchange}
    {status : Nat} (hends : exchange.endsRefresh status = false) :
    (state.fail exchange status).refreshing = true := by
  cases exchange with
  | first call =>
      rw [fail]
      split
      next =>
        rw [unauthorized, if_pos hrefreshing]
        split
        · exact hrefreshing
        · exact hrefreshing
      next hother =>
        rw [complete_false_refreshing, hrefreshing]
        apply Bool.eq_false_iff.mpr
        intro hcall
        simp only [Exchange.endsRefresh, hcall, Bool.true_and, Bool.not_eq_false'] at hends
        exact hother (by simpa using hends)
  | refresh refreshed original => cases hends
  | retry original => cases hends
  | resend call => exact (complete_false_refreshing hends).trans hrefreshing
  | login => exact hrefreshing
  | restore restored => exact hrefreshing

theorem Sound.retried (h : state.Sound) {event : Event} {next : Interceptor}
    (hguard : state.Current event) (hstep : state.step event = some next)
    (hdone : next.refreshing = false) {waiting : Call} (hwaiting : waiting ∈ state.waiters) :
    .resend waiting ∈ next.exchanges := by
  have hrefreshing : state.refreshing = true := by
    apply Bool.not_eq_false _ |>.mp
    intro hidle
    rw [h.idle hidle] at hwaiting
    cases hwaiting
  cases event with
  | request pathname =>
      cases hstep
      cases hdone.symm.trans hrefreshing
  | login =>
      cases hstep
      cases hdone.symm.trans hrefreshing
  | logout =>
      cases hstep
      cases hdone.symm.trans hrefreshing
  | restore =>
      cases hstep
      cases hdone.symm.trans hrefreshing
  | cancel index =>
      obtain ⟨exchange, -, rfl⟩ := Option.map_eq_some_iff.mp hstep
      cases hdone.symm.trans hrefreshing
  | cancelWaiting index =>
      cases hstep
      cases hdone.symm.trans hrefreshing
  | answer index answer =>
      obtain ⟨exchange, hexchange, hstep⟩ := Option.bind_eq_some_iff.mp hstep
      cases answer with
      | ok text =>
          cases hstep
          have hrest : waiting ∈ (state.answered index).waiters := hwaiting
          exact succeed_retried hrest hrefreshing hdone
      | error status =>
          cases hstep
          cases hends : exchange.endsRefresh status with
          | false =>
              have hrest : (state.answered index).refreshing = true := hrefreshing
              cases hdone.symm.trans (fail_refreshing hrest hends)
          | true =>
              rw [(hguard exchange hexchange).1 hends] at hwaiting
              cases hwaiting

/-- Waiting requests end with their refresh if none waits when a refresh path fails and no
request is answered with 401 in a later session than its own. -/
theorem queue_ends (hreach : system.ReachableUnder Current state) : state.QueueEnds Current where
  idle := (reachable_sound hreach).idle
  retried := fun _ _ hguard hstep hdone _ hwaiting =>
    (reachable_sound hreach).retried hguard hstep hdone hwaiting
  timely := (reachable_sound hreach).sent

/-- Two requests are refreshed with one token, and one of them waited. -/
theorem queue_ends_retried :
    ∃ state, system.ReachableUnder Current state ∧ state.sent.length = 5 ∧
      state.QueueEnds Current := by
  obtain ⟨state, hreach, hcheck⟩ := system.exists_reachable_of_exec
    (.init rfl : system.ReachableUnder Current start)
    [.request "/documents", .request "/documents/1", .answer 0 (.error 401),
      .answer 0 (.error 401), .answer 0 (.ok "token"), .answer 0 (.ok "")]
    (fun state : Interceptor => state.sent.length == 5) (by decide)
  exact ⟨state, hreach, beq_iff_eq.mp hcheck, queue_ends hreach⟩

/-- A refresh fails while a request waits; a later session's refresh wakes the request
up, which goes out with that session's token. -/
theorem queue_survives_refresh :
    ¬∀ state, system.Reachable state → state.QueueEnds fun _ _ => True := by
  intro hall
  obtain ⟨state, hreach, hcheck⟩ := system.exists_reachable_of_exec
    (.init rfl : system.Reachable start)
    [.request "/documents", .request "/documents/1", .answer 0 (.error 401),
      .answer 0 (.error 401), .answer 0 (.error 401), .login, .answer 0 (.ok "other"),
      .answer 0 (.ok ""), .request "/documents", .answer 0 (.error 401), .answer 0 (.ok "later"),
      .answer 0 (.ok "")]
    (fun state : Interceptor => !(state.sent.all fun request => decide request.Timely))
    (by decide)
  simp only [Bool.not_eq_true', List.all_eq_false, decide_eq_true_eq] at hcheck
  obtain ⟨request, hrequest, hlate⟩ := hcheck
  exact hlate ((hall state hreach).timely request hrequest)

end Interceptor

end CollabEditor.Frontend
