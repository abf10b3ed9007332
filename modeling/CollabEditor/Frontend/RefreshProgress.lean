import CollabEditor.Frontend.JwtInterceptor
import Mathlib.Algebra.BigOperators.Group.List.Basic
import Mathlib.Algebra.Ring.Nat
import Mathlib.Data.List.Perm.Basic

/-! # A refresh that has started comes to an end

While `refreshing` is set, an exchange of some refresh path must be at the network, and
its answer must lead on. The refresh path's own `/auth/me` is intercepted too, and a 401
for it queues it behind the refresh that it belongs to.
-/

namespace CollabEditor.Frontend

open Foundation

/-- The exchange is the `/auth/refresh` or the `/auth/me` of a refresh path. -/
def Exchange.ofRefresh : Exchange → Bool
  | .refresh _ _ => true
  | .first call | .retry call | .resend call => call.isLoadMe
  | .login | .restore _ => false

/-- The exchange is the first of an `/auth/me` of a refresh path, which the interceptor
catches. -/
def Exchange.isCaughtMe : Exchange → Bool
  | .first call => call.isLoadMe
  | _ => false

/-- How many answers can still come on the exchange's refresh path before it ends. -/
def Exchange.remaining : Exchange → Nat
  | .refresh _ _ => 3
  | .first call => if call.isLoadMe then 2 else 0
  | .retry call | .resend call => if call.isLoadMe then 1 else 0
  | .login | .restore _ => 0

theorem Exchange.ofRefresh_iff (exchange : Exchange) :
    exchange.ofRefresh = true ↔ 0 < exchange.remaining := by
  cases exchange with
  | first call => cases call <;> simp [ofRefresh, remaining, Call.isLoadMe]
  | refresh session original => simp [ofRefresh, remaining]
  | retry call => cases call <;> simp [ofRefresh, remaining, Call.isLoadMe]
  | resend call => cases call <;> simp [ofRefresh, remaining, Call.isLoadMe]
  | login => simp [ofRefresh, remaining]
  | restore session => simp [ofRefresh, remaining]

namespace Interceptor

variable (state : Interceptor)

/-- An exchange of a refresh path is at the network whose completion, successful or not,
leads to `refreshing` being set back to false. -/
inductive Released (guard : Interceptor → Event → Prop) : Interceptor → Prop
  | released {state : Interceptor} (hreleased : state.refreshing = false) : Released guard state
  | outstanding {state : Interceptor} (index : Nat) (exchange : Exchange)
      (hexchange : state.exchanges[index]? = some exchange)
      (hrefresh : exchange.ofRefresh = true)
      (hanswer : ∀ answer next, guard state (.answer index answer) →
        state.step (.answer index answer) = some next → Released guard next) :
      Released guard state

/-- How many answers can still come on the refresh paths. -/
def remaining : Nat := (state.exchanges.map Exchange.remaining).sum

/-- While a refresh is in progress, the `/auth/me` of a refresh path is not answered with
401, and nobody unsubscribes from a refresh path, unless another refresh path has an exchange
at the network. -/
def RefreshKept : Event → Prop
  | .answer index (.error status) => status = 401 → ∀ exchange ∈ state.exchanges[index]?,
      exchange.isCaughtMe = true → state.refreshing = true →
        ∃ other ∈ state.exchanges.eraseIdx index, other.ofRefresh = true
  | .cancel index => ∀ exchange ∈ state.exchanges[index]?,
      exchange.ofRefresh = true → state.refreshing = true →
        ∃ other ∈ state.exchanges.eraseIdx index, other.ofRefresh = true
  | _ => True

instance (event : Event) : Decidable (state.RefreshKept event) :=
  match event with
  | .answer index (.error status) => inferInstanceAs (Decidable (status = 401 →
      ∀ exchange ∈ state.exchanges[index]?, exchange.isCaughtMe = true →
        state.refreshing = true →
        ∃ other ∈ state.exchanges.eraseIdx index, other.ofRefresh = true))
  | .cancel index => inferInstanceAs (Decidable (∀ exchange ∈ state.exchanges[index]?,
      exchange.ofRefresh = true → state.refreshing = true →
        ∃ other ∈ state.exchanges.eraseIdx index, other.ofRefresh = true))
  | .answer _ (.ok _) | .request _ | .login | .logout | .restore | .cancelWaiting _ =>
      inferInstanceAs (Decidable True)

/-- A refresh that has started has an exchange at the network. -/
def Underway : Prop := state.refreshing = true → 0 < state.remaining

variable {state}

theorem remaining_pos_iff :
    0 < state.remaining ↔ ∃ exchange ∈ state.exchanges, exchange.ofRefresh = true := by
  simp only [remaining, List.sum_pos_iff_exists_pos_nat, List.mem_map, Exchange.ofRefresh_iff,
    exists_exists_and_eq_and]

theorem remaining_eraseIdx {exchange : Exchange} {index : Nat}
    (hexchange : state.exchanges[index]? = some exchange) :
    (state.answered index).remaining + exchange.remaining = state.remaining := by
  obtain ⟨hindex, hget⟩ := List.getElem?_eq_some_iff.mp hexchange
  have hperm := List.getElem_cons_eraseIdx_perm hindex
  rw [hget] at hperm
  have hsum := (hperm.map Exchange.remaining).sum_eq
  simp only [List.map_cons, List.sum_cons] at hsum
  simp only [remaining, answered]
  omega

/-! ### What each operation leaves -/

@[simp] theorem issue_remaining (call : AuthRequest → Call) (pathname : String) :
    (state.issue call pathname).remaining =
      state.remaining + (Exchange.first (call (state.authReq pathname))).remaining := by
  simp [remaining, issue]

theorem remaining_le_issue (call : AuthRequest → Call) (pathname : String) :
    state.remaining ≤ (state.issue call pathname).remaining := by
  rw [issue_remaining]
  exact Nat.le_add_right _ _

@[simp] theorem sendAgain_remaining (exchange : Call → Exchange) (call : Call) (token : Token) :
    (state.sendAgain exchange call token).remaining =
      state.remaining + (exchange call).remaining := by
  simp [remaining, sendAgain]

/-- A call that completes without ending a refresh leaves the refresh paths alone. -/
theorem complete_refreshing {call : Call} {success : Bool}
    (h : (complete call success state).refreshing = true) :
    state.refreshing = true ∧ call.isLoadMe = false ∧
      (complete call success state).remaining = state.remaining := by
  induction call generalizing success state with
  | app request => exact ⟨h, rfl, rfl⟩
  | logout request => exact ⟨h, rfl, rfl⟩
  | restoreMe request =>
      cases success with
      | true => exact ⟨h, rfl, rfl⟩
      | false => exact ⟨h, rfl, issue_remaining _ _⟩
  | loadMe request newToken original ih =>
      cases success with
      | true => cases h
      | false => cases (ih h).1

theorem complete_refreshFailed (call : Call) (success : Bool) :
    (complete call success state.refreshFailed).refreshing = false := by
  apply Bool.eq_false_iff.mpr
  intro h
  cases (complete_refreshing h).1

/-- What the completion of an exchange does to the refresh paths: it starts the only one,
leaves them alone, or takes one of them further. -/
def LeadsOn (state : Interceptor) (exchange : Exchange) (next : Interceptor) : Prop :=
  next.refreshing = true →
    state.refreshing = false ∧ 0 < next.remaining ∨
    state.refreshing = true ∧
      (exchange.remaining = 0 ∧ state.remaining ≤ next.remaining ∨
        0 < next.remaining ∧ next.remaining < state.remaining + exchange.remaining)

theorem complete_leadsOn {exchange : Exchange} {call : Call}
    (hexchange : call.isLoadMe = false → exchange.remaining = 0) (success : Bool) :
    LeadsOn state exchange (complete call success state) := by
  intro h
  obtain ⟨hrefreshing, hcall, hremaining⟩ := complete_refreshing h
  exact .inr ⟨hrefreshing, .inl ⟨hexchange hcall, Nat.le_of_eq hremaining.symm⟩⟩

theorem remaining_first {call : Call} (hcall : call.isLoadMe = false) :
    (Exchange.first call).remaining = 0 := by
  rw [Exchange.remaining, hcall]
  rfl

theorem remaining_resend {call : Call} (hcall : call.isLoadMe = false) :
    (Exchange.resend call).remaining = 0 := by
  rw [Exchange.remaining, hcall]
  rfl

theorem succeed_leadsOn (exchange : Exchange) (text : String) :
    LeadsOn state exchange (state.succeed exchange text) := by
  cases exchange with
  | first call => exact complete_leadsOn remaining_first true
  | refresh session original =>
      intro h
      have hremaining : (state.succeed (.refresh session original) text).remaining =
          state.remaining + 2 := issue_remaining _ _
      rw [hremaining]
      exact .inr ⟨h, .inr ⟨by omega, Nat.lt_succ_self _⟩⟩
  | retry original => exact complete_leadsOn remaining_resend true
  | resend call => exact complete_leadsOn remaining_resend true
  | login =>
      intro h
      have hremaining : (state.succeed .login text).remaining = state.remaining :=
        issue_remaining _ _
      exact .inr ⟨h, .inl ⟨rfl, Nat.le_of_eq hremaining.symm⟩⟩
  | restore session =>
      intro h
      have hremaining : (state.succeed (.restore session) text).remaining = state.remaining :=
        issue_remaining _ _
      exact .inr ⟨h, .inl ⟨rfl, Nat.le_of_eq hremaining.symm⟩⟩

/-- A 401 for an `/auth/me` of a refresh path queues it, so another path must lead on. -/
theorem unauthorized_leadsOn {call : Call}
    (hme : call.isLoadMe = true → state.refreshing = true → 0 < state.remaining) :
    LeadsOn state (.first call) (state.unauthorized call) := by
  intro _
  rw [unauthorized]
  split
  next hrefreshing =>
    refine .inr ⟨hrefreshing, ?_⟩
    cases hcall : call.isLoadMe with
    | false =>
        refine .inl ⟨remaining_first hcall, ?_⟩
        split
        next token _ =>
          rw [sendAgain_remaining]
          exact Nat.le_add_right _ _
        next => exact Nat.le_refl _
    | true =>
        have hother := hme hcall hrefreshing
        have hfirst : (Exchange.first call).remaining = 2 := by rw [Exchange.remaining, if_pos hcall]
        rw [hfirst]
        right
        split
        next token _ =>
          have hresend : (Exchange.resend call).remaining = 1 := by
            rw [Exchange.remaining, if_pos hcall]
          rw [sendAgain_remaining, hresend]
          omega
        next => exact ⟨hother, Nat.lt_add_of_pos_right (by decide)⟩
  next hrefreshing =>
    refine .inl ⟨Bool.eq_false_iff.mpr hrefreshing, remaining_pos_iff.mpr ?_⟩
    exact ⟨_, List.mem_append_right _ List.mem_cons_self, rfl⟩

theorem fail_leadsOn {exchange : Exchange} {status : Nat}
    (hme : status = 401 → exchange.isCaughtMe = true → state.refreshing = true →
      0 < state.remaining) :
    LeadsOn state exchange (state.fail exchange status) := by
  cases exchange with
  | first call =>
      rw [fail]
      split
      next hunauthorized =>
        exact unauthorized_leadsOn (hme hunauthorized.1)
      next => exact complete_leadsOn remaining_first false
  | refresh session original =>
      intro h
      cases (complete_refreshFailed original false).symm.trans h
  | retry original =>
      intro h
      cases (complete_refreshFailed original false).symm.trans h
  | resend call => exact complete_leadsOn remaining_resend false
  | login =>
      intro h
      exact .inr ⟨h, .inl ⟨rfl, Nat.le_refl _⟩⟩
  | restore session =>
      intro h
      exact .inr ⟨h, .inl ⟨rfl, remaining_le_issue _ _⟩⟩

theorem answer_leadsOn {index : Nat} {answer : Answer} {next : Interceptor}
    (hguard : state.RefreshKept (.answer index answer))
    (hstep : state.step (.answer index answer) = some next) :
    ∃ exchange, state.exchanges[index]? = some exchange ∧
      LeadsOn (state.answered index) exchange next := by
  obtain ⟨exchange, hexchange, hstep⟩ := Option.bind_eq_some_iff.mp hstep
  refine ⟨exchange, hexchange, ?_⟩
  cases answer with
  | ok text =>
      cases hstep
      exact succeed_leadsOn exchange text
  | error status =>
      cases hstep
      apply fail_leadsOn
      intro hstatus hme hrefreshing
      exact remaining_pos_iff.mpr (hguard hstatus exchange hexchange hme hrefreshing)

/-! ### A whole run -/

theorem step_underway {event : Event} {next : Interceptor} (hunderway : state.Underway)
    (hguard : state.RefreshKept event) (hstep : state.step event = some next) :
    next.Underway := by
  intro hrefreshing
  cases event with
  | request pathname =>
      cases hstep
      exact Nat.lt_of_lt_of_le (hunderway hrefreshing) (remaining_le_issue _ _)
  | login =>
      cases hstep
      have hpos := hunderway hrefreshing
      simp only [remaining, List.map_append, List.sum_append] at hpos ⊢
      omega
  | logout =>
      cases hstep
      exact Nat.lt_of_lt_of_le (hunderway hrefreshing) (remaining_le_issue _ _)
  | restore =>
      cases hstep
      have hpos := hunderway hrefreshing
      simp only [remaining, List.map_append, List.sum_append] at hpos ⊢
      omega
  | answer index answer =>
      obtain ⟨exchange, hexchange, hleads⟩ := answer_leadsOn hguard hstep
      have hsplit := remaining_eraseIdx hexchange
      rcases hleads hrefreshing with ⟨_, hpos⟩ | ⟨hbefore, ⟨hnone, hle⟩ | ⟨hpos, _⟩⟩
      · exact hpos
      · have hstate := hunderway hbefore
        omega
      · exact hpos
  | cancel index =>
      obtain ⟨exchange, hexchange, rfl⟩ := Option.map_eq_some_iff.mp hstep
      cases hrefresh : exchange.ofRefresh with
      | true => exact remaining_pos_iff.mpr (hguard exchange hexchange hrefresh hrefreshing)
      | false =>
          -- an exchange of no refresh path has no part in the sum
          have hnone : ¬ 0 < exchange.remaining := by
            rw [← Exchange.ofRefresh_iff, hrefresh]
            exact nofun
          have hsplit := remaining_eraseIdx hexchange
          have hstate := hunderway hrefreshing
          omega
  | cancelWaiting index =>
      cases hstep
      exact hunderway hrefreshing

theorem reachable_underway (hreach : system.ReachableUnder RefreshKept state) :
    state.Underway := by
  apply hreach.invariant system Underway
  · intro state hinit hrefreshing
    cases hinit
    cases hrefreshing
  · intro state event next _ hunderway hguard hstep
    exact step_underway hunderway hguard hstep

/-- The answers take a refresh path further, and there are finitely many to come. -/
theorem Underway.released (hunderway : state.Underway) : Released RefreshKept state := by
  induction hmeasure : state.remaining using Nat.strongRecOn generalizing state with
  | ind measure ih =>
      subst hmeasure
      cases hrefreshing : state.refreshing with
      | false => exact .released hrefreshing
      | true =>
          obtain ⟨exchange, hmem, hrefresh⟩ := remaining_pos_iff.mp (hunderway hrefreshing)
          obtain ⟨index, hexchange⟩ := List.mem_iff_getElem?.mp hmem
          refine .outstanding index exchange hexchange hrefresh ?_
          intro answer next hguard hstep
          have hnext := step_underway hunderway hguard hstep
          cases hdone : next.refreshing with
          | false => exact .released hdone
          | true =>
              apply ih next.remaining ?_ hnext rfl
              obtain ⟨other, hother, hleads⟩ := answer_leadsOn hguard hstep
              cases hexchange.symm.trans hother
              have hsplit := remaining_eraseIdx hexchange
              have hpos := (Exchange.ofRefresh_iff exchange).mp hrefresh
              rcases hleads hdone with ⟨hidle, _⟩ | ⟨_, ⟨hnone, _⟩ | ⟨_, hless⟩⟩
              · cases hidle.symm.trans hrefreshing
              · omega
              · omega

/-- A refresh in progress leads to its end if no `/auth/me` of a refresh path is answered
with 401 while it would wait for itself, and nobody unsubscribes from the last refresh path. -/
theorem refresh_released (hreach : system.ReachableUnder RefreshKept state)
    (hrefreshing : state.refreshing = true) :
    ∃ index exchange, state.exchanges[index]? = some exchange ∧ exchange.ofRefresh = true ∧
      ∀ answer next, state.RefreshKept (.answer index answer) →
        state.step (.answer index answer) = some next → Released RefreshKept next := by
  cases (reachable_underway hreach).released with
  | released hreleased => cases hreleased.symm.trans hrefreshing
  | outstanding index exchange hexchange hrefresh hanswer =>
      exact ⟨index, exchange, hexchange, hrefresh, hanswer⟩

/-- A refresh is in progress and no `/auth/me` is at the network yet. -/
theorem refresh_released_pending :
    ∃ state, system.ReachableUnder RefreshKept state ∧ state.refreshing = true ∧
      ∃ index exchange, state.exchanges[index]? = some exchange ∧ exchange.ofRefresh = true ∧
        ∀ answer next, state.RefreshKept (.answer index answer) →
          state.step (.answer index answer) = some next → Released RefreshKept next := by
  obtain ⟨state, hreach, hcheck⟩ := system.exists_reachable_of_exec
    (.init rfl : system.ReachableUnder RefreshKept start)
    [.request "/documents", .answer 0 (.error 401)]
    (fun state : Interceptor => state.refreshing) (by decide)
  exact ⟨state, hreach, hcheck, refresh_released hreach hcheck⟩

/-- The `/auth/me` of a refresh is answered with 401 and waits for that refresh. -/
theorem refresh_waits_for_itself :
    ¬∀ state, system.Reachable state → state.refreshing = true →
      ∃ index exchange, state.exchanges[index]? = some exchange ∧ exchange.ofRefresh = true ∧
        ∀ answer next, state.step (.answer index answer) = some next →
          Released (fun _ _ => True) next := by
  intro hall
  obtain ⟨state, hreach, hcheck⟩ := system.exists_reachable_of_exec
    (.init rfl : system.Reachable start)
    [.request "/documents", .answer 0 (.error 401), .answer 0 (.ok "token"),
      .answer 0 (.error 401)]
    (fun state : Interceptor => state.refreshing && state.exchanges.isEmpty) (by decide)
  rw [Bool.and_eq_true] at hcheck
  obtain ⟨index, exchange, hexchange, _⟩ := hall state hreach hcheck.1
  rw [List.isEmpty_iff.mp hcheck.2] at hexchange
  cases hexchange

end Interceptor

end CollabEditor.Frontend
