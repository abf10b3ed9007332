import Mathlib.Logic.Basic

/-! # Observables of one value

An observable that emits one value and completes, or fails, as a request does. Run from a
state it takes what it waits for from a list of arrivals, and it has not ended when the list
is too short. An operator handles exactly the errors of the stream it is applied to.
-/

namespace Foundation

universe u

variable {σ ρ ε α β : Type u}

/-- What it ends with, the state it leaves and the arrivals it has not waited for. -/
def Observable (σ ρ ε α : Type u) : Type u :=
  σ → List ρ → Option (Except ε α × σ × List ρ)

namespace Observable

/-- `throwError` -/
def fail (error : ε) : Observable σ ρ ε α :=
  fun state arrivals => some (.error error, state, arrivals)

/-- Wait for the next arrival. -/
def receive (f : ρ → σ → Except ε α × σ) : Observable σ ρ ε α := fun state arrivals =>
  match arrivals with
  | [] => none
  | arrival :: rest => some ((f arrival state).1, (f arrival state).2, rest)

/-- Look at the state on subscription. -/
def defer (f : σ → Observable σ ρ ε α) : Observable σ ρ ε α :=
  fun state arrivals => f state state arrivals

/-- Change the state on subscription. -/
def after (f : σ → σ) (source : Observable σ ρ ε α) : Observable σ ρ ε α :=
  fun state arrivals => source (f state) arrivals

def tap (source : Observable σ ρ ε α) (f : α → σ → σ) : Observable σ ρ ε α :=
  fun state arrivals =>
    match source state arrivals with
    | some (.ok value, next, rest) => some (.ok value, f value next, rest)
    | some (.error error, next, rest) => some (.error error, next, rest)
    | none => none

def switchMap (source : Observable σ ρ ε α) (f : α → Observable σ ρ ε β) :
    Observable σ ρ ε β := fun state arrivals =>
  match source state arrivals with
  | some (.ok value, next, rest) => f value next rest
  | some (.error error, next, rest) => some (.error error, next, rest)
  | none => none

def catchError (source : Observable σ ρ ε α) (f : ε → Observable σ ρ ε α) :
    Observable σ ρ ε α := fun state arrivals =>
  match source state arrivals with
  | some (.ok value, next, rest) => some (.ok value, next, rest)
  | some (.error error, next, rest) => f error next rest
  | none => none

variable {source : Observable σ ρ ε α} {state next : σ} {arrivals rest : List ρ}

theorem defer_apply (f : σ → Observable σ ρ ε α) (state : σ) (arrivals : List ρ) :
    defer f state arrivals = f state state arrivals := rfl

/-! ## What an operator does with the end of its source -/

theorem switchMap_of_ok {value : α} (f : α → Observable σ ρ ε β)
    (hsource : source state arrivals = some (.ok value, next, rest)) :
    source.switchMap f state arrivals = f value next rest := by
  rw [switchMap, hsource]

theorem switchMap_of_none (f : α → Observable σ ρ ε β) (hsource : source state arrivals = none) :
    source.switchMap f state arrivals = none := by
  rw [switchMap, hsource]

theorem catchError_of_ok {value : α} (f : ε → Observable σ ρ ε α)
    (hsource : source state arrivals = some (.ok value, next, rest)) :
    source.catchError f state arrivals = some (.ok value, next, rest) := by
  rw [catchError, hsource]

theorem catchError_of_error {error : ε} (f : ε → Observable σ ρ ε α)
    (hsource : source state arrivals = some (.error error, next, rest)) :
    source.catchError f state arrivals = f error next rest := by
  rw [catchError, hsource]

/-- A handler behind `switchMap` also handles the errors of what has been switched to. -/
theorem catchError_switchMap_of_ok {value : β} {source : Observable σ ρ ε β}
    (f : β → Observable σ ρ ε α) (handler : ε → Observable σ ρ ε α)
    (hsource : source state arrivals = some (.ok value, next, rest)) :
    (source.switchMap f).catchError handler state arrivals =
      (f value).catchError handler next rest := by
  rw [catchError, catchError, switchMap_of_ok f hsource]

end Observable

end Foundation
