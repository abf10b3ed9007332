import Mathlib.Data.List.Basic
import Mathlib.Logic.Function.Basic

/-! # Guarded runs of a transition system

An event may be refused in a state. A guard restricts the events of a run by
the state they leave, so that a safety claim can be stated for every run whose
steps all meet a condition. The unguarded runs are those of the true guard.
-/

namespace Foundation

universe uState uEvent

/-- A deterministic system driven by events. Nondeterminism (scheduling,
network outcomes, the passage of time) is part of the event. -/
structure TransitionSystem (State : Type uState) (Event : Type uEvent) where
  init : State → Prop
  /-- `none` when the event cannot happen in the state. -/
  step : State → Event → Option State

namespace TransitionSystem

variable {State : Type uState} {Event : Type uEvent}
variable (sys : TransitionSystem State Event)

/-- States reached by the runs all of whose steps meet the guard. -/
inductive ReachableUnder (guard : State → Event → Prop) : State → Prop
  | init {state} (hinit : sys.init state) : ReachableUnder guard state
  | step {state event next} (hreach : ReachableUnder guard state)
      (hguard : guard state event) (hstep : sys.step state event = some next) :
      ReachableUnder guard next

/-- States reached by any run. -/
abbrev Reachable : State → Prop := sys.ReachableUnder fun _ _ => True

/-- Execute a list of events, stopping at the first one that is refused or
does not meet the guard. -/
def exec (guard : State → Event → Prop) [∀ state event, Decidable (guard state event)]
    (state : State) : List Event → Option State
  | [] => some state
  | event :: rest =>
      if guard state event then (sys.step state event).bind fun next => exec guard next rest
      else none

/-- A predicate that holds initially and is kept by every guarded step holds
in every state of a guarded run. The step premise may use reachability. -/
theorem ReachableUnder.invariant {guard : State → Event → Prop} (invariant : State → Prop)
    (hinit : ∀ state, sys.init state → invariant state)
    (hstep : ∀ state event next, sys.ReachableUnder guard state → invariant state →
      guard state event → sys.step state event = some next → invariant next)
    {state : State} (hreach : sys.ReachableUnder guard state) : invariant state := by
  induction hreach with
  | init h => exact hinit _ h
  | step hreach hguard hnext ih => exact hstep _ _ _ hreach ih hguard hnext

/-- A weaker guard admits more runs. -/
theorem ReachableUnder.mono {guard weaker : State → Event → Prop}
    (himp : ∀ state event, guard state event → weaker state event)
    {state : State} (hreach : sys.ReachableUnder guard state) :
    sys.ReachableUnder weaker state := by
  induction hreach with
  | init h => exact .init h
  | step _ hguard hnext ih => exact ih.step (himp _ _ hguard) hnext

theorem ReachableUnder.reachable {guard : State → Event → Prop} {state : State}
    (hreach : sys.ReachableUnder guard state) : sys.Reachable state :=
  hreach.mono sys fun _ _ _ => trivial

/-- A concrete run extends reachability. -/
theorem ReachableUnder.exec {guard : State → Event → Prop}
    [∀ state event, Decidable (guard state event)] {state next : State}
    (hreach : sys.ReachableUnder guard state) {events : List Event}
    (hexec : sys.exec guard state events = some next) : sys.ReachableUnder guard next := by
  induction events generalizing state with
  | nil =>
      cases hexec
      exact hreach
  | cons event rest ih =>
      simp only [TransitionSystem.exec, Option.ite_none_right_eq_some] at hexec
      obtain ⟨hguard, hexec⟩ := hexec
      obtain ⟨middle, hmiddle, hrest⟩ := Option.bind_eq_some_iff.mp hexec
      exact ih (hreach.step hguard hmiddle) hrest

/-- A concrete run that passes a check at its end gives a reachable state that
passes it. -/
theorem exists_reachable_of_exec {guard : State → Event → Prop}
    [∀ state event, Decidable (guard state event)] {state : State}
    (hreach : sys.ReachableUnder guard state) (events : List Event) (check : State → Bool)
    (hcheck : (sys.exec guard state events).any check = true) :
    ∃ next, sys.ReachableUnder guard next ∧ check next = true := by
  obtain ⟨next, hexec, hnext⟩ := (Option.any_eq_true _ _).mp hcheck
  exact ⟨next, ReachableUnder.exec sys hreach hexec, hnext⟩

end TransitionSystem

end Foundation
