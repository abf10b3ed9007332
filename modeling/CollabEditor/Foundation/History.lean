import CollabEditor.Foundation.TransitionSystem
import Mathlib.Logic.Relation

/-! # Runs with their past, and what follows a state

A fact about who did what before a state is a fact about the run that reaches it. The
history of a run lists its steps: each event with the state it left.
-/

namespace Foundation.TransitionSystem

universe uState uEvent

variable {State : Type uState} {Event : Type uEvent}
variable (sys : TransitionSystem State Event)

/-- A run with this history reaches the state. -/
inductive ReachableBy : List (State × Event) → State → Prop
  | init {state} (hinit : sys.init state) : ReachableBy [] state
  | step {history state event next} (hreach : ReachableBy history state)
      (hstep : sys.step state event = some next) :
      ReachableBy (history ++ [(state, event)]) next

variable {sys}

theorem ReachableBy.reachable {history : List (State × Event)} {state : State}
    (hreach : sys.ReachableBy history state) : sys.Reachable state := by
  induction hreach with
  | init hinit => exact .init hinit
  | step _ hstep ih => exact ih.step trivial hstep

theorem ReachableUnder.exists_history {guard : State → Event → Prop} {state : State}
    (hreach : sys.ReachableUnder guard state) : ∃ history, sys.ReachableBy history state := by
  induction hreach with
  | init hinit => exact ⟨[], .init hinit⟩
  | step _ _ hstep ih =>
      obtain ⟨history, hhistory⟩ := ih
      exact ⟨_, hhistory.step hstep⟩

/-- What holds of the empty history and is kept by every step holds of every run. -/
theorem ReachableBy.invariant (invariant : List (State × Event) → State → Prop)
    (hinit : ∀ state, sys.init state → invariant [] state)
    (hstep : ∀ history state event next, sys.ReachableBy history state →
      invariant history state → sys.step state event = some next →
      invariant (history ++ [(state, event)]) next)
    {history : List (State × Event)} {state : State}
    (hreach : sys.ReachableBy history state) : invariant history state := by
  induction hreach with
  | init h => exact hinit _ h
  | step hreach hnext ih => exact hstep _ _ _ _ hreach ih hnext

/-- The steps of an execution come after the history. -/
theorem ReachableBy.exec {guard : State → Event → Prop}
    [∀ state event, Decidable (guard state event)] {history : List (State × Event)}
    {state next : State} (hreach : sys.ReachableBy history state) {events : List Event}
    (hexec : sys.exec guard state events = some next) :
    ∃ steps, steps.map Prod.snd = events ∧ sys.ReachableBy (history ++ steps) next := by
  induction events generalizing history state with
  | nil =>
      cases hexec
      exact ⟨[], rfl, by simpa using hreach⟩
  | cons event rest ih =>
      simp only [TransitionSystem.exec, Option.ite_none_right_eq_some] at hexec
      obtain ⟨-, hexec⟩ := hexec
      obtain ⟨middle, hmiddle, hrest⟩ := Option.bind_eq_some_iff.mp hexec
      obtain ⟨steps, hsteps, hlater⟩ := ih (hreach.step hmiddle) hrest
      refine ⟨(state, event) :: steps, by rw [List.map_cons, hsteps], ?_⟩
      simpa using hlater

variable (sys)

/-- A run leads from the first state to the second. -/
abbrev Leads : State → State → Prop :=
  Relation.ReflTransGen fun state next => ∃ event, sys.step state event = some next

variable {sys}

theorem Leads.reachable {state later : State} (hlater : sys.Leads state later)
    (hreach : sys.Reachable state) : sys.Reachable later := by
  induction hlater with
  | refl => exact hreach
  | tail _ hstep ih =>
      obtain ⟨event, hstep⟩ := hstep
      exact ih.step trivial hstep

/-- What every step from a reachable state keeps is kept by every run. -/
theorem Leads.keeps (kept : State → Prop) {state later : State} (hlater : sys.Leads state later)
    (hreach : sys.Reachable state) (hstart : kept state)
    (hstep : ∀ state event next, sys.Reachable state → kept state →
      sys.step state event = some next → kept next) : kept later := by
  induction hlater with
  | refl => exact hstart
  | tail hleads hlast ih =>
      obtain ⟨event, hlast⟩ := hlast
      exact hstep _ _ _ (Leads.reachable hleads hreach) ih hlast

theorem Leads.exec {guard : State → Event → Prop}
    [∀ state event, Decidable (guard state event)] {state next : State} {events : List Event}
    (hexec : sys.exec guard state events = some next) : sys.Leads state next := by
  induction events generalizing state with
  | nil =>
      cases hexec
      exact .refl
  | cons event rest ih =>
      simp only [TransitionSystem.exec, Option.ite_none_right_eq_some] at hexec
      obtain ⟨-, hexec⟩ := hexec
      obtain ⟨middle, hmiddle, hrest⟩ := Option.bind_eq_some_iff.mp hexec
      exact .head ⟨event, hmiddle⟩ (ih hrest)

theorem exec_append (guard : State → Event → Prop)
    [∀ state event, Decidable (guard state event)] (state : State) (first rest : List Event) :
    sys.exec guard state (first ++ rest) =
      (sys.exec guard state first).bind fun next => sys.exec guard next rest := by
  induction first generalizing state with
  | nil => rfl
  | cons event first ih =>
      simp only [List.cons_append, TransitionSystem.exec]
      split
      next =>
        cases sys.step state event with
        | none => rfl
        | some next => exact ih next
      next => rfl

end Foundation.TransitionSystem
