import CollabEditor.Worker.DocumentManager

/-! # What only a message of Redis changes

The calls of the manager leave what the room has told a runtime alone. A new runtime
has been told nothing.
-/

namespace CollabEditor.Worker

open Backend (DocumentId)

variable {Doc Raw Value : Type} {lib : Libraries Doc Raw}

/-- A field that is the same in every new runtime, and that neither the shutdown nor the end
of an initialisation changes. -/
structure RoomField (lib : Libraries Doc Raw) (field : DocumentRuntime Doc → Value)
    (first : Value) : Prop where
  created : ∀ documentId clientId content, field (.create lib documentId clientId content) = first
  shutdown : ∀ runtime, field runtime.shutdown.1 = field runtime
  started : ∀ runtime participantMap,
    field { runtime.startAutoPersistence with participantMap := participantMap } = field runtime

namespace Manager

/-- Each runtime keeps the field, or is new. -/
def KeepsField (field : DocumentRuntime Doc → Value) (first : Value) (before after : Manager Doc) :
    Prop :=
  ∀ (id : RuntimeId) (next : DocumentRuntime Doc), after.runtimes[id]? = some next →
    (∃ runtime : DocumentRuntime Doc, before.runtimes[id]? = some runtime ∧
      field next = field runtime) ∨
    id = before.runtimes.length ∧ field next = first

variable {field : DocumentRuntime Doc → Value} {first : Value}

theorem KeepsField.of_same {before after : Manager Doc}
    (hruntimes : after.runtimes = before.runtimes) : KeepsField field first before after :=
  fun _ next hnext => .inl ⟨next, hruntimes ▸ hnext, rfl⟩

variable (manager : Manager Doc)

theorem setRuntime_keepsField {id : RuntimeId} {old new : DocumentRuntime Doc}
    (hold : manager.runtimes[id]? = some old) (hfield : field new = field old) :
    KeepsField field first manager (manager.setRuntime id new) := by
  intro other next hnext
  have hbound := (List.getElem?_eq_some_iff.mp hold).1
  by_cases heq : id = other
  · subst heq
    rw [setRuntime, List.getElem?_set_self hbound, Option.some.injEq] at hnext
    subst hnext
    exact .inl ⟨old, hold, hfield⟩
  · rw [setRuntime, List.getElem?_set_ne heq] at hnext
    exact .inl ⟨next, hnext, rfl⟩

theorem shutdownRuntime_keepsField (hfield : RoomField lib field first) (id : RuntimeId) :
    KeepsField field first manager (manager.shutdownRuntime id) := by
  unfold shutdownRuntime
  split
  next => exact .of_same rfl
  next runtime hruntime => exact manager.setRuntime_keepsField hruntime (hfield.shutdown runtime)

theorem returnTo_runtimes (caller : Caller) :
    (manager.returnTo caller).runtimes = manager.runtimes := by
  cases caller <;> rfl

theorem closeDocument_runtimes (documentId : DocumentId) (caller : Caller) :
    (manager.closeDocument documentId caller).runtimes = manager.runtimes := by
  unfold closeDocument
  split
  next => exact manager.returnTo_runtimes caller
  next => split <;> rfl

theorem closeNext_runtimes (ids : List DocumentId) :
    (manager.closeNext ids).runtimes = manager.runtimes := by
  cases ids with
  | nil => rfl
  | cons documentId remaining => exact manager.closeDocument_runtimes documentId _

theorem installRuntime_keepsField (hfield : RoomField lib field first)
    (request : InitializeRequest) :
    KeepsField field first manager (manager.installRuntime lib request) := by
  have hruntimes : (manager.installRuntime lib request).runtimes = manager.runtimes ++
      [.create lib request.documentId request.clientId request.content] := by
    unfold installRuntime
    dsimp only
    split <;> rfl
  intro id next hnext
  rw [hruntimes, List.getElem?_append] at hnext
  split at hnext
  next => exact .inl ⟨next, hnext, rfl⟩
  next hnew =>
    obtain ⟨hbound, hcreated⟩ := List.getElem?_eq_some_iff.mp hnext
    rw [List.length_singleton] at hbound
    refine .inr ⟨by lia, ?_⟩
    rw [← hcreated, List.getElem_singleton]
    exact hfield.created _ _ _

theorem resume_keepsField (hfield : RoomField lib field first) (resolved : Bool) (frame : Frame) :
    KeepsField field first manager (manager.resume lib resolved frame) := by
  cases frame with
  | initializeShutdown request existing => exact installRuntime_keepsField _ hfield request
  | initializeSubscribe request id =>
      dsimp only [resume]
      split <;> exact .of_same rfl
  | initializeStart request id =>
      dsimp only [resume, startRuntime]
      split
      next => exact .of_same rfl
      next runtime hruntime =>
        exact manager.setRuntime_keepsField hruntime (hfield.started runtime _)
  | handleApplied documentId id =>
      dsimp only [resume]
      split
      next => exact .of_same (manager.closeDocument_runtimes documentId .direct)
      next => exact .of_same rfl
  | closeUnsubscribe documentId id caller =>
      dsimp only [resume]
      split
      next => exact .of_same rfl
      next => exact .of_same (manager.returnTo_runtimes caller)
  | closeUnsubscribed documentId id caller => exact manager.shutdownRuntime_keepsField hfield id
  | closeShutdown documentId id caller =>
      exact .of_same (returnTo_runtimes _ caller)
  | shutdownAll remaining => exact .of_same (manager.closeNext_runtimes remaining)

/-- No event but a message of Redis changes the field. -/
theorem step_keepsField (hfield : RoomField lib field first) {manager next : Manager Doc}
    {event : Event Raw}
    (hevent : ∀ channel rawMessage, event ≠ .handleRedisMessage channel rawMessage)
    (hstep : manager.step lib event = some next) : KeepsField field first manager next := by
  cases step_cases hstep with
  | initializeDocument request =>
      unfold initializeDocument
      split
      next existing _ => exact manager.shutdownRuntime_keepsField hfield existing
      next => exact manager.installRuntime_keepsField hfield request
  | handleRedisMessage channel rawMessage => exact absurd rfl (hevent channel rawMessage)
  | closeDocument documentId =>
      exact .of_same (manager.closeDocument_runtimes documentId .direct)
  | shutdownAll ids hkeys => exact .of_same (manager.closeNext_runtimes ids)
  | resume call resolved frame hframe =>
      exact (manager.withoutCall call).resume_keepsField hfield resolved frame
  | tick id runtime hruntime htimer => exact .of_same rfl

end Manager

end CollabEditor.Worker
