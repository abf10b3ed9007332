import CollabEditor.Worker.Edits
import CollabEditor.Worker.Sessions
import CollabEditor.Worker.SyncRequests

/-! # What is persisted when a runtime is removed

A call that waits for `runtime.shutdown()` waits for the answer to its final
request, unless the runtime had been shut down before: then there is nothing to
wait for. A failed request is logged and the call goes on.
-/

namespace CollabEditor.Worker

open Foundation
open Backend (DocumentId)

/-- The document and the runtime whose entry a call deletes when it goes on. -/
def Frame.removes : Frame → Option (DocumentId × RuntimeId)
  | .initializeShutdown request existing => some (request.documentId, existing)
  | .closeShutdown documentId runtime _ => some (documentId, runtime)
  | _ => none

/-- What a call waits in that has shut a runtime down when it goes on. -/
def Frame.shutdownFrame : Frame → Option Frame
  | .closeUnsubscribed documentId runtime caller => some (.closeShutdown documentId runtime caller)
  | _ => none

namespace Manager

variable {Doc Raw : Type} {lib : Libraries Doc Raw}

/-- The runtime has been shut down. -/
def Completed (manager : Manager Doc) (id : RuntimeId) : Prop :=
  ∃ runtime, manager.runtimes[id]? = some runtime ∧ runtime.shutdownCompleted = true

/-- What a waiting call knows about its runtime. -/
def Ready (manager : Manager Doc) : Frame → Prop
  | .initializeShutdown _ id | .closeShutdown _ id _ => manager.Completed id
  | .closeUnsubscribe _ id _ | .closeUnsubscribed _ id _ => id < manager.runtimes.length
  | _ => True

/-- Registered runtimes and those of waiting calls exist. -/
structure Known (manager : Manager Doc) : Prop where
  registered : ∀ documentId id, manager.documents.lookup documentId = some id →
    id < manager.runtimes.length
  calls : ∀ frame ∈ manager.calls, manager.Ready frame

theorem empty_known : (empty : Manager Doc).Known := ⟨by simp [empty], by simp [empty]⟩

theorem Known.appliedEdit_lt {manager : Manager Doc} (h : manager.Known) {event : Event Raw}
    {id : RuntimeId} {update : List UInt8}
    (hedit : manager.appliedEdit lib event = some (id, update)) : id < manager.runtimes.length := by
  cases event with
  | handleRedisMessage channel rawMessage =>
      obtain ⟨documentId, -, -, hlookup, -⟩ := manager.editOf_spec hedit
      exact h.registered documentId id hlookup
  | initializeDocument | closeDocument | shutdownAll | resume | tick => cases hedit

theorem Completed.effect {before after : Manager Doc} {id : RuntimeId} (h : before.Completed id)
    (heffect : SessionEffect before after) : after.Completed id := by
  obtain ⟨runtime, hruntime, hdone⟩ := h
  have hbound := (List.getElem?_eq_some_iff.mp hruntime).1
  cases heffect with
  | quiet hruntimes | tick _ _ _ hruntimes => exact ⟨runtime, hruntimes ▸ hruntime, hdone⟩
  | install other hflag hruntimes =>
      refine ⟨runtime, ?_, hdone⟩
      rw [hruntimes]
      exact Foundation.List.getElem?_of_prefix (List.prefix_append _ _) hruntime
  | rewrite other old new hold hdocument hflag hruntimes =>
      by_cases heq : other = id
      · subst heq
        cases hold.symm.trans hruntime
        exact ⟨new, by simp [hruntimes, hbound], hflag.trans hdone⟩
      · exact ⟨runtime, by simp [hruntimes, heq, hruntime], hdone⟩
  | shutdown other old hold hruntimes =>
      by_cases heq : other = id
      · subst heq
        exact ⟨old.shutdown.1, by simp [hruntimes, hbound], old.shutdown_shutdownCompleted⟩
      · exact ⟨runtime, by simp [hruntimes, heq, hruntime], hdone⟩

/-- A runtime stays one of its document. -/
theorem SessionEffect.documentId {before after : Manager Doc}
    (heffect : SessionEffect before after) {id : RuntimeId} {runtime : DocumentRuntime Doc}
    (hruntime : before.runtimes[id]? = some runtime) :
    ∃ next, after.runtimes[id]? = some next ∧ next.documentId = runtime.documentId := by
  have hbound := (List.getElem?_eq_some_iff.mp hruntime).1
  cases heffect with
  | quiet hruntimes | tick _ _ _ hruntimes => exact ⟨runtime, hruntimes ▸ hruntime, rfl⟩
  | install other hflag hruntimes =>
      refine ⟨runtime, ?_, rfl⟩
      rw [hruntimes]
      exact Foundation.List.getElem?_of_prefix (List.prefix_append _ _) hruntime
  | rewrite other old new hold hdocument _ hruntimes =>
      by_cases heq : other = id
      · subst heq
        cases hold.symm.trans hruntime
        exact ⟨new, by simp [hruntimes, hbound], hdocument⟩
      · exact ⟨runtime, by simp [hruntimes, heq, hruntime], rfl⟩
  | shutdown other old hold hruntimes =>
      by_cases heq : other = id
      · subst heq
        cases hold.symm.trans hruntime
        exact ⟨runtime.shutdown.1, by simp [hruntimes, hbound], runtime.shutdown_documentId⟩
      · exact ⟨runtime, by simp [hruntimes, heq, hruntime], rfl⟩

theorem SessionEffect.length_le {before after : Manager Doc}
    (heffect : SessionEffect before after) : before.runtimes.length ≤ after.runtimes.length := by
  cases heffect with
  | quiet hruntimes | tick _ _ _ hruntimes => rw [hruntimes]
  | install _ _ hruntimes =>
      rw [hruntimes, List.length_append]
      exact Nat.le_add_right _ _
  | rewrite _ _ _ _ _ _ hruntimes | shutdown _ _ _ hruntimes => rw [hruntimes, List.length_set]

theorem Ready.effect {before after : Manager Doc} {frame : Frame} (h : before.Ready frame)
    (heffect : SessionEffect before after) : after.Ready frame := by
  cases frame with
  | initializeShutdown | closeShutdown => exact Completed.effect h heffect
  | closeUnsubscribe | closeUnsubscribed => exact lt_of_lt_of_le h heffect.length_le
  | initializeSubscribe | initializeStart | handleApplied | shutdownAll => trivial

/-- What a call waits in that has shut a runtime down in an event. -/
def shutdownFrame (manager : Manager Doc) : Event Raw → Option Frame
  | .initializeDocument request =>
      (manager.documents.lookup request.documentId).map (.initializeShutdown request)
  | .resume call _ => manager.calls[call]?.bind Frame.shutdownFrame
  | _ => none

/-- The runtime an event shuts down, with the document it is to be removed from. -/
def shutsDown (manager : Manager Doc) (event : Event Raw) : Option (DocumentId × RuntimeId) :=
  (manager.shutdownFrame event).bind Frame.removes

/-- The calls that go on waiting. -/
def waiting (manager : Manager Doc) : Event Raw → List Frame
  | .resume call _ => manager.calls.eraseIdx call
  | _ => manager.calls

/-- One call at most starts to wait; it is the given one if it has shut a runtime
down. -/
structure Suspends (calls : List Frame) (shutdown : Option Frame)
    (before after : Manager Doc) : Prop where
  registered : ∀ documentId id, after.documents.lookup documentId = some id →
    before.documents.lookup documentId = some id ∨ id < after.runtimes.length
  calls : ∃ new : Option Frame, after.calls = new.toList ++ calls ∧
    (new.filter fun frame => frame.removes.isSome) = shutdown ∧
      ∀ frame, new = some frame → after.Ready frame

variable {manager : Manager Doc} {calls : List Frame}

theorem Suspends.same {after : Manager Doc} (hdocuments : after.documents = manager.documents)
    (hcalls : after.calls = calls) : Suspends calls none manager after :=
  ⟨fun _ _ hid => .inl (hdocuments ▸ hid), none, hcalls, rfl, nofun⟩

theorem Suspends.one {after : Manager Doc} {frame : Frame} {shutdown : Option Frame}
    (hdocuments : after.documents = manager.documents) (hcalls : after.calls = frame :: calls)
    (hshutdown : ((some frame).filter fun frame => frame.removes.isSome) = shutdown)
    (hready : after.Ready frame) : Suspends calls shutdown manager after := by
  refine ⟨fun _ _ hid => .inl (hdocuments ▸ hid), some frame, hcalls, hshutdown, ?_⟩
  intro found hfound
  cases hfound
  exact hready

/-- The entry may be deleted before the rest of the call. -/
theorem Suspends.erase {before after : Manager Doc} {shutdown : Option Frame}
    {documentId : DocumentId} (hbefore : before.documents = manager.documents.erase documentId)
    (h : Suspends calls shutdown before after) : Suspends calls shutdown manager after := by
  refine ⟨fun other id hid => ?_, h.calls⟩
  rcases h.registered other id hid with hold | hnew
  · rw [hbefore] at hold
    by_cases heq : other = documentId
    · subst heq
      simp at hold
    · exact .inl (by simpa [AList.lookup_erase_ne heq] using hold)
  · exact .inr hnew

theorem returnTo_suspends (manager : Manager Doc) (caller : Caller) :
    Suspends manager.calls none manager (manager.returnTo caller) := by
  cases caller with
  | direct => exact .same rfl rfl
  | shutdownAll remaining => exact .one rfl rfl rfl trivial

theorem closeDocument_suspends
    (hregistered : ∀ documentId id, manager.documents.lookup documentId = some id →
      id < manager.runtimes.length) (documentId : DocumentId) (caller : Caller) :
    Suspends manager.calls none manager (manager.closeDocument documentId caller) := by
  unfold closeDocument
  split
  next => exact returnTo_suspends manager caller
  next id hid =>
    split
    next => exact .one rfl rfl rfl (hregistered documentId id hid)
    next => exact .one rfl rfl rfl (hregistered documentId id hid)

theorem closeNext_suspends
    (hregistered : ∀ documentId id, manager.documents.lookup documentId = some id →
      id < manager.runtimes.length) (ids : List DocumentId) :
    Suspends manager.calls none manager (manager.closeNext ids) := by
  cases ids with
  | nil => exact .same rfl rfl
  | cons documentId remaining => exact closeDocument_suspends hregistered documentId _

theorem installRuntime_suspends (manager : Manager Doc) (request : InitializeRequest) :
    Suspends manager.calls none manager (manager.installRuntime lib request) := by
  have hregistered : ∀ documentId id,
      (manager.documents.insert request.documentId manager.runtimes.length).lookup documentId =
        some id → manager.documents.lookup documentId = some id ∨
          id < manager.runtimes.length + 1 := by
    intro documentId id hid
    by_cases heq : documentId = request.documentId
    · subst heq
      rw [AList.lookup_insert, Option.some.injEq] at hid
      exact .inr (hid ▸ Nat.lt_succ_self _)
    · exact .inl (by simpa [AList.lookup_insert_ne heq] using hid)
  unfold installRuntime
  dsimp only
  split
  all_goals
    refine ⟨fun documentId id hid => ?_, some _, rfl, rfl, ?_⟩
    · simpa [suspend] using hregistered documentId id hid
    · intro found hfound
      cases hfound
      trivial

/-- A shutdown changes the runtime and the requests only, and completes it. -/
theorem shutdownRuntime_spec {id : RuntimeId} (hbound : id < manager.runtimes.length) :
    (manager.shutdownRuntime id).documents = manager.documents ∧
      (manager.shutdownRuntime id).calls = manager.calls ∧
      (manager.shutdownRuntime id).Completed id := by
  unfold shutdownRuntime
  split
  next hnone =>
    rw [List.getElem?_eq_none_iff] at hnone
    exact absurd hbound (not_lt.mpr hnone)
  next runtime hruntime =>
    refine ⟨rfl, rfl, runtime.shutdown.1, ?_, runtime.shutdown_shutdownCompleted⟩
    simp [setRuntime, hbound]

theorem shutdownRuntime_suspends {id : RuntimeId} (hbound : id < manager.runtimes.length)
    {frame : Frame} {documentId : DocumentId} (hframe : frame.removes = some (documentId, id)) :
    Suspends manager.calls (some frame) manager
      ((manager.shutdownRuntime id).suspend frame) := by
  obtain ⟨hdocuments, hcalls, hdone⟩ := shutdownRuntime_spec hbound
  refine .one hdocuments (congrArg (frame :: ·) hcalls) (by simp [hframe]) ?_
  cases frame with
  | initializeShutdown | closeShutdown =>
      cases hframe
      exact hdone
  | initializeSubscribe | initializeStart | handleApplied | closeUnsubscribe | closeUnsubscribed
  | shutdownAll => cases hframe

theorem resume_suspends (h : manager.Known) {resolved : Bool} {frame : Frame}
    (hready : manager.Ready frame) :
    Suspends manager.calls frame.shutdownFrame manager (manager.resume lib resolved frame) := by
  cases frame with
  | initializeShutdown request existing =>
      let removed := { manager with documents := manager.documents.erase request.documentId }
      exact (removed.installRuntime_suspends request).erase rfl
  | initializeSubscribe request id =>
      dsimp only [resume]
      split
      next => exact .one rfl rfl rfl trivial
      next => exact .same rfl rfl
  | initializeStart request id =>
      dsimp only [resume, startRuntime]
      split <;> exact .same rfl rfl
  | handleApplied documentId id =>
      dsimp only [resume]
      split
      next => exact closeDocument_suspends h.registered documentId .direct
      next => exact .same rfl rfl
  | closeUnsubscribe documentId id caller =>
      dsimp only [resume]
      split
      next => exact .one rfl rfl rfl hready
      next => exact returnTo_suspends manager caller
  | closeUnsubscribed documentId id caller => exact shutdownRuntime_suspends hready rfl
  | closeShutdown documentId id caller =>
      let removed := { manager with documents := manager.documents.erase documentId }
      exact (removed.returnTo_suspends caller).erase rfl
  | shutdownAll remaining => exact closeNext_suspends h.registered remaining

theorem step_suspends (h : manager.Known) {event : Event Raw} {next : Manager Doc}
    (hstep : manager.step lib event = some next) :
    Suspends (manager.waiting event) (manager.shutdownFrame event) manager next := by
  cases step_cases hstep with
  | initializeDocument request =>
      cases hexisting : manager.documents.lookup request.documentId with
      | some existing =>
          simp only [initializeDocument, shutdownFrame, hexisting]
          exact shutdownRuntime_suspends (h.registered _ existing hexisting) rfl
      | none =>
          simp only [initializeDocument, shutdownFrame, hexisting]
          exact installRuntime_suspends manager request
  | handleRedisMessage channel rawMessage =>
      rcases handleRedisMessage_cases lib manager channel rawMessage with
        hdropped | ⟨documentId, id, runtime, envelope, applied, -, -, -, -, -, hhandled⟩
      · rw [hdropped]
        exact .same rfl rfl
      · rw [hhandled]
        exact .one rfl rfl rfl trivial
  | closeDocument documentId =>
      exact closeDocument_suspends h.registered documentId .direct
  | shutdownAll ids hkeys => exact closeNext_suspends h.registered ids
  | resume call resolved frame hframe =>
      have hready : (manager.withoutCall call).Ready frame := by
        have hold := h.calls frame (List.mem_of_getElem? hframe)
        cases frame <;> exact hold
      have hknown : (manager.withoutCall call).Known := by
        refine ⟨h.registered, fun other hother => ?_⟩
        have hold := h.calls other (List.mem_of_mem_eraseIdx hother)
        cases other <;> exact hold
      have hshutdown : manager.shutdownFrame (.resume call resolved : Event Raw) =
          frame.shutdownFrame := by
        simp [shutdownFrame, hframe]
      have hresume : Suspends (manager.withoutCall call).calls frame.shutdownFrame
          (manager.withoutCall call) ((manager.withoutCall call).resume lib resolved frame) :=
        resume_suspends hknown hready
      rw [hshutdown]
      exact ⟨hresume.registered, hresume.calls⟩
  | tick id runtime hruntime htimer => exact .same rfl rfl

theorem Known.step (h : manager.Known) {event : Event Raw} {next : Manager Doc}
    (hstep : manager.step lib event = some next) : next.Known := by
  have heffect := step_effect hstep
  obtain ⟨hregistered, new, hcalls, -, hnew⟩ := step_suspends h hstep
  refine ⟨fun documentId id hid => ?_, fun frame hframe => ?_⟩
  · rcases hregistered documentId id hid with hold | hbound
    · exact lt_of_lt_of_le (h.registered documentId id hold) heffect.length_le
    · exact hbound
  · rw [hcalls, List.mem_append, Option.mem_toList] at hframe
    rcases hframe with hframe | hframe
    · exact hnew frame hframe
    · refine (h.calls frame ?_).effect heffect
      cases event with
      | resume call resolved => exact List.mem_of_mem_eraseIdx hframe
      | initializeDocument | handleRedisMessage | closeDocument | shutdownAll | tick =>
          exact hframe

end Manager

end CollabEditor.Worker
