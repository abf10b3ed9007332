import CollabEditor.Backend.Effects
import CollabEditor.Worker.DocumentManager

/-! # The sync requests of one runtime

A runtime sends periodic requests from its timer and one final request from its
shutdown. None waits for another, so the backend may commit them in any order.
-/

namespace CollabEditor.Worker

open Foundation
open Backend (DocumentId Instant Database ServiceError WorkerOperation Document)

namespace Manager

variable {Doc Raw : Type} {lib : Libraries Doc Raw}

/-! ## What one event does to the runtimes and the requests -/

/-- The part of an event that concerns runtimes and requests. -/
inductive SessionEffect (before after : Manager Doc) : Prop
  | quiet (hruntimes : after.runtimes = before.runtimes)
      (hrequests : after.syncRequests = before.syncRequests)
  | rewrite (id : RuntimeId) (old new : DocumentRuntime Doc)
      (hold : before.runtimes[id]? = some old) (hdocument : new.documentId = old.documentId)
      (hflag : new.shutdownCompleted = old.shutdownCompleted)
      (hruntimes : after.runtimes = before.runtimes.set id new)
      (hrequests : after.syncRequests = before.syncRequests)
  | shutdown (id : RuntimeId) (runtime : DocumentRuntime Doc)
      (hruntime : before.runtimes[id]? = some runtime)
      (hruntimes : after.runtimes = before.runtimes.set id runtime.shutdown.1)
      (hrequests : after.syncRequests =
        before.syncRequests ++ runtime.shutdown.2.toList.map (id, ·))
  | install (runtime : DocumentRuntime Doc) (hflag : runtime.shutdownCompleted = false)
      (hruntimes : after.runtimes = before.runtimes ++ [runtime])
      (hrequests : after.syncRequests = before.syncRequests)
  | tick (id : RuntimeId) (runtime : DocumentRuntime Doc)
      (hruntime : before.runtimes[id]? = some runtime)
      (hruntimes : after.runtimes = before.runtimes)
      (hrequests : after.syncRequests =
        before.syncRequests ++ [(id, runtime.persistToSpringBoot)])

variable (manager : Manager Doc)

theorem returnTo_effect (caller : Caller) : SessionEffect manager (manager.returnTo caller) := by
  cases caller <;> exact .quiet rfl rfl

theorem closeDocument_effect (documentId : DocumentId) (caller : Caller) :
    SessionEffect manager (manager.closeDocument documentId caller) := by
  unfold closeDocument
  split
  next => exact manager.returnTo_effect caller
  next => split <;> exact .quiet rfl rfl

theorem closeNext_effect (ids : List DocumentId) :
    SessionEffect manager (manager.closeNext ids) := by
  cases ids with
  | nil => exact .quiet rfl rfl
  | cons documentId remaining => exact manager.closeDocument_effect documentId _

theorem shutdownRuntime_effect (id : RuntimeId) :
    SessionEffect manager (manager.shutdownRuntime id) := by
  unfold shutdownRuntime
  split
  next => exact .quiet rfl rfl
  next runtime hruntime => exact .shutdown id runtime hruntime rfl rfl

theorem installRuntime_effect (request : InitializeRequest) :
    SessionEffect manager (manager.installRuntime lib request) := by
  unfold installRuntime
  dsimp only
  split <;>
    exact .install (DocumentRuntime.create lib request.documentId request.clientId
      request.content) rfl rfl rfl

/-- The effect does not depend on the calls in progress or the registration. -/
theorem SessionEffect.of_eq {before after first last : Manager Doc}
    (heffect : SessionEffect before after) (hfirst : first.runtimes = before.runtimes)
    (hrequests : first.syncRequests = before.syncRequests) (hlast : last.runtimes = after.runtimes)
    (hsent : last.syncRequests = after.syncRequests) : SessionEffect first last := by
  cases heffect with
  | quiet h1 h2 => exact .quiet (by rw [hlast, hfirst, h1]) (by rw [hsent, hrequests, h2])
  | rewrite id old new hold hdocument hflag h1 h2 =>
      exact .rewrite id old new (hfirst ▸ hold) hdocument hflag (by rw [hlast, hfirst, h1])
        (by rw [hsent, hrequests, h2])
  | shutdown id runtime hruntime h1 h2 =>
      exact .shutdown id runtime (hfirst ▸ hruntime) (by rw [hlast, hfirst, h1])
        (by rw [hsent, hrequests, h2])
  | install runtime hflag h1 h2 =>
      exact .install runtime hflag (by rw [hlast, hfirst, h1]) (by rw [hsent, hrequests, h2])
  | tick id runtime hruntime h1 h2 =>
      exact .tick id runtime (hfirst ▸ hruntime) (by rw [hlast, hfirst, h1])
        (by rw [hsent, hrequests, h2])

theorem initializeDocument_effect (request : InitializeRequest) :
    SessionEffect manager (manager.initializeDocument lib request) := by
  unfold initializeDocument
  split
  next existing _ => exact (manager.shutdownRuntime_effect existing).of_eq rfl rfl rfl rfl
  next => exact manager.installRuntime_effect request

theorem startRuntime_effect (request : InitializeRequest) (id : RuntimeId) :
    SessionEffect manager (manager.startRuntime request id) := by
  unfold startRuntime
  split
  next => exact .quiet rfl rfl
  next runtime hruntime =>
    exact .rewrite id runtime { runtime.startAutoPersistence with
      participantMap := runtime.participantMap.insert request.userId request.username }
      hruntime rfl rfl rfl rfl

theorem handleRedisMessage_effect (channel : String) (rawMessage : Raw) :
    SessionEffect manager (manager.handleRedisMessage lib channel rawMessage) := by
  rcases handleRedisMessage_cases lib manager channel rawMessage with
    hdropped | ⟨documentId, id, runtime, envelope, applied, -, -, hruntime, -, happly, hhandled⟩
  · rw [hdropped]
    exact .quiet rfl rfl
  · rw [hhandled]
    obtain ⟨hdocument, -, hflag⟩ := runtime.applyEnvelope_sameLifecycle lib happly
    exact .rewrite id runtime applied hruntime hdocument hflag rfl rfl

theorem resume_effect (resolved : Bool) (frame : Frame) :
    SessionEffect manager (manager.resume lib resolved frame) := by
  cases frame with
  | initializeShutdown request existing =>
      let removed := { manager with documents := manager.documents.erase request.documentId }
      exact (removed.installRuntime_effect request).of_eq rfl rfl rfl rfl
  | initializeSubscribe request id =>
      dsimp only [resume]
      split <;> exact .quiet rfl rfl
  | initializeStart request id => exact manager.startRuntime_effect request id
  | handleApplied documentId id =>
      dsimp only [resume]
      split
      next => exact manager.closeDocument_effect documentId .direct
      next => exact .quiet rfl rfl
  | closeUnsubscribe documentId id caller =>
      dsimp only [resume]
      split
      next => exact .quiet rfl rfl
      next => exact manager.returnTo_effect caller
  | closeUnsubscribed documentId id caller =>
      exact (manager.shutdownRuntime_effect id).of_eq rfl rfl rfl rfl
  | closeShutdown documentId id caller =>
      let removed := { manager with documents := manager.documents.erase documentId }
      exact (removed.returnTo_effect caller).of_eq rfl rfl rfl rfl
  | shutdownAll remaining => exact manager.closeNext_effect remaining

/-- Every event has one of the effects. -/
theorem step_effect {manager next : Manager Doc} {event : Event Raw}
    (hstep : manager.step lib event = some next) : SessionEffect manager next := by
  cases step_cases hstep with
  | initializeDocument request =>
      exact manager.initializeDocument_effect request
  | handleRedisMessage channel rawMessage =>
      exact manager.handleRedisMessage_effect channel rawMessage
  | closeDocument documentId =>
      exact manager.closeDocument_effect documentId .direct
  | shutdownAll ids hkeys => exact manager.closeNext_effect ids
  | resume call resolved frame hframe =>
      exact ((manager.withoutCall call).resume_effect resolved frame).of_eq rfl rfl rfl rfl
  | tick id runtime hruntime htimer => exact .tick id runtime hruntime rfl rfl

/-! ## One final request -/

/-- The requests one runtime has sent, in order. -/
def requestsOf (requests : List (RuntimeId × SyncRequest)) (id : RuntimeId) : List SyncRequest :=
  (requests.filter fun sent => sent.1 = id).map Prod.snd

/-- A runtime's requests are about its document, and one of them is final
exactly when it has been shut down. -/
structure RequestsOk (manager : Manager Doc) : Prop where
  document : ∀ id runtime, manager.runtimes[id]? = some runtime →
    ∀ request ∈ requestsOf manager.syncRequests id, request.documentId = runtime.documentId
  final : ∀ id runtime, manager.runtimes[id]? = some runtime →
    (requestsOf manager.syncRequests id).countP SyncRequest.final =
      if runtime.shutdownCompleted then 1 else 0
  unborn : ∀ id, manager.runtimes.length ≤ id → requestsOf manager.syncRequests id = []

theorem empty_requestsOk : (empty : Manager Doc).RequestsOk where
  document := by simp [empty]
  final := by simp [empty]
  unborn := by simp [empty, requestsOf]

/-- A request of an existing runtime is appended, and the runtime rewritten
accordingly. -/
theorem RequestsOk.append {manager next : Manager Doc} (hok : manager.RequestsOk)
    {id : RuntimeId} {old new : DocumentRuntime Doc} (hold : manager.runtimes[id]? = some old)
    (hdocument : new.documentId = old.documentId) (sent : List SyncRequest)
    (hsent : ∀ request ∈ sent, request.documentId = old.documentId)
    (hfinal : (if old.shutdownCompleted then 1 else 0) + sent.countP SyncRequest.final =
      if new.shutdownCompleted then 1 else 0)
    (hruntimes : next.runtimes = manager.runtimes.set id new)
    (hrequests : next.syncRequests = manager.syncRequests ++ sent.map (id, ·)) :
    next.RequestsOk := by
  have hself : requestsOf next.syncRequests id = requestsOf manager.syncRequests id ++ sent := by
    simp [hrequests, requestsOf, List.filter_map, Function.comp_def]
  have hother : ∀ other, other ≠ id →
      requestsOf next.syncRequests other = requestsOf manager.syncRequests other := by
    intro other hne
    simp [hrequests, requestsOf, List.filter_map, Function.comp_def, Ne.symm hne]
  have hget : ∀ other, next.runtimes[other]? =
      if other = id then some new else manager.runtimes[other]? := by
    intro other
    have hlength : id < manager.runtimes.length := (List.getElem?_eq_some_iff.mp hold).1
    by_cases heq : other = id
    · simp [hruntimes, heq, hlength]
    · simp [hruntimes, heq, Ne.symm heq]
  refine ⟨?_, ?_, ?_⟩
  · intro other runtime hruntime request hrequest
    rw [hget] at hruntime
    split at hruntime
    next heq =>
      cases hruntime
      subst heq
      rw [hself, List.mem_append] at hrequest
      rw [hdocument]
      exact hrequest.elim (hok.document other old hold request) (hsent request)
    next hne => exact hok.document other runtime hruntime request (hother other hne ▸ hrequest)
  · intro other runtime hruntime
    rw [hget] at hruntime
    split at hruntime
    next heq =>
      cases hruntime
      subst heq
      rw [hself, List.countP_append, hok.final other old hold, hfinal]
    next hne =>
      rw [hother other hne]
      exact hok.final other runtime hruntime
  · intro other hlength
    rw [hruntimes, List.length_set] at hlength
    have hne : other ≠ id := by
      rintro rfl
      rw [List.getElem?_eq_none hlength] at hold
      cases hold
    rw [hother other hne]
    exact hok.unborn other hlength

theorem RequestsOk.effect {manager next : Manager Doc} (hok : manager.RequestsOk)
    (heffect : SessionEffect manager next) : next.RequestsOk := by
  cases heffect with
  | quiet hruntimes hrequests =>
      exact ⟨hruntimes ▸ hrequests ▸ hok.document, hruntimes ▸ hrequests ▸ hok.final,
        hruntimes ▸ hrequests ▸ hok.unborn⟩
  | rewrite id old new hold hdocument hflag hruntimes hrequests =>
      exact hok.append hold hdocument [] (by simp) (by simp [hflag]) hruntimes
        (by simpa using hrequests)
  | shutdown id runtime hruntime hruntimes hrequests =>
      refine hok.append hruntime (by simp) runtime.shutdown.2.toList ?_ ?_ hruntimes hrequests
      · intro request hrequest
        unfold DocumentRuntime.shutdown at hrequest
        split at hrequest
        next => simp at hrequest
        next =>
          simp only [Option.toList_some, List.mem_singleton] at hrequest
          rw [hrequest]
      · unfold DocumentRuntime.shutdown
        split
        next => simp
        next => simp
  | install runtime hflag hruntimes hrequests =>
      have hget : ∀ id found, next.runtimes[id]? = some found →
          manager.runtimes[id]? = some found ∨ manager.runtimes.length ≤ id ∧ found = runtime := by
        intro id found hfound
        rw [hruntimes, List.getElem?_append] at hfound
        split at hfound
        next => exact .inl hfound
        next hnew =>
          exact .inr ⟨Nat.le_of_not_lt hnew, List.mem_singleton.mp (List.mem_of_getElem? hfound)⟩
      refine ⟨?_, ?_, ?_⟩
      · intro id found hfound
        rw [hrequests]
        rcases hget id found hfound with hbefore | ⟨hnew, -⟩
        · exact hok.document id found hbefore
        -- nothing has been sent for a runtime that is new
        · simp [hok.unborn id hnew]
      · intro id found hfound
        rw [hrequests]
        rcases hget id found hfound with hbefore | ⟨hnew, rfl⟩
        · exact hok.final id found hbefore
        · simp [hok.unborn id hnew, hflag]
      · intro id hlength
        rw [hruntimes, List.length_append, List.length_singleton] at hlength
        rw [hrequests]
        exact hok.unborn id (Nat.le_of_succ_le hlength)
  -- a periodic request is no final one, and the runtime stays as it is
  | tick id runtime hruntime hruntimes hrequests =>
      refine hok.append hruntime rfl [runtime.persistToSpringBoot] ?_ ?_ ?_ hrequests
      · intro request hrequest
        rw [List.mem_singleton.mp hrequest]
        rfl
      · simp [DocumentRuntime.persistToSpringBoot]
      · obtain ⟨hbound, rfl⟩ := List.getElem?_eq_some_iff.mp hruntime
        rw [hruntimes, List.set_getElem_self]

theorem reachable_requestsOk {manager : Manager Doc} (hreach : (system lib).Reachable manager) :
    manager.RequestsOk := by
  refine hreach.invariant (system lib) RequestsOk ?_ ?_
  · rintro start rfl
    exact empty_requestsOk
  · exact fun before event next _ hok _ hstep => hok.effect (step_effect hstep)

end Manager

end CollabEditor.Worker
