import CollabEditor.Worker.Sessions

/-! # An initialisation whose subscription fails

The runtime is registered before the subscription is made, and nothing takes it back when
Redis rejects the command.
-/

namespace CollabEditor.Worker

open Foundation

namespace Manager

variable {Doc Raw : Type} (lib : Libraries Doc Raw) (manager : Manager Doc)

/-- The runtimes whose persistence timers run. -/
def timers : List RuntimeId :=
  (List.range manager.runtimes.length).filter fun id =>
    manager.runtimes[id]?.any DocumentRuntime.persistTimer

/-- `initializeDocument` is called, and `redisSubscriber.subscribe` rejects. -/
def subscriptionFails (request : InitializeRequest) : List (Event Raw) :=
  [.initializeDocument request, .resume 0 false]

/-- What a call that has failed should leave. The document is not found then, and another
initialisation finds no runtime that it has to shut down. -/
structure NoTrace (request : InitializeRequest) (after : Manager Doc) : Prop where
  documents : after.documents = manager.documents
  subscribedChannels : after.subscribedChannels = manager.subscribedChannels
  timers : after.timers = manager.timers
  notFound : after.syncDocument lib request.documentId = none
  unregistered : after.documents.lookup request.documentId = none

variable {lib manager} {request : InitializeRequest}

/-- The runtime that has been constructed stays registered, without a timer, a subscription or
a participant. -/
theorem exec_subscriptionFails (hnew : manager.documents.lookup request.documentId = none)
    (hchannel : documentChannel request.documentId ∉ manager.subscribedChannels) :
    (system lib).exec (fun _ _ => True) manager (subscriptionFails request) =
      some { manager with
        runtimes := manager.runtimes ++
          [.create lib request.documentId request.clientId request.content]
        documents := manager.documents.insert request.documentId manager.runtimes.length } := by
  simp only [subscriptionFails, TransitionSystem.exec, system, step, if_true,
    initializeDocument, hnew, installRuntime, if_neg hchannel, Option.bind_some, suspend,
    List.getElem?_cons_zero, withoutCall, List.eraseIdx_cons_zero, resume, Bool.false_eq_true,
    if_false]

/-- A call that fails always leaves its runtime, which sync requests are answered from. -/
theorem failed_initialization_leaves_runtime
    (hnew : manager.documents.lookup request.documentId = none)
    (hchannel : documentChannel request.documentId ∉ manager.subscribedChannels) :
    ∃ after, (system lib).exec (fun _ _ => True) manager (subscriptionFails request) = some after ∧
      ¬manager.NoTrace lib request after ∧
      after.syncDocument lib request.documentId = some ((DocumentRuntime.create lib
        request.documentId request.clientId request.content).snapshot lib) := by
  refine ⟨_, exec_subscriptionFails hnew hchannel, fun htrace => ?_, ?_⟩
  · have hentry := htrace.unregistered
    rw [AList.lookup_insert] at hentry
    cases hentry
  · simp [syncDocument]

/-- The session of document 7 cannot be subscribed. -/
theorem failed_initialization_leaves_runtime_first : ∃ after : Manager String,
    (system textLibraries).exec (fun _ _ => True) empty
        (subscriptionFails ⟨7, "text", 1, "owner", 0⟩) = some after ∧
      ¬empty.NoTrace textLibraries ⟨7, "text", 1, "owner", 0⟩ after ∧
      (after.syncDocument textLibraries 7).map WorkerSyncResponse.content = some "text" := by
  let request : InitializeRequest := ⟨7, "text", 1, "owner", 0⟩
  have hnew : (empty : Manager String).documents.lookup request.documentId = none := rfl
  obtain ⟨after, hafter, htrace, hsync⟩ := failed_initialization_leaves_runtime hnew
    (Finset.notMem_empty _)
  exact ⟨after, hafter, htrace, by rw [hsync]; rfl⟩

/-- The next participant of document 7 is answered from the runtime that no message reaches. -/
theorem unsubscribed_runtime_answers :
    ¬ ∀ (manager after : Manager String) (request : InitializeRequest),
      manager.documents.lookup request.documentId = none →
      (system textLibraries).exec (fun _ _ => True) manager (subscriptionFails request) =
        some after → manager.NoTrace textLibraries request after := by
  intro hclaim
  have hanswered : ((system textLibraries).exec (fun _ _ => True) (empty : Manager String)
      (subscriptionFails ⟨7, "text", 1, "owner", 0⟩)).any
        (fun after : Manager String => (after.syncDocument textLibraries 7).isSome) = true := by
    decide
  obtain ⟨after, hrun, hcheck⟩ := (Option.any_eq_true _ _).mp hanswered
  have hnone := (hclaim empty after _ rfl hrun).notFound
  rw [hnone] at hcheck
  cases hcheck

end Manager

end CollabEditor.Worker
