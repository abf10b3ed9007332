import Mathlib.Data.Finset.Basic
import Std.Data.String.ToInt
import CollabEditor.Foundation.TransitionSystem
import CollabEditor.Worker.DocumentRuntime

/-! # The document manager of the state worker

JavaScript runs a method up to its next `await` without interruption. A call
that waits is a frame, which holds the local variables the rest of the method
uses; resuming it is an event of its own, so any other call, Redis message or
timer may come in between. Commands to Redis take effect when their promise
resolves, and have none when it rejects.
-/

namespace CollabEditor.Worker

open Foundation
open Backend (DocumentId)

/-- Runtimes are objects: they live on while only a timer or a frame refers to
them. -/
abbrev RuntimeId := Nat

/-- The arguments of `initializeDocument`, and the client id Yjs draws. -/
structure InitializeRequest where
  documentId : DocumentId
  content : String
  userId : Rat
  username : String
  clientId : Nat
deriving DecidableEq, Repr

/-- What waits for a `closeDocument` call. -/
inductive Caller
  | direct
  /-- The loop of `shutdownAll`, with the ids it has not closed yet. -/
  | shutdownAll (remaining : List DocumentId)
deriving DecidableEq, Repr

/-- A call at one of its `await`s. -/
inductive Frame
  /-- `initializeDocument` awaiting `existing.shutdown()`. -/
  | initializeShutdown (request : InitializeRequest) (existing : RuntimeId)
  /-- `initializeDocument` awaiting `redisSubscriber.subscribe`. -/
  | initializeSubscribe (request : InitializeRequest) (runtime : RuntimeId)
  /-- `initializeDocument` awaiting `subscribeToDocument`, which has returned. -/
  | initializeStart (request : InitializeRequest) (runtime : RuntimeId)
  /-- `handleRedisMessage` awaiting `applyEnvelope`, which has returned. -/
  | handleApplied (documentId : DocumentId) (runtime : RuntimeId)
  /-- `closeDocument` awaiting `redisSubscriber.unsubscribe`. -/
  | closeUnsubscribe (documentId : DocumentId) (runtime : RuntimeId) (caller : Caller)
  /-- `closeDocument` awaiting `unsubscribeFromDocument`, which has returned. -/
  | closeUnsubscribed (documentId : DocumentId) (runtime : RuntimeId) (caller : Caller)
  /-- `closeDocument` awaiting `runtime.shutdown()`. -/
  | closeShutdown (documentId : DocumentId) (runtime : RuntimeId) (caller : Caller)
  /-- `shutdownAll` awaiting a `closeDocument` that has returned or thrown. -/
  | shutdownAll (remaining : List DocumentId)
deriving DecidableEq, Repr

/-- `documentChannel`. -/
def documentChannel (documentId : DocumentId) : String :=
  "ws:doc:" ++ toString documentId

theorem documentChannel_injective : Function.Injective documentChannel := by
  intro first second hsame
  have hrepr : Int.repr first = Int.repr second := by
    simpa [documentChannel, String.append_right_inj] using hsame
  exact Int.repr_inj.mp hrepr

/-- `DocumentManager` with the runtimes that exist, what Redis has subscribed
and the sync requests sent so far. -/
structure Manager (Doc : Type) where
  documents : AList fun _ : DocumentId => RuntimeId
  subscribedChannels : Finset String
  redisChannels : Finset String
  runtimes : List (DocumentRuntime Doc)
  calls : List Frame
  syncRequests : List (RuntimeId × SyncRequest)

namespace Manager

variable {Doc Raw : Type} (lib : Libraries Doc Raw) (manager : Manager Doc)

def empty : Manager Doc where
  documents := ∅
  subscribedChannels := ∅
  redisChannels := ∅
  runtimes := []
  calls := []
  syncRequests := []

/-- A call reaches an `await`. -/
def suspend (frame : Frame) : Manager Doc :=
  { manager with calls := frame :: manager.calls }

def setRuntime (id : RuntimeId) (runtime : DocumentRuntime Doc) : Manager Doc :=
  { manager with runtimes := manager.runtimes.set id runtime }

/-- The synchronous part of `runtime.shutdown()`. -/
def shutdownRuntime (id : RuntimeId) : Manager Doc :=
  match manager.runtimes[id]? with
  | none => manager
  | some runtime =>
      { manager.setRuntime id runtime.shutdown.1 with
        syncRequests := manager.syncRequests ++ runtime.shutdown.2.toList.map (id, ·) }

/-- The rest of a call of `closeDocument`, when it has returned or thrown. -/
def returnTo : Caller → Manager Doc
  | .direct => manager
  | .shutdownAll remaining => manager.suspend (.shutdownAll remaining)

/-- `closeDocument` up to its first `await`. -/
def closeDocument (documentId : DocumentId) (caller : Caller) : Manager Doc :=
  match manager.documents.lookup documentId with
  | none => manager.returnTo caller
  | some runtime =>
      if documentChannel documentId ∈ manager.subscribedChannels then
        manager.suspend (.closeUnsubscribe documentId runtime caller)
      else manager.suspend (.closeUnsubscribed documentId runtime caller)

/-- One turn of the loop of `shutdownAll`. -/
def closeNext : List DocumentId → Manager Doc
  | [] => manager
  | documentId :: remaining => manager.closeDocument documentId (.shutdownAll remaining)

/-- `initializeDocument` from the construction of the runtime to the `await` of
`subscribeToDocument`. -/
def installRuntime (request : InitializeRequest) : Manager Doc :=
  let runtime := DocumentRuntime.create lib request.documentId request.clientId request.content
  let id := manager.runtimes.length
  let installed :=
    { manager with
      runtimes := manager.runtimes ++ [runtime]
      documents := manager.documents.insert request.documentId id }
  if documentChannel request.documentId ∈ manager.subscribedChannels then
    -- `subscribeToDocument` returns without a command
    installed.suspend (.initializeStart request id)
  else installed.suspend (.initializeSubscribe request id)

/-- `initializeDocument` up to its first `await`. -/
def initializeDocument (request : InitializeRequest) : Manager Doc :=
  match manager.documents.lookup request.documentId with
  | some existing =>
      -- the old runtime stays registered until its shutdown has resolved
      (manager.shutdownRuntime existing).suspend (.initializeShutdown request existing)
  | none => manager.installRuntime lib request

/-- The end of `initializeDocument`. -/
def startRuntime (request : InitializeRequest) (id : RuntimeId) : Manager Doc :=
  match manager.runtimes[id]? with
  | none => manager
  | some runtime =>
      manager.setRuntime id
        { runtime.startAutoPersistence with
          participantMap := runtime.participantMap.insert request.userId request.username }

/-- `syncDocument`. -/
def syncDocument (documentId : DocumentId) : Option WorkerSyncResponse := do
  let id ← manager.documents.lookup documentId
  let runtime ← manager.runtimes[id]?
  return runtime.snapshot lib

/-- `parseDocumentIdFromChannel`. -/
def parseDocumentIdFromChannel (channel : String) : Option DocumentId :=
  if channel.startsWith "ws:doc:" then lib.number (channel.drop "ws:doc:".length).toString
  else none

/-- `parseEnvelopeMessage`, without the origin, which is only logged. A bare
envelope is accepted too. -/
def parseEnvelopeMessage (raw : Raw) : Option Json := do
  let parsed ← lib.parse raw
  if parsed.isObject then
    match parsed.field "envelope" with
    | some envelope => return if envelope.isObject then envelope else parsed
    | none => return parsed
  else none

/-- `handleRedisMessage` up to its `await` of `applyEnvelope`. A message that is
dropped, or whose handling throws, leaves nothing behind. -/
def handleRedisMessage (channel : String) (rawMessage : Raw) : Manager Doc :=
  let handled := do
    let documentId ← parseDocumentIdFromChannel lib channel
    let id ← manager.documents.lookup documentId
    let runtime ← manager.runtimes[id]?
    let envelope ← parseEnvelopeMessage lib rawMessage
    let applied ← runtime.applyEnvelope lib envelope
    return (manager.setRuntime id applied).suspend (.handleApplied documentId id)
  handled.getD manager

/-- Continue a call whose promise has resolved, or rejected. Only the promises
of Redis commands reject. -/
def resume (resolved : Bool) : Frame → Manager Doc
  -- the entry is deleted by its key, whichever runtime it holds by now
  | .initializeShutdown request _ =>
      { manager with documents := manager.documents.erase request.documentId }.installRuntime
        lib request
  | .initializeSubscribe request runtime =>
      if resolved then
        { manager with
          redisChannels := insert (documentChannel request.documentId) manager.redisChannels
          subscribedChannels :=
            insert (documentChannel request.documentId) manager.subscribedChannels }.suspend
          (.initializeStart request runtime)
      else manager
  | .initializeStart request runtime => manager.startRuntime request runtime
  | .handleApplied documentId runtime =>
      -- the local variable `runtime` is asked, not the registered one
      if manager.runtimes[runtime]?.any DocumentRuntime.shouldClose then
        manager.closeDocument documentId .direct
      else manager
  | .closeUnsubscribe documentId runtime caller =>
      if resolved then
        { manager with
          redisChannels := manager.redisChannels.erase (documentChannel documentId)
          subscribedChannels :=
            manager.subscribedChannels.erase (documentChannel documentId) }.suspend
          (.closeUnsubscribed documentId runtime caller)
      -- `closeDocument` throws, and the runtime is not shut down
      else manager.returnTo caller
  | .closeUnsubscribed documentId runtime caller =>
      (manager.shutdownRuntime runtime).suspend (.closeShutdown documentId runtime caller)
  | .closeShutdown documentId _ caller =>
      { manager with documents := manager.documents.erase documentId }.returnTo caller
  | .shutdownAll remaining => manager.closeNext remaining

/-- The frame leaves the calls in progress before it continues. -/
def withoutCall (index : Nat) : Manager Doc :=
  { manager with calls := manager.calls.eraseIdx index }

/-- The callback of a running persistence timer. -/
def tick (id : RuntimeId) : Option (Manager Doc) :=
  match manager.runtimes[id]? with
  | some runtime =>
      if runtime.persistTimer then
        some { manager with
          syncRequests := manager.syncRequests ++ [(id, runtime.persistToSpringBoot)] }
      else none
  | none => none

inductive Event (Raw : Type)
  | initializeDocument (request : InitializeRequest)
  | handleRedisMessage (channel : String) (rawMessage : Raw)
  | closeDocument (documentId : DocumentId)
  /-- The ids are the keys of `documents`, in the order of the map. -/
  | shutdownAll (ids : List DocumentId)
  | resume (call : Nat) (resolved : Bool)
  | tick (runtime : RuntimeId)
deriving DecidableEq, Repr

def step : Event Raw → Option (Manager Doc)
  | .initializeDocument request => some (manager.initializeDocument lib request)
  | .handleRedisMessage channel rawMessage =>
      some (manager.handleRedisMessage lib channel rawMessage)
  | .closeDocument documentId => some (manager.closeDocument documentId .direct)
  | .shutdownAll ids =>
      if ids.Perm manager.documents.keys then some (manager.closeNext ids) else none
  | .resume call resolved =>
      match manager.calls[call]? with
      | some frame => some ((manager.withoutCall call).resume lib resolved frame)
      | none => none
  | .tick runtime => manager.tick runtime

/-- What a step can have been. -/
inductive Steps : Event Raw → Manager Doc → Prop
  | initializeDocument (request : InitializeRequest) :
      Steps (.initializeDocument request) (manager.initializeDocument lib request)
  | handleRedisMessage (channel : String) (rawMessage : Raw) :
      Steps (.handleRedisMessage channel rawMessage)
        (manager.handleRedisMessage lib channel rawMessage)
  | closeDocument (documentId : DocumentId) :
      Steps (.closeDocument documentId) (manager.closeDocument documentId .direct)
  | shutdownAll (ids : List DocumentId) (hkeys : ids.Perm manager.documents.keys) :
      Steps (.shutdownAll ids) (manager.closeNext ids)
  | resume (call : Nat) (resolved : Bool) (frame : Frame)
      (hframe : manager.calls[call]? = some frame) :
      Steps (.resume call resolved) ((manager.withoutCall call).resume lib resolved frame)
  | tick (id : RuntimeId) (runtime : DocumentRuntime Doc)
      (hruntime : manager.runtimes[id]? = some runtime) (htimer : runtime.persistTimer = true) :
      Steps (.tick id) { manager with
        syncRequests := manager.syncRequests ++ [(id, runtime.persistToSpringBoot)] }

variable {lib manager}

theorem step_cases {event : Event Raw} {next : Manager Doc}
    (hstep : manager.step lib event = some next) : manager.Steps lib event next := by
  cases event with
  | initializeDocument request =>
      cases hstep
      exact .initializeDocument request
  | handleRedisMessage channel rawMessage =>
      cases hstep
      exact .handleRedisMessage channel rawMessage
  | closeDocument documentId =>
      cases hstep
      exact .closeDocument documentId
  | shutdownAll ids =>
      obtain ⟨hkeys, hnext⟩ := Option.ite_none_right_eq_some.mp hstep
      cases hnext
      exact .shutdownAll ids hkeys
  | resume call resolved =>
      dsimp only [step] at hstep
      split at hstep
      next frame hframe =>
        cases hstep
        exact .resume call resolved frame hframe
      next => cases hstep
  | tick id =>
      dsimp only [step, tick] at hstep
      split at hstep
      next runtime hruntime =>
        obtain ⟨htimer, hnext⟩ := Option.ite_none_right_eq_some.mp hstep
        cases hnext
        exact .tick id runtime hruntime htimer
      next => cases hstep

variable (lib)

/-- A message is dropped, or its envelope is applied to the runtime of its document. -/
theorem handleRedisMessage_cases (manager : Manager Doc) (channel : String) (rawMessage : Raw) :
    manager.handleRedisMessage lib channel rawMessage = manager ∨
      ∃ documentId id runtime envelope applied,
        parseDocumentIdFromChannel lib channel = some documentId ∧
        manager.documents.lookup documentId = some id ∧ manager.runtimes[id]? = some runtime ∧
        parseEnvelopeMessage lib rawMessage = some envelope ∧
        runtime.applyEnvelope lib envelope = some applied ∧
        manager.handleRedisMessage lib channel rawMessage =
          (manager.setRuntime id applied).suspend (.handleApplied documentId id) := by
  unfold handleRedisMessage
  dsimp only
  generalize hhandled : (do
    let documentId ← parseDocumentIdFromChannel lib channel
    let id ← manager.documents.lookup documentId
    let runtime ← manager.runtimes[id]?
    let envelope ← parseEnvelopeMessage lib rawMessage
    let applied ← runtime.applyEnvelope lib envelope
    return (manager.setRuntime id applied).suspend (.handleApplied documentId id)) = handled
  cases handled with
  | none => exact .inl rfl
  | some next =>
      simp only [Option.bind_eq_bind, Option.bind_eq_some_iff, Option.pure_def,
        Option.some.injEq] at hhandled
      obtain ⟨documentId, hdocument, id, hid, runtime, hruntime, envelope, henvelope, applied,
        happly, rfl⟩ := hhandled
      exact .inr ⟨documentId, id, runtime, envelope, applied, hdocument, hid, hruntime, henvelope,
        happly, rfl⟩

/-- A worker that starts without sessions. -/
def system : TransitionSystem (Manager Doc) (Event Raw) where
  init manager := manager = empty
  step := step lib

end Manager

end CollabEditor.Worker
