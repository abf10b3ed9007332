import Mathlib.Data.List.AList
import CollabEditor.Foundation.Json
import CollabEditor.Backend.Database

/-! # One document session of the state worker

A runtime is the in-memory copy of a document: the Yjs document, the plain
text to persist, the chat history and the participants. The Yjs library and the
built-in conversions of JavaScript are a parameter.
-/

namespace CollabEditor.Worker

open Foundation
open Backend (DocumentId)

/-- The functions the worker calls and does not define. A message of Redis is a
`Raw`. -/
structure Libraries (Doc Raw : Type) where
  /-- `Number(text)`, where it is finite; ids are integers. -/
  number : String → Option DocumentId
  /-- `JSON.parse`; `none` when it throws. -/
  parse : Raw → Option Json
  /-- `atob`; `none` when it throws. -/
  atob : String → Option (List UInt8)
  /-- A new `Y.Doc` under the client id it draws, with a text inserted. -/
  newDoc : (clientId : Nat) → String → Doc
  /-- `Y.applyUpdate`; `none` when it throws. -/
  applyUpdate : Doc → List UInt8 → Option Doc
  /-- `yText.toString()`. -/
  toText : Doc → String
  /-- `Y.encodeStateAsUpdate`. -/
  encodeStateAsUpdate : Doc → List UInt8

/-- A document that is only its text, for runs without updates. -/
def textLibraries : Libraries String String where
  number := String.toInt?
  parse := fun _ => none
  atob := fun _ => none
  newDoc := fun _ text => text
  applyUpdate := fun _ _ => none
  toText := fun text => text
  encodeStateAsUpdate := fun _ => []

/-- The body of a sync request to the backend. -/
structure SyncRequest where
  documentId : DocumentId
  content : String
  final : Bool
deriving DecidableEq, Repr

/-- `DocumentRuntime`. Of the timer it only matters whether it runs. -/
structure DocumentRuntime (Doc : Type) where
  documentId : DocumentId
  userCount : Nat
  content : String
  doc : Doc
  chatHistory : List Json
  participantMap : AList fun _ : Rat => String
  persistTimer : Bool
  shutdownCompleted : Bool

/-- `WorkerSyncResponse`, before its state is written in base64. -/
structure WorkerSyncResponse where
  documentId : DocumentId
  userCount : Nat
  content : String
  chatHistory : List Json
  participantMap : AList fun _ : Rat => String
  yjsState : List UInt8

namespace DocumentRuntime

variable {Doc Raw : Type} (lib : Libraries Doc Raw)

/-- The constructor, with `setContent`. -/
def create (documentId : DocumentId) (clientId : Nat) (initialContent : String) :
    DocumentRuntime Doc :=
  let doc := lib.newDoc clientId initialContent
  { documentId := documentId
    userCount := 1
    content := lib.toText doc
    doc := doc
    chatHistory := []
    participantMap := ∅
    persistTimer := false
    shutdownCompleted := false }

variable (runtime : DocumentRuntime Doc)

/-- `startAutoPersistence`: the flag of a finished shutdown is not looked at. -/
def startAutoPersistence : DocumentRuntime Doc :=
  { runtime with persistTimer := true }

def stopAutoPersistence : DocumentRuntime Doc :=
  { runtime with persistTimer := false }

/-- `applyDocChange`; `none` when the update cannot be decoded or applied. -/
def applyDocChange (update : String) : Option (DocumentRuntime Doc) := do
  let bytes ← lib.atob update
  let doc ← lib.applyUpdate runtime.doc bytes
  return { runtime with doc := doc, content := lib.toText doc }

def addChatMessage (envelope : Json) : DocumentRuntime Doc :=
  { runtime with chatHistory := runtime.chatHistory ++ [envelope] }

def incrementUserCount : DocumentRuntime Doc :=
  { runtime with userCount := runtime.userCount + 1 }

/-- `Math.max(0, userCount - 1)`. -/
def decrementUserCount : DocumentRuntime Doc :=
  { runtime with userCount := runtime.userCount - 1 }

def shouldClose : Bool := runtime.userCount == 0

/-- `parseParticipantEventPayload`, as far as its two callers read the result. -/
def parseParticipantEventPayload (payload : Option Json) : Option (Rat × String) := do
  let record ← payload
  let userId ← record.numberField "userId"
  let username ← record.stringField "username"
  return (userId, username)

def addParticipant (payload : Option Json) : DocumentRuntime Doc :=
  match parseParticipantEventPayload payload with
  | none => runtime
  | some (userId, username) =>
      { runtime with participantMap := runtime.participantMap.insert userId username }

def removeParticipant (payload : Option Json) : DocumentRuntime Doc :=
  match parseParticipantEventPayload payload with
  | none => runtime
  | some (userId, _) =>
      { runtime with participantMap := runtime.participantMap.erase userId }

/-- `persistToSpringBoot`: the request it sends. -/
def persistToSpringBoot : SyncRequest :=
  { documentId := runtime.documentId, content := runtime.content, final := false }

/-- `snapshot`. -/
def snapshot : WorkerSyncResponse :=
  { documentId := runtime.documentId
    userCount := runtime.userCount
    content := runtime.content
    chatHistory := runtime.chatHistory
    participantMap := runtime.participantMap
    yjsState := lib.encodeStateAsUpdate runtime.doc }

/-- `shutdown` up to its `await`, with the request it sends. A failed request is
logged, and what follows the `await` changes nothing that is read again. -/
def shutdown : DocumentRuntime Doc × Option SyncRequest :=
  if runtime.shutdownCompleted then (runtime, none)
  else
    ({ runtime.stopAutoPersistence with shutdownCompleted := true },
      some { documentId := runtime.documentId, content := runtime.content, final := true })

/-- `applyEnvelope`: dispatch on the type of the envelope; `none` when it throws. -/
def applyEnvelope (envelope : Json) : Option (DocumentRuntime Doc) :=
  match envelope.stringField "type" with
  | some "room.participant.joined" =>
      some (runtime.incrementUserCount.addParticipant (envelope.field "payload"))
  | some "room.participant.left" =>
      some (runtime.decrementUserCount.removeParticipant (envelope.field "payload"))
  | some "doc.change" =>
      match (envelope.field "payload").bind (Json.stringField "update") with
      -- only a payload without a text as its update is passed over
      | some update => runtime.applyDocChange lib update
      | none => some runtime
  | some "chat.message" => some (runtime.addChatMessage envelope)
  | _ => some runtime

/-! ## What the methods leave alone -/

/-- Same document, timer and shutdown flag. -/
def SameLifecycle (before after : DocumentRuntime Doc) : Prop :=
  after.documentId = before.documentId ∧ after.persistTimer = before.persistTimer ∧
    after.shutdownCompleted = before.shutdownCompleted

@[simp] theorem addParticipant_sameLifecycle (payload : Option Json) :
    runtime.SameLifecycle (runtime.addParticipant payload) := by
  unfold addParticipant
  split <;> exact ⟨rfl, rfl, rfl⟩

@[simp] theorem removeParticipant_sameLifecycle (payload : Option Json) :
    runtime.SameLifecycle (runtime.removeParticipant payload) := by
  unfold removeParticipant
  split <;> exact ⟨rfl, rfl, rfl⟩

/-- No envelope starts or stops a timer, or ends a session by itself. -/
theorem applyEnvelope_sameLifecycle {runtime next : DocumentRuntime Doc} {envelope : Json}
    (happly : runtime.applyEnvelope lib envelope = some next) : runtime.SameLifecycle next := by
  unfold applyEnvelope at happly
  split at happly
  next =>
    cases happly
    exact runtime.incrementUserCount.addParticipant_sameLifecycle _
  next =>
    cases happly
    exact runtime.decrementUserCount.removeParticipant_sameLifecycle _
  next =>
    split at happly
    next update _ =>
      simp only [applyDocChange, Option.bind_eq_bind, Option.bind_eq_some_iff] at happly
      obtain ⟨bytes, -, doc, -, hnext⟩ := happly
      cases hnext
      exact ⟨rfl, rfl, rfl⟩
    next =>
      cases happly
      exact ⟨rfl, rfl, rfl⟩
  next =>
    cases happly
    exact ⟨rfl, rfl, rfl⟩
  next =>
    cases happly
    exact ⟨rfl, rfl, rfl⟩

@[simp] theorem shutdown_documentId : runtime.shutdown.1.documentId = runtime.documentId := by
  unfold shutdown
  split <;> rfl

@[simp] theorem shutdown_shutdownCompleted : runtime.shutdown.1.shutdownCompleted = true := by
  unfold shutdown
  split
  next hdone => exact hdone
  next => rfl

end DocumentRuntime

end CollabEditor.Worker
