import CollabEditor.Backend.Effects
import CollabEditor.Backend.WebSocketTicketService
import CollabEditor.Platform.Relay
import CollabEditor.Worker.CommitOrder
import CollabEditor.Worker.Server

/-! # The backend, the hub nodes and the state worker

Requests between the services take time: what one service sends waits until the
other handles it, and anything may happen in between.
-/

namespace CollabEditor.Platform

open Foundation
open Hub Worker
open Backend (DocumentId UserId Instant Database User PermissionLevel TicketStore)

variable {Bytes Doc : Type}

/-- `InitializeDocumentRequest` with the id in the path: what the proxy sends to
the init endpoint of the worker. -/
structure InitializeCall where
  documentId : DocumentId
  content : Option String
  user : User

/-- The whole system. `initializing` and `syncing` are the requests between
backend and worker that have not been handled. The edits that come with a text
are only recorded: with one that is on its way, `handed` over to the worker, or
`stored`. -/
structure Deployment (Bytes Doc : Type) where
  backend : Backend.State
  tickets : TicketStore
  relay : Relay Bytes Doc
  initializing : List (InitializeCall × List Tag)
  syncing : List (SyncRequest × List Tag)
  handed : InitializeRequest → List Tag
  stored : DocumentId → List Tag

namespace Deployment

variable (codec : Codec Bytes) (lib : Libraries Doc Bytes) (deployment : Deployment Bytes Doc)

/-- The edits in the text of a runtime: those of the text it was constructed with
and those it has applied. -/
def edits (id : RuntimeId) : List Tag :=
  deployment.relay.origins[id]?.elim [] deployment.handed ++
    (deployment.relay.edits id).map Prod.fst

/-- A transaction of the backend commits. A text that is not the stored one was
written by a user. -/
def commit (db : Database) : Deployment Bytes Doc :=
  { deployment with
    backend := { deployment.backend with db := db }
    stored := fun id =>
      if (db.documents id).map Backend.Document.content =
          (deployment.backend.db.documents id).map Backend.Document.content then
        deployment.stored id
      else [] }

/-- The nodes or the worker move; the worker may have sent requests. -/
def relayed (relay : Relay Bytes Doc) : Deployment Bytes Doc :=
  { deployment with
    relay := relay
    syncing := deployment.syncing ++
      (relay.manager.syncRequests.drop deployment.relay.manager.syncRequests.length).map
        fun sent => (sent.2, deployment.edits sent.1) }

/-- The backend handles a sync request. -/
def synced (request : SyncRequest) (edits : List Tag) : Deployment Bytes Doc :=
  match request.operation.serve deployment.backend.db deployment.backend.now with
  | .error _ => deployment
  | .ok (_, db) =>
      { deployment with
        backend := { deployment.backend with db := db }
        stored := Function.update deployment.stored request.documentId edits }

/-- The worker handles a request of its init endpoint. -/
def initialized (call : InitializeCall) (edits : List Tag) (clientId : Nat) :
    Deployment Bytes Doc :=
  match Server.init lib (toString call.documentId) call.content call.user.id call.user.username
      clientId with
  | .error _ => deployment
  | .ok request =>
      let handed : Deployment Bytes Doc :=
        { deployment with
          handed := Function.update deployment.handed request (deployment.handed request ++ edits) }
      handed.relayed (deployment.relay.work (.initializeDocument request)
        (deployment.relay.manager.initializeDocument lib request))

inductive Event (Bytes : Type)
  /-- A user request, a request of the worker about the lock, or the passage of
  time. -/
  | backend (event : Backend.Event)
  | createTicket (user : User) (documentId : DocumentId) (ticket : String)
  /-- `ServeHTTP` consumes the ticket. -/
  | connect (id : ConnId) (node : NodeId) (sendBuffer : Int) (ticket : String)
  | relay (event : Relay.Event Bytes)
  /-- The proxy reads the document and calls the init endpoint. -/
  | requestInitialize (user : User) (documentId : DocumentId)
  | serveInit (index clientId : Nat)
  | sync (index : Nat)

def step : Event Bytes → Option (Deployment Bytes Doc)
  | .backend (.worker (.syncDocument _ _ _)) => none
  | .backend event => do
      let next ← Backend.step deployment.backend event
      return { deployment.commit next.db with backend := next }
  | .createTicket user documentId ticket =>
      match Backend.WebSocketTicketService.createTicketWithContent deployment.backend.db
          deployment.backend.now deployment.tickets documentId user ticket with
      | .error _ => some deployment
      | .ok (_, tickets) => some { deployment with tickets := tickets }
  | .connect id node sendBuffer ticket =>
      match TicketStore.consume deployment.tickets deployment.backend.now (trimSpace ticket) with
      | (none, tickets) => some { deployment with tickets := tickets }
      | (some payload, tickets) => do
          let client := Client.new payload.userId payload.username payload.documentId
            payload.permissionLevel.name sendBuffer
          let relay ← deployment.relay.step codec lib (.hub (.connect id node client) true)
          return { deployment.relayed relay with tickets := tickets }
  | .relay (.hub (.connect _ _ _) _) => none
  | .relay (.worker (.initializeDocument _)) => none
  | .relay event => (deployment.relay.step codec lib event).map deployment.relayed
  | .requestInitialize user documentId => do
      let document ← deployment.backend.db.documents documentId
      return { deployment with
        initializing := deployment.initializing ++
          [(⟨documentId, document.content, user⟩, deployment.stored documentId)] }
  | .serveInit index clientId => do
      let (call, edits) ← deployment.initializing[index]?
      return { deployment with initializing := deployment.initializing.eraseIdx index }.initialized
        lib call edits clientId
  | .sync index => do
      let (request, edits) ← deployment.syncing[index]?
      return { deployment with syncing := deployment.syncing.eraseIdx index }.synced request edits

/-- All services start, with an empty database. -/
def system : TransitionSystem (Deployment Bytes Doc) (Event Bytes) where
  init deployment := Backend.system.init deployment.backend ∧
    deployment.tickets = (fun _ => none) ∧ deployment.relay = .empty ∧
    deployment.initializing = [] ∧ deployment.syncing = [] ∧
    (∀ request, deployment.handed request = []) ∧ ∀ documentId, deployment.stored documentId = []
  step := step codec lib

end Deployment

end CollabEditor.Platform
