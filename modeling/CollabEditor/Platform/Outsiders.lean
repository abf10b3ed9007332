import CollabEditor.Backend.Confidentiality
import CollabEditor.Backend.DocumentWorkerProxyService
import CollabEditor.Backend.WebSocketTicketService
import CollabEditor.Platform.Relay
import CollabEditor.Platform.SessionStart
import CollabEditor.Worker.Server

/-! # What an outsider gets to know

A user sends requests to the endpoints of a document and of its collaborative session,
without a permission row for the document. Two systems that differ in the document's
content only should answer alike, and keep the content.
-/

namespace CollabEditor.Platform

open Foundation
open Worker
open Backend
open DocumentWorkerProxyService

variable {Doc Raw : Type}

/-- The registered runtimes of the workers, by base URL and document. -/
@[ext]
structure Sessions (Doc : Type) where
  session : String → DocumentId → WorkerSession Doc
  registered : ∀ baseUrl documentId runtime,
    session baseUrl documentId = some runtime → runtime.documentId = documentId

/-- What becomes of a call of a worker. -/
structure Conditions where
  /-- The request reaches the worker. -/
  reached : Bool
  /-- Its bearer token is the worker's. -/
  authorized : Bool
  /-- The final sync request of a session that is replaced reaches the backend. -/
  persisted : Bool
  /-- The subscription in Redis succeeds. -/
  subscribed : Bool
  /-- The answer comes back. -/
  answered : Bool
  /-- The id a new Yjs document draws. -/
  clientId : Nat
deriving DecidableEq, Repr

/-- What a user may request. -/
inductive UserRequest
  | document (request : Request) (haccess : request.isDocumentAccess = true)
  | createTicket (documentId : DocumentId) (ticket : String)
  | initializeDocument (documentId : DocumentId) (conditions : Conditions)
  /-- The id is the text in the path. -/
  | syncDocument (documentId : String) (conditions : Conditions)
  /-- Time passes. -/
  | wait (nanoseconds : Nat)

inductive UserResponse
  | reply (result : Except ServiceError Reply)
  | ticket (result : Except ServiceError (String × Instant))
  | proxied (result : Except ServiceError ResponseEntity)
  | none

/-- Backend and workers. -/
structure System (Doc : Type) where
  db : Database
  now : Instant
  tickets : TicketStore
  sessions : Sessions Doc

/-- The status of a worker's response. -/
def statusCode : Response → Nat
  | .error status _ => status
  | .initialized _ | .snapshot _ => 200

namespace Sessions

/-- Register a runtime for its document. -/
def register (sessions : Sessions Doc) (baseUrl : String) (runtime : DocumentRuntime Doc) :
    Sessions Doc where
  session := Function.update sessions.session baseUrl
    (Function.update (sessions.session baseUrl) runtime.documentId (some runtime))
  registered := by
    intro url documentId other hother
    by_cases hurl : url = baseUrl
    · subst hurl
      rw [Function.update_self] at hother
      by_cases hdocument : documentId = runtime.documentId
      · subst hdocument
        rw [Function.update_self] at hother
        cases hother
        rfl
      · rw [Function.update_of_ne hdocument] at hother
        exact sessions.registered url documentId other hother
    · rw [Function.update_of_ne hurl] at hother
      exact sessions.registered url documentId other hother

end Sessions

section Workers

variable (lib : Libraries Doc Raw) (encode : Response → List UInt8) (now : Instant)
variable (conditions : Conditions)

/-- An answer that may be lost on its way. -/
def answer (response : Response) : Option ProxyResponse :=
  if conditions.answered then some ⟨statusCode response, some (encode response)⟩ else none

/-- The final sync request of a registered runtime that is shut down. -/
def persistFinal (db : Database) (session : WorkerSession Doc) : Database :=
  match session.bind fun runtime => runtime.shutdown.2 with
  | none => db
  | some request =>
      if conditions.persisted then
        committed db (WorkerDocumentSyncService.syncDocument db now (some request.documentId)
          (some request.content) request.final)
      else db

/-- The runtime that `initializeDocument` registers. It is started once the subscription
has succeeded. -/
def newRuntime (request : InitializeRequest) : DocumentRuntime Doc :=
  let runtime := DocumentRuntime.create lib request.documentId request.clientId request.content
  if conditions.subscribed then
    { runtime.startAutoPersistence with
      participantMap := runtime.participantMap.insert request.userId request.username }
  else runtime

/-- The init endpoint of the workers, with `initializeDocument` run to its end. -/
def serveInit (request : WorkerRequest InitializeDocumentRequest)
    (state : Database × Sessions Doc) : Option ProxyResponse × Database × Sessions Doc :=
  if conditions.reached = false then (none, state)
  else if conditions.authorized = false then
    (answer encode conditions (.error 401 "unauthorized"), state)
  else
    match Server.init lib request.documentId request.body.content request.body.userId
        request.body.username conditions.clientId with
    | .error refusal => (answer encode conditions refusal, state)
    | .ok accepted =>
        let existing := state.2.session request.baseUrl accepted.documentId
        let response := if conditions.subscribed then .initialized accepted.documentId
          else .error 500 "internal_server_error"
        (answer encode conditions response, persistFinal now conditions state.1 existing,
          state.2.register request.baseUrl (newRuntime lib conditions accepted))

/-- The sync endpoint of the workers. -/
def serveSync (request : WorkerRequest Unit) (sessions : Sessions Doc) :
    Option ProxyResponse × Sessions Doc :=
  if conditions.reached = false then (none, sessions)
  else if conditions.authorized = false then
    (answer encode conditions (.error 401 "unauthorized"), sessions)
  else
    let response := match lib.number request.documentId with
      | none => .error 400 "invalid_document_id"
      | some documentId =>
          match sessions.session request.baseUrl documentId with
          | none => .error 404 "document_not_found"
          | some runtime => .snapshot (runtime.snapshot lib)
    (answer encode conditions response, sessions)

end Workers

namespace System

variable (lib : Libraries Doc Raw) (mapper : ObjectMapper) (router : RouterProperties)
variable (encode : Response → List UInt8) (user : User) (system : System Doc)

/-- A request of the user, served. -/
def respond : UserRequest → UserResponse × System Doc
  | .document request _ =>
      let result := request.serve system.db system.now user
      (.reply (result.map Prod.fst), { system with db := committed system.db result })
  | .createTicket documentId ticket =>
      match WebSocketTicketService.createTicketWithContent system.db system.now system.tickets
          documentId user ticket with
      | .error error => (.ticket (.error error), system)
      | .ok (payload, tickets) =>
          (.ticket (.ok (ticket, payload.expiresAt)), { system with tickets := tickets })
  | .initializeDocument documentId conditions =>
      let (result, db, sessions) := initializeDocument mapper router
        (serveInit lib encode system.now conditions) system.db system.now system.sessions
        documentId user
      (.proxied result, { system with db := db, sessions := sessions })
  | .syncDocument documentId conditions =>
      let (result, sessions) := syncDocument router (serveSync lib encode conditions)
        system.sessions documentId
      (.proxied result, { system with sessions := sessions })
  | .wait nanoseconds => (.none, { system with now := system.now + nanoseconds })

/-- The responses to a sequence of requests, and the state it leaves. -/
def run : List UserRequest → System Doc → List UserResponse × System Doc
  | [], system => ([], system)
  | request :: rest, system =>
      let (response, next) := system.respond lib mapper router encode user request
      let (responses, last) := run rest next
      (response :: responses, last)

end System

/-! ## Two systems that differ in a document's content -/

/-- The content of a document: its stored text, and for each worker the text, the Yjs state
and the chat history of its session. -/
structure Content (Doc : Type) where
  stored : Option String
  text : String → String
  doc : String → Doc
  chatHistory : String → List Json

/-- The runtime with its content replaced. -/
def Content.write (content : Content Doc) (baseUrl : String) (runtime : DocumentRuntime Doc) :
    DocumentRuntime Doc :=
  { runtime with
    content := content.text baseUrl
    doc := content.doc baseUrl
    chatHistory := content.chatHistory baseUrl }

def Sessions.setContent (sessions : Sessions Doc) (documentId : DocumentId)
    (content : Content Doc) : Sessions Doc where
  session baseUrl := Function.update (sessions.session baseUrl) documentId
    ((sessions.session baseUrl documentId).map (content.write baseUrl))
  registered := by
    intro baseUrl id runtime hruntime
    by_cases h : id = documentId
    · subst h
      rw [Function.update_self] at hruntime
      obtain ⟨before, hbefore, rfl⟩ := Option.map_eq_some_iff.mp hruntime
      exact sessions.registered baseUrl id before hbefore
    · rw [Function.update_of_ne h] at hruntime
      exact sessions.registered baseUrl id runtime hruntime

/-- The system with the content of a document replaced. -/
def System.setContent (system : System Doc) (documentId : DocumentId) (content : Content Doc) :
    System Doc :=
  { system with
    db := system.db.setContent documentId content.stored
    sessions := system.sessions.setContent documentId content }

/-- The systems differ in the content of the document only. -/
def DifferInContent (documentId : DocumentId) (first second : System Doc) : Prop :=
  ∃ content, second = first.setContent documentId content

/-- The sessions and the row of the document are as before. -/
structure Keeps (documentId : DocumentId) (before after : System Doc) : Prop where
  session : ∀ baseUrl, after.sessions.session baseUrl documentId =
    before.sessions.session baseUrl documentId
  database : Untouched documentId before.db after.db

/-- The request does not start or read a session of the document, and is not a save by its
owner. The workers read the document's id from the path. -/
def Elsewhere (lib : Libraries Doc Raw) (db : Database) (user : User) (documentId : DocumentId) :
    UserRequest → Prop
  | .document request _ => request.NotOwnSave db user documentId
  | .initializeDocument id _ => id ≠ documentId ∧ lib.number (toString id) ≠ some documentId
  | .syncDocument id _ => lib.number id ≠ some documentId
  | .createTicket _ _ | .wait _ => True

theorem Keeps.refl (documentId : DocumentId) (system : System Doc) :
    Keeps documentId system system := ⟨fun _ => rfl, .refl _ _⟩

theorem Keeps.trans {documentId : DocumentId} {first second third : System Doc}
    (h : Keeps documentId first second) (h' : Keeps documentId second third) :
    Keeps documentId first third where
  session baseUrl := (h'.session baseUrl).trans (h.session baseUrl)
  database := h.database.trans h'.database

/-! ### The workers -/

section Workers

variable {lib : Libraries Doc Raw} {encode : Response → List UInt8} {now : Instant}
variable {conditions : Conditions} {documentId : DocumentId} {content : Content Doc}
variable {db : Database} {sessions : Sessions Doc}

theorem session_setContent_ne {id : DocumentId} (h : id ≠ documentId) (baseUrl : String) :
    (sessions.setContent documentId content).session baseUrl id = sessions.session baseUrl id :=
  Function.update_of_ne h ..

theorem session_register_ne {runtime : DocumentRuntime Doc} (h : runtime.documentId ≠ documentId)
    (baseUrl url : String) :
    (sessions.register baseUrl runtime).session url documentId =
      sessions.session url documentId := by
  rw [Sessions.register]
  by_cases hurl : url = baseUrl
  · subst hurl
    simp only [Function.update_self, Function.update_of_ne (Ne.symm h)]
  · simp only [Function.update_of_ne hurl]

theorem register_setContent {runtime : DocumentRuntime Doc} (h : runtime.documentId ≠ documentId)
    (baseUrl : String) :
    (sessions.setContent documentId content).register baseUrl runtime =
      (sessions.register baseUrl runtime).setContent documentId content := by
  ext url id : 3
  by_cases hurl : url = baseUrl
  · subst hurl
    simp only [Sessions.register, Sessions.setContent, Function.update_self,
      Function.update_of_ne (Ne.symm h), Function.update_comm h]
  · simp only [Sessions.register, Sessions.setContent, Function.update_of_ne hurl]

theorem newRuntime_documentId (request : InitializeRequest) :
    (newRuntime lib conditions request).documentId = request.documentId := by
  rw [newRuntime]
  split <;> rfl

theorem shutdown_documentId {runtime : DocumentRuntime Doc} {request : SyncRequest}
    (h : runtime.shutdown.2 = some request) : request.documentId = runtime.documentId := by
  rw [DocumentRuntime.shutdown] at h
  split at h
  · cases h
  · cases h
    rfl

/-- The session that is persisted is of another document. -/
theorem persistFinal_setContent {session : WorkerSession Doc}
    (h : ∀ runtime, session = some runtime → runtime.documentId ≠ documentId)
    (stored : Option String) :
    persistFinal now conditions (db.setContent documentId stored) session =
      (persistFinal now conditions db session).setContent documentId stored := by
  rw [persistFinal, persistFinal]
  cases hrequest : session.bind fun runtime => runtime.shutdown.2 with
  | none => rfl
  | some request =>
      obtain ⟨runtime, hruntime, hshutdown⟩ := Option.bind_eq_some_iff.mp hrequest
      have hother : request.documentId ≠ documentId := by
        rw [shutdown_documentId hshutdown]
        exact h runtime hruntime
      simp only
      split
      · rw [syncDocument_setContent hother, committed_setContent]
      · rfl

theorem persistFinal_untouched {session : WorkerSession Doc}
    (h : ∀ runtime, session = some runtime → runtime.documentId ≠ documentId) :
    Untouched documentId db (persistFinal now conditions db session) := by
  rw [persistFinal]
  split
  next => exact .refl _ _
  next request hrequest =>
    obtain ⟨runtime, hruntime, hshutdown⟩ := Option.bind_eq_some_iff.mp hrequest
    split
    next =>
      cases hresult : WorkerDocumentSyncService.syncDocument db now (some request.documentId)
          (some request.content) request.final with
      | error error => exact .refl _ _
      | ok result =>
          obtain ⟨_, next⟩ := result
          apply (WorkerDocumentSyncService.syncDocument_ok hresult).untouched
          intro text final hsync
          cases hsync
          exact h runtime hruntime (shutdown_documentId hshutdown).symm
    next => exact .refl _ _

theorem init_documentId {id : String} {text : Option String} {userId : Rat} {username : String}
    {clientId : Nat} {accepted : InitializeRequest}
    (h : Server.init lib id text userId username clientId = .ok accepted) :
    lib.number id = some accepted.documentId := by
  rw [Server.init] at h
  split at h
  next => cases h
  next parsed hparsed =>
    split at h
    next => cases h
    next =>
      cases h
      exact hparsed

theorem serveInit_setContent {request : WorkerRequest InitializeDocumentRequest}
    (h : lib.number request.documentId ≠ some documentId) :
    serveInit lib encode now conditions request
        (db.setContent documentId content.stored, sessions.setContent documentId content) =
      ((serveInit lib encode now conditions request (db, sessions)).1,
        (serveInit lib encode now conditions request (db, sessions)).2.1.setContent documentId
          content.stored,
        (serveInit lib encode now conditions request (db, sessions)).2.2.setContent documentId
          content) := by
  simp only [serveInit]
  split
  · rfl
  · split
    · rfl
    · cases hinit : Server.init lib request.documentId request.body.content request.body.userId
          request.body.username conditions.clientId with
      | error refusal => rfl
      | ok accepted =>
          have hother : accepted.documentId ≠ documentId := by
            rintro rfl
            exact h (init_documentId hinit)
          have hexisting : ∀ runtime,
              sessions.session request.baseUrl accepted.documentId = some runtime →
                runtime.documentId ≠ documentId := by
            intro runtime hruntime
            rw [sessions.registered _ _ _ hruntime]
            exact hother
          have hnew : (newRuntime lib conditions accepted).documentId ≠ documentId := by
            rw [newRuntime_documentId]
            exact hother
          simp only [session_setContent_ne hother, persistFinal_setContent hexisting,
            register_setContent hnew]

theorem serveInit_keeps {request : WorkerRequest InitializeDocumentRequest}
    (h : lib.number request.documentId ≠ some documentId) :
    Untouched documentId db (serveInit lib encode now conditions request (db, sessions)).2.1 ∧
      ∀ baseUrl, (serveInit lib encode now conditions request (db, sessions)).2.2.session baseUrl
        documentId = sessions.session baseUrl documentId := by
  simp only [serveInit]
  split
  · exact ⟨.refl _ _, fun _ => rfl⟩
  · split
    · exact ⟨.refl _ _, fun _ => rfl⟩
    · cases hinit : Server.init lib request.documentId request.body.content request.body.userId
          request.body.username conditions.clientId with
      | error refusal => exact ⟨.refl _ _, fun _ => rfl⟩
      | ok accepted =>
          have hother : accepted.documentId ≠ documentId := by
            rintro rfl
            exact h (init_documentId hinit)
          refine ⟨persistFinal_untouched ?_, ?_⟩
          · intro runtime hruntime
            rw [sessions.registered _ _ _ hruntime]
            exact hother
          · intro baseUrl
            apply session_register_ne
            rw [newRuntime_documentId]
            exact hother

theorem serveSync_setContent {request : WorkerRequest Unit}
    (h : lib.number request.documentId ≠ some documentId) :
    serveSync lib encode conditions request (sessions.setContent documentId content) =
      ((serveSync lib encode conditions request sessions).1,
        sessions.setContent documentId content) := by
  simp only [serveSync]
  split
  · rfl
  · split
    · rfl
    · cases hnumber : lib.number request.documentId with
      | none => rfl
      | some id =>
          have hother : id ≠ documentId := by
            rintro rfl
            exact h hnumber
          simp only [session_setContent_ne hother]

theorem serveSync_sessions (request : WorkerRequest Unit) :
    (serveSync lib encode conditions request sessions).2 = sessions := by
  rw [serveSync]
  split
  · rfl
  · split <;> rfl

end Workers

/-! ### The requests -/

section Requests

variable {lib : Libraries Doc Raw} {mapper : ObjectMapper} {router : RouterProperties}
variable {encode : Response → List UInt8} {user : User} {documentId : DocumentId}
variable {content : Content Doc} {db : Database} {now : Instant} {sessions : Sessions Doc}
variable {system : System Doc}

theorem request_documentId {Body : Type} {id : String} {body : Body} {request : WorkerRequest Body}
    (h : WorkerHttpClient.request router id body = .ok request) : request.documentId = id := by
  simp only [WorkerHttpClient.request, Except.bind_eq_ok_iff] at h
  obtain ⟨worker, _, h⟩ := h
  split at h
  · cases h
  · simp only [Except.bind_eq_ok_iff, Except.pure_eq_ok_iff] at h
    obtain ⟨_, _, rfl⟩ := h
    rfl

theorem initializeDocument_setContent {id : DocumentId} {conditions : Conditions}
    (hid : id ≠ documentId) (hnumber : lib.number (toString id) ≠ some documentId) :
    let result := initializeDocument mapper router (serveInit lib encode now conditions) db now
      sessions id user
    initializeDocument mapper router (serveInit lib encode now conditions)
        (db.setContent documentId content.stored) now (sessions.setContent documentId content) id
        user =
      (result.1, result.2.1.setContent documentId content.stored,
        result.2.2.setContent documentId content) := by
  simp only [initializeDocument, setContent_documents_ne db content.stored hid]
  cases db.documents id with
  | none => rfl
  | some document =>
      cases hrequest : WorkerHttpClient.request router (toString id)
          (⟨document.content, user.id, user.username⟩ : InitializeDocumentRequest) with
      | error error => simp only [hrequest]
      | ok request =>
          have hother : lib.number request.documentId ≠ some documentId := by
            rw [request_documentId hrequest]
            exact hnumber
          simp only [hrequest, serveInit_setContent hother]
          obtain ⟨response, after, next⟩ :=
            serveInit lib encode now conditions request (db, sessions)
          cases response with
          | none => rfl
          | some response =>
              simp only
              cases finalBytes mapper response.toResponseEntity.body document.content with
              | none => rfl
              | some bytes =>
                  simp only [LockService.acquireCollaborativeLock_setContent]
                  cases LockService.acquireCollaborativeLock after now id <;> rfl

theorem acquireCollaborativeLock_untouched {id : DocumentId} {lock : DocumentLock}
    {next : Database} (hok : LockService.acquireCollaborativeLock db now id = .ok (lock, next)) :
    Untouched documentId db next := by
  apply (LockService.acquireCollaborativeLock_ok hok).untouched
  intro text final h
  cases h

theorem initializeDocument_keeps {id : DocumentId} {conditions : Conditions}
    (hnumber : lib.number (toString id) ≠ some documentId) :
    let result := initializeDocument mapper router (serveInit lib encode now conditions) db now
      sessions id user
    Untouched documentId db result.2.1 ∧
      ∀ baseUrl, result.2.2.session baseUrl documentId = sessions.session baseUrl documentId := by
  simp only [initializeDocument]
  cases db.documents id with
  | none => exact ⟨.refl _ _, fun _ => rfl⟩
  | some document =>
      cases hrequest : WorkerHttpClient.request router (toString id)
          (⟨document.content, user.id, user.username⟩ : InitializeDocumentRequest) with
      | error error =>
          simp only [hrequest]
          exact ⟨.refl _ _, fun _ => trivial⟩
      | ok request =>
          have hother : lib.number request.documentId ≠ some documentId := by
            rw [request_documentId hrequest]
            exact hnumber
          have hkeeps : Untouched documentId db
                (serveInit lib encode now conditions request (db, sessions)).2.1 ∧
              ∀ baseUrl, (serveInit lib encode now conditions request
                (db, sessions)).2.2.session baseUrl documentId =
                  sessions.session baseUrl documentId := serveInit_keeps hother
          simp only [hrequest]
          revert hkeeps
          obtain ⟨response, after, next⟩ :=
            serveInit lib encode now conditions request (db, sessions)
          rintro ⟨hdatabase, hsession⟩
          cases response with
          | none => exact ⟨hdatabase, hsession⟩
          | some response =>
              simp only
              cases finalBytes mapper response.toResponseEntity.body document.content with
              | none => exact ⟨hdatabase, hsession⟩
              | some bytes =>
                  simp only
                  cases hlock : LockService.acquireCollaborativeLock after now id with
                  | error error => exact ⟨hdatabase, hsession⟩
                  | ok result =>
                      exact ⟨hdatabase.trans (acquireCollaborativeLock_untouched hlock), hsession⟩

/-- The answer to a request elsewhere, and what it changes, do not depend on the content. -/
theorem respond_setContent {request : UserRequest}
    (hpermission : system.db.findPermission documentId user.id = none)
    (helsewhere : Elsewhere lib system.db user documentId request) :
    (system.setContent documentId content).respond lib mapper router encode user request =
      ((system.respond lib mapper router encode user request).1,
        (system.respond lib mapper router encode user request).2.setContent documentId content) := by
  cases request with
  | document request haccess =>
      have hserve : request.serve (system.setContent documentId content).db system.now user =
          Transaction.setContent documentId content.stored
            (request.serve system.db system.now user) :=
        request.serve_setContent haccess hpermission helsewhere
      have hnow : (system.setContent documentId content).now = system.now := rfl
      simp only [System.respond, hnow, hserve]
      cases request.serve system.db system.now user <;> rfl
  | createTicket id ticket =>
      have hticket : WebSocketTicketService.createTicketWithContent
          (system.setContent documentId content).db system.now system.tickets id user ticket =
            WebSocketTicketService.createTicketWithContent system.db system.now system.tickets id
              user ticket := rfl
      have hnow : (system.setContent documentId content).now = system.now := rfl
      have htickets : (system.setContent documentId content).tickets = system.tickets := rfl
      simp only [System.respond, hnow, htickets, hticket]
      cases WebSocketTicketService.createTicketWithContent system.db system.now system.tickets id
        user ticket <;> rfl
  | initializeDocument id conditions =>
      simp only [System.respond, System.setContent]
      rw [initializeDocument_setContent helsewhere.1 helsewhere.2]
  | syncDocument id conditions =>
      simp only [System.respond, System.setContent, DocumentWorkerProxyService.syncDocument]
      cases hrequest : WorkerHttpClient.request router id () with
      | error error => simp only
      | ok request =>
          have hother : lib.number request.documentId ≠ some documentId := by
            rw [request_documentId hrequest]
            exact helsewhere
          obtain ⟨response, hsync⟩ : ∃ response,
              serveSync lib encode conditions request system.sessions =
                (response, system.sessions) := ⟨_, Prod.ext rfl (serveSync_sessions request)⟩
          simp only [serveSync_setContent hother, hsync]
          cases response <;> rfl
  | wait nanoseconds => rfl

theorem respond_keeps {request : UserRequest}
    (hpermission : system.db.findPermission documentId user.id = none)
    (helsewhere : Elsewhere lib system.db user documentId request) :
    Keeps documentId system (system.respond lib mapper router encode user request).2 := by
  cases request with
  | document request haccess =>
      refine ⟨fun _ => rfl, ?_⟩
      simp only [System.respond]
      cases hserve : request.serve system.db system.now user with
      | error error => exact .refl _ _
      | ok result => exact request.serve_untouched haccess hpermission helsewhere hserve
  | createTicket id ticket =>
      simp only [System.respond]
      cases WebSocketTicketService.createTicketWithContent system.db system.now system.tickets id
        user ticket <;> exact ⟨fun _ => rfl, .refl _ _⟩
  | initializeDocument id conditions =>
      exact ⟨(initializeDocument_keeps helsewhere.2).2, (initializeDocument_keeps helsewhere.2).1⟩
  | syncDocument id conditions =>
      refine ⟨?_, .refl _ _⟩
      intro baseUrl
      simp only [System.respond, DocumentWorkerProxyService.syncDocument]
      cases hrequest : WorkerHttpClient.request router id () with
      | error error => simp only
      | ok request =>
          obtain ⟨response, hsync⟩ : ∃ response,
              serveSync lib encode conditions request system.sessions =
                (response, system.sessions) := ⟨_, Prod.ext rfl (serveSync_sessions request)⟩
          simp only [hsync]
          cases response <;> rfl
  | wait nanoseconds => exact ⟨fun _ => rfl, .refl _ _⟩

/-- The conditions on a request are the same where the document is. -/
theorem Elsewhere.of_untouched {db next : Database} (h : Untouched documentId db next)
    {request : UserRequest} (helsewhere : Elsewhere lib db user documentId request) :
    Elsewhere lib next user documentId request := by
  cases request with
  | document request haccess =>
      apply Request.NotOwnSave.of_owner helsewhere
      intro after hafter
      exact ⟨after, h.document ▸ hafter, rfl⟩
  | createTicket id ticket => trivial
  | initializeDocument id conditions => exact helsewhere
  | syncDocument id conditions => exact helsewhere
  | wait nanoseconds => trivial

theorem run_keeps {requests : List UserRequest}
    (hpermission : system.db.findPermission documentId user.id = none)
    (helsewhere : ∀ request ∈ requests, Elsewhere lib system.db user documentId request) :
    Keeps documentId system (System.run lib mapper router encode user requests system).2 := by
  induction requests generalizing system with
  | nil => exact .refl _ _
  | cons request rest ih =>
      have hkeeps : Keeps documentId system
          (system.respond lib mapper router encode user request).2 :=
        respond_keeps hpermission (helsewhere request List.mem_cons_self)
      apply hkeeps.trans
      apply ih ((hkeeps.database.findPermission _ _).trans hpermission)
      intro other hother
      exact (helsewhere other (List.mem_cons_of_mem _ hother)).of_untouched hkeeps.database

/-- The two runs stay in step: what one request leaves differs in the content only. -/
theorem run_setContent {requests : List UserRequest}
    (hpermission : system.db.findPermission documentId user.id = none)
    (helsewhere : ∀ request ∈ requests, Elsewhere lib system.db user documentId request) :
    (System.run lib mapper router encode user requests (system.setContent documentId content)).1 =
      (System.run lib mapper router encode user requests system).1 := by
  induction requests generalizing system with
  | nil => rfl
  | cons request rest ih =>
      have hfirst := helsewhere request List.mem_cons_self
      have hkeeps : Keeps documentId system
          (system.respond lib mapper router encode user request).2 :=
        respond_keeps hpermission hfirst
      simp only [System.run, respond_setContent hpermission hfirst]
      apply congrArg
      apply ih ((hkeeps.database.findPermission _ _).trans hpermission)
      intro other hother
      exact (helsewhere other (List.mem_cons_of_mem _ hother)).of_untouched hkeeps.database

theorem Elsewhere.setContent {request : UserRequest} {stored : Option String}
    (helsewhere : Elsewhere lib db user documentId request) :
    Elsewhere lib (db.setContent documentId stored) user documentId request := by
  cases request with
  | document request haccess =>
      apply Request.NotOwnSave.of_owner helsewhere
      intro changed hchanged
      rw [setContent_documents_self] at hchanged
      obtain ⟨document, hdocument, rfl⟩ := Option.map_eq_some_iff.mp hchanged
      exact ⟨document, hdocument, rfl⟩
  | createTicket id ticket => trivial
  | initializeDocument id conditions => exact helsewhere
  | syncDocument id conditions => exact helsewhere
  | wait nanoseconds => trivial

/-- A user without a permission row learns nothing about a document's content and changes
nothing of it, by requests that do not start or read its collaborative session. -/
theorem outsider_learns_nothing {first second : System Doc}
    (hdiffer : DifferInContent documentId first second)
    (hpermission : first.db.findPermission documentId user.id = none)
    {requests : List UserRequest}
    (helsewhere : ∀ request ∈ requests, Elsewhere lib first.db user documentId request) :
    (System.run lib mapper router encode user requests first).1 =
        (System.run lib mapper router encode user requests second).1 ∧
      Keeps documentId first (System.run lib mapper router encode user requests first).2 ∧
      Keeps documentId second (System.run lib mapper router encode user requests second).2 := by
  obtain ⟨content, rfl⟩ := hdiffer
  refine ⟨(run_setContent hpermission helsewhere).symm, run_keeps hpermission helsewhere, ?_⟩
  have hafter : (first.setContent documentId content).db.findPermission documentId user.id =
      none := hpermission
  apply run_keeps hafter
  intro request hrequest
  exact (helsewhere request hrequest).setContent

end Requests

/-! ## Runs -/

/-- A worker that has no sessions. -/
def noSessions : Sessions String where
  session _ _ := none
  registered _ _ _ h := nomatch h

/-- Document 1, locked exclusively, and no session. -/
def quietSystem : System String where
  db := lockedDatabase
  now := 0
  tickets := fun _ => none
  sessions := noSessions

def otherContent : Content String where
  stored := some "other"
  text _ := "other"
  doc _ := "other"
  chatHistory _ := []

/-- A stranger reads, saves and takes over the lock of the document, in vain. -/
def strangerRequests : List UserRequest :=
  [.document (.read 1) rfl, .document (.save 1 (some "mine")) rfl,
    .document (.refreshLock 1 none) rfl, .createTicket 1 "ticket"]

theorem outsider_learns_nothing_locked :
    let run := System.run plainLibraries plainMapper plainRouter (fun _ => []) ⟨3, "stranger"⟩
      strangerRequests
    (run quietSystem).1 = (run (quietSystem.setContent 1 otherContent)).1 ∧
      Keeps 1 quietSystem (run quietSystem).2 ∧
      Keeps 1 (quietSystem.setContent 1 otherContent)
        (run (quietSystem.setContent 1 otherContent)).2 := by
  have hsave : (Request.save 1 (some "mine")).NotOwnSave lockedDatabase ⟨3, "stranger"⟩ 1 := by
    rintro _ _ ⟨⟩
    decide
  have helsewhere : ∀ request ∈ strangerRequests,
      Elsewhere plainLibraries lockedDatabase ⟨3, "stranger"⟩ 1 request :=
    List.forall_mem_cons.mpr ⟨trivial, List.forall_mem_cons.mpr ⟨hsave,
      List.forall_mem_cons.mpr ⟨trivial, List.forall_mem_singleton.mpr trivial⟩⟩⟩
  have hdiffer : DifferInContent 1 quietSystem (quietSystem.setContent 1 otherContent) :=
    ⟨otherContent, rfl⟩
  have hpermission : quietSystem.db.findPermission 1 3 = none := rfl
  exact outsider_learns_nothing hdiffer hpermission helsewhere

/-- A stranger initialises the document's session, and is sent its content. -/
theorem stranger_is_sent_content :
    ¬∀ (user : User) (documentId : DocumentId) (first second : System String)
      (requests : List UserRequest), DifferInContent documentId first second →
      first.db.findPermission documentId user.id = none →
      let run := System.run plainLibraries plainMapper plainRouter (fun _ => initializedBody) user
        requests
      (run first).1 = (run second).1 ∧ Keeps documentId first (run first).2 ∧
        Keeps documentId second (run second).2 := by
  intro hall
  -- After two minutes the exclusive lock has expired.
  let requests : List UserRequest :=
    [.wait 120000000000, .initializeDocument 1 ⟨true, true, true, true, true, 0⟩]
  let run := System.run plainLibraries plainMapper plainRouter (fun _ => initializedBody)
    ⟨3, "stranger"⟩ requests
  have hfirst : (run quietSystem).1 =
      [.none, .proxied (.ok ⟨200, asciiBytes (initializedText "text")⟩)] := by
    have hdocument : quietSystem.db.documents 1 = some _ := rfl
    simp only [run, requests, System.run, System.respond, initializeDocument, hdocument,
      WorkerHttpClient.request, plainRouter_worker]
    rfl
  have hsecond : (run (quietSystem.setContent 1 otherContent)).1 =
      [.none, .proxied (.ok ⟨200, asciiBytes (initializedText "other")⟩)] := by
    have hdocument : (quietSystem.setContent 1 otherContent).db.documents 1 = some _ := rfl
    simp only [run, requests, System.run, System.respond, initializeDocument, hdocument,
      WorkerHttpClient.request, plainRouter_worker]
    rfl
  obtain ⟨hresponses, _⟩ := hall ⟨3, "stranger"⟩ 1 quietSystem
    (quietSystem.setContent 1 otherContent) requests ⟨otherContent, rfl⟩ rfl
  have hequal := hfirst.symm.trans (hresponses.trans hsecond)
  simp only [List.cons.injEq, UserResponse.proxied.injEq, Except.ok.injEq,
    ResponseEntity.mk.injEq, true_and, and_true] at hequal
  revert hequal
  decide +kernel

end CollabEditor.Platform
