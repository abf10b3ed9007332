import CollabEditor.Foundation.TransitionSystem
import CollabEditor.Backend.SharingService
import CollabEditor.Backend.WorkerSyncService

/-! # The backend as a transition system

A user request or a worker operation is one transaction at the present
instant. The clock only moves forward between them.
-/

namespace CollabEditor.Backend

open Foundation

/-- The requests of the document and sharing controllers that a logged-in user
sends. `token` is the random value `createInvite` draws. -/
inductive Request
  | create (title : Option String) (content : Option String)
  | read (id : DocumentId)
  | save (id : DocumentId) (content : Option String)
  | acquireLock (id : DocumentId) (lockType : Option String) (ttlSeconds : Option Int)
  | switchToCollaborative (id : DocumentId) (ttlSeconds : Option Int)
  | releaseLock (id : DocumentId)
  | refreshLock (id : DocumentId) (ttlSeconds : Option Int)
  | getLock (id : DocumentId)
  | delete (id : DocumentId)
  | createInvite (docId : DocumentId) (autoApprove : Bool) (expiresInSeconds : Option Int)
      (token : String)
  | useInvite (token : String)
  | processRequest (requestId : Nat) (approve : Bool) (level : Option String)
deriving DecidableEq, Repr

/-- The operations performed on behalf of a state worker. -/
inductive WorkerOperation
  | syncDocument (documentId : Option DocumentId) (content : Option String) (final : Bool)
  | releaseCollaborativeLock (documentId : DocumentId)
  | acquireCollaborativeLock (documentId : DocumentId)
deriving DecidableEq, Repr

/-- `DocumentResponseDto`. -/
structure DocumentResponseDto where
  documentId : DocumentId
  title : String
  ownerId : UserId
  ownerUsername : String
  lastModified : Instant
  version : Int32
deriving DecidableEq, Repr

/-- `DocumentLockDto`. -/
structure DocumentLockDto where
  documentId : DocumentId
  lockType : LockType
  lockedByUserId : Option UserId
  lockedByUsername : Option String
  expiresAt : Option Instant
deriving DecidableEq, Repr

/-- The bodies of the 200 responses. -/
inductive Reply
  | document (dto : DocumentResponseDto)
  | summary (dto : Option DocumentService.Summary)
  | status (text : String)
  | lock (dto : Option DocumentLockDto)
  | token (text : String)
  | granted (value : Bool)
deriving DecidableEq, Repr

/-- `toDto`. -/
def Document.toDto (doc : Document) (id : DocumentId) : DocumentResponseDto where
  documentId := id
  title := doc.title
  ownerId := doc.owner.id
  ownerUsername := doc.owner.username
  lastModified := doc.lastModified
  version := doc.version

/-- `findDtoByDocument`. -/
def DocumentLock.toDto (lock : DocumentLock) (id : DocumentId) : DocumentLockDto where
  documentId := id
  lockType := lock.lockType
  lockedByUserId := lock.lockedByUser.map User.id
  lockedByUsername := lock.lockedByUser.map User.username
  expiresAt := lock.expiresAt

namespace Request

variable (db : Database) (now : Instant) (user : User)

/-- The `expiresAt` argument the controller computes for `createInvite`. -/
def inviteExpiry (expiresInSeconds : Option Int) : Except ServiceError (Option Instant) :=
  match expiresInSeconds with
  | none => .ok none
  | some seconds => (now.plus (.ofSeconds seconds)).map some

/-- The controller methods, down to the transaction they run. -/
def serve : Request → Except ServiceError (Reply × Database)
  | .create title content => do
      let (id, db) ← DocumentService.create db now user title content
      let doc ← DocumentService.getById db id
      return (.document (doc.toDto id), db)
  | .read id =>
      .ok (.summary (DocumentService.getDocumentSummaryWithContent db id user.id), db)
  | .save id content => do
      let (saved, db) ← DocumentService.saveDocument db now id user content
      return (.document (saved.toDto id), db)
  | .acquireLock id lockType ttlSeconds => do
      let _ ← DocumentService.getById db id
      -- an unknown type is refused after the document has been looked up
      let requestedType ← LockType.fromRequest lockType
      let (_, db) ← LockService.acquireLock db now id user
        (ttlSeconds.map Duration.ofSeconds) (some requestedType)
      return (.status "locked", db)
  | .switchToCollaborative id ttlSeconds => do
      let _ ← DocumentService.getById db id
      let (_, db) ← LockService.switchExclusiveToCollaborative db now id user
        (ttlSeconds.map Duration.ofSeconds)
      return (.status "locked", db)
  | .releaseLock id => do
      let _ ← DocumentService.getById db id
      let (_, db) ← LockService.releaseLock db now id user
      return (.status "ok", db)
  | .refreshLock id ttlSeconds => do
      let _ ← DocumentService.getById db id
      let (_, db) ← LockService.refreshLock db now id user (ttlSeconds.map Duration.ofSeconds)
      return (.status "locked", db)
  | .getLock id => do
      let _ ← DocumentService.getById db id
      let lock := LockService.getLock db now id
      return (.lock (lock.map (DocumentLock.toDto · id)), db)
  | .delete id => do
      let (_, db) ← DocumentService.deleteDocument db id user
      return (.status "deleted", db)
  | .createInvite docId autoApprove expiresInSeconds token => do
      let doc ← DocumentService.getById db docId
      let expiresAt ← inviteExpiry now expiresInSeconds
      let (invite, db) ← SharingService.createInvite db now docId doc user autoApprove
        expiresAt token
      return (.token invite.token, db)
  | .useInvite token => do
      let (result, db) ← SharingService.useInvite db now token user
      return (.granted (result = .granted), db)
  | .processRequest requestId approve level => do
      let (_, db) ← SharingService.processRequest db now requestId user approve
        (some (SharingService.requestedLevel level))
      return (.status "ok", db)

end Request

namespace WorkerOperation

/-- The worker-facing services. -/
def serve (db : Database) (now : Instant) :
    WorkerOperation → Except ServiceError (Unit × Database)
  | .syncDocument documentId content final =>
      WorkerDocumentSyncService.syncDocument db now documentId content final
  | .releaseCollaborativeLock documentId =>
      LockService.releaseCollaborativeLock db now documentId
  | .acquireCollaborativeLock documentId => do
      let (_, db) ← LockService.acquireCollaborativeLock db now documentId
      return ((), db)

end WorkerOperation

/-- The tables and the clock. -/
structure State where
  db : Database
  now : Instant

/-- An exception rolls the transaction back. -/
def committed {α : Type} (db : Database) : Except ServiceError (α × Database) → Database
  | .ok (_, next) => next
  | .error _ => db

@[simp] theorem committed_ok {α : Type} (db next : Database) (value : α) :
    committed db (.ok (value, next)) = next := rfl

@[simp] theorem committed_error {α : Type} (db : Database) (error : ServiceError) :
    committed db (.error error : Except ServiceError (α × Database)) = db := rfl

inductive Event
  | user (user : User) (request : Request)
  | worker (operation : WorkerOperation)
  | advance (nanoseconds : Nat)
deriving DecidableEq, Repr

/-- The last instant at which the default ttl still gives an `Instant`. -/
def clockLimit : Instant := Instant.maxValue - Duration.ofMinutes 5

/-- One transaction, or the passage of time. The clock stays in the range in
which `Instant.now()` can have the default ttl added. -/
def step (state : State) : Event → Option State
  | .user user request =>
      some { state with db := committed state.db (request.serve state.db state.now user) }
  | .worker operation =>
      some { state with db := committed state.db (operation.serve state.db state.now) }
  | .advance nanoseconds =>
      if state.now + nanoseconds ≤ clockLimit then
        some { state with now := state.now + nanoseconds }
      else none

/-- The steps of the backend: a transaction commits or is rolled back, or time passes. -/
inductive Steps (state : State) : Event → State → Prop
  | request (user : User) (request : Request) (reply : Reply) (next : Database)
      (hok : request.serve state.db state.now user = .ok (reply, next)) :
      Steps state (.user user request) { state with db := next }
  | refuse (user : User) (request : Request) (error : ServiceError)
      (herror : request.serve state.db state.now user = .error error) :
      Steps state (.user user request) state
  | operation (operation : WorkerOperation) (next : Database)
      (hok : operation.serve state.db state.now = .ok ((), next)) :
      Steps state (.worker operation) { state with db := next }
  | fail (operation : WorkerOperation) (error : ServiceError)
      (herror : operation.serve state.db state.now = .error error) :
      Steps state (.worker operation) state
  | advance (nanoseconds : Nat) (hlimit : state.now + nanoseconds ≤ clockLimit) :
      Steps state (.advance nanoseconds) { state with now := state.now + nanoseconds }

theorem step_cases {state next : State} {event : Event} (hstep : step state event = some next) :
    Steps state event next := by
  cases event with
  | user user request =>
      cases hstep
      cases hserve : request.serve state.db state.now user with
      | error error => exact .refuse user request error hserve
      | ok result => exact .request user request result.1 result.2 hserve
  | worker operation =>
      cases hstep
      cases hserve : operation.serve state.db state.now with
      | error error => exact .fail operation error hserve
      | ok result => exact .operation operation result.2 hserve
  | advance nanoseconds =>
      obtain ⟨hlimit, hafter⟩ := Option.ite_none_right_eq_some.mp hstep
      cases hafter
      exact .advance nanoseconds hlimit

/-- The backend from an empty database. -/
def system : TransitionSystem State Event where
  init state := state.db = Database.empty ∧ Instant.minValue ≤ state.now ∧ state.now ≤ clockLimit
  step := step

end CollabEditor.Backend
