import Mathlib.Data.List.Basic
import Mathlib.Logic.Function.Basic

/-! # Rows and tables of the backend

Every table is part of one `Database` value. Tables with a primary key other
modules look up by are functions from that key; the others are lists of rows.
A transactional method returns `Except`: a thrown exception carries no
database, so whatever the method wrote before it is rolled back.
-/

namespace CollabEditor.Backend

/-- A Java `Long` key. -/
abbrev DocumentId := Int

abbrev UserId := Int

/-- `java.time.Instant`, in nanoseconds since the epoch. -/
abbrev Instant := Int

/-- `java.time.Duration`, in nanoseconds. -/
abbrev Duration := Int

/-- The exceptions the services throw or let through. The text of an exception
other than `AppException` reaches the log only. -/
inductive ServiceError
  | appException (message : String) (status : Nat)
  | illegalArgument
  | illegalState
  | accessDenied
  /-- An instant outside the range of `java.time.Instant`. -/
  | dateTime
  /-- A foreign key, primary key or unique constraint of the database. -/
  | constraintViolation
  /-- A query declared `Optional` matched several rows. -/
  | nonUniqueResult
deriving DecidableEq, Repr

/-- `NotFoundException` is the `AppException` of status 404. -/
def ServiceError.notFound (message : String) : ServiceError := .appException message 404

namespace Instant

/-- `Instant.MIN`: second -31557014167219200. -/
def minValue : Instant := -31557014167219200 * 1000000000

/-- `Instant.MAX`: the last nanosecond of second 31556889864403199. -/
def maxValue : Instant := 31556889864403199 * 1000000000 + 999999999

/-- `Instant.plus(Duration)` throws outside the supported range. -/
def plus (instant : Instant) (amount : Duration) : Except ServiceError Instant :=
  if minValue ≤ instant + amount ∧ instant + amount ≤ maxValue then .ok (instant + amount)
  else .error .dateTime

theorem plus_eq_ok_iff {now later : Instant} {amount : Duration} :
    now.plus amount = .ok later ↔
      (minValue ≤ now + amount ∧ now + amount ≤ maxValue) ∧ later = now + amount := by
  unfold plus
  split
  next hrange => simp [hrange, eq_comm]
  next hrange => simp [hrange]

end Instant

/-- `Duration.ofSeconds`. -/
def Duration.ofSeconds (seconds : Int) : Duration := seconds * 1000000000

/-- `Duration.ofMinutes`. -/
def Duration.ofMinutes (minutes : Int) : Duration := Duration.ofSeconds (60 * minutes)

structure User where
  id : UserId
  username : String
deriving DecidableEq, Repr

inductive PermissionLevel
  | owner
  | viewer
  | editor
deriving DecidableEq, Repr

inductive LockType
  | exclusive
  | collaborative
deriving DecidableEq, Repr

/-- A row of `documents` joined with its row of `document_contents`. Both
columns of the latter that matter are here: the content is nullable. The version
is a 32-bit `Integer`. -/
structure Document where
  owner : User
  title : String
  content : Option String
  version : Int32
  createdAt : Instant
  lastModified : Instant
deriving DecidableEq, Repr

/-- A row of `document_locks`; its key is the document. -/
structure DocumentLock where
  lockType : LockType
  lockedByUser : Option User
  lockedAt : Instant
  expiresAt : Option Instant
deriving DecidableEq, Repr

structure DocumentPermission where
  documentId : DocumentId
  user : User
  level : PermissionLevel
  grantedAt : Instant
deriving DecidableEq, Repr

structure Invite where
  token : String
  documentId : DocumentId
  createdBy : User
  createdAt : Instant
  expiresAt : Option Instant
  autoApprove : Bool
deriving DecidableEq, Repr

structure AccessRequest where
  id : Nat
  documentId : DocumentId
  requester : User
  createdAt : Instant
deriving DecidableEq, Repr

structure Database where
  documents : DocumentId → Option Document
  documentLocks : DocumentId → Option DocumentLock
  documentPermissions : List DocumentPermission
  invites : List Invite
  accessRequests : List AccessRequest
  /-- The next identity values of `documents` and `access_requests`. -/
  nextDocumentId : Nat
  nextRequestId : Nat

/-- What a transactional method returns: its result with the database it
commits, or the exception that rolls it back. -/
abbrev Transaction (α : Type) := Except ServiceError (α × Database)

namespace DocumentLock

/-- `isExpired`: a row expires strictly after its `expiresAt`. -/
def isExpired (lock : DocumentLock) (now : Instant) : Bool :=
  match lock.expiresAt with
  | none => false
  | some expiresAt => expiresAt < now

/-- `getLockedByUser() != null && getLockedByUser().getId().equals(user.getId())`. -/
def isHeldBy (lock : DocumentLock) (user : User) : Bool :=
  match lock.lockedByUser with
  | none => false
  | some holder => holder.id == user.id

end DocumentLock

namespace Database

variable (db : Database)

/-- The empty database. -/
def empty : Database where
  documents := fun _ => none
  documentLocks := fun _ => none
  documentPermissions := []
  invites := []
  accessRequests := []
  nextDocumentId := 1
  nextRequestId := 1

/-! ## Documents -/

/-- Write a document row that is already there. -/
def updateDocument (id : DocumentId) (doc : Document) : Database :=
  { db with documents := Function.update db.documents id (some doc) }

/-! ## Locks -/

/-- `delete` of a managed lock row. -/
def deleteLock (id : DocumentId) : Database :=
  { db with documentLocks := Function.update db.documentLocks id none }

/-- `save` of a managed lock row. -/
def updateLock (id : DocumentId) (lock : DocumentLock) : Database :=
  { db with documentLocks := Function.update db.documentLocks id (some lock) }

/-- `save` of a new lock row. Its key references `documents`. -/
def insertLock (id : DocumentId) (lock : DocumentLock) : Except ServiceError Database :=
  match db.documents id, db.documentLocks id with
  | some _, none => .ok (db.updateLock id lock)
  | _, _ => .error .constraintViolation

/-! ## Permissions -/

/-- `findByDocumentAndUser`, `findByDocument_IdAndUser_Id`. -/
def findPermission (documentId : DocumentId) (userId : UserId) : Option DocumentPermission :=
  db.documentPermissions.find? fun row => row.documentId == documentId && row.user.id == userId

/-- `existsByDocumentAndUser`. -/
def existsPermission (documentId : DocumentId) (userId : UserId) : Bool :=
  (db.findPermission documentId userId).isSome

/-- `save` of a new permission row, under its foreign key to `documents` and the
unique constraint `uc_doc_user`. -/
def insertPermission (row : DocumentPermission) : Except ServiceError Database :=
  if (db.documents row.documentId).isNone ∨ db.existsPermission row.documentId row.user.id then
    .error .constraintViolation
  else .ok { db with documentPermissions := row :: db.documentPermissions }

/-! ## Access requests -/

/-- `save` of a new request row, under its foreign key to `documents`. -/
def insertAccessRequest (row : AccessRequest) : Except ServiceError Database :=
  match db.documents row.documentId with
  | none => .error .constraintViolation
  | some _ => .ok { db with
      accessRequests := row :: db.accessRequests
      nextRequestId := db.nextRequestId + 1 }

/-! ## Field lemmas of the row operations -/

@[simp] theorem updateDocument_documents (id : DocumentId) (doc : Document) :
    (db.updateDocument id doc).documents = Function.update db.documents id (some doc) := rfl

@[simp] theorem updateDocument_documentLocks (id : DocumentId) (doc : Document) :
    (db.updateDocument id doc).documentLocks = db.documentLocks := rfl

@[simp] theorem updateDocument_documentPermissions (id : DocumentId) (doc : Document) :
    (db.updateDocument id doc).documentPermissions = db.documentPermissions := rfl

@[simp] theorem updateDocument_nextDocumentId (id : DocumentId) (doc : Document) :
    (db.updateDocument id doc).nextDocumentId = db.nextDocumentId := rfl

@[simp] theorem deleteLock_documents (id : DocumentId) :
    (db.deleteLock id).documents = db.documents := rfl

@[simp] theorem deleteLock_documentLocks (id : DocumentId) :
    (db.deleteLock id).documentLocks = Function.update db.documentLocks id none := rfl

@[simp] theorem deleteLock_documentPermissions (id : DocumentId) :
    (db.deleteLock id).documentPermissions = db.documentPermissions := rfl

@[simp] theorem deleteLock_nextDocumentId (id : DocumentId) :
    (db.deleteLock id).nextDocumentId = db.nextDocumentId := rfl

@[simp] theorem updateLock_documents (id : DocumentId) (lock : DocumentLock) :
    (db.updateLock id lock).documents = db.documents := rfl

@[simp] theorem updateLock_documentLocks (id : DocumentId) (lock : DocumentLock) :
    (db.updateLock id lock).documentLocks =
      Function.update db.documentLocks id (some lock) := rfl

@[simp] theorem updateLock_documentPermissions (id : DocumentId) (lock : DocumentLock) :
    (db.updateLock id lock).documentPermissions = db.documentPermissions := rfl

@[simp] theorem updateLock_nextDocumentId (id : DocumentId) (lock : DocumentLock) :
    (db.updateLock id lock).nextDocumentId = db.nextDocumentId := rfl

/-- A new lock row needs its document and a free key, and writes only that key. -/
theorem insertLock_eq_ok_iff (id : DocumentId) (lock : DocumentLock) (next : Database) :
    db.insertLock id lock = .ok next ↔
      (db.documents id).isSome ∧ db.documentLocks id = none ∧ next = db.updateLock id lock := by
  unfold insertLock
  cases hdoc : db.documents id <;> cases hlock : db.documentLocks id <;>
    simp [eq_comm]

theorem insertAccessRequest_ok {row : AccessRequest} {next : Database}
    (hok : db.insertAccessRequest row = .ok next) :
    next = { db with
      accessRequests := row :: db.accessRequests
      nextRequestId := db.nextRequestId + 1 } := by
  unfold insertAccessRequest at hok
  split at hok
  next => simp at hok
  next => exact (Except.ok.inj hok).symm

/-- A new permission row is accepted for an existing document and a new pair. -/
theorem insertPermission_eq_ok_iff (row : DocumentPermission) (next : Database) :
    db.insertPermission row = .ok next ↔
      (db.documents row.documentId).isSome ∧
        db.existsPermission row.documentId row.user.id = false ∧
        next = { db with documentPermissions := row :: db.documentPermissions } := by
  unfold insertPermission
  cases hdoc : db.documents row.documentId <;>
    cases hrow : db.existsPermission row.documentId row.user.id <;> simp [eq_comm]

end Database

end CollabEditor.Backend
