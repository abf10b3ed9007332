import CollabEditor.Backend.DocumentService

/-! # The endpoint the state workers persist through -/

namespace CollabEditor.Backend

open Database

namespace WorkerDocumentSyncRepository

/-- The statement `updateContentAndRefreshCollaborativeLock` runs: the content
is updated without the document row, and the lock row is inserted or, on a
conflict, overwritten whatever its type and holder. -/
def updateContentAndRefreshCollaborativeLock (db : Database) (documentId : DocumentId)
    (newContent : String) (lockedAt expiresAt : Instant) : Except ServiceError Database :=
  match db.documents documentId with
  | none => .error .constraintViolation
  | some doc =>
      .ok ((db.updateDocument documentId { doc with content := some newContent }).updateLock
        documentId
        { lockType := .collaborative
          lockedByUser := none
          lockedAt := lockedAt
          expiresAt := some expiresAt })

end WorkerDocumentSyncRepository

namespace WorkerDocumentSyncService

open WorkerDocumentSyncRepository

/-- `DEFAULT_LOCK_TTL` of the sync service. -/
def defaultLockTtl : Duration := .ofMinutes 5

/-- `syncDocument`: a periodic sync refreshes the collaborative lock, the final
one releases it and writes the document as a save does. -/
def syncDocument (db : Database) (now : Instant) (documentId : Option DocumentId)
    (newContent : Option String) (isFinal : Bool) : Except ServiceError (Unit × Database) :=
  match documentId, newContent with
  | none, _ => .error (.appException "documentId is required" 400)
  | some _, none => .error (.appException "content is required" 400)
  | some documentId, some newContent =>
      if isFinal = false then do
        let expiresAt ← now.plus defaultLockTtl
        let db ← updateContentAndRefreshCollaborativeLock db documentId newContent now expiresAt
        return ((), db)
      else do
        let (_, db) ← LockService.releaseCollaborativeLock db now documentId
        match db.documents documentId with
        | none => .error (.notFound "Document not found")
        | some doc =>
            return ((), db.updateDocument documentId
              ({ doc with content := some newContent }.touch now))

end WorkerDocumentSyncService

end CollabEditor.Backend
