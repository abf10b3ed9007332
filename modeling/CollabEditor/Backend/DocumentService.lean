import CollabEditor.Backend.LockService

/-! # The document service

A save writes the content and `lastModified`. Hibernate increments the version
of a document row it finds changed at commit; the content is in a row of its
own, so of the two writes only that of `lastModified` counts as a change.
-/

namespace CollabEditor.Backend

open Database

/-- `setLastModified(now)` and `save`, with the version Hibernate writes. -/
def Document.touch (doc : Document) (now : Instant) : Document :=
  if doc.lastModified = now then doc
  else { doc with lastModified := now, version := doc.version + 1 }

@[simp] theorem Document.touch_content (doc : Document) (now : Instant) :
    (doc.touch now).content = doc.content := by
  unfold touch
  split <;> rfl

@[simp] theorem Document.touch_owner (doc : Document) (now : Instant) :
    (doc.touch now).owner = doc.owner := by
  unfold touch
  split <;> rfl

namespace DocumentService

variable (db : Database) (now : Instant)

/-- `create`: the document and the permission row of its owner. The title column
is not nullable. -/
def create (owner : User) (title : Option String) (content : Option String) :
    Except ServiceError (DocumentId × Database) := do
  let title ← title.elim (.error .constraintViolation) .ok
  let id : DocumentId := db.nextDocumentId
  let doc : Document :=
    { owner := owner
      title := title
      content := some (content.getD "")
      version := 0
      createdAt := now
      lastModified := now }
  let saved : Database :=
    { db.updateDocument id doc with nextDocumentId := db.nextDocumentId + 1 }
  let db ← saved.insertPermission
    { documentId := id, user := owner, level := .owner, grantedAt := now }
  return (id, db)

/-- `canUserEdit`: the owner, or a permission row of level `EDITOR`. -/
def canUserEdit (documentId : DocumentId) (doc : Document) (user : User) : Bool :=
  if doc.owner.id = user.id then true
  else match db.findPermission documentId user.id with
    | some permission => permission.level == .editor
    | none => false

/-- `getById`. -/
def getById (docId : DocumentId) : Except ServiceError Document :=
  match db.documents docId with
  | some doc => .ok doc
  | none => .error (.notFound "Document not found")

/-- `saveDocument`: the caller must be able to edit, and an exclusive lock must
be the caller's. A collaborative lock admits every editor. -/
def saveDocument (docId : DocumentId) (user : User) (newContent : Option String) :
    Transaction Document :=
  match db.documents docId with
  | none => .error (.notFound "Document not found")
  | some doc =>
      if canUserEdit db docId doc user = false then
        .error (.appException "User does not have edit rights" 403)
      else match db.documentLocks docId with
        | none => .error (.appException "You must acquire edit lock before saving" 423)
        | some lock =>
            if lock.isExpired now then
              .error (.appException "You must acquire edit lock before saving" 423)
            else if lock.lockType = .exclusive ∧ lock.isHeldBy user = false then
              .error (.appException "Document is locked by another user" 423)
            else
              let saved := { doc with content := newContent }.touch now
              .ok (saved, db.updateDocument docId saved)

/-- `deleteDocument`: the rows that reference the document, then its own. -/
def deleteDocument (docId : DocumentId) (user : User) : Transaction Unit :=
  match db.documents docId with
  | none => .error (.notFound "Document not found")
  | some doc =>
      if doc.owner.id ≠ user.id then
        .error (.appException "Only owner can delete document" 403)
      else
        .ok ((), { db with
          documentLocks := Function.update db.documentLocks docId none
          accessRequests := db.accessRequests.filter fun row => row.documentId != docId
          invites := db.invites.filter fun row => row.documentId != docId
          documentPermissions :=
            db.documentPermissions.filter fun row => row.documentId != docId
          documents := Function.update db.documents docId none })

/-- `DocumentSummaryWithContentDto`. -/
structure Summary where
  documentId : DocumentId
  title : String
  content : Option String
  ownerId : UserId
  ownerUsername : String
  lastModified : Instant
  version : Int32
  myPermission : PermissionLevel
deriving DecidableEq, Repr

/-- `getDocumentSummaryWithContentByDocumentAndUser`: the inner join of the
permission row with its document, so nothing without a permission row. -/
def getDocumentSummaryWithContent (documentId : DocumentId) (userId : UserId) :
    Option Summary :=
  match db.findPermission documentId userId, db.documents documentId with
  | some permission, some doc => some
      { documentId := documentId
        title := doc.title
        content := doc.content
        ownerId := doc.owner.id
        ownerUsername := doc.owner.username
        lastModified := doc.lastModified
        version := doc.version
        myPermission := permission.level }
  | _, _ => none

end DocumentService

end CollabEditor.Backend
