import CollabEditor.Backend.Database

/-! # The lock service

Each operation reads the document's lock row, decides, and writes at most that
row. Every `Instant.now()` of one transaction is the same instant here.
Removing an expired row before throwing leaves no trace, since the exception
rolls the removal back; the branches that do so only throw.
-/

namespace CollabEditor.Backend

open Database

namespace LockType

/-- `String.trim`: strip the characters up to U+0020 at both ends. -/
def trim (value : String) : List Char :=
  ((value.toList.dropWhile (· ≤ ' ')).reverse.dropWhile (· ≤ ' ')).reverse

/-- `Character.toUpperCase` as far as the names of the constants need it: the
two letters outside ASCII with an ASCII capital are U+0131 and U+017F. -/
def toUpperCase (c : Char) : Char :=
  if c = 'ı' then 'I' else if c = 'ſ' then 'S' else c.toUpper

/-- `LockType.fromRequest`; `none` is a missing parameter. A blank value names
no constant, so the check for it throws what `valueOf` would. -/
def fromRequest (value : Option String) : Except ServiceError LockType :=
  match value with
  | none => .error .illegalArgument
  | some value =>
      if (trim value).map toUpperCase = "EXCLUSIVE".toList then .ok .exclusive
      else if (trim value).map toUpperCase = "COLLABORATIVE".toList then .ok .collaborative
      else .error .illegalArgument

end LockType

namespace LockService

/-- `DEFAULT_LOCK_TTL`. -/
def defaultLockTtl : Duration := .ofMinutes 5

variable (db : Database) (now : Instant)

/-- `createLock`: the holder is recorded for an exclusive lock only. -/
def createLock (document : DocumentId) (user : User) (type : LockType) (ttl : Duration) :
    Except ServiceError (DocumentLock × Database) := do
  let expiresAt ← now.plus ttl
  let newLock : DocumentLock :=
    { lockType := type
      lockedByUser := if type = .exclusive then some user else none
      lockedAt := now
      expiresAt := some expiresAt }
  let db ← db.insertLock document newLock
  return (newLock, db)

/-- `current.setExpiresAt(Instant.now().plus(ttl))` and `save`. -/
def extendLock (document : DocumentId) (current : DocumentLock) (ttl : Duration) :
    Except ServiceError (DocumentLock × Database) := do
  let expiresAt ← now.plus ttl
  let saved : DocumentLock := { current with expiresAt := some expiresAt }
  return (saved, db.updateLock document saved)

/-- Turn an exclusive row into a collaborative one without a holder. -/
def makeCollaborative (document : DocumentId) (current : DocumentLock) (ttl : Duration) :
    Transaction DocumentLock :=
  extendLock db now document
    { current with lockType := .collaborative, lockedByUser := none } ttl

/-- `handleLockRequest`: a request that meets an unexpired row. -/
def handleLockRequest (document : DocumentId) (user : User) (ttl : Duration)
    (requestedType : LockType) (current : DocumentLock) : Transaction DocumentLock :=
  if current.lockType = requestedType then
    if requestedType = .exclusive ∧ current.isHeldBy user = false then
      .error (.appException "Document currently locked by another user" 423)
    else extendLock db now document current ttl
  -- the types differ: only the holder of an exclusive row may ask for a collaborative one
  else if current.lockType = .exclusive ∧ requestedType = .collaborative then
    if current.isHeldBy user = false then
      .error (.appException "Only the exclusive lock holder can switch it to collaborative" 423)
    else makeCollaborative db now document current ttl
  else .error (.appException "Document is already locked" 423)

/-- `acquireLock`; a missing ttl is the default one, a missing type exclusive. -/
def acquireLock (document : DocumentId) (user : User) (ttl : Option Duration)
    (requestedType : Option LockType) : Transaction DocumentLock :=
  let ttl := ttl.getD defaultLockTtl
  let requestedType := requestedType.getD .exclusive
  match db.documentLocks document with
  | some current =>
      if current.isExpired now then
        createLock (db.deleteLock document) now document user requestedType ttl
      else handleLockRequest db now document user ttl requestedType current
  | none => createLock db now document user requestedType ttl

def switchExclusiveToCollaborative (document : DocumentId) (user : User)
    (ttl : Option Duration) : Transaction DocumentLock :=
  let ttl := ttl.getD defaultLockTtl
  match db.documentLocks document with
  | none => .error (.appException "Document is not locked" 423)
  | some current =>
      if current.isExpired now then .error (.appException "Document lock has expired" 423)
      else if current.lockType ≠ .exclusive then
        .error (.appException "Only exclusive locks can be switched to collaborative" 409)
      else if current.isHeldBy user = false then
        .error (.appException "Only the exclusive lock holder can switch it" 423)
      else makeCollaborative db now document current ttl

/-- `releaseLock`: an unexpired row is deleted for whoever has a permission row
for the document, whatever its type and holder. -/
def releaseLock (document : DocumentId) (user : User) : Transaction Unit :=
  match db.documentLocks document with
  | none => .ok ((), db)
  | some current =>
      if current.isExpired now then .ok ((), db.deleteLock document)
      else if db.existsPermission document user.id = false then
        .error (.appException "User does not have permission to release this lock" 403)
      else .ok ((), db.deleteLock document)

/-- `releaseCollaborativeLock`: the two branches differ in what they log; neither
looks at the type of the row. -/
def releaseCollaborativeLock (documentId : DocumentId) : Transaction Unit :=
  match db.documentLocks documentId with
  | none => .ok ((), db)
  | some current =>
      if current.isExpired now then .ok ((), db.deleteLock documentId)
      else .ok ((), db.deleteLock documentId)

def refreshLock (document : DocumentId) (user : User) (ttl : Option Duration) :
    Transaction DocumentLock :=
  let ttl := ttl.getD defaultLockTtl
  match db.documentLocks document with
  | none => createLock db now document user .exclusive ttl
  | some current =>
      if current.isExpired now then
        -- whoever asks gets a row of the type that has expired: no permission is checked here
        createLock (db.deleteLock document) now document user current.lockType ttl
      else if current.lockType = .exclusive then
        if current.isHeldBy user = false then
          .error (.appException "Document currently locked by another user" 423)
        else extendLock db now document current ttl
      else if db.existsPermission document user.id = false then
        .error (.appException "User does not have permission to refresh this lock" 403)
      else extendLock db now document current ttl

/-- `getLock` reports an unexpired row. -/
def getLock (document : DocumentId) : Option DocumentLock :=
  match db.documentLocks document with
  | none => none
  | some lock =>
      -- the delete of an expired row is not flushed: the transaction is read-only
      if lock.isExpired now then none else some lock

/-- `createSystemCollaborativeLock`. -/
def createSystemCollaborativeLock (documentId : DocumentId) :
    Except ServiceError (DocumentLock × Database) := do
  let expiresAt ← now.plus defaultLockTtl
  let newLock : DocumentLock :=
    { lockType := .collaborative
      lockedByUser := none
      lockedAt := now
      expiresAt := some expiresAt }
  let db ← db.insertLock documentId newLock
  return (newLock, db)

def acquireCollaborativeLock (documentId : DocumentId) : Transaction DocumentLock :=
  match db.documentLocks documentId with
  | some current =>
      if current.isExpired now then
        createSystemCollaborativeLock (db.deleteLock documentId) now documentId
      else if current.lockType = .exclusive then
        .error (.appException
          "Cannot acquire collaborative lock: Document is currently locked exclusively." 409)
      else extendLock db now documentId current defaultLockTtl
  | none => createSystemCollaborativeLock db now documentId

end LockService

end CollabEditor.Backend
