import CollabEditor.Foundation.Except
import CollabEditor.Backend.Requests

/-! # What one transaction can do to the tables

The operations are unfolded here and nowhere else: every later argument about
lock rows, contents or permissions is a case analysis on these effects.
-/

namespace CollabEditor.Backend

open Foundation Database

/-! ## Lock rows -/

/-- What a lock operation of `user` at `now` may do to the row it is about. -/
inductive LockChange (now : Instant) (user : User) :
    Option DocumentLock → Option DocumentLock → Prop
  | keep (row : Option DocumentLock) : LockChange now user row row
  | remove (lock : DocumentLock) : LockChange now user (some lock) none
  | create {row : Option DocumentLock} (new : DocumentLock)
      (hfree : ∀ lock, row = some lock → lock.isExpired now = true)
      (hholder : new.lockedByUser = if new.lockType = .exclusive then some user else none) :
      LockChange now user row (some new)
  | extend {lock new : DocumentLock} (hlive : lock.isExpired now = false)
      (hheld : lock.lockType = .exclusive → lock.isHeldBy user = true)
      (htype : new.lockType = lock.lockType) (hholder : new.lockedByUser = lock.lockedByUser) :
      LockChange now user (some lock) (some new)
  | share {lock new : DocumentLock} (hlive : lock.isExpired now = false)
      (htype : lock.lockType = .exclusive) (hheld : lock.isHeldBy user = true)
      (hshared : new.lockType = .collaborative) (hholder : new.lockedByUser = none) :
      LockChange now user (some lock) (some new)

/-- Write the lock row of a document, or remove it. -/
def Database.setLock (db : Database) (id : DocumentId) (row : Option DocumentLock) : Database :=
  { db with documentLocks := Function.update db.documentLocks id row }

@[simp] theorem Database.setLock_documents (db : Database) (id : DocumentId)
    (row : Option DocumentLock) : (db.setLock id row).documents = db.documents := rfl

@[simp] theorem Database.setLock_documentLocks (db : Database) (id : DocumentId)
    (row : Option DocumentLock) :
    (db.setLock id row).documentLocks = Function.update db.documentLocks id row := rfl

@[simp] theorem Database.setLock_documentPermissions (db : Database) (id : DocumentId)
    (row : Option DocumentLock) :
    (db.setLock id row).documentPermissions = db.documentPermissions := rfl

theorem Database.setLock_self (db : Database) (id : DocumentId) :
    db.setLock id (db.documentLocks id) = db := by
  simp [setLock]

theorem Database.deleteLock_eq (db : Database) (id : DocumentId) :
    db.deleteLock id = db.setLock id none := rfl

@[simp] theorem Database.setLock_setLock (db : Database) (id : DocumentId)
    (first second : Option DocumentLock) :
    (db.setLock id first).setLock id second = db.setLock id second := by
  simp [setLock]

/-- The operation ends in a change of the row of `document` and nothing else. -/
def LockEffect (db next : Database) (now : Instant) (document : DocumentId) (user : User) :
    Prop :=
  ∃ row, LockChange now user (db.documentLocks document) row ∧ next = db.setLock document row

theorem LockEffect.refl (db : Database) (now : Instant) (document : DocumentId) (user : User) :
    LockEffect db db now document user :=
  ⟨_, .keep _, (db.setLock_self document).symm⟩

namespace LockService

variable {db next : Database} {now : Instant} {document : DocumentId} {user : User}

theorem createLock_ok {type : LockType} {ttl : Duration} {lock : DocumentLock}
    (hok : createLock db now document user type ttl = .ok (lock, next)) :
    lock.lockType = type ∧
      lock.lockedByUser = (if type = .exclusive then some user else none) ∧
      db.documentLocks document = none ∧ (db.documents document).isSome ∧
      next = db.setLock document (some lock) := by
  simp only [createLock, Except.bind_eq_ok_iff, Except.pure_eq_ok_iff, Prod.mk.injEq,
    insertLock_eq_ok_iff] at hok
  obtain ⟨expiresAt, -, inserted, ⟨hdoc, hfree, rfl⟩, rfl, rfl⟩ := hok
  exact ⟨rfl, rfl, hfree, hdoc, rfl⟩

theorem extendLock_ok {current lock : DocumentLock} {ttl : Duration}
    (hok : extendLock db now document current ttl = .ok (lock, next)) :
    lock.lockType = current.lockType ∧ lock.lockedByUser = current.lockedByUser ∧
      next = db.setLock document (some lock) := by
  simp only [extendLock, Except.bind_eq_ok_iff, Except.pure_eq_ok_iff, Prod.mk.injEq] at hok
  obtain ⟨expiresAt, -, rfl, rfl⟩ := hok
  exact ⟨rfl, rfl, rfl⟩

theorem extendLock_of_plus {ttl : Duration} (hplus : now.plus ttl = .ok (now + ttl))
    (current : DocumentLock) :
    extendLock db now document current ttl =
      .ok ({ current with expiresAt := some (now + ttl) },
        db.updateLock document { current with expiresAt := some (now + ttl) }) := by
  rw [extendLock, hplus]
  rfl

/-- A new row replaces an absent or an expired one. -/
theorem createLock_effect {type : LockType} {ttl : Duration} {lock : DocumentLock}
    (hfree : ∀ current, db.documentLocks document = some current →
      current.isExpired now = true)
    (hok : createLock (db.deleteLock document) now document user type ttl = .ok (lock, next)) :
    LockEffect db next now document user := by
  obtain ⟨htype, hholder, -, -, rfl⟩ := createLock_ok hok
  refine ⟨some lock, .create lock hfree ?_, ?_⟩
  · rw [hholder, htype]
  · rw [deleteLock_eq, setLock_setLock]

theorem createLock_effect_of_none {type : LockType} {ttl : Duration} {lock : DocumentLock}
    (hnone : db.documentLocks document = none)
    (hok : createLock db now document user type ttl = .ok (lock, next)) :
    LockEffect db next now document user := by
  obtain ⟨htype, hholder, -, -, rfl⟩ := createLock_ok hok
  refine ⟨some lock, .create lock ?_ ?_, rfl⟩
  · simp [hnone]
  · rw [hholder, htype]

theorem extendLock_effect {current lock : DocumentLock} {ttl : Duration}
    (hrow : db.documentLocks document = some current)
    (hlive : current.isExpired now = false)
    (hheld : current.lockType = .exclusive → current.isHeldBy user = true)
    (hok : extendLock db now document current ttl = .ok (lock, next)) :
    LockEffect db next now document user := by
  obtain ⟨htype, hholder, rfl⟩ := extendLock_ok hok
  exact ⟨some lock, hrow ▸ .extend hlive hheld htype hholder, rfl⟩

theorem makeCollaborative_effect {current lock : DocumentLock} {ttl : Duration}
    (hrow : db.documentLocks document = some current)
    (hlive : current.isExpired now = false) (htype : current.lockType = .exclusive)
    (hheld : current.isHeldBy user = true)
    (hok : makeCollaborative db now document current ttl = .ok (lock, next)) :
    LockEffect db next now document user := by
  obtain ⟨hshared, hholder, rfl⟩ := extendLock_ok hok
  exact ⟨some lock, hrow ▸ .share hlive htype hheld hshared hholder, rfl⟩

theorem acquireLock_effect {ttl : Option Duration} {requestedType : Option LockType}
    {lock : DocumentLock}
    (hok : acquireLock db now document user ttl requestedType = .ok (lock, next)) :
    LockEffect db next now document user := by
  unfold acquireLock at hok
  cases hrow : db.documentLocks document with
  | none =>
      simp only [hrow] at hok
      exact createLock_effect_of_none hrow hok
  | some current =>
      simp only [hrow] at hok
      split at hok
      next hexpired =>
        exact createLock_effect (by simp [hrow, hexpired]) hok
      next hlive =>
        have hlive := Bool.eq_false_iff.mpr hlive
        unfold handleLockRequest at hok
        split at hok
        next htype =>
          split at hok
          next => simp at hok
          next hheld =>
            refine extendLock_effect hrow hlive ?_ hok
            intro hexclusive
            simpa [← htype, hexclusive] using hheld
        next =>
          split at hok
          next hswitch =>
            split at hok
            next => simp at hok
            next hheld =>
              exact makeCollaborative_effect hrow hlive hswitch.1 (by simpa using hheld) hok
          next => simp at hok

theorem switchExclusiveToCollaborative_effect {ttl : Option Duration} {lock : DocumentLock}
    (hok : switchExclusiveToCollaborative db now document user ttl = .ok (lock, next)) :
    LockEffect db next now document user := by
  unfold switchExclusiveToCollaborative at hok
  cases hrow : db.documentLocks document with
  | none => simp [hrow] at hok
  | some current =>
      simp only [hrow] at hok
      split at hok
      next => simp at hok
      next hlive =>
        split at hok
        next => simp at hok
        next htype =>
          split at hok
          next => simp at hok
          next hheld =>
            exact makeCollaborative_effect hrow (by simpa using hlive) (by simpa using htype)
              (by simpa using hheld) hok

theorem releaseLock_effect (hok : releaseLock db now document user = .ok ((), next)) :
    LockEffect db next now document user := by
  unfold releaseLock at hok
  cases hrow : db.documentLocks document with
  | none =>
      simp only [hrow, Except.ok.injEq, Prod.mk.injEq, true_and] at hok
      exact hok ▸ .refl db now document user
  | some current =>
      have hremove : LockEffect db (db.deleteLock document) now document user :=
        ⟨none, hrow ▸ .remove current, deleteLock_eq db document⟩
      simp only [hrow] at hok
      split at hok
      next =>
        simp only [Except.ok.injEq, Prod.mk.injEq, true_and] at hok
        exact hok ▸ hremove
      next =>
        split at hok
        next => simp at hok
        next =>
          simp only [Except.ok.injEq, Prod.mk.injEq, true_and] at hok
          exact hok ▸ hremove

theorem refreshLock_effect {ttl : Option Duration} {lock : DocumentLock}
    (hok : refreshLock db now document user ttl = .ok (lock, next)) :
    LockEffect db next now document user := by
  unfold refreshLock at hok
  cases hrow : db.documentLocks document with
  | none =>
      simp only [hrow] at hok
      exact createLock_effect_of_none hrow hok
  | some current =>
      simp only [hrow] at hok
      split at hok
      next hexpired =>
        exact createLock_effect (by simp [hrow, hexpired]) hok
      next hlive =>
        have hlive := Bool.eq_false_iff.mpr hlive
        split at hok
        next hexclusive =>
          split at hok
          next => simp at hok
          next hheld => exact extendLock_effect hrow hlive (fun _ => by simpa using hheld) hok
        next hshared =>
          split at hok
          next => simp at hok
          next => exact extendLock_effect hrow hlive (fun h => absurd h hshared) hok

end LockService

/-! ## Requests -/

/-- The document whose lock row a lock endpoint is about. -/
def Request.lockTarget : Request → Option DocumentId
  | .acquireLock id _ _ | .switchToCollaborative id _ | .releaseLock id
  | .refreshLock id _ | .getLock id => some id
  | _ => none

/-- What a committed request of `user` can do to documents, lock rows and
permission rows. -/
inductive RequestEffect (db : Database) (now : Instant) (user : User) :
    Request → Database → Prop
  /-- Reading, inviting and asking for access write none of the three tables. -/
  | unchanged {request : Request} {next : Database} (htarget : request.lockTarget = none)
      (hdocuments : next.documents = db.documents)
      (hlocks : next.documentLocks = db.documentLocks)
      (hpermissions : next.documentPermissions = db.documentPermissions)
      (hid : next.nextDocumentId = db.nextDocumentId) : RequestEffect db now user request next
  | create {title content : Option String} {next : Database} (doc : Document)
      (howner : doc.owner = user)
      (hdocuments : next.documents =
        Function.update db.documents (db.nextDocumentId : DocumentId) (some doc))
      (hlocks : next.documentLocks = db.documentLocks)
      (hpermissions : next.documentPermissions =
        ⟨db.nextDocumentId, user, .owner, now⟩ :: db.documentPermissions)
      (hid : next.nextDocumentId = db.nextDocumentId + 1) :
      RequestEffect db now user (.create title content) next
  | save {id : DocumentId} {content : Option String} (doc : Document) (lock : DocumentLock)
      (hdoc : db.documents id = some doc)
      (hedit : DocumentService.canUserEdit db id doc user = true)
      (hlock : db.documentLocks id = some lock) (hlive : lock.isExpired now = false)
      (hheld : lock.lockType = .exclusive → lock.isHeldBy user = true) :
      RequestEffect db now user (.save id content)
        (db.updateDocument id ({ doc with content := content }.touch now))
  | lock {request : Request} {id : DocumentId} {next : Database}
      (htarget : request.lockTarget = some id) (hdocument : (db.documents id).isSome)
      (heffect : LockEffect db next now id user) :
      RequestEffect db now user request next
  | delete {id : DocumentId} {next : Database} (doc : Document)
      (hdoc : db.documents id = some doc) (howner : doc.owner.id = user.id)
      (hdocuments : next.documents = Function.update db.documents id none)
      (hlocks : next.documentLocks = Function.update db.documentLocks id none)
      (hpermissions : next.documentPermissions =
        db.documentPermissions.filter fun row => row.documentId != id)
      (hid : next.nextDocumentId = db.nextDocumentId) :
      RequestEffect db now user (.delete id) next
  /-- An approving invite or an approved request adds one permission row. -/
  | grant {request : Request} {next : Database} (row : DocumentPermission)
      (htarget : request.lockTarget = none)
      (hdocument : (db.documents row.documentId).isSome)
      (hfresh : db.existsPermission row.documentId row.user.id = false)
      (hdocuments : next.documents = db.documents)
      (hlocks : next.documentLocks = db.documentLocks)
      (hpermissions : next.documentPermissions = row :: db.documentPermissions)
      (hid : next.nextDocumentId = db.nextDocumentId) : RequestEffect db now user request next

namespace DocumentService

variable {db next : Database} {now : Instant} {user : User}

theorem getById_ok {id : DocumentId} {doc : Document} (hok : getById db id = .ok doc) :
    (db.documents id).isSome := by
  unfold getById at hok
  split at hok
  next found hdoc => simp [hdoc]
  next => simp at hok

theorem create_ok {title content : Option String} {id : DocumentId}
    (hok : create db now user title content = .ok (id, next)) :
    RequestEffect db now user (.create title content) next := by
  unfold create at hok
  cases title with
  | none => simp at hok
  | some title =>
      simp only [Option.elim_some, Except.bind_eq_ok_iff, Except.pure_eq_ok_iff, Prod.mk.injEq,
        insertPermission_eq_ok_iff] at hok
      obtain ⟨_, -, inserted, ⟨-, -, rfl⟩, rfl, rfl⟩ := hok
      exact .create _ rfl rfl rfl rfl rfl

/-- A save is accepted from an editor under an unexpired row that is not
another user's exclusive one. -/
theorem saveDocument_ok {id : DocumentId} {content : Option String} {saved : Document}
    (hok : saveDocument db now id user content = .ok (saved, next)) :
    ∃ doc lock, db.documents id = some doc ∧ canUserEdit db id doc user = true ∧
      db.documentLocks id = some lock ∧ lock.isExpired now = false ∧
      (lock.lockType = .exclusive → lock.isHeldBy user = true) ∧
      next = db.updateDocument id ({ doc with content := content }.touch now) := by
  unfold saveDocument at hok
  cases hdoc : db.documents id with
  | none => simp [hdoc] at hok
  | some doc =>
      simp only [hdoc] at hok
      split at hok
      next => simp at hok
      next hedit =>
        cases hlock : db.documentLocks id with
        | none => simp [hlock] at hok
        | some lock =>
            simp only [hlock] at hok
            split at hok
            next => simp at hok
            next hlive =>
              split at hok
              next => simp at hok
              next hheld =>
                simp only [Except.ok.injEq, Prod.mk.injEq] at hok
                exact ⟨doc, lock, rfl, by simpa using hedit, rfl, by simpa using hlive,
                  by simpa using hheld, hok.2.symm⟩

theorem deleteDocument_ok {id : DocumentId} (hok : deleteDocument db id user = .ok ((), next)) :
    RequestEffect db now user (.delete id) next := by
  unfold deleteDocument at hok
  cases hdoc : db.documents id with
  | none => simp [hdoc] at hok
  | some doc =>
      simp only [hdoc] at hok
      split at hok
      next => simp at hok
      next howner =>
        simp only [Except.ok.injEq, Prod.mk.injEq, true_and] at hok
        subst next
        exact .delete doc hdoc (by simpa using howner) rfl rfl rfl rfl

end DocumentService

namespace SharingService

variable {db next : Database} {now : Instant} {user : User}

theorem createInvite_ok {docId : DocumentId} {doc : Document} {autoApprove : Bool}
    {expiresAt : Option Instant} {token : String} {invite : Invite}
    (hok : createInvite db now docId doc user autoApprove expiresAt token =
      .ok (invite, next)) :
    next = { db with invites := invite :: db.invites } := by
  unfold createInvite at hok
  split at hok
  next => simp at hok
  next =>
    split at hok
    next => simp at hok
    next =>
      simp only [Except.ok.injEq, Prod.mk.injEq] at hok
      obtain ⟨rfl, rfl⟩ := hok
      rfl

/-- What redeeming an invite can have done. -/
inductive InviteUsed (db : Database) (now : Instant) (token : String) (user : User) :
    Database → Prop
  | unchanged : InviteUsed db now token user db
  | letIn (invite : Invite)
      (hinvite : (db.invites.find? fun row => row.token == token) = some invite)
      (hlive : invite.expiresAt.any (· < now) = false) (hauto : invite.autoApprove = true)
      (hdocument : (db.documents invite.documentId).isSome)
      (hfresh : db.existsPermission invite.documentId user.id = false) :
      InviteUsed db now token user
        { db with documentPermissions :=
            ⟨invite.documentId, user, .viewer, now⟩ :: db.documentPermissions }
  | ask (invite : Invite)
      (hinvite : (db.invites.find? fun row => row.token == token) = some invite)
      (hlive : invite.expiresAt.any (· < now) = false) (hauto : invite.autoApprove = false)
      (hdocument : (db.documents invite.documentId).isSome)
      (hfresh : findByDocumentAndRequester db invite.documentId user = .ok none) :
      InviteUsed db now token user
        { db with
          accessRequests :=
            ⟨db.nextRequestId, invite.documentId, user, now⟩ :: db.accessRequests
          nextRequestId := db.nextRequestId + 1 }

theorem useInvite_cases {token : String} {result : InviteResult}
    (hok : useInvite db now token user = .ok (result, next)) :
    InviteUsed db now token user next := by
  unfold useInvite at hok
  cases hfind : db.invites.find? fun row => row.token == token with
  | none => simp [hfind] at hok
  | some invite =>
      simp only [hfind] at hok
      split at hok
      next => simp at hok
      next hlive =>
        rw [Bool.not_eq_true] at hlive
        split at hok
        next hauto =>
          split at hok
          next =>
            simp only [Except.ok.injEq, Prod.mk.injEq] at hok
            obtain ⟨-, rfl⟩ := hok
            exact .unchanged
          next =>
            simp only [Except.bind_eq_ok_iff, Except.pure_eq_ok_iff, Prod.mk.injEq,
              insertPermission_eq_ok_iff] at hok
            obtain ⟨inserted, ⟨hdocument, hfresh, rfl⟩, -, rfl⟩ := hok
            exact .letIn invite hfind hlive hauto hdocument hfresh
        next hauto =>
          simp only [Except.bind_eq_ok_iff] at hok
          obtain ⟨found, hfound, hok⟩ := hok
          cases found with
          | none =>
              simp only [Except.bind_eq_ok_iff, Except.pure_eq_ok_iff, Prod.mk.injEq] at hok
              obtain ⟨written, hinsert, -, rfl⟩ := hok
              have hdocument : (db.documents invite.documentId).isSome := by
                unfold Database.insertAccessRequest at hinsert
                split at hinsert
                next => simp at hinsert
                next doc hdoc => simp [hdoc]
              rw [db.insertAccessRequest_ok hinsert]
              exact .ask invite hfind hlive (by simpa using hauto) hdocument hfound
          | some existing =>
              simp only [Except.pure_eq_ok_iff, Prod.mk.injEq] at hok
              obtain ⟨-, rfl⟩ := hok
              exact .unchanged

theorem useInvite_ok {token : String} {result : InviteResult}
    (hok : useInvite db now token user = .ok (result, next)) :
    RequestEffect db now user (.useInvite token) next := by
  cases useInvite_cases hok with
  | unchanged => exact .unchanged rfl rfl rfl rfl rfl
  | letIn invite _ _ _ hdocument hfresh => exact .grant _ rfl hdocument hfresh rfl rfl rfl rfl
  | ask invite => exact .unchanged rfl rfl rfl rfl rfl

/-- What a decision can have done. -/
inductive RequestProcessed (db : Database) (now : Instant) (requestId : Nat)
    (grantedLevel : Option PermissionLevel) : Bool → Database → Prop
  | reject : RequestProcessed db now requestId grantedLevel false
      { db with accessRequests := db.accessRequests.filter fun row => row.id != requestId }
  | approve (request : AccessRequest)
      (hrequest : (db.accessRequests.find? fun row => row.id == requestId) = some request)
      (hdocument : (db.documents request.documentId).isSome)
      (hfresh : db.existsPermission request.documentId request.requester.id = false) :
      RequestProcessed db now requestId grantedLevel true
        { db with
          documentPermissions := ⟨request.documentId, request.requester,
            grantedLevel.getD .viewer, now⟩ :: db.documentPermissions
          accessRequests := db.accessRequests.filter fun row => row.id != requestId }

theorem processRequest_cases {requestId : Nat} {approve : Bool}
    {grantedLevel : Option PermissionLevel}
    (hok : processRequest db now requestId user approve grantedLevel = .ok ((), next)) :
    RequestProcessed db now requestId grantedLevel approve next := by
  unfold processRequest at hok
  cases hfind : db.accessRequests.find? fun row => row.id == requestId with
  | none => simp [hfind] at hok
  | some request =>
      simp only [hfind] at hok
      cases hdoc : db.documents request.documentId with
      | none => simp [hdoc] at hok
      | some doc =>
          simp only [hdoc] at hok
          split at hok
          next => simp at hok
          next =>
            simp only [Except.bind_eq_ok_iff, Except.pure_eq_ok_iff, Prod.mk.injEq,
              true_and] at hok
            obtain ⟨granted, hgranted, rfl⟩ := hok
            cases approve with
            | false =>
                simp only [Bool.false_eq_true, if_false, Except.ok.injEq] at hgranted
                subst granted
                exact .reject
            | true =>
                simp only [if_true, insertPermission_eq_ok_iff] at hgranted
                obtain ⟨hdocument, hfresh, rfl⟩ := hgranted
                exact .approve request hfind hdocument hfresh

theorem processRequest_ok {requestId : Nat} {approve : Bool} {level : Option String}
    {grantedLevel : Option PermissionLevel}
    (hok : processRequest db now requestId user approve grantedLevel = .ok ((), next)) :
    RequestEffect db now user (.processRequest requestId approve level) next := by
  cases processRequest_cases hok with
  | reject => exact .unchanged rfl rfl rfl rfl rfl
  | approve request _ hdocument hfresh => exact .grant _ rfl hdocument hfresh rfl rfl rfl rfl

end SharingService

/-- Every committed request has one of the effects. -/
theorem Request.serve_effect {db next : Database} {now : Instant} {user : User}
    {request : Request} {reply : Reply}
    (hok : request.serve db now user = .ok (reply, next)) :
    RequestEffect db now user request next := by
  cases request with
  | create title content =>
      simp only [serve, Except.bind_eq_ok_iff, Except.pure_eq_ok_iff, Prod.mk.injEq,
        Prod.exists] at hok
      obtain ⟨id, created, hcreate, doc, -, -, rfl⟩ := hok
      exact DocumentService.create_ok hcreate
  | read id =>
      simp only [serve, Except.ok.injEq, Prod.mk.injEq] at hok
      obtain ⟨-, rfl⟩ := hok
      exact .unchanged rfl rfl rfl rfl rfl
  | save id content =>
      simp only [serve, Except.bind_eq_ok_iff, Except.pure_eq_ok_iff, Prod.mk.injEq,
        Prod.exists] at hok
      obtain ⟨saved, written, hsave, -, rfl⟩ := hok
      obtain ⟨doc, lock, hdoc, hedit, hlock, hlive, hheld, rfl⟩ :=
        DocumentService.saveDocument_ok hsave
      exact .save doc lock hdoc hedit hlock hlive hheld
  | acquireLock id lockType ttlSeconds =>
      simp only [serve, Except.bind_eq_ok_iff, Except.pure_eq_ok_iff, Prod.mk.injEq,
        Prod.exists] at hok
      obtain ⟨doc, hdoc, requestedType, -, lock, written, hacquire, -, rfl⟩ := hok
      exact .lock rfl (DocumentService.getById_ok hdoc) (LockService.acquireLock_effect hacquire)
  | switchToCollaborative id ttlSeconds =>
      simp only [serve, Except.bind_eq_ok_iff, Except.pure_eq_ok_iff, Prod.mk.injEq,
        Prod.exists] at hok
      obtain ⟨doc, hdoc, lock, written, hswitch, -, rfl⟩ := hok
      exact .lock rfl (DocumentService.getById_ok hdoc)
        (LockService.switchExclusiveToCollaborative_effect hswitch)
  | releaseLock id =>
      simp only [serve, Except.bind_eq_ok_iff, Except.pure_eq_ok_iff, Prod.mk.injEq,
        Prod.exists] at hok
      obtain ⟨doc, hdoc, _, written, hrelease, -, rfl⟩ := hok
      exact .lock rfl (DocumentService.getById_ok hdoc) (LockService.releaseLock_effect hrelease)
  | refreshLock id ttlSeconds =>
      simp only [serve, Except.bind_eq_ok_iff, Except.pure_eq_ok_iff, Prod.mk.injEq,
        Prod.exists] at hok
      obtain ⟨doc, hdoc, lock, written, hrefresh, -, rfl⟩ := hok
      exact .lock rfl (DocumentService.getById_ok hdoc) (LockService.refreshLock_effect hrefresh)
  | getLock id =>
      simp only [serve, Except.bind_eq_ok_iff, Except.pure_eq_ok_iff, Prod.mk.injEq] at hok
      obtain ⟨doc, hdoc, -, rfl⟩ := hok
      exact .lock rfl (DocumentService.getById_ok hdoc) (.refl db now id user)
  | delete id =>
      simp only [serve, Except.bind_eq_ok_iff, Except.pure_eq_ok_iff, Prod.mk.injEq,
        Prod.exists] at hok
      obtain ⟨_, written, hdelete, -, rfl⟩ := hok
      exact DocumentService.deleteDocument_ok hdelete
  | createInvite docId autoApprove expiresInSeconds token =>
      simp only [serve, Except.bind_eq_ok_iff, Except.pure_eq_ok_iff, Prod.mk.injEq,
        Prod.exists] at hok
      obtain ⟨doc, -, expiresAt, -, invite, written, hinvite, -, rfl⟩ := hok
      rw [SharingService.createInvite_ok hinvite]
      exact .unchanged rfl rfl rfl rfl rfl
  | useInvite token =>
      simp only [serve, Except.bind_eq_ok_iff, Except.pure_eq_ok_iff, Prod.mk.injEq,
        Prod.exists] at hok
      obtain ⟨result, written, huse, -, rfl⟩ := hok
      exact SharingService.useInvite_ok huse
  | processRequest requestId approve level =>
      simp only [serve, Except.bind_eq_ok_iff, Except.pure_eq_ok_iff, Prod.mk.injEq,
        Prod.exists] at hok
      obtain ⟨_, written, hprocess, -, rfl⟩ := hok
      exact SharingService.processRequest_ok hprocess

/-! ## Worker operations -/

/-- What a committed worker operation can do. Only `acquire` looks at the type
of the row it meets. -/
inductive WorkerEffect (db : Database) (now : Instant) : WorkerOperation → Database → Prop
  | periodic {id : DocumentId} {content : String} (doc : Document) (expiresAt : Instant)
      (hdoc : db.documents id = some doc) :
      WorkerEffect db now (.syncDocument (some id) (some content) false)
        ((db.updateDocument id { doc with content := some content }).setLock id
          (some ⟨.collaborative, none, now, some expiresAt⟩))
  | final {id : DocumentId} {content : String} (doc : Document)
      (hdoc : db.documents id = some doc) :
      WorkerEffect db now (.syncDocument (some id) (some content) true)
        ((db.setLock id none).updateDocument id
          ({ doc with content := some content }.touch now))
  | release (id : DocumentId) :
      WorkerEffect db now (.releaseCollaborativeLock id) (db.setLock id none)
  | acquireNew {id : DocumentId} (lock : DocumentLock) (hdocument : (db.documents id).isSome)
      (hfree : ∀ old, db.documentLocks id = some old → old.isExpired now = true)
      (htype : lock.lockType = .collaborative) (hholder : lock.lockedByUser = none) :
      WorkerEffect db now (.acquireCollaborativeLock id) (db.setLock id (some lock))
  | acquireExtend {id : DocumentId} (old lock : DocumentLock)
      (hold : db.documentLocks id = some old) (hlive : old.isExpired now = false)
      (hshared : old.lockType = .collaborative)
      (htype : lock.lockType = old.lockType) (hholder : lock.lockedByUser = old.lockedByUser) :
      WorkerEffect db now (.acquireCollaborativeLock id) (db.setLock id (some lock))

namespace LockService

variable {db next : Database} {now : Instant} {id : DocumentId}

theorem releaseCollaborativeLock_eq (db : Database) (now : Instant) (id : DocumentId) :
    releaseCollaborativeLock db now id = .ok ((), db.setLock id none) := by
  unfold releaseCollaborativeLock
  cases hrow : db.documentLocks id with
  | none => simp [← hrow, setLock_self]
  | some current => simp [deleteLock_eq]

theorem createSystemCollaborativeLock_ok {lock : DocumentLock}
    (hok : createSystemCollaborativeLock db now id = .ok (lock, next)) :
    lock.lockType = .collaborative ∧ lock.lockedByUser = none ∧ (db.documents id).isSome ∧
      next = db.setLock id (some lock) := by
  simp only [createSystemCollaborativeLock, Except.bind_eq_ok_iff, Except.pure_eq_ok_iff,
    Prod.mk.injEq, insertLock_eq_ok_iff] at hok
  obtain ⟨expiresAt, -, inserted, ⟨hdoc, -, rfl⟩, rfl, rfl⟩ := hok
  exact ⟨rfl, rfl, hdoc, rfl⟩

theorem acquireCollaborativeLock_ok {lock : DocumentLock}
    (hok : acquireCollaborativeLock db now id = .ok (lock, next)) :
    WorkerEffect db now (.acquireCollaborativeLock id) next := by
  unfold acquireCollaborativeLock at hok
  cases hrow : db.documentLocks id with
  | none =>
      simp only [hrow] at hok
      obtain ⟨htype, hholder, hdoc, rfl⟩ := createSystemCollaborativeLock_ok hok
      exact .acquireNew lock hdoc (by simp [hrow]) htype hholder
  | some current =>
      simp only [hrow] at hok
      split at hok
      next hexpired =>
        obtain ⟨htype, hholder, hdoc, rfl⟩ := createSystemCollaborativeLock_ok hok
        rw [deleteLock_eq, setLock_setLock]
        exact .acquireNew lock hdoc (by simp [hrow, hexpired]) htype hholder
      next hlive =>
        split at hok
        next => simp at hok
        next hshared =>
          obtain ⟨htype, hholder, rfl⟩ := extendLock_ok hok
          have hcollaborative : current.lockType = .collaborative := by
            cases hcase : current.lockType with
            | exclusive => exact absurd hcase hshared
            | collaborative => rfl
          exact .acquireExtend current lock hrow (by simpa using hlive) hcollaborative htype
            hholder

end LockService

theorem WorkerDocumentSyncService.syncDocument_ok {db next : Database} {now : Instant}
    {documentId : Option DocumentId} {content : Option String} {isFinal : Bool}
    (hok : syncDocument db now documentId content isFinal = .ok ((), next)) :
    WorkerEffect db now (.syncDocument documentId content isFinal) next := by
  unfold syncDocument at hok
  match documentId, content with
  | none, _ => simp at hok
  | some _, none => simp at hok
  | some id, some content =>
      simp only at hok
      split at hok
      next hperiodic =>
        subst hperiodic
        simp only [Except.bind_eq_ok_iff, Except.pure_eq_ok_iff, Prod.mk.injEq, true_and] at hok
        obtain ⟨expiresAt, -, written, hwrite, rfl⟩ := hok
        unfold WorkerDocumentSyncRepository.updateContentAndRefreshCollaborativeLock at hwrite
        split at hwrite
        next => simp at hwrite
        next doc hdoc =>
          cases hwrite
          exact .periodic doc expiresAt hdoc
      next hfinal =>
        rw [Bool.not_eq_false] at hfinal
        subst hfinal
        simp only [LockService.releaseCollaborativeLock_eq, Except.bind_eq_ok_iff,
          Except.ok.injEq, exists_eq_left'] at hok
        split at hok
        next => simp at hok
        next doc hdoc =>
          simp only [Except.pure_eq_ok_iff, Prod.mk.injEq, true_and] at hok
          subst next
          exact .final doc hdoc

/-- Every committed worker operation has one of the effects. -/
theorem WorkerOperation.serve_effect {db next : Database} {now : Instant}
    {operation : WorkerOperation} (hok : operation.serve db now = .ok ((), next)) :
    WorkerEffect db now operation next := by
  cases operation with
  | syncDocument documentId content final =>
      exact WorkerDocumentSyncService.syncDocument_ok hok
  | releaseCollaborativeLock id =>
      simp only [serve, LockService.releaseCollaborativeLock_eq, Except.ok.injEq,
        Prod.mk.injEq, true_and] at hok
      subst next
      exact .release id
  | acquireCollaborativeLock id =>
      simp only [serve, Except.bind_eq_ok_iff, Except.pure_eq_ok_iff, Prod.mk.injEq,
        Prod.exists, true_and] at hok
      obtain ⟨lock, written, hacquire, rfl⟩ := hok
      exact LockService.acquireCollaborativeLock_ok hacquire

end CollabEditor.Backend
