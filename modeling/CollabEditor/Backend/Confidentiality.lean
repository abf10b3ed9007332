import CollabEditor.Backend.Permissions

/-! # Requests that do not see a document's content

Replacing the stored content of a document commutes with the operations that neither
read nor write it. What a user without a permission row can have done through the
document endpoints is of that kind.
-/

namespace CollabEditor.Backend

open Foundation Database

/-- Replace the stored content of a document. -/
def Database.setContent (db : Database) (documentId : DocumentId) (content : Option String) :
    Database :=
  { db with
    documents := Function.update db.documents documentId
      ((db.documents documentId).map fun document => { document with content := content }) }

/-- The requests of the document endpoints for reading, saving and locking. -/
def Request.isDocumentAccess : Request → Bool
  | .read _ | .save _ _ | .acquireLock _ _ _ | .switchToCollaborative _ _ | .releaseLock _
  | .refreshLock _ _ | .getLock _ => true
  | _ => false

/-- The request is not a save of the document by its owner. -/
def Request.NotOwnSave (db : Database) (user : User) (documentId : DocumentId) : Request → Prop
  | .save id _ => id = documentId →
      ∀ document ∈ db.documents documentId, document.owner.id ≠ user.id
  | _ => True

/-- A result with the content replaced in the database that it commits. -/
def Transaction.setContent {α : Type} (documentId : DocumentId) (content : Option String) :
    Except ServiceError (α × Database) → Except ServiceError (α × Database)
  | .error error => .error error
  | .ok (value, db) => .ok (value, db.setContent documentId content)

variable {db : Database} {now : Instant} {id documentId : DocumentId} {content : Option String}
variable {user : User}

theorem setContent_documentLocks :
    (db.setContent documentId content).documentLocks = db.documentLocks := rfl

theorem setContent_findPermission (userId : UserId) :
    (db.setContent documentId content).findPermission id userId = db.findPermission id userId := rfl

theorem setContent_existsPermission (userId : UserId) :
    (db.setContent documentId content).existsPermission id userId =
      db.existsPermission id userId := (rfl)

theorem setContent_documents_ne (db : Database) (content : Option String) (h : id ≠ documentId) :
    (db.setContent documentId content).documents id = db.documents id :=
  Function.update_of_ne h ..

theorem setContent_documents_self :
    (db.setContent documentId content).documents documentId =
      (db.documents documentId).map fun document => { document with content := content } :=
  Function.update_self ..

theorem setContent_documents_isSome :
    ((db.setContent documentId content).documents id).isSome = (db.documents id).isSome := by
  by_cases h : id = documentId
  · subst h
    simp [Database.setContent]
  · rw [setContent_documents_ne db content h]

theorem insertLock_setContent (lock : DocumentLock) :
    (db.setContent documentId content).insertLock id lock =
      (db.insertLock id lock).map (·.setContent documentId content) := by
  have hsome : ((db.setContent documentId content).documents id).isSome =
      (db.documents id).isSome := setContent_documents_isSome
  rw [Database.insertLock, Database.insertLock, setContent_documentLocks]
  cases hbefore : (db.setContent documentId content).documents id with
  | none =>
      rw [hbefore] at hsome
      rw [Option.isSome_eq_false_iff.mp hsome.symm |> Option.isNone_iff_eq_none.mp]
      rfl
  | some document =>
      rw [hbefore] at hsome
      obtain ⟨other, hother⟩ := Option.isSome_iff_exists.mp hsome.symm
      rw [hother]
      cases db.documentLocks id <;> rfl

namespace LockService

/-! ## Lock operations do not see the content -/

theorem createLock_setContent (type : LockType) (ttl : Duration) :
    createLock (db.setContent documentId content) now id user type ttl =
      Transaction.setContent documentId content (createLock db now id user type ttl) := by
  rw [createLock, createLock]
  cases now.plus ttl with
  | error error => rfl
  | ok expiresAt =>
      simp only [bind, Except.bind, insertLock_setContent]
      cases db.insertLock id _ <;> rfl

theorem extendLock_setContent (current : DocumentLock) (ttl : Duration) :
    extendLock (db.setContent documentId content) now id current ttl =
      Transaction.setContent documentId content (extendLock db now id current ttl) := by
  rw [extendLock, extendLock]
  cases now.plus ttl <;> rfl

theorem handleLockRequest_setContent (ttl : Duration) (type : LockType) (current : DocumentLock) :
    handleLockRequest (db.setContent documentId content) now id user ttl type current =
      Transaction.setContent documentId content
        (handleLockRequest db now id user ttl type current) := by
  simp only [handleLockRequest, makeCollaborative, extendLock_setContent]
  split
  · split <;> rfl
  · split
    · split <;> rfl
    · rfl

/-- A deleted row is deleted beside the content. -/
theorem deleteLock_setContent :
    (db.setContent documentId content).deleteLock id =
      (db.deleteLock id).setContent documentId content := rfl

theorem acquireLock_setContent (ttl : Option Duration) (type : Option LockType) :
    acquireLock (db.setContent documentId content) now id user ttl type =
      Transaction.setContent documentId content (acquireLock db now id user ttl type) := by
  simp only [acquireLock, setContent_documentLocks]
  cases db.documentLocks id with
  | none => exact createLock_setContent _ _
  | some current =>
      simp only [deleteLock_setContent]
      split
      · exact createLock_setContent _ _
      · exact handleLockRequest_setContent _ _ _

theorem switchExclusiveToCollaborative_setContent (ttl : Option Duration) :
    switchExclusiveToCollaborative (db.setContent documentId content) now id user ttl =
      Transaction.setContent documentId content
        (switchExclusiveToCollaborative db now id user ttl) := by
  simp only [switchExclusiveToCollaborative, setContent_documentLocks, makeCollaborative, extendLock_setContent]
  cases db.documentLocks id with
  | none => rfl
  | some current =>
      simp only
      split
      · rfl
      · split
        · rfl
        · split <;> rfl

theorem releaseLock_setContent :
    releaseLock (db.setContent documentId content) now id user =
      Transaction.setContent documentId content (releaseLock db now id user) := by
  simp only [releaseLock, setContent_documentLocks, setContent_existsPermission,
    deleteLock_setContent]
  cases db.documentLocks id with
  | none => rfl
  | some current =>
      simp only
      split
      · rfl
      · split <;> rfl

theorem refreshLock_setContent (ttl : Option Duration) :
    refreshLock (db.setContent documentId content) now id user ttl =
      Transaction.setContent documentId content (refreshLock db now id user ttl) := by
  simp only [refreshLock, setContent_documentLocks, setContent_existsPermission,
    deleteLock_setContent, createLock_setContent, extendLock_setContent]
  cases db.documentLocks id with
  | none => rfl
  | some current =>
      simp only
      split
      · rfl
      · split
        · split <;> rfl
        · split <;> rfl

theorem getLock_setContent :
    getLock (db.setContent documentId content) now id = getLock db now id := by
  simp only [getLock, setContent_documentLocks]

theorem acquireCollaborativeLock_setContent :
    acquireCollaborativeLock (db.setContent documentId content) now id =
      Transaction.setContent documentId content (acquireCollaborativeLock db now id) := by
  have hcreate (before : Database) :
      createSystemCollaborativeLock (before.setContent documentId content) now id =
        Transaction.setContent documentId content
          (createSystemCollaborativeLock before now id) := by
    rw [createSystemCollaborativeLock, createSystemCollaborativeLock]
    cases now.plus defaultLockTtl with
    | error error => rfl
    | ok expiresAt =>
        simp only [bind, Except.bind, insertLock_setContent]
        cases before.insertLock id _ <;> rfl
  simp only [acquireCollaborativeLock, setContent_documentLocks, deleteLock_setContent, hcreate,
    extendLock_setContent]
  cases db.documentLocks id with
  | none => rfl
  | some current =>
      simp only
      split
      · rfl
      · split <;> rfl

end LockService

/-! ## An outsider's requests -/

theorem getById_setContent_ok (documentId : DocumentId) (content : Option String)
    (h : (db.documents id).isSome = true) :
    (∃ document, DocumentService.getById db id = .ok document) ∧
      ∃ document, DocumentService.getById (db.setContent documentId content) id = .ok document := by
  have hafter : ((db.setContent documentId content).documents id).isSome = true :=
    setContent_documents_isSome.trans h
  obtain ⟨document, hdocument⟩ := Option.isSome_iff_exists.mp h
  obtain ⟨other, hother⟩ := Option.isSome_iff_exists.mp hafter
  exact ⟨⟨document, by rw [DocumentService.getById, hdocument]⟩,
    ⟨other, by rw [DocumentService.getById, hother]⟩⟩

theorem getById_setContent_error (h : (db.documents id).isSome = false) :
    DocumentService.getById db id = .error (.notFound "Document not found") ∧
      DocumentService.getById (db.setContent documentId content) id =
        .error (.notFound "Document not found") := by
  have hafter : ((db.setContent documentId content).documents id).isSome = false :=
    setContent_documents_isSome.trans h
  have hnone := Option.not_isSome_iff_eq_none.mp (Bool.eq_false_iff.mp h)
  have hother := Option.not_isSome_iff_eq_none.mp (Bool.eq_false_iff.mp hafter)
  exact ⟨by rw [DocumentService.getById, hnone], by rw [DocumentService.getById, hother]⟩

/-- What follows a check that the document exists. -/
theorem getById_bind_setContent {α : Type} {rest other : Except ServiceError (α × Database)}
    (hrest : other = Transaction.setContent documentId content rest) :
    (DocumentService.getById (db.setContent documentId content) id >>= fun _ => other) =
      Transaction.setContent documentId content
        (DocumentService.getById db id >>= fun _ => rest) := by
  cases hsome : (db.documents id).isSome with
  | true =>
      obtain ⟨⟨document, hbefore⟩, ⟨changed, hafter⟩⟩ :=
        getById_setContent_ok documentId content hsome
      rw [hbefore, hafter]
      exact hrest
  | false =>
      obtain ⟨hbefore, hafter⟩ := getById_setContent_error hsome
      rw [hbefore, hafter]
      rfl

/-- A lock operation behind the check that the document exists. -/
theorem getById_bind_status_setContent {lock lock' : Except ServiceError (DocumentLock × Database)}
    (hlock : lock' = Transaction.setContent documentId content lock) :
    (DocumentService.getById (db.setContent documentId content) id >>= fun _ =>
        lock' >>= fun result => pure (Reply.status "locked", result.2)) =
      Transaction.setContent documentId content
        (DocumentService.getById db id >>= fun _ =>
          lock >>= fun result => pure (Reply.status "locked", result.2)) := by
  apply getById_bind_setContent
  subst hlock
  cases lock <;> rfl

theorem canUserEdit_of_outsider {document : Document}
    (hpermission : db.findPermission id user.id = none) (howner : document.owner.id ≠ user.id) :
    DocumentService.canUserEdit db id document user = false := by
  rw [DocumentService.canUserEdit, if_neg howner, hpermission]

/-- Where owners have their permission row, an outsider is not the owner. -/
theorem Database.Consistent.notOwnSave (hdb : db.Consistent)
    (hpermission : db.findPermission documentId user.id = none) (request : Request) :
    request.NotOwnSave db user documentId := by
  cases request with
  | save id newContent =>
      intro _ document hdocument howner
      obtain ⟨row, hrow, hid, huser, _⟩ := hdb.owned documentId document hdocument
      have hfound := hdb.findPermission_eq_some_iff.mpr ⟨hrow, hid, huser.trans howner⟩
      cases hpermission.symm.trans hfound
  | read _ | acquireLock _ _ _ | switchToCollaborative _ _ | releaseLock _ | refreshLock _ _
  | getLock _ | create _ _ | delete _ | createInvite _ _ _ _ | useInvite _
  | processRequest _ _ _ => trivial

/-- The condition on a save speaks of the owner only. -/
theorem Request.NotOwnSave.of_owner {next : Database} {request : Request}
    (h : request.NotOwnSave db user documentId)
    (howner : ∀ after ∈ next.documents documentId,
      ∃ before ∈ db.documents documentId, after.owner = before.owner) :
    request.NotOwnSave next user documentId := by
  cases request with
  | save id newContent =>
      intro hid after hafter
      obtain ⟨before, hbefore, hsame⟩ := howner after hafter
      rw [hsame]
      exact h hid before hbefore
  | read _ | acquireLock _ _ _ | switchToCollaborative _ _ | releaseLock _ | refreshLock _ _
  | getLock _ | create _ _ | delete _ | createInvite _ _ _ _ | useInvite _
  | processRequest _ _ _ => trivial

/-- A save of another document, or one that is refused. -/
theorem saveDocument_setContent {newContent : Option String}
    (hpermission : db.findPermission documentId user.id = none)
    (howner : id = documentId → ∀ document ∈ db.documents documentId, document.owner.id ≠ user.id) :
    DocumentService.saveDocument (db.setContent documentId content) now id user newContent =
      Transaction.setContent documentId content
        (DocumentService.saveDocument db now id user newContent) := by
  by_cases h : id = documentId
  · subst h
    rw [DocumentService.saveDocument, DocumentService.saveDocument]
    cases hdocument : db.documents id with
    | none => simp [Database.setContent, hdocument, Transaction.setContent]
    | some document =>
        have hnot := howner rfl document hdocument
        have hafter : (db.setContent id content).documents id =
            some { document with content := content } := by
          simp [Database.setContent, hdocument]
        have hrefused := canUserEdit_of_outsider hpermission hnot
        have hrefused' : DocumentService.canUserEdit (db.setContent id content) id
            { document with content := content } user = false :=
          canUserEdit_of_outsider hpermission hnot
        simp only [hafter, hrefused, hrefused']
        rfl
  · have hdocuments := setContent_documents_ne db content h
    have hedit (document : Document) :
        DocumentService.canUserEdit (db.setContent documentId content) id document user =
          DocumentService.canUserEdit db id document user := rfl
    simp only [DocumentService.saveDocument, hdocuments, setContent_documentLocks, hedit]
    cases db.documents id with
    | none => rfl
    | some document =>
        simp only
        split
        · rfl
        · cases db.documentLocks id with
          | none => rfl
          | some lock =>
              simp only
              split
              · rfl
              · split
                · rfl
                · simp only [Transaction.setContent, Database.setContent, updateDocument,
                    Function.update_of_ne (Ne.symm h), Function.update_comm h]

/-- The answer to an outsider, and what it changes, do not depend on the content. -/
theorem Request.serve_setContent {request : Request} (haccess : request.isDocumentAccess = true)
    (hpermission : db.findPermission documentId user.id = none)
    (hsave : request.NotOwnSave db user documentId) :
    request.serve (db.setContent documentId content) now user =
      Transaction.setContent documentId content (request.serve db now user) := by
  cases request with
  | read id =>
      simp only [serve, Transaction.setContent, DocumentService.getDocumentSummaryWithContent,
        setContent_findPermission]
      by_cases h : id = documentId
      · subst h
        rw [hpermission]
      · rw [setContent_documents_ne db content h]
  | save id newContent =>
      simp only [serve, saveDocument_setContent hpermission hsave]
      cases DocumentService.saveDocument db now id user newContent <;> rfl
  | acquireLock id lockType ttlSeconds =>
      simp only [serve]
      apply getById_bind_setContent
      cases LockType.fromRequest lockType with
      | error error => rfl
      | ok requestedType =>
          simp only [bind, Except.bind, LockService.acquireLock_setContent]
          cases LockService.acquireLock db now id user _ _ <;> rfl
  | switchToCollaborative id ttlSeconds =>
      exact getById_bind_status_setContent
        (LockService.switchExclusiveToCollaborative_setContent _)
  | releaseLock id =>
      simp only [serve]
      apply getById_bind_setContent
      rw [LockService.releaseLock_setContent]
      cases LockService.releaseLock db now id user <;> rfl
  | refreshLock id ttlSeconds =>
      exact getById_bind_status_setContent (LockService.refreshLock_setContent _)
  | getLock id =>
      simp only [serve]
      apply getById_bind_setContent
      rw [LockService.getLock_setContent]
      rfl
  | create title newContent => cases haccess
  | delete id => cases haccess
  | createInvite docId autoApprove expiresInSeconds token => cases haccess
  | useInvite token => cases haccess
  | processRequest requestId approve level => cases haccess

/-- Nothing about the document, and no permission, changes. -/
structure Untouched (documentId : DocumentId) (db next : Database) : Prop where
  document : next.documents documentId = db.documents documentId
  permissions : next.documentPermissions = db.documentPermissions

theorem Untouched.refl (documentId : DocumentId) (db : Database) : Untouched documentId db db :=
  ⟨rfl, rfl⟩

theorem Untouched.trans {first second third : Database} (h : Untouched documentId first second)
    (h' : Untouched documentId second third) : Untouched documentId first third :=
  ⟨h'.document.trans h.document, h'.permissions.trans h.permissions⟩

theorem Untouched.findPermission {next : Database} (h : Untouched documentId db next)
    (id : DocumentId) (userId : UserId) :
    next.findPermission id userId = db.findPermission id userId := by
  rw [Database.findPermission, Database.findPermission, h.permissions]

theorem LockEffect.untouched {next : Database} {target : DocumentId}
    (h : LockEffect db next now target user) : Untouched documentId db next := by
  obtain ⟨row, _, rfl⟩ := h
  exact ⟨rfl, rfl⟩

/-- The lock endpoints write lock rows only. -/
theorem RequestEffect.untouched {request : Request} {next : Database} {target : DocumentId}
    (h : RequestEffect db now user request next) (htarget : request.lockTarget = some target) :
    Untouched documentId db next := by
  cases h with
  | unchanged hnone _ _ _ _ => cases hnone.symm.trans htarget
  | create document _ _ _ _ _ => cases htarget
  | save document lock _ _ _ _ _ => cases htarget
  | lock _ _ heffect => exact heffect.untouched
  | delete document _ _ _ _ _ _ => cases htarget
  | grant row hnone _ _ _ _ _ _ => cases hnone.symm.trans htarget

theorem Request.serve_untouched {request : Request} {reply : Reply} {next : Database}
    (haccess : request.isDocumentAccess = true)
    (hpermission : db.findPermission documentId user.id = none)
    (hsave : request.NotOwnSave db user documentId)
    (hok : request.serve db now user = .ok (reply, next)) : Untouched documentId db next := by
  cases request with
  | read id =>
      cases hok
      exact .refl _ _
  | save id newContent =>
      simp only [serve, Except.bind_eq_ok_iff, Except.pure_eq_ok_iff, Prod.mk.injEq] at hok
      obtain ⟨⟨saved, changed⟩, hsaved, _, rfl⟩ := hok
      obtain ⟨document, lock, hdocument, hedit, _, _, _, rfl⟩ := DocumentService.saveDocument_ok hsaved
      refine ⟨Function.update_of_ne ?_ .., rfl⟩
      rintro rfl
      have hrefused := canUserEdit_of_outsider hpermission (hsave rfl document hdocument)
      cases hrefused.symm.trans hedit
  | acquireLock id lockType ttlSeconds => exact (serve_effect hok).untouched rfl
  | switchToCollaborative id ttlSeconds => exact (serve_effect hok).untouched rfl
  | releaseLock id => exact (serve_effect hok).untouched rfl
  | refreshLock id ttlSeconds => exact (serve_effect hok).untouched rfl
  | getLock id => exact (serve_effect hok).untouched rfl
  | create title newContent => cases haccess
  | delete id => cases haccess
  | createInvite docId autoApprove expiresInSeconds token => cases haccess
  | useInvite token => cases haccess
  | processRequest requestId approve level => cases haccess

/-! ## A sync of another document -/

theorem updateDocument_setContent (h : id ≠ documentId) (document : Document) :
    (db.setContent documentId content).updateDocument id document =
      (db.updateDocument id document).setContent documentId content := by
  simp only [Database.setContent, updateDocument, Function.update_of_ne (Ne.symm h),
    Function.update_comm h]

theorem syncDocument_setContent (h : id ≠ documentId) (text : Option String) (final : Bool) :
    WorkerDocumentSyncService.syncDocument (db.setContent documentId content) now (some id) text
        final =
      Transaction.setContent documentId content
        (WorkerDocumentSyncService.syncDocument db now (some id) text final) := by
  have hdocuments := setContent_documents_ne db content h
  cases text with
  | none => rfl
  | some text =>
      simp only [WorkerDocumentSyncService.syncDocument]
      split
      · cases now.plus WorkerDocumentSyncService.defaultLockTtl with
        | error error => rfl
        | ok expiresAt =>
            simp only [bind, Except.bind,
              WorkerDocumentSyncRepository.updateContentAndRefreshCollaborativeLock, hdocuments,
              updateDocument_setContent h]
            cases db.documents id <;> rfl
      · have hrelease : LockService.releaseCollaborativeLock (db.setContent documentId content) now
            id = Transaction.setContent documentId content
              (LockService.releaseCollaborativeLock db now id) := by
          simp only [LockService.releaseCollaborativeLock, setContent_documentLocks]
          cases db.documentLocks id with
          | none => rfl
          | some lock =>
              simp only
              split <;> rfl
        rw [hrelease, LockService.releaseCollaborativeLock_eq]
        have hafter := setContent_documents_ne (db.setLock id none) content h
        simp only [bind, Except.bind, Transaction.setContent, hafter, updateDocument_setContent h]
        cases (db.setLock id none).documents id <;> rfl

theorem committed_setContent {α : Type} (result : Except ServiceError (α × Database)) :
    committed (db.setContent documentId content) (Transaction.setContent documentId content result) =
      (committed db result).setContent documentId content := by
  cases result <;> rfl

theorem WorkerEffect.untouched {operation : WorkerOperation} {next : Database}
    (h : WorkerEffect db now operation next)
    (hother : ∀ text final, operation ≠ .syncDocument (some documentId) text final) :
    Untouched documentId db next := by
  cases h with
  | periodic document expiresAt hdocument =>
      refine ⟨Function.update_of_ne ?_ .., rfl⟩
      rintro rfl
      exact hother _ _ rfl
  | final document hdocument =>
      refine ⟨Function.update_of_ne ?_ .., rfl⟩
      rintro rfl
      exact hother _ _ rfl
  | release id => exact ⟨rfl, rfl⟩
  | acquireNew lock _ _ _ _ => exact ⟨rfl, rfl⟩
  | acquireExtend old lock _ _ _ _ _ => exact ⟨rfl, rfl⟩

end CollabEditor.Backend
