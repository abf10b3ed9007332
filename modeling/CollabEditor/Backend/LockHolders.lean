import CollabEditor.Backend.LockRows
import CollabEditor.Backend.Permissions

/-! # Who holds the exclusive locks

An exclusive row is created for whoever asks, and kept for its holder. A user who
may edit a document stays one who may, so what matters is who asks.
-/

namespace CollabEditor.Backend

open Foundation Database

/-- An instant exists the ttl after `now`; the default ttl stands for a missing one. -/
def Instant.admitsTtl (now : Instant) (ttlSeconds : Option Int) : Bool :=
  (now.plus ((ttlSeconds.map Duration.ofSeconds).getD LockService.defaultLockTtl)).isOk

/-- The document on which the request creates an exclusive row. -/
def Request.opensExclusive (db : Database) (now : Instant) : Request → Option DocumentId
  | .acquireLock id lockType ttlSeconds =>
      if LockType.fromRequest lockType = .ok .exclusive ∧
          (db.documentLocks id).all (·.isExpired now) ∧ now.admitsTtl ttlSeconds then some id
      else none
  | .refreshLock id ttlSeconds =>
      if ((db.documentLocks id).all fun lock =>
          lock.isExpired now ∧ lock.lockType = .exclusive) ∧ now.admitsTtl ttlSeconds then some id
      else none
  | _ => none

/-- Exclusive rows are created for users who may edit the document. -/
def OpensAsEditor (state : State) : Event → Prop
  | .user user request => ∀ id ∈ request.opensExclusive state.db state.now,
      ∀ doc ∈ state.db.documents id, DocumentService.canUserEdit state.db id doc user = true
  | _ => True

instance (state : State) : (event : Event) → Decidable (OpensAsEditor state event)
  | .user user request => inferInstanceAs (Decidable
      (∀ id ∈ request.opensExclusive state.db state.now,
        ∀ doc ∈ state.db.documents id, DocumentService.canUserEdit state.db id doc user = true))
  | .worker _ | .advance _ => .isTrue trivial

/-- `canUserEdit` on a document that is there. -/
def Database.CanEdit (db : Database) (id : DocumentId) (user : User) : Prop :=
  ∃ doc, db.documents id = some doc ∧ DocumentService.canUserEdit db id doc user = true

/-- The exclusive rows are held by editors. -/
def Database.HeldByEditors (db : Database) : Prop :=
  ∀ id lock, db.documentLocks id = some lock → lock.lockType = .exclusive →
    ∃ holder, lock.lockedByUser = some holder ∧ db.CanEdit id holder

/-! ## Where exclusive rows come from -/

namespace LockService

variable {db next : Database} {now : Instant} {document : DocumentId} {user : User}

theorem Writes.admitsTtl {ttlSeconds : Option Int} {lock : DocumentLock}
    (hwrites : Writes next now document (ttlSeconds.map Duration.ofSeconds) lock) :
    now.admitsTtl ttlSeconds = true := by
  obtain ⟨expiresAt, hplus, -⟩ := hwrites.expires
  rw [Instant.admitsTtl, hplus]
  rfl

/-- An exclusive row comes from a request for one. -/
theorem acquireLock_type {ttl : Option Duration} {requestedType : Option LockType}
    {lock : DocumentLock} (htype : lock.lockType = .exclusive)
    (hok : acquireLock db now document user ttl requestedType = .ok (lock, next)) :
    requestedType.getD .exclusive = .exclusive := by
  unfold acquireLock at hok
  dsimp only at hok
  split at hok
  next current hrow =>
    split at hok
    next => exact (createLock_ok hok).1.symm.trans htype
    next =>
      unfold handleLockRequest at hok
      split at hok
      next hsame =>
        split at hok
        next => cases hok
        next => exact hsame.symm.trans ((extendLock_ok hok).1.symm.trans htype)
      next =>
        split at hok
        next =>
          split at hok
          next => cases hok
          next => cases (extendLock_ok hok).1.symm.trans htype
        next => cases hok
  next => exact (createLock_ok hok).1.symm.trans htype

theorem switchExclusiveToCollaborative_type {ttl : Option Duration} {lock : DocumentLock}
    (hok : switchExclusiveToCollaborative db now document user ttl = .ok (lock, next)) :
    lock.lockType = .collaborative := by
  unfold switchExclusiveToCollaborative at hok
  split at hok
  next => cases hok
  next current hrow =>
    split at hok
    next => cases hok
    next =>
      split at hok
      next => cases hok
      next =>
        split at hok
        next => cases hok
        next => exact (extendLock_ok hok).1

/-- A refreshed row has the type of the row it refreshes. -/
theorem refreshLock_type {ttl : Option Duration} {lock current : DocumentLock}
    (hrow : db.documentLocks document = some current)
    (hok : refreshLock db now document user ttl = .ok (lock, next)) :
    lock.lockType = current.lockType := by
  unfold refreshLock at hok
  simp only [hrow] at hok
  split at hok
  next => exact (createLock_ok hok).1
  next =>
    split at hok
    next =>
      split at hok
      next => cases hok
      next => exact (extendLock_ok hok).1
    next =>
      split at hok
      next => cases hok
      next => exact (extendLock_ok hok).1

end LockService

/-- An exclusive row was there before, with the same holder, or a request of its holder
has created it. -/
def ExclusiveFrom (db next : Database) (created : Option DocumentId) (user : User) : Prop :=
  ∀ id lock, next.documentLocks id = some lock → lock.lockType = .exclusive →
    (∃ old, db.documentLocks id = some old ∧ old.lockType = .exclusive ∧
      old.lockedByUser = lock.lockedByUser) ∨
      created = some id ∧ (db.documents id).isSome ∧ lock.lockedByUser = some user

theorem ExclusiveFrom.of_eq {db next : Database} {created : Option DocumentId} {user : User}
    (hlocks : next.documentLocks = db.documentLocks) : ExclusiveFrom db next created user :=
  fun _ lock hlock htype => .inl ⟨lock, hlocks ▸ hlock, htype, rfl⟩

/-- A lock operation creates an exclusive row on its document only. -/
theorem LockEffect.exclusiveFrom {db next : Database} {now : Instant} {document : DocumentId}
    {user : User} {created : Option DocumentId} (hdocument : (db.documents document).isSome)
    (heffect : LockEffect db next now document user)
    (hcreated : ∀ lock, next.documentLocks document = some lock → lock.lockType = .exclusive →
      db.documentLocks document = some lock ∨
        ((∀ old, db.documentLocks document = some old → old.isExpired now = true) →
          created = some document)) : ExclusiveFrom db next created user := by
  obtain ⟨row, hchange, rfl⟩ := heffect
  intro id lock hlock htype
  by_cases heq : id = document
  · subst heq
    have hnew := hcreated lock hlock htype
    rw [setLock_documentLocks, Function.update_self] at hlock
    subst hlock
    generalize hbefore : db.documentLocks id = before at hchange hnew
    cases hchange with
    | keep => exact .inl ⟨lock, rfl, htype, rfl⟩
    | create _ hfree hholder =>
        rcases hnew with hsame | hopens
        · exact .inl ⟨lock, hsame, htype, rfl⟩
        · rw [if_pos htype] at hholder
          exact .inr ⟨hopens hfree, hdocument, hholder⟩
    | extend hlive hheld hsame hholder => exact .inl ⟨_, rfl, hsame ▸ htype, hholder.symm⟩
    | share hlive hexclusive hheld hshared hholder => cases hshared.symm.trans htype
  · rw [setLock_documentLocks, Function.update_of_ne heq] at hlock
    exact .inl ⟨lock, hlock, htype, rfl⟩

theorem Request.serve_exclusiveFrom {db next : Database} {now : Instant} {user : User}
    {request : Request} {reply : Reply} (hok : request.serve db now user = .ok (reply, next)) :
    ExclusiveFrom db next (request.opensExclusive db now) user := by
  have heffect := Request.serve_effect hok
  cases heffect with
  | unchanged htarget hdocuments hlocks hpermissions hid => exact .of_eq hlocks
  | create doc howner hdocuments hlocks hpermissions hid => exact .of_eq hlocks
  | save doc lock hdoc hedit hlock hlive hheld => exact .of_eq rfl
  | @delete target _ doc hdoc howner hdocuments hlocks hpermissions hid =>
      intro id lock hlock htype
      rw [hlocks] at hlock
      refine .inl ⟨lock, ?_, htype, rfl⟩
      by_cases heq : id = target
      · rw [heq, Function.update_self] at hlock
        cases hlock
      · exact (Function.update_of_ne heq ..).symm.trans hlock
  | grant row htarget hdocument hfresh hdocuments hlocks hpermissions hid => exact .of_eq hlocks
  | @lock _ target _ htarget hdocument heffect =>
      refine heffect.exclusiveFrom hdocument fun lock hlock htype => ?_
      cases request with
      | acquireLock id lockType ttlSeconds =>
          cases htarget
          simp only [serve, Except.bind_eq_ok_iff, Except.pure_eq_ok_iff, Prod.mk.injEq,
            Prod.exists] at hok
          obtain ⟨doc, hdoc, requestedType, hrequested, acquired, written, hacquire, -, rfl⟩ := hok
          have hwrites := LockService.acquireLock_writes hacquire
          cases hwrites.row.symm.trans hlock
          right
          intro hfree
          have hkind : requestedType = .exclusive := LockService.acquireLock_type htype hacquire
          rw [hkind] at hrequested
          exact if_pos ⟨hrequested, by simpa [Option.all_eq_true] using hfree, hwrites.admitsTtl⟩
      | switchToCollaborative id ttlSeconds =>
          cases htarget
          simp only [serve, Except.bind_eq_ok_iff, Except.pure_eq_ok_iff, Prod.mk.injEq,
            Prod.exists] at hok
          obtain ⟨doc, hdoc, switched, written, hswitch, -, rfl⟩ := hok
          cases (LockService.switchExclusiveToCollaborative_writes hswitch).row.symm.trans hlock
          cases (LockService.switchExclusiveToCollaborative_type hswitch).symm.trans htype
      | refreshLock id ttlSeconds =>
          cases htarget
          simp only [serve, Except.bind_eq_ok_iff, Except.pure_eq_ok_iff, Prod.mk.injEq,
            Prod.exists] at hok
          obtain ⟨doc, hdoc, refreshed, written, hrefresh, -, rfl⟩ := hok
          have hwrites := LockService.refreshLock_writes hrefresh
          cases hwrites.row.symm.trans hlock
          right
          intro hfree
          have hexpired : ∀ old, db.documentLocks target = some old →
              old.isExpired now = true ∧ old.lockType = .exclusive := by
            intro old hold
            exact ⟨hfree old hold, (LockService.refreshLock_type hold hrefresh).symm.trans htype⟩
          exact if_pos ⟨by simpa [Option.all_eq_true] using hexpired, hwrites.admitsTtl⟩
      | releaseLock id =>
          cases htarget
          simp only [serve, Except.bind_eq_ok_iff, Except.pure_eq_ok_iff, Prod.mk.injEq,
            Prod.exists] at hok
          obtain ⟨doc, hdoc, done, written, hrelease, -, rfl⟩ := hok
          rcases LockService.releaseLock_row hrelease with hsame | hnone
          · exact .inl (hsame.symm.trans hlock)
          · cases hnone.symm.trans hlock
      | getLock id =>
          cases htarget
          simp only [serve, Except.bind_eq_ok_iff, Except.pure_eq_ok_iff, Prod.mk.injEq] at hok
          obtain ⟨doc, hdoc, -, rfl⟩ := hok
          exact .inl hlock
      | create | read | save | delete | createInvite | useInvite | processRequest => cases htarget

/-- The worker creates no exclusive row. -/
theorem WorkerEffect.exclusiveFrom {db next : Database} {now : Instant}
    {operation : WorkerOperation} (heffect : WorkerEffect db now operation next) (user : User) :
    ExclusiveFrom db next none user := by
  have hset : ∀ (before : Database) (id : DocumentId) (row : Option DocumentLock),
      before.documentLocks = db.documentLocks →
      (∀ lock, row = some lock → lock.lockType = .collaborative) →
      ∀ after, after.documentLocks = Function.update before.documentLocks id row →
        ExclusiveFrom db after none user := by
    intro before id row hbefore hshared after hafter other lock hlock htype
    rw [hafter, hbefore] at hlock
    by_cases heq : other = id
    · subst heq
      rw [Function.update_self] at hlock
      cases (hshared lock hlock).symm.trans htype
    · exact .inl ⟨lock, (Function.update_of_ne heq ..).symm.trans hlock, htype, rfl⟩
  cases heffect with
  | @periodic id content doc expiresAt hdoc =>
      refine hset (db.updateDocument id { doc with content := some content }) id _ rfl ?_ _ rfl
      rintro lock ⟨⟩
      rfl
  | @final id content doc hdoc => exact hset db id none rfl nofun _ rfl
  | release id => exact hset db id none rfl nofun _ rfl
  | @acquireNew id lock hdocument hfree htype hholder =>
      refine hset db id _ rfl ?_ _ rfl
      rintro found ⟨⟩
      exact htype
  | @acquireExtend id old lock hold hlive hshared htype hholder =>
      refine hset db id _ rfl ?_ _ rfl
      rintro found ⟨⟩
      exact htype.trans hshared

/-! ## Editors stay editors -/

/-- An editor is the owner or has a row of level `EDITOR`. -/
theorem Database.Consistent.canEdit_iff {db : Database} (hdb : db.Consistent) {id : DocumentId}
    {user : User} :
    db.CanEdit id user ↔ ∃ doc, db.documents id = some doc ∧ (doc.owner.id = user.id ∨
      ∃ row ∈ db.documentPermissions,
        row.documentId = id ∧ row.user.id = user.id ∧ row.level = .editor) := by
  refine exists_congr fun doc => and_congr_right fun _ => ?_
  unfold DocumentService.canUserEdit
  split
  next howner => simp [howner]
  next howner =>
    rw [or_iff_right howner]
    constructor
    · intro hedit
      split at hedit
      next row hfind =>
        obtain ⟨hrow, hdocument, huser⟩ := hdb.findPermission_eq_some_iff.mp hfind
        exact ⟨row, hrow, hdocument, huser, by simpa using hedit⟩
      next => cases hedit
    · rintro ⟨row, hrow, hdocument, huser, hlevel⟩
      rw [hdb.findPermission_eq_some_iff.mpr ⟨hrow, hdocument, huser⟩]
      exact beq_iff_eq.mpr hlevel

namespace Database.CanEdit

variable {db next : Database} {now : Instant} {id : DocumentId} {editor : User}

/-- The document keeps its owner and its permission rows. -/
theorem keep (hdb : db.Consistent) (hnext : next.Consistent) (hedit : db.CanEdit id editor)
    (howner : (next.documents id).map Document.owner = (db.documents id).map Document.owner)
    (hrows : ∀ row ∈ db.documentPermissions, row.documentId = id →
      row ∈ next.documentPermissions) : next.CanEdit id editor := by
  obtain ⟨doc, hdoc, hmay⟩ := hdb.canEdit_iff.mp hedit
  rw [hdoc, Option.map_some, Option.map_eq_some_iff] at howner
  obtain ⟨kept, hkept, hsame⟩ := howner
  refine hnext.canEdit_iff.mpr ⟨kept, hkept, ?_⟩
  rw [hsame]
  apply hmay.imp_right
  rintro ⟨row, hrow, hdocument, hfacts⟩
  exact ⟨row, hrows row hrow hdocument, hdocument, hfacts⟩

/-- A request takes nobody's edit right on a document that stays. -/
theorem request (hdb : db.Consistent) (hformed : db.WellFormed) {user : User}
    {request : Request} (heffect : SharingEffect db now user request next)
    (hedit : db.CanEdit id editor) (hstays : (next.documents id).isSome) :
    next.CanEdit id editor := by
  have hnext := hdb.request hformed heffect
  cases heffect with
  | unchanged howners hpermissions =>
      exact hedit.keep hdb hnext (howners id) fun row hrow _ => hpermissions ▸ hrow
  | create doc howner hdocuments hpermissions =>
      obtain ⟨found, hfound, hmay⟩ := hedit
      have hbound := hformed.document_id id (by simp [hfound])
      have hne : id ≠ (db.nextDocumentId : DocumentId) := by lia
      refine keep hdb hnext ⟨found, hfound, hmay⟩ ?_ ?_
      · rw [hdocuments, Function.update_of_ne hne]
      · intro row hrow _
        rw [hpermissions]
        exact List.mem_cons_of_mem _ hrow
  | @delete target _ hdocuments hpermissions =>
      have hne : id ≠ target := by
        rintro rfl
        rw [hdocuments, Function.update_self] at hstays
        cases hstays
      apply hedit.keep hdb hnext
      · rw [hdocuments, Function.update_of_ne hne]
      · intro row hrow hdocument
        rw [hpermissions]
        exact List.mem_filter.mpr ⟨hrow, by simp [hdocument, hne]⟩
  | letIn | approve =>
      exact hedit.keep hdb hnext rfl fun row hrow _ => List.mem_cons_of_mem _ hrow
  | invite | ask | reject => exact hedit.keep hdb hnext rfl fun _ hrow _ => hrow

theorem worker (hdb : db.Consistent) {operation : WorkerOperation}
    (heffect : WorkerEffect db now operation next) (hedit : db.CanEdit id editor) :
    next.CanEdit id editor := by
  have hnext := hdb.worker heffect
  have hwrites : ∀ {target : DocumentId} {doc written : Document},
      db.documents target = some doc → written.owner = doc.owner →
        next.documents = Function.update db.documents target (some written) →
        (next.documents id).map Document.owner = (db.documents id).map Document.owner := by
    intro target doc written hdoc howner hdocuments
    rw [hdocuments]
    exact SameOwners.updateDocument hdoc howner id
  cases heffect with
  | periodic doc expiresAt hdoc =>
      refine hedit.keep hdb hnext (hwrites hdoc ?_ rfl) fun _ hrow _ => hrow
      rfl
  | final doc hdoc =>
      exact hedit.keep hdb hnext (hwrites hdoc (by simp) rfl) fun _ hrow _ => hrow
  | release | acquireNew | acquireExtend => exact hedit.keep hdb hnext rfl fun _ hrow _ => hrow

end Database.CanEdit

/-! ## Runs -/

theorem Database.HeldByEditors.step {db next : Database} {created : Option DocumentId} {user : User}
    (hheld : db.HeldByEditors) (hfrom : ExclusiveFrom db next created user)
    (hopens : ∀ id, created = some id → (db.documents id).isSome → db.CanEdit id user)
    (hkeep : ∀ id lock editor, next.documentLocks id = some lock → db.CanEdit id editor →
      next.CanEdit id editor) : next.HeldByEditors := by
  intro id lock hlock htype
  rcases hfrom id lock hlock htype with ⟨old, hold, holdtype, hsame⟩ | ⟨hcreated, hthere, hholder⟩
  · obtain ⟨holder, hholder, hedit⟩ := hheld id old hold holdtype
    exact ⟨holder, hsame ▸ hholder, hkeep id lock holder hlock hedit⟩
  · exact ⟨user, hholder, hkeep id lock user hlock (hopens id hcreated hthere)⟩

/-- When exclusive rows are created for editors only, every exclusive row is held by a
user who may edit the document. -/
theorem reachable_heldByEditors {state : State}
    (hreach : system.ReachableUnder OpensAsEditor state) : state.db.HeldByEditors := by
  refine hreach.invariant system (fun state => state.db.HeldByEditors) ?_ ?_
  · rintro state ⟨hdb, -⟩ id lock hlock
    rw [hdb] at hlock
    cases hlock
  · rintro state event next hreached hheld hguard hstep
    have hdb := reachable_consistent hreached
    have hformed := (reachable_wellFormed (hreached.reachable system)).1
    cases step_cases hstep with
    | request user request reply next hok =>
        have hwritten := hformed.request (Request.serve_effect hok)
        refine Database.HeldByEditors.step hheld (Request.serve_exclusiveFrom hok) ?_ ?_
        · intro id hcreated hthere
          obtain ⟨doc, hdoc⟩ := Option.isSome_iff_exists.mp hthere
          exact ⟨doc, hdoc, hguard id hcreated doc hdoc⟩
        · intro id lock editor hlock hedit
          exact hedit.request hdb hformed (Request.serve_sharing hok)
            (hwritten.lock_document id lock hlock)
    | operation operation next hok =>
        have heffect := WorkerOperation.serve_effect hok
        refine Database.HeldByEditors.step hheld (heffect.exclusiveFrom ⟨0, ""⟩) nofun ?_
        exact fun _ _ _ _ hedit => hedit.worker hdb heffect
    | refuse | fail | advance => exact hheld

/-- An owner who takes the lock of a document shared with an editor. -/
theorem reachable_heldByEditors_owner : ∃ state, system.ReachableUnder OpensAsEditor state ∧
    (state.db.documentLocks 1).any (·.lockType = .exclusive) = true ∧ state.db.HeldByEditors := by
  obtain ⟨state, hreach, hlock⟩ := system.exists_reachable_of_exec
    (.init ⟨rfl, by decide, by decide⟩ : system.ReachableUnder OpensAsEditor ⟨Database.empty, 0⟩)
    [.user ⟨1, "owner"⟩ (.create (some "notes") none),
      .user ⟨1, "owner"⟩ (.createInvite 1 false none "invite"),
      .user ⟨2, "editor"⟩ (.useInvite "invite"),
      .user ⟨1, "owner"⟩ (.processRequest 1 true (some "Editor")),
      .user ⟨1, "owner"⟩ (.acquireLock 1 (some "EXCLUSIVE") none)]
    (fun state => (state.db.documentLocks 1).any (·.lockType = .exclusive)) (by decide +kernel)
  exact ⟨state, hreach, hlock, reachable_heldByEditors hreach⟩

/-- A user without a permission row takes the exclusive lock of a document. -/
theorem stranger_holds_lock :
    ¬ ∀ state, system.Reachable state → state.db.HeldByEditors := by
  intro hall
  obtain ⟨state, hreach, hcheck⟩ := system.exists_reachable_of_exec
    (.init ⟨rfl, by decide, by decide⟩ : system.Reachable ⟨Database.empty, 0⟩)
    [.user ⟨1, "owner"⟩ (.create (some "notes") none),
      .user ⟨2, "stranger"⟩ (.acquireLock 1 (some "EXCLUSIVE") none)]
    (fun state => state.db.documentLocks 1 =
        some ⟨.exclusive, some ⟨2, "stranger"⟩, 0, some (Duration.ofMinutes 5)⟩ ∧
      (state.db.documents 1).any fun doc =>
        DocumentService.canUserEdit state.db 1 doc ⟨2, "stranger"⟩ = false) (by decide +kernel)
  obtain ⟨hlock, hrefused⟩ := of_decide_eq_true hcheck
  obtain ⟨holder, hholder, doc, hdoc, hedit⟩ := hall state hreach 1 _ hlock rfl
  cases hholder
  rw [hdoc] at hrefused
  simp [hedit] at hrefused

end CollabEditor.Backend
