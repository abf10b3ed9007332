import CollabEditor.Backend.LockHolders

/-! # How the operations read a lock row

Each operation tests expiry and holder in its own words. Whatever the row and the
instant, those words agree: the operation does what the row that `getLock` reports says.
-/

namespace CollabEditor.Backend

open Foundation Database

/-- The call returns normally. -/
def Succeeds {α : Type} (outcome : Except ServiceError (α × Database)) : Prop :=
  ∃ value next, outcome = .ok (value, next)

/-- The call throws an `AppException`, and the tables stay as they were. -/
structure Refused {α : Type} (db : Database) (outcome : Except ServiceError (α × Database)) :
    Prop where
  thrown : ∃ message status, outcome = .error (.appException message status)
  unchanged : committed db outcome = db

theorem refused_error {α : Type} (db : Database) (message : String) (status : Nat) :
    Refused (α := α) db (.error (.appException message status)) :=
  ⟨⟨message, status, rfl⟩, rfl⟩

/-- The operations by which a user works under a lock, each with the default ttl. -/
inductive Gate
  | saveDocument (content : Option String)
  | refreshLock
  | acquireLock
  | switchExclusiveToCollaborative
deriving DecidableEq, Repr

/-- The operation `user` asks for, whatever it returns. -/
def Gate.attempt (db : Database) (now : Instant) (document : DocumentId) (user : User) :
    Gate → Except ServiceError (Unit × Database)
  | .saveDocument content => do
      let (_, db) ← DocumentService.saveDocument db now document user content
      return ((), db)
  | .refreshLock => do
      let (_, db) ← LockService.refreshLock db now document user none
      return ((), db)
  | .acquireLock => do
      let (_, db) ← LockService.acquireLock db now document user none (some .exclusive)
      return ((), db)
  | .switchExclusiveToCollaborative => do
      let (_, db) ← LockService.switchExclusiveToCollaborative db now document user none
      return ((), db)

/-- The operations decide by what `getLock` reports, for an editor `editor` of the document
and for everyone else. -/
structure GatesAgree (db : Database) (now : Instant) (document : DocumentId) (editor : User) :
    Prop where
  /-- An exclusive lock admits its holder and nobody else. -/
  exclusive : ∀ lock holder, LockService.getLock db now document = some lock →
    lock.lockType = .exclusive → lock.lockedByUser = some holder →
    (editor.id = holder.id → ∀ gate : Gate, Succeeds (gate.attempt db now document editor)) ∧
      (editor.id ≠ holder.id →
        ∀ gate : Gate, Refused db (gate.attempt db now document editor)) ∧
      Refused db (LockService.acquireCollaborativeLock db now document)
  /-- A collaborative lock admits every editor and cannot be made exclusive. -/
  collaborative : ∀ lock, LockService.getLock db now document = some lock →
    lock.lockType = .collaborative →
    (∀ user, Refused db (Gate.acquireLock.attempt db now document user) ∧
        Refused db (Gate.switchExclusiveToCollaborative.attempt db now document user)) ∧
      (∀ content, Succeeds ((Gate.saveDocument content).attempt db now document editor)) ∧
      Succeeds (Gate.refreshLock.attempt db now document editor)
  /-- Without a lock nobody saves, and a lock of either type can be taken. -/
  unlocked : LockService.getLock db now document = none →
    (∀ user content, Refused db ((Gate.saveDocument content).attempt db now document user)) ∧
      (∀ user requestedType,
        Succeeds (LockService.acquireLock db now document user none requestedType)) ∧
      Succeeds (LockService.acquireCollaborativeLock db now document)

/-! ## What `getLock` reports -/

namespace LockService

variable {db : Database} {now : Instant} {document : DocumentId} {user : User}

theorem getLock_eq_some_iff {lock : DocumentLock} :
    getLock db now document = some lock ↔
      db.documentLocks document = some lock ∧ lock.isExpired now = false := by
  unfold getLock
  cases hrow : db.documentLocks document with
  | none => simp
  | some current =>
      cases hexpired : current.isExpired now with
      | true =>
          simp only [hexpired, if_true]
          constructor
          · intro hnone
            cases hnone
          · rintro ⟨hsame, hlive⟩
            cases hsame
            exact absurd hexpired (by simp [hlive])
      | false =>
          simp only [hexpired, Bool.false_eq_true, if_false, Option.some.injEq]
          constructor
          · rintro rfl
            exact ⟨rfl, hexpired⟩
          · exact fun hsame => hsame.1

theorem getLock_eq_none_iff :
    getLock db now document = none ↔
      ∀ lock, db.documentLocks document = some lock → lock.isExpired now = true := by
  rw [Option.eq_none_iff_forall_ne_some]
  refine forall_congr' fun lock => ?_
  rw [Ne, getLock_eq_some_iff, not_and, Bool.not_eq_false]

/-! ## Calls that return normally -/

theorem createLock_succeeds {type : LockType} {ttl : Duration}
    (hplus : now.plus ttl = .ok (now + ttl)) (hdoc : (db.documents document).isSome)
    (hfree : db.documentLocks document = none) :
    ∃ lock next, createLock db now document user type ttl = .ok (lock, next) := by
  obtain ⟨doc, hdoc⟩ := Option.isSome_iff_exists.mp hdoc
  rw [createLock, hplus]
  simp only [bind, Except.bind, insertLock, hdoc, hfree]
  exact ⟨_, _, rfl⟩

theorem extendLock_succeeds (db : Database) (document : DocumentId) (current : DocumentLock)
    {ttl : Duration} (hplus : now.plus ttl = .ok (now + ttl)) :
    ∃ lock next, extendLock db now document current ttl = .ok (lock, next) :=
  ⟨_, _, extendLock_of_plus hplus current⟩

theorem createSystemCollaborativeLock_succeeds
    (hplus : now.plus defaultLockTtl = .ok (now + defaultLockTtl))
    (hdoc : (db.documents document).isSome) (hfree : db.documentLocks document = none) :
    Succeeds (createSystemCollaborativeLock db now document) := by
  obtain ⟨doc, hdoc⟩ := Option.isSome_iff_exists.mp hdoc
  rw [createSystemCollaborativeLock, hplus]
  simp only [bind, Except.bind, insertLock, hdoc, hfree]
  exact ⟨_, _, rfl⟩

/-- A row that is absent or expired gives way to a new one of either type. -/
theorem acquireLock_succeeds_of_free {ttl : Option Duration} {requestedType : Option LockType}
    (hplus : now.plus (ttl.getD defaultLockTtl) = .ok (now + ttl.getD defaultLockTtl))
    (hdoc : (db.documents document).isSome)
    (hfree : ∀ lock, db.documentLocks document = some lock → lock.isExpired now = true) :
    ∃ lock next, acquireLock db now document user ttl requestedType = .ok (lock, next) := by
  unfold acquireLock
  cases hrow : db.documentLocks document with
  | none => exact createLock_succeeds hplus hdoc hrow
  | some current =>
      simp only [hfree current hrow, if_true]
      exact createLock_succeeds hplus hdoc (Function.update_self ..)

theorem acquireCollaborativeLock_succeeds_of_free
    (hplus : now.plus defaultLockTtl = .ok (now + defaultLockTtl))
    (hdoc : (db.documents document).isSome)
    (hfree : ∀ lock, db.documentLocks document = some lock → lock.isExpired now = true) :
    Succeeds (acquireCollaborativeLock db now document) := by
  unfold acquireCollaborativeLock
  cases hrow : db.documentLocks document with
  | none => exact createSystemCollaborativeLock_succeeds hplus hdoc hrow
  | some current =>
      simp only [hfree current hrow, if_true]
      exact createSystemCollaborativeLock_succeeds hplus hdoc (Function.update_self ..)

/-- A collaborative lock is refused while an exclusive one is live. -/
theorem acquireCollaborativeLock_refused {lock : DocumentLock}
    (hrow : db.documentLocks document = some lock) (hlive : lock.isExpired now = false)
    (htype : lock.lockType = .exclusive) :
    Refused db (acquireCollaborativeLock db now document) := by
  simp only [acquireCollaborativeLock, hrow, hlive, htype, Bool.false_eq_true, if_false, if_true]
  exact refused_error db _ _

end LockService

/-- A save goes through under a lock of the user or a collaborative one. -/
theorem DocumentService.saveDocument_succeeds {db : Database} {now : Instant}
    {document : DocumentId} {user : User} {lock : DocumentLock} {doc : Document}
    (hdoc : db.documents document = some doc) (hedit : canUserEdit db document doc user = true)
    (hrow : db.documentLocks document = some lock) (hlive : lock.isExpired now = false)
    (hheld : lock.lockType = .exclusive → lock.isHeldBy user = true) (content : Option String) :
    Succeeds (saveDocument db now document user content) := by
  have hgate : ¬(lock.lockType = .exclusive ∧ lock.isHeldBy user = false) :=
    fun ⟨htype, hother⟩ => Bool.false_ne_true (hother.symm.trans (hheld htype))
  simp only [saveDocument, hdoc, hedit, hrow, hlive, if_neg hgate, Bool.true_eq_false,
    Bool.false_eq_true, if_false]
  exact ⟨_, _, rfl⟩

/-! ## The three readings of a row -/

namespace Gate

variable {db : Database} {now : Instant} {document : DocumentId} {user : User}
variable {lock : DocumentLock} {doc : Document}

theorem saveDocument_succeeds (hdoc : db.documents document = some doc)
    (hedit : DocumentService.canUserEdit db document doc user = true)
    (hrow : db.documentLocks document = some lock) (hlive : lock.isExpired now = false)
    (hheld : lock.lockType = .exclusive → lock.isHeldBy user = true) (content : Option String) :
    Succeeds ((saveDocument content).attempt db now document user) := by
  obtain ⟨saved, next, hok⟩ :=
    DocumentService.saveDocument_succeeds hdoc hedit hrow hlive hheld content
  rw [attempt, hok]
  exact ⟨(), next, rfl⟩

theorem refreshLock_succeeds
    (hplus : now.plus LockService.defaultLockTtl = .ok (now + LockService.defaultLockTtl))
    (hrow : db.documentLocks document = some lock) (hlive : lock.isExpired now = false)
    (hheld : lock.lockType = .exclusive → lock.isHeldBy user = true)
    (hpermission : db.existsPermission document user.id = true) :
    Succeeds (refreshLock.attempt db now document user) := by
  obtain ⟨saved, next, hextend⟩ :=
    LockService.extendLock_succeeds db document lock hplus
  have hrefresh : LockService.refreshLock db now document user none = .ok (saved, next) := by
    unfold LockService.refreshLock
    simp only [hrow, hlive, hpermission, Option.getD_none, Bool.false_eq_true, if_false,
      Bool.true_eq_false]
    split
    next htype => rw [hheld htype, if_neg (by decide), hextend]
    next => exact hextend
  rw [attempt, hrefresh]
  exact ⟨(), next, rfl⟩

/-- The holder of a live exclusive row may do everything. -/
theorem succeeds_of_holder
    (hplus : now.plus LockService.defaultLockTtl = .ok (now + LockService.defaultLockTtl))
    (hdoc : db.documents document = some doc)
    (hedit : DocumentService.canUserEdit db document doc user = true)
    (hpermission : db.existsPermission document user.id = true)
    (hrow : db.documentLocks document = some lock) (hlive : lock.isExpired now = false)
    (htype : lock.lockType = .exclusive) (hheld : lock.isHeldBy user = true) (gate : Gate) :
    Succeeds (gate.attempt db now document user) := by
  cases gate with
  | saveDocument content =>
      exact saveDocument_succeeds hdoc hedit hrow hlive (fun _ => hheld) content
  | refreshLock => exact refreshLock_succeeds hplus hrow hlive (fun _ => hheld) hpermission
  | acquireLock =>
      obtain ⟨saved, next, hextend⟩ :=
        LockService.extendLock_succeeds db document lock hplus
      simp only [attempt, LockService.acquireLock, LockService.handleLockRequest, hrow, hlive,
        htype, hheld, Option.getD_none, Option.getD_some, if_true, Bool.false_eq_true, if_false,
        Bool.true_eq_false, and_false, hextend]
      exact ⟨(), next, rfl⟩
  | switchExclusiveToCollaborative =>
      obtain ⟨saved, next, hextend⟩ := LockService.extendLock_succeeds db document
        { lock with lockType := .collaborative, lockedByUser := none } hplus
      simp only [attempt, LockService.switchExclusiveToCollaborative,
        LockService.makeCollaborative, hrow, hlive, htype, hheld, Option.getD_none, ne_eq,
        not_true_eq_false, Bool.false_eq_true, if_false, Bool.true_eq_false, hextend]
      exact ⟨(), next, rfl⟩

/-- Another editor meets a live exclusive row. -/
theorem refused_of_other (hdoc : db.documents document = some doc)
    (hedit : DocumentService.canUserEdit db document doc user = true)
    (hrow : db.documentLocks document = some lock) (hlive : lock.isExpired now = false)
    (htype : lock.lockType = .exclusive) (hother : lock.isHeldBy user = false) (gate : Gate) :
    Refused db (gate.attempt db now document user) := by
  cases gate with
  | saveDocument content =>
      simp only [attempt, DocumentService.saveDocument, hdoc, hedit, hrow, hlive, htype, hother,
        Bool.true_eq_false, Bool.false_eq_true, if_false, and_self, if_true]
      exact refused_error db _ _
  | refreshLock =>
      simp only [attempt, LockService.refreshLock, hrow, hlive, htype, hother,
        Bool.false_eq_true, if_false, if_true]
      exact refused_error db _ _
  | acquireLock =>
      simp only [attempt, LockService.acquireLock, LockService.handleLockRequest, hrow, hlive,
        htype, hother, Option.getD_some, Bool.false_eq_true, if_false, if_true, and_self]
      exact refused_error db _ _
  | switchExclusiveToCollaborative =>
      simp only [attempt, LockService.switchExclusiveToCollaborative, hrow, hlive, htype, hother,
        ne_eq, not_true_eq_false, Bool.false_eq_true, if_false, if_true]
      exact refused_error db _ _

/-- A live collaborative row is made exclusive for nobody. -/
theorem refused_of_collaborative (hrow : db.documentLocks document = some lock)
    (hlive : lock.isExpired now = false) (htype : lock.lockType = .collaborative) (user : User) :
    Refused db (acquireLock.attempt db now document user) ∧
      Refused db (switchExclusiveToCollaborative.attempt db now document user) := by
  constructor
  · simp only [attempt, LockService.acquireLock, LockService.handleLockRequest, hrow, hlive,
      htype, Option.getD_some, Bool.false_eq_true, if_false, reduceCtorEq, false_and]
    exact refused_error db _ _
  · simp only [attempt, LockService.switchExclusiveToCollaborative, hrow, hlive, htype,
      ne_eq, Bool.false_eq_true, if_false, reduceCtorEq, not_false_eq_true, if_true]
    exact refused_error db _ _

/-- Without a live row nobody saves. -/
theorem saveDocument_refused (hdoc : db.documents document = some doc)
    (hfree : ∀ lock, db.documentLocks document = some lock → lock.isExpired now = true)
    (user : User) (content : Option String) :
    Refused db ((saveDocument content).attempt db now document user) := by
  simp only [attempt, DocumentService.saveDocument, hdoc]
  cases DocumentService.canUserEdit db document doc user with
  | false => exact refused_error db _ _
  | true =>
      cases hrow : db.documentLocks document with
      | none => exact refused_error db _ _
      | some lock =>
          simp only [hfree lock hrow, if_true]
          exact refused_error db _ _

end Gate

/-- An editor of a document has a permission row for it. -/
theorem Database.Consistent.existsPermission_of_canEdit {db : Database} (hdb : db.Consistent)
    {document : DocumentId} {user : User} (hedit : db.CanEdit document user) :
    db.existsPermission document user.id = true := by
  obtain ⟨doc, hdoc, hrights⟩ := hdb.canEdit_iff.mp hedit
  have hrow : ∃ row ∈ db.documentPermissions,
      row.documentId = document ∧ row.user.id = user.id := by
    rcases hrights with howner | ⟨row, hrow, hdocument, huser, -⟩
    · obtain ⟨row, hrow, hdocument, huser, -⟩ := hdb.owned document doc hdoc
      exact ⟨row, hrow, hdocument, huser.trans howner⟩
    · exact ⟨row, hrow, hdocument, huser⟩
  obtain ⟨row, hrow, hdocument, huser⟩ := hrow
  cases hexists : db.existsPermission document user.id with
  | true => rfl
  | false => exact absurd ⟨hdocument, huser⟩ (Database.not_existsPermission hexists row hrow)

theorem DocumentLock.isHeldBy_of_holder {lock : DocumentLock} {holder user : User}
    (hholder : lock.lockedByUser = some holder) :
    lock.isHeldBy user = true ↔ user.id = holder.id := by
  rw [isHeldBy, hholder]
  exact beq_iff_eq.trans eq_comm

/-- Tables in which the editor has a permission row read their lock row alike. -/
theorem GatesAgree.of_editor {db : Database} {now : Instant} {document : DocumentId}
    {editor : User} {doc : Document}
    (hplus : now.plus LockService.defaultLockTtl = .ok (now + LockService.defaultLockTtl))
    (hdoc : db.documents document = some doc)
    (hedit : DocumentService.canUserEdit db document doc editor = true)
    (hpermission : db.existsPermission document editor.id = true) :
    GatesAgree db now document editor := by
  refine ⟨?_, ?_, ?_⟩
  · intro lock holder hreport htype hholder
    obtain ⟨hrow, hlive⟩ := LockService.getLock_eq_some_iff.mp hreport
    refine ⟨?_, ?_, LockService.acquireCollaborativeLock_refused hrow hlive htype⟩
    · intro hsame gate
      exact gate.succeeds_of_holder hplus hdoc hedit hpermission hrow hlive htype
        ((DocumentLock.isHeldBy_of_holder hholder).mpr hsame)
    · intro hother gate
      refine gate.refused_of_other hdoc hedit hrow hlive htype (Bool.not_eq_true _ ▸ ?_)
      exact fun hheld => hother ((DocumentLock.isHeldBy_of_holder hholder).mp hheld)
  · intro lock hreport htype
    obtain ⟨hrow, hlive⟩ := LockService.getLock_eq_some_iff.mp hreport
    have hshared : lock.lockType = .exclusive → lock.isHeldBy editor = true := by
      rw [htype]
      exact nofun
    exact ⟨Gate.refused_of_collaborative hrow hlive htype,
      Gate.saveDocument_succeeds hdoc hedit hrow hlive hshared,
      Gate.refreshLock_succeeds hplus hrow hlive hshared hpermission⟩
  · intro hreport
    have hfree := LockService.getLock_eq_none_iff.mp hreport
    have hthere : (db.documents document).isSome := Option.isSome_iff_exists.mpr ⟨doc, hdoc⟩
    exact ⟨Gate.saveDocument_refused hdoc hfree,
      fun user requestedType => LockService.acquireLock_succeeds_of_free hplus hthere hfree,
      LockService.acquireCollaborativeLock_succeeds_of_free hplus hthere hfree⟩

/-- All lock gates read the row alike: over the tables of every reachable state, with any lock
row in place of the stored one, at every instant of the clock and for every editor. -/
theorem lock_gates_agree {state : State} (hreach : system.Reachable state)
    (document : DocumentId) (row : Option DocumentLock) {now : Instant}
    (hlow : Instant.minValue ≤ now) (hhigh : now ≤ clockLimit) {editor : User}
    (hedit : state.db.CanEdit document editor) :
    GatesAgree (state.db.setLock document row) now document editor := by
  have hrange : (State.mk state.db now).InRange := ⟨hlow, hhigh⟩
  have hpermission : state.db.existsPermission document editor.id = true :=
    (reachable_consistent hreach).existsPermission_of_canEdit hedit
  obtain ⟨doc, hdoc, hrights⟩ := hedit
  -- the lock row has no part in documents and permissions
  exact GatesAgree.of_editor hrange.plus_ok hdoc hrights hpermission

/-- The owner's row, about to expire. -/
def expiringLock : DocumentLock where
  lockType := .exclusive
  lockedByUser := some ⟨1, "owner"⟩
  lockedAt := 0
  expiresAt := some 7

/-- An editor meets the owner's exclusive row at the very instant it expires. -/
theorem lock_gates_agree_at_expiry : ∃ state, system.Reachable state ∧
    LockService.getLock (state.db.setLock 1 (some expiringLock)) 7 1 = some expiringLock ∧
    GatesAgree (state.db.setLock 1 (some expiringLock)) 7 1 ⟨2, "editor"⟩ := by
  obtain ⟨state, hreach, hcheck⟩ := system.exists_reachable_of_exec
    (.init ⟨rfl, by decide, by decide⟩ : system.Reachable ⟨Database.empty, 0⟩)
    [.user ⟨1, "owner"⟩ (.create (some "notes") none),
      .user ⟨1, "owner"⟩ (.createInvite 1 false none "invite"),
      .user ⟨2, "editor"⟩ (.useInvite "invite"),
      .user ⟨1, "owner"⟩ (.processRequest 1 true (some "Editor"))]
    (fun state => (state.db.documents 1).any fun doc =>
      DocumentService.canUserEdit state.db 1 doc ⟨2, "editor"⟩) (by decide +kernel)
  obtain ⟨doc, hdoc, hedit⟩ := (Option.any_eq_true _ _).mp hcheck
  refine ⟨state, hreach, ?_,
    lock_gates_agree hreach 1 _ (by decide) (by decide) ⟨doc, hdoc, hedit⟩⟩
  refine LockService.getLock_eq_some_iff.mpr ⟨?_, by decide⟩
  simp

end CollabEditor.Backend
