import CollabEditor.Backend.Integrity

/-! # Who can end an exclusive lease

An exclusive row belongs to its holder until it expires. Two operations do not
honour that: a worker's sync and release touch the row without looking at its
type, and `releaseLock` asks for a permission row where it should ask for the
holder.
-/

namespace CollabEditor.Backend

open Foundation Database

/-- The document has an exclusive row that has not expired. -/
def Database.ExclusivelyLocked (db : Database) (now : Instant) (id : DocumentId) : Prop :=
  ∃ lock, db.documentLocks id = some lock ∧ lock.lockType = .exclusive ∧
    lock.isExpired now = false

/-- The unexpired exclusive rows and the contents they protect are all kept. -/
def KeepsExclusiveLeases (now : Instant) (before after : Database) : Prop :=
  ∀ id lock, before.documentLocks id = some lock → lock.lockType = .exclusive →
    lock.isExpired now = false →
      after.documentLocks id = some lock ∧
        (after.documents id).map Document.content = (before.documents id).map Document.content

theorem KeepsExclusiveLeases.refl (now : Instant) (db : Database) :
    KeepsExclusiveLeases now db db :=
  fun _ _ hlock _ _ => ⟨hlock, rfl⟩

/-- Writing one lock row keeps the leases when that document has none. -/
theorem KeepsExclusiveLeases.setLock {db : Database} {now : Instant} {id : DocumentId}
    (hfree : ¬ db.ExclusivelyLocked now id) (row : Option DocumentLock) :
    KeepsExclusiveLeases now db (db.setLock id row) := by
  intro other lock hlock htype hlive
  have hne : other ≠ id := by
    rintro rfl
    exact hfree ⟨lock, hlock, htype, hlive⟩
  exact ⟨by simpa [hne] using hlock, rfl⟩

theorem KeepsExclusiveLeases.updateDocument {db : Database} {now : Instant} {id : DocumentId}
    (hfree : ¬ db.ExclusivelyLocked now id) (doc : Document) :
    KeepsExclusiveLeases now db (db.updateDocument id doc) := by
  intro other lock hlock htype hlive
  have hne : other ≠ id := by
    rintro rfl
    exact hfree ⟨lock, hlock, htype, hlive⟩
  exact ⟨hlock, by simp [hne]⟩

theorem KeepsExclusiveLeases.trans {now : Instant} {first second third : Database}
    (hfirst : KeepsExclusiveLeases now first second)
    (hsecond : KeepsExclusiveLeases now second third) :
    KeepsExclusiveLeases now first third := by
  intro id lock hlock htype hlive
  have hmiddle := hfirst id lock hlock htype hlive
  have hlast := hsecond id lock hmiddle.1 htype hlive
  exact ⟨hlast.1, hlast.2.trans hmiddle.2⟩

theorem Database.ExclusivelyLocked.setLock_iff {db : Database} {now : Instant}
    {id : DocumentId} {row : Option DocumentLock} :
    (db.setLock id row).ExclusivelyLocked now id ↔
      ∃ lock, row = some lock ∧ lock.lockType = .exclusive ∧ lock.isExpired now = false := by
  simp [ExclusivelyLocked]

/-! ## Worker operations -/

/-- The operation does not reach an exclusively locked document through one of
the paths that ignore the type of the row. A sync without an id or a content is
refused before it reaches any. -/
def WorkerOperation.SparesExclusive (db : Database) (now : Instant) : WorkerOperation → Prop
  | .syncDocument (some id) (some _) _ => ¬ db.ExclusivelyLocked now id
  | .syncDocument _ _ _ => True
  | .releaseCollaborativeLock id => ¬ db.ExclusivelyLocked now id
  | .acquireCollaborativeLock _ => True

theorem WorkerEffect.keepsExclusiveLeases {db next : Database} {now : Instant}
    {operation : WorkerOperation} (heffect : WorkerEffect db now operation next)
    (hspares : operation.SparesExclusive db now) : KeepsExclusiveLeases now db next := by
  cases heffect with
  | periodic doc expiresAt hdoc =>
      refine (KeepsExclusiveLeases.updateDocument hspares _).trans (.setLock ?_ _)
      exact hspares
  | final doc hdoc =>
      refine (KeepsExclusiveLeases.setLock hspares none).trans (.updateDocument ?_ _)
      simp [ExclusivelyLocked.setLock_iff]
  | release id => exact .setLock hspares none
  | acquireNew lock hdocument hfree htype hholder =>
      refine .setLock ?_ _
      rintro ⟨old, hold, -, hlive⟩
      simp [hfree old hold] at hlive
  | acquireExtend old lock hold hlive hshared htype hholder =>
      refine .setLock ?_ _
      rintro ⟨found, hfound, hexclusive, -⟩
      rw [hold, Option.some.injEq] at hfound
      subst found
      simp [hshared] at hexclusive

/-- A sync of an existing document is never refused. -/
theorem WorkerDocumentSyncService.syncDocument_exists {state : State}
    (hrange : state.InRange) {id : DocumentId} (hdoc : (state.db.documents id).isSome)
    (content : String) (isFinal : Bool) :
    ∃ next, syncDocument state.db state.now (some id) (some content) isFinal =
      .ok ((), next) := by
  obtain ⟨doc, hdoc⟩ := Option.isSome_iff_exists.mp hdoc
  cases isFinal with
  | false =>
      simp only [syncDocument, WorkerDocumentSyncService.defaultLockTtl, hrange.plus_ok,
        WorkerDocumentSyncRepository.updateContentAndRefreshCollaborativeLock, hdoc]
      exact ⟨_, rfl⟩
  | true =>
      simp only [syncDocument, LockService.releaseCollaborativeLock_eq]
      simp only [Bool.true_eq_false, if_false, bind, Except.bind, setLock_documents, hdoc]
      exact ⟨_, rfl⟩

/-- A sync, periodic or final, never leaves an exclusive row as it was. -/
theorem WorkerDocumentSyncService.syncDocument_ends_lease {state : State}
    (hdb : state.db.WellFormed) (hrange : state.InRange) {id : DocumentId} {lock : DocumentLock}
    (hlock : state.db.documentLocks id = some lock) (htype : lock.lockType = .exclusive)
    (content : String) (isFinal : Bool) :
    (committed state.db (syncDocument state.db state.now (some id) (some content)
      isFinal)).documentLocks id ≠ some lock := by
  obtain ⟨next, hok⟩ := syncDocument_exists hrange (hdb.lock_document id lock hlock) content isFinal
  rw [hok, committed_ok]
  cases syncDocument_ok hok with
  | periodic doc expiresAt hdoc =>
      simp only [setLock_documentLocks, Function.update_self, ne_eq, Option.some.injEq]
      rintro rfl
      simp at htype
  | final doc hdoc => simp

/-- A worker operation keeps every exclusive lease exactly when it does not
reach an exclusively locked document through a sync or a release. -/
theorem worker_keepsExclusiveLeases_iff {state : State} (hreach : system.Reachable state)
    (operation : WorkerOperation) :
    KeepsExclusiveLeases state.now state.db
        (committed state.db (operation.serve state.db state.now)) ↔
      operation.SparesExclusive state.db state.now := by
  obtain ⟨hdb, hrange⟩ := reachable_wellFormed hreach
  constructor
  · intro hkeeps
    cases operation with
    | syncDocument documentId content final =>
        cases documentId with
        | none => trivial
        | some id =>
          cases content with
          | none => trivial
          | some content =>
            rintro ⟨lock, hlock, htype, hlive⟩
            exact WorkerDocumentSyncService.syncDocument_ends_lease hdb hrange hlock htype
              content final (hkeeps id lock hlock htype hlive).1
    | releaseCollaborativeLock id =>
        rintro ⟨lock, hlock, htype, hlive⟩
        have hkept := (hkeeps id lock hlock htype hlive).1
        simp [WorkerOperation.serve, LockService.releaseCollaborativeLock_eq] at hkept
    | acquireCollaborativeLock id => trivial
  · intro hspares
    cases hserve : operation.serve state.db state.now with
    | error error => exact .refl _ _
    | ok result => exact (WorkerOperation.serve_effect hserve).keepsExclusiveLeases hspares

/-- A document created and locked exclusively by its owner, user 1. User 2 has
a `VIEWER` row for it. -/
def leasedRun : List Event :=
  [.user ⟨1, "owner"⟩ (.create (some "notes") (some "draft")),
    .user ⟨1, "owner"⟩ (.createInvite 1 true none "invite"),
    .user ⟨2, "viewer"⟩ (.useInvite "invite"),
    .user ⟨1, "owner"⟩ (.acquireLock 1 (some "EXCLUSIVE") none)]

theorem exists_leased : ∃ state lock, system.Reachable state ∧
    state.db.documentLocks 1 = some lock ∧ lock.lockType = .exclusive ∧
    lock.isExpired state.now = false ∧ lock.lockedByUser = some ⟨1, "owner"⟩ ∧
    state.db.existsPermission 1 2 = true := by
  obtain ⟨state, hreach, hcheck⟩ := system.exists_reachable_of_exec
    (.init ⟨rfl, by decide, by decide⟩ : system.Reachable ⟨Database.empty, 0⟩) leasedRun
    (fun state => (state.db.documentLocks 1).any (fun lock => lock.lockType = .exclusive ∧
        lock.isExpired state.now = false ∧ lock.lockedByUser = some ⟨1, "owner"⟩) &&
      state.db.existsPermission 1 2) (by decide)
  simp only [Bool.and_eq_true, Option.any_eq_true, decide_eq_true_eq] at hcheck
  obtain ⟨⟨lock, hlock, htype, hlive, hholder⟩, hpermission⟩ := hcheck
  exact ⟨state, lock, hreach, hlock, htype, hlive, hholder, hpermission⟩

theorem final_sync_breaks_lease : ∃ state, system.Reachable state ∧
    ¬ KeepsExclusiveLeases state.now state.db (committed state.db
      ((WorkerOperation.syncDocument (some 1) (some "stale") true).serve
        state.db state.now)) := by
  obtain ⟨state, lock, hreach, hlock, htype, hlive, -⟩ := exists_leased
  refine ⟨state, hreach, ?_⟩
  rw [worker_keepsExclusiveLeases_iff hreach]
  exact fun hspares => hspares ⟨lock, hlock, htype, hlive⟩

/-- Not every worker operation keeps every lease: a periodic sync overwrites
the row of an exclusive editor. -/
theorem worker_breaks_lease :
    ¬ ∀ state, system.Reachable state → ∀ operation : WorkerOperation,
      KeepsExclusiveLeases state.now state.db
        (committed state.db (operation.serve state.db state.now)) := by
  intro hkeeps
  obtain ⟨state, lock, hreach, hlock, htype, hlive, -⟩ := exists_leased
  obtain ⟨hdb, hrange⟩ := reachable_wellFormed hreach
  exact WorkerDocumentSyncService.syncDocument_ends_lease hdb hrange hlock htype "stale" false
    (hkeeps state hreach (.syncDocument (some 1) (some "stale") false) 1 lock hlock htype
      hlive).1

/-! ## User operations -/

/-- The lock operations of a user. A missing ttl or type is the default one. -/
inductive LockOperation
  | acquireLock (ttl : Option Duration) (requestedType : Option LockType)
  | switchExclusiveToCollaborative (ttl : Option Duration)
  | refreshLock (ttl : Option Duration)
  | releaseLock
  | getLock
deriving DecidableEq, Repr

namespace LockOperation

/-- The database after the operation of `user` on a document. -/
def run (db : Database) (now : Instant) (document : DocumentId) (user : User) :
    LockOperation → Database
  | .acquireLock ttl requestedType =>
      committed db (LockService.acquireLock db now document user ttl requestedType)
  | .switchExclusiveToCollaborative ttl =>
      committed db (LockService.switchExclusiveToCollaborative db now document user ttl)
  | .refreshLock ttl => committed db (LockService.refreshLock db now document user ttl)
  | .releaseLock => committed db (LockService.releaseLock db now document user)
  | .getLock => db

theorem run_effect (db : Database) (now : Instant) (document : DocumentId) (user : User)
    (operation : LockOperation) :
    LockEffect db (operation.run db now document user) now document user := by
  have hcommitted : ∀ {α : Type} {outcome : Except ServiceError (α × Database)},
      (∀ value next, outcome = .ok (value, next) → LockEffect db next now document user) →
        LockEffect db (committed db outcome) now document user := by
    intro α outcome hok
    cases outcome with
    | error error => exact .refl db now document user
    | ok result => exact hok _ _ rfl
  cases operation with
  | acquireLock ttl requestedType =>
      exact hcommitted fun _ _ => LockService.acquireLock_effect
  | switchExclusiveToCollaborative ttl =>
      exact hcommitted fun _ _ => LockService.switchExclusiveToCollaborative_effect
  | refreshLock ttl => exact hcommitted fun _ _ => LockService.refreshLock_effect
  | releaseLock => exact hcommitted fun _ _ => LockService.releaseLock_effect
  | getLock => exact .refl db now document user

/-- The lock row of another document is not touched. -/
theorem run_frame {db : Database} {now : Instant} {document other : DocumentId} (user : User)
    (operation : LockOperation) (hne : other ≠ document) :
    (operation.run db now document user).documentLocks other = db.documentLocks other := by
  obtain ⟨row, -, hrun⟩ := operation.run_effect db now document user
  rw [hrun, setLock_documentLocks, Function.update_of_ne hne]

/-- Meeting the unexpired exclusive row of another user, only a release by a
user with a permission row has an effect. -/
theorem run_foreign_lease {db : Database} {now : Instant} {document : DocumentId}
    {lock : DocumentLock} {user : User} (hrow : db.documentLocks document = some lock)
    (htype : lock.lockType = .exclusive) (hlive : lock.isExpired now = false)
    (hheld : lock.isHeldBy user = false) (operation : LockOperation) :
    (operation.run db now document user).documentLocks document = some lock ↔
      ¬ (operation = .releaseLock ∧ db.existsPermission document user.id = true) := by
  cases operation with
  | acquireLock ttl requestedType =>
      cases hrequested : requestedType.getD .exclusive <;>
        simp [run, LockService.acquireLock, LockService.handleLockRequest, hrow, hlive, htype,
          hheld, hrequested]
  | switchExclusiveToCollaborative ttl =>
      simp [run, LockService.switchExclusiveToCollaborative, hrow, hlive, htype, hheld]
  | refreshLock ttl => simp [run, LockService.refreshLock, hrow, hlive, htype, hheld]
  | releaseLock =>
      cases hpermission : db.existsPermission document user.id <;>
        simp [run, LockService.releaseLock, hrow, hlive, hpermission]
  | getLock => simp [run, hrow]

end LockOperation

/-- An exclusive lease survives an operation of another user, on any document
and in any state, exactly when that operation is not a release of the leased
document by a user with a permission row. -/
theorem foreign_operation_keeps_lease_iff {state : State} {document : DocumentId}
    {lock : DocumentLock} {holder user : User}
    (hrow : state.db.documentLocks document = some lock) (htype : lock.lockType = .exclusive)
    (hholder : lock.lockedByUser = some holder) (hlive : lock.isExpired state.now = false)
    (hother : user.id ≠ holder.id) (target : DocumentId) (operation : LockOperation) :
    (operation.run state.db state.now target user).documentLocks document = some lock ↔
      ¬ (target = document ∧ operation = .releaseLock ∧
        state.db.existsPermission document user.id = true) := by
  have hheld : lock.isHeldBy user = false := by
    simp [DocumentLock.isHeldBy, hholder, Ne.symm hother]
  by_cases heq : target = document
  · subst heq
    simpa using LockOperation.run_foreign_lease hrow htype hlive hheld operation
  · rw [LockOperation.run_frame user operation (Ne.symm heq), hrow]
    simp [heq]

theorem viewer_release_ends_lease : ∃ state lock, system.Reachable state ∧
    state.db.documentLocks 1 = some lock ∧
    (LockOperation.releaseLock.run state.db state.now 1 ⟨2, "viewer"⟩).documentLocks 1 ≠
      some lock := by
  obtain ⟨state, lock, hreach, hlock, htype, hlive, hholder, hpermission⟩ := exists_leased
  refine ⟨state, lock, hreach, hlock, ?_⟩
  rw [ne_eq, foreign_operation_keeps_lease_iff hlock htype hholder hlive (by decide)]
  exact fun hkept => hkept ⟨rfl, rfl, hpermission⟩

/-- Not every operation of another user leaves the row: a viewer's release
deletes it. -/
theorem foreign_operation_breaks_lease :
    ¬ ∀ state, system.Reachable state → ∀ document lock holder,
      state.db.documentLocks document = some lock → lock.lockType = .exclusive →
      lock.lockedByUser = some holder → lock.isExpired state.now = false →
      ∀ (user : User) (operation : LockOperation), user.id ≠ holder.id →
        (operation.run state.db state.now document user).documentLocks document =
          some lock := by
  intro hkeeps
  obtain ⟨state, lock, hreach, hlock, htype, hlive, hholder, hpermission⟩ := exists_leased
  have hkept := hkeeps state hreach 1 lock ⟨1, "owner"⟩ hlock htype hholder hlive
    ⟨2, "viewer"⟩ .releaseLock (by decide)
  simp [LockOperation.run, LockService.releaseLock, hlock, hlive, hpermission] at hkept

end CollabEditor.Backend
