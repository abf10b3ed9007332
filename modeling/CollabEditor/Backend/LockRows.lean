import CollabEditor.Backend.ExclusiveLease

/-! # The shape of the lock rows

Type, holder and expiry of a row are set by separate setters and by one SQL
statement. Whatever the operations are called with, the three stay in step.
-/

namespace CollabEditor.Backend

open Foundation Database

/-- The operation leaves the row it returns, which expires the ttl after the call. -/
structure LockService.Writes (next : Database) (now : Instant) (document : DocumentId)
    (ttl : Option Duration) (lock : DocumentLock) : Prop where
  row : next.documentLocks document = some lock
  expires : ∃ expiresAt,
    now.plus (ttl.getD LockService.defaultLockTtl) = .ok expiresAt ∧
      lock.expiresAt = some expiresAt

namespace LockService

variable {db next : Database} {now : Instant} {document : DocumentId} {user : User}
variable {ttl : Option Duration} {lock : DocumentLock}

theorem Writes.isSome (hwrites : Writes next now document ttl lock) :
    lock.expiresAt.isSome := by
  obtain ⟨expiresAt, -, hexpires⟩ := hwrites.expires
  simp [hexpires]

theorem createLock_writes {type : LockType}
    (hok : createLock db now document user type (ttl.getD defaultLockTtl) = .ok (lock, next)) :
    Writes next now document ttl lock := by
  simp only [createLock, Except.bind_eq_ok_iff, Except.pure_eq_ok_iff, Prod.mk.injEq,
    insertLock_eq_ok_iff] at hok
  obtain ⟨expiresAt, hexpires, inserted, ⟨-, -, rfl⟩, rfl, rfl⟩ := hok
  exact ⟨by simp, expiresAt, hexpires, rfl⟩

theorem extendLock_writes {current : DocumentLock}
    (hok : extendLock db now document current (ttl.getD defaultLockTtl) = .ok (lock, next)) :
    Writes next now document ttl lock := by
  simp only [extendLock, Except.bind_eq_ok_iff, Except.pure_eq_ok_iff, Prod.mk.injEq] at hok
  obtain ⟨expiresAt, hexpires, rfl, rfl⟩ := hok
  exact ⟨by simp, expiresAt, hexpires, rfl⟩

theorem acquireLock_writes {requestedType : Option LockType}
    (hok : acquireLock db now document user ttl requestedType = .ok (lock, next)) :
    Writes next now document ttl lock := by
  unfold acquireLock at hok
  split at hok
  next current hrow =>
    split at hok
    next => exact createLock_writes hok
    next =>
      unfold handleLockRequest at hok
      dsimp only at hok
      split at hok
      next =>
        split at hok
        next => cases hok
        next => exact extendLock_writes hok
      next =>
        split at hok
        next =>
          split at hok
          next => cases hok
          next => exact extendLock_writes hok
        next => cases hok
  next => exact createLock_writes hok

theorem switchExclusiveToCollaborative_writes
    (hok : switchExclusiveToCollaborative db now document user ttl = .ok (lock, next)) :
    Writes next now document ttl lock := by
  unfold switchExclusiveToCollaborative at hok
  split at hok
  next => cases hok
  next current hrow =>
    split at hok
    next => cases hok
    next =>
      split at hok
      next => cases hok
      next =>
        split at hok
        next => cases hok
        next => exact extendLock_writes hok

theorem refreshLock_writes
    (hok : refreshLock db now document user ttl = .ok (lock, next)) :
    Writes next now document ttl lock := by
  unfold refreshLock at hok
  split at hok
  next => exact createLock_writes hok
  next current hrow =>
    split at hok
    next => exact createLock_writes hok
    next =>
      split at hok
      next =>
        split at hok
        next => cases hok
        next => exact extendLock_writes hok
      next =>
        split at hok
        next => cases hok
        next => exact extendLock_writes hok

theorem acquireCollaborativeLock_writes
    (hok : acquireCollaborativeLock db now document = .ok (lock, next)) :
    Writes next now document none lock := by
  have hcreate : ∀ {before : Database},
      createSystemCollaborativeLock before now document = .ok (lock, next) →
        Writes next now document none lock := by
    intro before hok
    simp only [createSystemCollaborativeLock, Except.bind_eq_ok_iff, Except.pure_eq_ok_iff,
      Prod.mk.injEq, insertLock_eq_ok_iff] at hok
    obtain ⟨expiresAt, hexpires, inserted, ⟨-, -, rfl⟩, rfl, rfl⟩ := hok
    exact ⟨by simp, expiresAt, hexpires, rfl⟩
  unfold acquireCollaborativeLock at hok
  split at hok
  next current hrow =>
    split at hok
    next => exact hcreate hok
    next =>
      split at hok
      next => cases hok
      next => exact extendLock_writes hok
  next => exact hcreate hok

/-- A release leaves the row or removes it, and so does a look at it. -/
theorem releaseLock_row (hok : releaseLock db now document user = .ok ((), next)) :
    next.documentLocks document = db.documentLocks document ∨
      next.documentLocks document = none := by
  unfold releaseLock at hok
  split at hok
  next =>
    cases hok
    exact .inl rfl
  next =>
    split at hok
    next =>
      cases hok
      exact .inr (Function.update_self ..)
    next =>
      split at hok
      next => cases hok
      next =>
        cases hok
        exact .inr (Function.update_self ..)

end LockService

/-! ## The shape -/

/-- The type of a row says whether it has a holder, and the row expires. -/
structure DocumentLock.WellShaped (lock : DocumentLock) : Prop where
  holder : lock.lockedByUser.isSome ↔ lock.lockType = .exclusive
  expires : lock.expiresAt.isSome

def Database.WellShaped (db : Database) : Prop :=
  ∀ id lock, db.documentLocks id = some lock → lock.WellShaped

namespace Database.WellShaped

variable {db next : Database} {now : Instant} {user : User}

theorem empty : Database.empty.WellShaped :=
  nofun

theorem setLock (hdb : db.WellShaped) (id : DocumentId) {row : Option DocumentLock}
    (hrow : ∀ lock, row = some lock → lock.WellShaped) : (db.setLock id row).WellShaped := by
  intro other lock hlock
  rw [setLock_documentLocks] at hlock
  by_cases heq : other = id
  · subst heq
    rw [Function.update_self] at hlock
    exact hrow lock hlock
  · rw [Function.update_of_ne heq] at hlock
    exact hdb other lock hlock

theorem of_eq (hdb : db.WellShaped) (hlocks : next.documentLocks = db.documentLocks) :
    next.WellShaped :=
  fun id lock hlock => hdb id lock (hlocks ▸ hlock)

/-- A lock operation keeps type and holder in step, so only the expiry of its row is
to be looked at. -/
theorem effect (hdb : db.WellShaped) {document : DocumentId}
    (heffect : LockEffect db next now document user)
    (hrow : ∀ lock, next.documentLocks document = some lock → lock.expiresAt.isSome) :
    next.WellShaped := by
  obtain ⟨row, hchange, rfl⟩ := heffect
  have hholder := hchange.holder fun lock hlock => (hdb document lock hlock).holder
  refine hdb.setLock document fun lock hlock => ⟨hholder lock hlock, hrow lock ?_⟩
  rw [hlock]
  exact Function.update_self ..

theorem writes (hdb : db.WellShaped) {document : DocumentId} {ttl : Option Duration}
    {lock : DocumentLock} (heffect : LockEffect db next now document user)
    (hwrites : LockService.Writes next now document ttl lock) : next.WellShaped := by
  refine hdb.effect heffect fun found hfound => ?_
  cases hwrites.row.symm.trans hfound
  exact hwrites.isSome

theorem removes (hdb : db.WellShaped) {document : DocumentId}
    (heffect : LockEffect db next now document user)
    (hrow : next.documentLocks document = db.documentLocks document ∨
      next.documentLocks document = none) : next.WellShaped := by
  refine hdb.effect heffect fun lock hlock => ?_
  rcases hrow with hsame | hnone
  · exact (hdb document lock (hsame ▸ hlock)).expires
  · cases hnone.symm.trans hlock

/-- A transaction that fails leaves the rows. -/
theorem committed {α : Type} {outcome : Except ServiceError (α × Database)}
    (hdb : db.WellShaped) (hok : ∀ value next, outcome = .ok (value, next) → next.WellShaped) :
    (Backend.committed db outcome).WellShaped := by
  cases outcome with
  | error error => exact hdb
  | ok result => exact hok _ _ rfl

theorem run (hdb : db.WellShaped) (document : DocumentId) (operation : LockOperation) :
    (operation.run db now document user).WellShaped := by
  cases operation with
  | acquireLock ttl requestedType =>
      apply hdb.committed
      intro lock next hok
      exact hdb.writes (LockService.acquireLock_effect hok) (LockService.acquireLock_writes hok)
  | switchExclusiveToCollaborative ttl =>
      apply hdb.committed
      intro lock next hok
      exact hdb.writes (LockService.switchExclusiveToCollaborative_effect hok)
        (LockService.switchExclusiveToCollaborative_writes hok)
  | refreshLock ttl =>
      apply hdb.committed
      intro lock next hok
      exact hdb.writes (LockService.refreshLock_effect hok) (LockService.refreshLock_writes hok)
  | releaseLock =>
      apply hdb.committed
      intro _ next hok
      exact hdb.removes (LockService.releaseLock_effect hok) (LockService.releaseLock_row hok)
  | getLock => exact hdb

end Database.WellShaped

/-! ## The lock endpoints are lock operations -/

/-- A lock endpoint runs one operation of the service on a document that is there. -/
theorem Request.serve_operation {db next : Database} {now : Instant} {user : User}
    {request : Request} {reply : Reply} {document : DocumentId}
    (htarget : request.lockTarget = some document)
    (hok : request.serve db now user = .ok (reply, next)) :
    ∃ operation : LockOperation, next = operation.run db now document user := by
  cases request with
  | acquireLock id lockType ttlSeconds =>
      cases htarget
      simp only [serve, Except.bind_eq_ok_iff, Except.pure_eq_ok_iff, Prod.mk.injEq,
        Prod.exists] at hok
      obtain ⟨doc, hdoc, requestedType, hrequested, lock, written, hacquire, -, rfl⟩ := hok
      refine ⟨.acquireLock (ttlSeconds.map Duration.ofSeconds) (some requestedType), ?_⟩
      rw [LockOperation.run, hacquire, committed_ok]
  | switchToCollaborative id ttlSeconds =>
      cases htarget
      simp only [serve, Except.bind_eq_ok_iff, Except.pure_eq_ok_iff, Prod.mk.injEq,
        Prod.exists] at hok
      obtain ⟨doc, hdoc, lock, written, hswitch, -, rfl⟩ := hok
      refine ⟨.switchExclusiveToCollaborative (ttlSeconds.map Duration.ofSeconds), ?_⟩
      rw [LockOperation.run, hswitch, committed_ok]
  | releaseLock id =>
      cases htarget
      simp only [serve, Except.bind_eq_ok_iff, Except.pure_eq_ok_iff, Prod.mk.injEq,
        Prod.exists] at hok
      obtain ⟨doc, hdoc, done, written, hrelease, -, rfl⟩ := hok
      refine ⟨.releaseLock, ?_⟩
      rw [LockOperation.run, hrelease, committed_ok]
  | refreshLock id ttlSeconds =>
      cases htarget
      simp only [serve, Except.bind_eq_ok_iff, Except.pure_eq_ok_iff, Prod.mk.injEq,
        Prod.exists] at hok
      obtain ⟨doc, hdoc, lock, written, hrefresh, -, rfl⟩ := hok
      refine ⟨.refreshLock (ttlSeconds.map Duration.ofSeconds), ?_⟩
      rw [LockOperation.run, hrefresh, committed_ok]
  | getLock id =>
      cases htarget
      simp only [serve, Except.bind_eq_ok_iff, Except.pure_eq_ok_iff, Prod.mk.injEq] at hok
      obtain ⟨doc, hdoc, -, rfl⟩ := hok
      exact ⟨.getLock, rfl⟩
  | create | read | save | delete | createInvite | useInvite | processRequest => cases htarget

theorem Database.WellShaped.request {db next : Database} {now : Instant} {user : User}
    {request : Request} {reply : Reply} (hdb : db.WellShaped)
    (hok : request.serve db now user = .ok (reply, next)) : next.WellShaped := by
  cases Request.serve_effect hok with
  | unchanged htarget hdocuments hlocks => exact hdb.of_eq hlocks
  | create doc howner hdocuments hlocks => exact hdb.of_eq hlocks
  | save doc lock => exact hdb.of_eq rfl
  | grant row htarget hdocument hfresh hdocuments hlocks => exact hdb.of_eq hlocks
  | @delete id _ doc hdoc howner hdocuments hlocks =>
      have hremoved : (db.setLock id none).WellShaped := hdb.setLock id nofun
      exact hremoved.of_eq hlocks
  | lock htarget hdocument heffect =>
      obtain ⟨operation, rfl⟩ := Request.serve_operation htarget hok
      exact hdb.run _ operation

theorem Database.WellShaped.worker {db next : Database} {now : Instant}
    {operation : WorkerOperation} (hdb : db.WellShaped)
    (hok : operation.serve db now = .ok ((), next)) : next.WellShaped := by
  have hacquired : ∀ {id : DocumentId} {lock : DocumentLock},
      operation = .acquireCollaborativeLock id → next = db.setLock id (some lock) →
        lock.expiresAt.isSome := by
    rintro id lock rfl rfl
    simp only [WorkerOperation.serve, Except.bind_eq_ok_iff, Except.pure_eq_ok_iff,
      Prod.mk.injEq, Prod.exists, true_and] at hok
    obtain ⟨acquired, written, hacquire, rfl⟩ := hok
    have hwrites := LockService.acquireCollaborativeLock_writes hacquire
    have hrow := hwrites.row
    rw [setLock_documentLocks, Function.update_self, Option.some.injEq] at hrow
    exact hrow ▸ hwrites.isSome
  cases WorkerOperation.serve_effect hok with
  | @periodic id content doc expiresAt hdoc =>
      have hwritten : (db.updateDocument id { doc with content := some content }).WellShaped :=
        hdb.of_eq rfl
      apply hwritten.setLock id
      rintro lock ⟨⟩
      exact ⟨by simp, rfl⟩
  | @final id content doc hdoc =>
      have hreleased : (db.setLock id none).WellShaped := hdb.setLock id (by rintro lock ⟨⟩)
      exact hreleased.of_eq rfl
  | release id => exact hdb.setLock id (by rintro lock ⟨⟩)
  | acquireNew lock hdocument hfree htype hholder =>
      apply hdb.setLock
      rintro found ⟨⟩
      exact ⟨by simp [htype, hholder], hacquired rfl rfl⟩
  | acquireExtend old lock hold hlive hshared htype hholder =>
      apply hdb.setLock
      rintro found ⟨⟩
      refine ⟨?_, hacquired rfl rfl⟩
      rw [htype, hholder]
      exact (hdb _ old hold).holder

/-! ## Runs -/

namespace LockRows

/-- A transaction of the backend, or a lock operation called with any arguments. -/
inductive Event
  | backend (event : Backend.Event)
  | lock (document : DocumentId) (user : User) (operation : LockOperation)
deriving DecidableEq, Repr

def step (state : State) : Event → Option State
  | .backend event => Backend.step state event
  | .lock document user operation =>
      some { state with db := operation.run state.db state.now document user }

/-- The backend whose lock service is called directly as well. -/
def system : TransitionSystem State Event where
  init := Backend.system.init
  step := step

theorem step_wellShaped {state next : State} {event : Event} (hdb : state.db.WellShaped)
    (hstep : step state event = some next) : next.db.WellShaped := by
  cases event with
  | backend event =>
      cases step_cases hstep with
      | request user request reply next hok => exact hdb.request hok
      | operation operation next hok => exact hdb.worker hok
      | refuse | fail | advance => exact hdb
  | lock document user operation =>
      cases hstep
      exact hdb.run document operation

/-- Who is refused under an exclusive row is not its holder, and there is one. -/
theorem exists_holder {lock : DocumentLock} (hshape : lock.WellShaped)
    (htype : lock.lockType = .exclusive) {user : User} (hheld : lock.isHeldBy user = false) :
    ∃ holder, lock.lockedByUser = some holder ∧ holder.id ≠ user.id := by
  obtain ⟨holder, hholder⟩ := Option.isSome_iff_exists.mp (hshape.holder.mpr htype)
  refine ⟨holder, hholder, ?_⟩
  simpa [DocumentLock.isHeldBy, hholder] using hheld

/-- Every document has one row at most; the row has a holder when it is exclusive, none
when it is collaborative, and an expiry. Who is refused under an exclusive row is refused
for its holder's sake and never because it has none. -/
theorem reachable_wellShaped {state : State} (hreach : system.Reachable state)
    (id : DocumentId) :
    (∀ first second, state.db.documentLocks id = some first →
      state.db.documentLocks id = some second → first = second) ∧
    ∀ lock, state.db.documentLocks id = some lock →
      (lock.lockType = .exclusive → lock.lockedByUser ≠ none) ∧
      (lock.lockType = .collaborative → lock.lockedByUser = none) ∧
      lock.expiresAt ≠ none ∧
      ∀ user, lock.lockType = .exclusive → lock.isHeldBy user = false →
        ∃ holder, lock.lockedByUser = some holder ∧ holder.id ≠ user.id := by
  have hshaped : state.db.WellShaped := by
    refine hreach.invariant system (fun state => state.db.WellShaped) ?_ ?_
    · intro state hinit
      exact hinit.1 ▸ .empty
    · intro state event next _ hdb _ hstep
      exact step_wellShaped hdb hstep
  constructor
  · intro first second hfirst hsecond
    exact Option.some.inj (hfirst.symm.trans hsecond)
  · intro lock hlock
    have hshape := hshaped id lock hlock
    refine ⟨?_, ?_, Option.isSome_iff_ne_none.mp hshape.expires, ?_⟩
    · intro htype
      exact Option.isSome_iff_ne_none.mp (hshape.holder.mpr htype)
    · intro htype
      by_contra hsome
      cases htype.symm.trans (hshape.holder.mp (Option.isSome_iff_ne_none.mpr hsome))
    · intro user htype hheld
      exact exists_holder hshape htype hheld

/-- A row that a direct call has put there, refreshed and overwritten by a worker. -/
theorem reachable_wellShaped_sync : ∃ state, system.Reachable state ∧
    ∃ lock, state.db.documentLocks 1 = some lock ∧ lock.lockType = .collaborative ∧
      lock.lockedByUser = none := by
  obtain ⟨state, hreach, hlock⟩ := system.exists_reachable_of_exec
    (.init ⟨rfl, by decide, by decide⟩ : system.Reachable ⟨Database.empty, 0⟩)
    [.backend (.user ⟨1, "owner"⟩ (.create (some "Notes") none)),
      .lock 1 ⟨1, "owner"⟩ (.acquireLock none none), .lock 1 ⟨1, "owner"⟩ (.refreshLock none),
      .backend (.worker (.syncDocument (some 1) (some "text") false))]
    (fun state => (state.db.documentLocks 1).any (·.lockType = .collaborative)) (by decide +kernel)
  obtain ⟨lock, hrow, htype⟩ := (Option.any_eq_true _ _).mp hlock
  have hcollaborative := of_decide_eq_true htype
  exact ⟨state, hreach, lock, hrow, hcollaborative,
    ((reachable_wellShaped hreach 1).2 lock hrow).2.1 hcollaborative⟩

end LockRows

end CollabEditor.Backend
