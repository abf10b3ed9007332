import CollabEditor.Backend.LockTtl

/-! # What an exclusive lock is worth

A granted exclusive lock is a lease: until its expiry the document belongs to its holder. The
row that stands for it can be taken away before that, by few events, which are named here.
Whatever else happens, the leases of a document agree on the holder.
-/

namespace CollabEditor.Backend

open Foundation Database

/-- An exclusive lock that was granted. -/
structure Lease where
  documentId : DocumentId
  holder : User
  expiresAt : Instant
deriving DecidableEq, Repr

/-- The row stands for the lease. -/
structure DocumentLock.Covers (lock : DocumentLock) (lease : Lease) : Prop where
  type : lock.lockType = .exclusive
  held : lock.isHeldBy lease.holder = true
  live : ∀ instant ≤ lease.expiresAt, lock.isExpired instant = false

/-- The lease has its row. -/
def Lease.Kept (lease : Lease) (db : Database) : Prop :=
  ∃ lock, db.documentLocks lease.documentId = some lock ∧ lock.Covers lease

/-- The lease that a committed request gives its user. -/
def Request.leased (next : Database) (user : User) : Request → Option Lease
  | .acquireLock id _ _ | .refreshLock id _ =>
      (next.documentLocks id).bind fun lock =>
        if lock.lockType = .exclusive then lock.expiresAt.map (⟨id, user, ·⟩) else none
  | _ => none

/-- The lease that an event gives. -/
def Event.leased (state : State) : Event → Option Lease
  | .user client request =>
      match request.serve state.db state.now client with
      | .ok (_, next) => request.leased next client
      | .error _ => none
  | .worker _ | .advance _ => none

/-- The instant until which a lock is granted. -/
def ttlEnd (now : Instant) (ttlSeconds : Option Int) : Instant :=
  now + (ttlSeconds.map Duration.ofSeconds).getD LockService.defaultLockTtl

/-- A request of the holder that gives up the lease or shortens it, a release by anybody who
has a permission row, and the deletion of the document. -/
def Request.Curtails (now : Instant) (user : User) (lease : Lease) : Request → Prop
  | .releaseLock id | .delete id => id = lease.documentId
  | .switchToCollaborative id _ => id = lease.documentId
  | .acquireLock id lockType ttlSeconds => id = lease.documentId ∧
      (LockType.fromRequest lockType = .ok .collaborative ∨
        user.id = lease.holder.id ∧ ttlEnd now ttlSeconds < lease.expiresAt)
  | .refreshLock id ttlSeconds => id = lease.documentId ∧ user.id = lease.holder.id ∧
      ttlEnd now ttlSeconds < lease.expiresAt
  | _ => False

/-- The sync and the release of a state worker do not ask for the type of the row. -/
def WorkerOperation.Curtails (lease : Lease) : WorkerOperation → Prop
  | .syncDocument documentId content _ =>
      documentId = some lease.documentId ∧ content.isSome = true
  | .releaseCollaborativeLock id => id = lease.documentId
  | .acquireCollaborativeLock _ => False

/-- The event commits and takes the lease away before it expires. -/
def Event.Curtails (state : State) (lease : Lease) : Event → Prop
  | .user client request => (request.serve state.db state.now client).isOk = true ∧
      request.Curtails state.now client lease
  | .worker operation => (operation.serve state.db state.now).isOk = true ∧
      operation.Curtails lease
  | .advance _ => False

instance (now : Instant) (user : User) (lease : Lease) :
    (request : Request) → Decidable (request.Curtails now user lease)
  | .releaseLock id | .delete id | .switchToCollaborative id _ =>
      inferInstanceAs (Decidable (id = lease.documentId))
  | .acquireLock id lockType ttlSeconds => inferInstanceAs (Decidable (id = lease.documentId ∧
      (LockType.fromRequest lockType = .ok .collaborative ∨
        user.id = lease.holder.id ∧ ttlEnd now ttlSeconds < lease.expiresAt)))
  | .refreshLock id ttlSeconds => inferInstanceAs (Decidable (id = lease.documentId ∧
      user.id = lease.holder.id ∧ ttlEnd now ttlSeconds < lease.expiresAt))
  | .create _ _ | .read _ | .save _ _ | .getLock _ | .createInvite _ _ _ _ | .useInvite _
  | .processRequest _ _ _ => isFalse id

instance (lease : Lease) : (operation : WorkerOperation) → Decidable (operation.Curtails lease)
  | .syncDocument documentId content _ => inferInstanceAs (Decidable
      (documentId = some lease.documentId ∧ content.isSome = true))
  | .releaseCollaborativeLock id => inferInstanceAs (Decidable (id = lease.documentId))
  | .acquireCollaborativeLock _ => isFalse id

instance (state : State) (lease : Lease) : (event : Event) → Decidable (event.Curtails state lease)
  | .user client request => inferInstanceAs (Decidable
      ((request.serve state.db state.now client).isOk = true ∧
        request.Curtails state.now client lease))
  | .worker operation => inferInstanceAs (Decidable
      ((operation.serve state.db state.now).isOk = true ∧ operation.Curtails lease))
  | .advance _ => isFalse id

/-- The event is a request of the user. -/
def Event.isBy (holder : User) : Event → Bool
  | .user client _ => client.id = holder.id
  | .worker _ | .advance _ => false

/-- The backend, with all the leases it has granted and those that their holders have not given
back, two records. -/
structure LeasedState where
  state : State
  granted : List Lease
  leases : List Lease

/-- The leases that are left by an event. -/
def LeasedState.afterwards (leased : LeasedState) (event : Event) : List Lease :=
  leased.leases.filter fun lease =>
    ¬ (event.isBy lease.holder = true ∧ event.Curtails leased.state lease)

def leasing : TransitionSystem LeasedState Event where
  init leased := system.init leased.state ∧ leased.granted = [] ∧ leased.leases = []
  step leased event := (system.step leased.state event).map fun next =>
    { state := next
      granted := leased.granted ++ (event.leased leased.state).toList
      leases := leased.afterwards event ++ (event.leased leased.state).toList }

/-- Nobody takes another's lease away before it expires. -/
def SparesLeases (leased : LeasedState) (event : Event) : Prop :=
  ∀ lease ∈ leased.leases, leased.state.now ≤ lease.expiresAt →
    event.Curtails leased.state lease → event.isBy lease.holder = true

instance (leased : LeasedState) (event : Event) : Decidable (SparesLeases leased event) :=
  inferInstanceAs (Decidable (∀ lease ∈ leased.leases, _ → _ → _))

/-- No lease is taken away or given back before it expires. -/
def LeavesLeases (leased : LeasedState) (event : Event) : Prop :=
  ∀ lease ∈ leased.leases, leased.state.now ≤ lease.expiresAt →
    ¬ event.Curtails leased.state lease

instance (leased : LeasedState) (event : Event) : Decidable (LeavesLeases leased event) :=
  inferInstanceAs (Decidable (∀ lease ∈ leased.leases, _ → ¬ _))

theorem LeavesLeases.spares {leased : LeasedState} {event : Event}
    (hleaves : LeavesLeases leased event) : SparesLeases leased event :=
  fun lease hlease hnow hcurtails => absurd hcurtails (hleaves lease hlease hnow)

/-! ## Requests on a leased document -/

namespace DocumentLock.Covers

variable {db next : Database} {now : Instant} {lease : Lease} {lock : DocumentLock} {user : User}

theorem holder (hcovers : lock.Covers lease) : ∃ holder, lock.lockedByUser = some holder := by
  have hheld := hcovers.held
  unfold isHeldBy at hheld
  split at hheld
  next => cases hheld
  next holder hholder => exact ⟨holder, hholder⟩

/-- Only the holder gets past a row. -/
theorem isHeldBy_iff (hcovers : lock.Covers lease) :
    lock.isHeldBy user = true ↔ user.id = lease.holder.id := by
  obtain ⟨holder, hholder⟩ := hcovers.holder
  rw [isHeldBy_of_holder hholder, (isHeldBy_of_holder hholder).mp hcovers.held]

/-- The row with another expiry. -/
theorem extended_iff (hcovers : lock.Covers lease) (later : Instant) :
    ({ lock with expiresAt := some later } : DocumentLock).Covers lease ↔
      ¬ later < lease.expiresAt := by
  constructor
  · intro hextended hbefore
    have hlive := hextended.live lease.expiresAt (Int.le_refl _)
    simp [isExpired, hbefore] at hlive
  · intro hafter
    refine ⟨hcovers.type, hcovers.held, fun instant hinstant => ?_⟩
    simp only [isExpired, decide_eq_false_iff_not]
    lia

/-- The holder asks for the lock again. -/
theorem acquireLock_exclusive {ttl : Option Duration}
    (hrow : db.documentLocks lease.documentId = some lock) (hcovers : lock.Covers lease)
    (hnow : now ≤ lease.expiresAt) {acquired : DocumentLock}
    (hok : LockService.acquireLock db now lease.documentId user ttl (some .exclusive) =
      .ok (acquired, next)) :
    user.id = lease.holder.id ∧
      LockService.extendLock db now lease.documentId lock
        (ttl.getD LockService.defaultLockTtl) = .ok (acquired, next) := by
  simp only [LockService.acquireLock, LockService.handleLockRequest, hrow,
    hcovers.live now hnow, hcovers.type, Option.getD_some, Bool.false_eq_true, if_false,
    if_true, true_and] at hok
  split at hok
  next => cases hok
  next hheld => exact ⟨hcovers.isHeldBy_iff.mp (by simpa using hheld), hok⟩

/-- The holder makes the lock collaborative. -/
theorem acquireLock_collaborative {ttl : Option Duration}
    (hrow : db.documentLocks lease.documentId = some lock) (hcovers : lock.Covers lease)
    (hnow : now ≤ lease.expiresAt) {acquired : DocumentLock}
    (hok : LockService.acquireLock db now lease.documentId user ttl (some .collaborative) =
      .ok (acquired, next)) :
    LockService.makeCollaborative db now lease.documentId lock
      (ttl.getD LockService.defaultLockTtl) = .ok (acquired, next) := by
  simp only [LockService.acquireLock, LockService.handleLockRequest, hrow,
    hcovers.live now hnow, hcovers.type, Option.getD_some, Bool.false_eq_true, if_false,
    reduceCtorEq, and_self, if_true] at hok
  split at hok
  next => cases hok
  next => exact hok

theorem switchExclusiveToCollaborative {ttl : Option Duration}
    (hrow : db.documentLocks lease.documentId = some lock) (hcovers : lock.Covers lease)
    (hnow : now ≤ lease.expiresAt) {switched : DocumentLock}
    (hok : LockService.switchExclusiveToCollaborative db now lease.documentId user ttl =
      .ok (switched, next)) :
    LockService.makeCollaborative db now lease.documentId lock
      (ttl.getD LockService.defaultLockTtl) = .ok (switched, next) := by
  simp only [LockService.switchExclusiveToCollaborative, hrow, hcovers.live now hnow,
    hcovers.type, Bool.false_eq_true, if_false, ne_eq, not_true_eq_false] at hok
  split at hok
  next => cases hok
  next => exact hok

theorem refreshLock {ttl : Option Duration}
    (hrow : db.documentLocks lease.documentId = some lock) (hcovers : lock.Covers lease)
    (hnow : now ≤ lease.expiresAt) {refreshed : DocumentLock}
    (hok : LockService.refreshLock db now lease.documentId user ttl = .ok (refreshed, next)) :
    user.id = lease.holder.id ∧
      LockService.extendLock db now lease.documentId lock
        (ttl.getD LockService.defaultLockTtl) = .ok (refreshed, next) := by
  simp only [LockService.refreshLock, hrow, hcovers.live now hnow, hcovers.type,
    Bool.false_eq_true, if_false, if_true] at hok
  split at hok
  next => cases hok
  next hheld => exact ⟨hcovers.isHeldBy_iff.mp (by simpa using hheld), hok⟩

end DocumentLock.Covers

namespace Lease.Kept

variable {db next : Database} {now : Instant} {lease : Lease} {user : User}

/-- The lease depends on the row of its document. -/
theorem congr (hrow : next.documentLocks lease.documentId = db.documentLocks lease.documentId) :
    lease.Kept next ↔ lease.Kept db := by
  rw [Lease.Kept, hrow, Lease.Kept]

theorem setLock_iff {lock : DocumentLock} :
    lease.Kept (db.setLock lease.documentId (some lock)) ↔ lock.Covers lease := by
  simp [Lease.Kept]

theorem not_of_none (hrow : db.documentLocks lease.documentId = none) : ¬ lease.Kept db := by
  rintro ⟨lock, hlock, -⟩
  rw [hrow] at hlock
  cases hlock

theorem not_of_collaborative {lock : DocumentLock}
    (hrow : db.documentLocks lease.documentId = some lock)
    (htype : lock.lockType = .collaborative) : ¬ lease.Kept db := by
  rintro ⟨found, hfound, hcovers⟩
  rw [hrow, Option.some.injEq] at hfound
  subst found
  cases htype.symm.trans hcovers.type

/-- The row got a new expiry. -/
theorem extendLock_iff {lock extended : DocumentLock} {ttlSeconds : Option Int}
    (hcovers : lock.Covers lease)
    (hok : LockService.extendLock db now lease.documentId lock
      ((ttlSeconds.map Duration.ofSeconds).getD LockService.defaultLockTtl) =
        .ok (extended, next)) :
    lease.Kept next ↔ ¬ ttlEnd now ttlSeconds < lease.expiresAt := by
  simp only [LockService.extendLock, Except.bind_eq_ok_iff, Except.pure_eq_ok_iff,
    Prod.mk.injEq, Instant.plus_eq_ok_iff] at hok
  obtain ⟨later, ⟨-, rfl⟩, rfl, rfl⟩ := hok
  exact setLock_iff.trans (hcovers.extended_iff _)

theorem makeCollaborative_not {lock shared : DocumentLock} {ttl : Duration}
    (hok : LockService.makeCollaborative db now lease.documentId lock ttl = .ok (shared, next)) :
    ¬ lease.Kept next := by
  obtain ⟨htype, -, rfl⟩ := LockService.extendLock_ok hok
  exact not_of_collaborative (by simp) htype

end Lease.Kept

/-! ## Steps -/

/-- Only the lock endpoints and a deletion change lock rows. -/
theorem Request.serve_documentLocks {db next : Database} {now : Instant} {user : User}
    {request : Request} {reply : Reply} (hok : request.serve db now user = .ok (reply, next))
    (htarget : request.lockTarget = none) (hdelete : ∀ id, request ≠ .delete id) :
    next.documentLocks = db.documentLocks := by
  cases Request.serve_effect hok with
  | unchanged htarget hdocuments hlocks => exact hlocks
  | create doc howner hdocuments hlocks => exact hlocks
  | save => rfl
  | lock hlock =>
      rw [hlock] at htarget
      cases htarget
  | delete => exact absurd rfl (hdelete _)
  | grant row htarget hdocument hfresh hdocuments hlocks => exact hlocks

theorem Request.serve_delete {db next : Database} {now : Instant} {user : User} {reply : Reply}
    {id : DocumentId} (hok : (Request.delete id).serve db now user = .ok (reply, next)) :
    next.documentLocks = Function.update db.documentLocks id none := by
  simp only [serve, Except.bind_eq_ok_iff, Except.pure_eq_ok_iff, Prod.mk.injEq,
    Prod.exists] at hok
  obtain ⟨done, written, hdelete, -, rfl⟩ := hok
  unfold DocumentService.deleteDocument at hdelete
  split at hdelete
  next => cases hdelete
  next =>
    split at hdelete
    next => cases hdelete
    next =>
      cases hdelete
      rfl

namespace Lease.Kept

variable {db next : Database} {now : Instant} {lease : Lease} {user : User}

/-- A committed request takes a lease away exactly when it curtails it. -/
theorem request_iff (hkept : lease.Kept db) (hnow : now ≤ lease.expiresAt) {request : Request}
    {reply : Reply} (hok : request.serve db now user = .ok (reply, next)) :
    lease.Kept next ↔ ¬ request.Curtails now user lease := by
  obtain ⟨lock, hrow, hcovers⟩ := hkept
  have hkept : lease.Kept db := ⟨lock, hrow, hcovers⟩
  have hlive := hcovers.live now hnow
  -- a lock endpoint of another document
  have hframe : ∀ {id : DocumentId}, request.lockTarget = some id → id ≠ lease.documentId →
      lease.Kept next := by
    intro id htarget hne
    obtain ⟨operation, rfl⟩ := Request.serve_operation htarget hok
    exact (congr (LockOperation.run_frame user operation (Ne.symm hne))).mpr hkept
  cases request with
  | create | read | save | createInvite | useInvite | processRequest =>
      refine iff_of_true ((congr ?_).mpr hkept) id
      rw [Request.serve_documentLocks hok rfl nofun]
  | delete id =>
      have hlocks := Request.serve_delete hok
      by_cases hid : id = lease.documentId
      · subst hid
        exact iff_of_false (not_of_none (by simp [hlocks])) fun hspares => hspares rfl
      · exact iff_of_true ((congr (by simp [hlocks, Ne.symm hid])).mpr hkept) hid
  | acquireLock id lockType ttlSeconds =>
      by_cases hid : id = lease.documentId
      · subst hid
        simp only [Request.serve, Except.bind_eq_ok_iff, Except.pure_eq_ok_iff, Prod.mk.injEq,
          Prod.exists] at hok
        obtain ⟨-, -, requestedType, hrequested, acquired, written, hacquire, -, rfl⟩ := hok
        simp only [Request.Curtails, hrequested, Except.ok.injEq, true_and]
        cases requestedType with
        | exclusive =>
            obtain ⟨huser, hextend⟩ := hcovers.acquireLock_exclusive hrow hnow hacquire
            rw [extendLock_iff hcovers hextend]
            simp [huser]
        | collaborative =>
            have hshared := hcovers.acquireLock_collaborative hrow hnow hacquire
            exact iff_of_false (makeCollaborative_not hshared) fun hspares => hspares (.inl rfl)
      · exact iff_of_true (hframe rfl hid) fun hcurtails => hid hcurtails.1
  | switchToCollaborative id ttlSeconds =>
      by_cases hid : id = lease.documentId
      · subst hid
        simp only [Request.serve, Except.bind_eq_ok_iff, Except.pure_eq_ok_iff, Prod.mk.injEq,
          Prod.exists] at hok
        obtain ⟨-, -, switched, written, hswitch, -, rfl⟩ := hok
        have hshared := hcovers.switchExclusiveToCollaborative hrow hnow hswitch
        exact iff_of_false (makeCollaborative_not hshared) fun hspares => hspares rfl
      · exact iff_of_true (hframe rfl hid) hid
  | releaseLock id =>
      by_cases hid : id = lease.documentId
      · subst hid
        simp only [Request.serve, Except.bind_eq_ok_iff, Except.pure_eq_ok_iff, Prod.mk.injEq,
          Prod.exists] at hok
        obtain ⟨-, -, done, written, hrelease, -, rfl⟩ := hok
        simp only [LockService.releaseLock, hrow, hlive, Bool.false_eq_true, if_false] at hrelease
        split at hrelease
        next => cases hrelease
        next =>
          cases hrelease
          exact iff_of_false (not_of_none (by simp)) fun hspares => hspares rfl
      · exact iff_of_true (hframe rfl hid) hid
  | refreshLock id ttlSeconds =>
      by_cases hid : id = lease.documentId
      · subst hid
        simp only [Request.serve, Except.bind_eq_ok_iff, Except.pure_eq_ok_iff, Prod.mk.injEq,
          Prod.exists] at hok
        obtain ⟨-, -, refreshed, written, hrefresh, -, rfl⟩ := hok
        obtain ⟨huser, hextend⟩ := hcovers.refreshLock hrow hnow hrefresh
        rw [extendLock_iff hcovers hextend]
        simp [Request.Curtails, huser]
      · exact iff_of_true (hframe rfl hid) fun hcurtails => hid hcurtails.1
  | getLock id =>
      simp only [Request.serve, Except.bind_eq_ok_iff, Except.pure_eq_ok_iff,
        Prod.mk.injEq] at hok
      obtain ⟨-, -, -, rfl⟩ := hok
      exact iff_of_true hkept not_false

/-- And so does a committed operation of a state worker. -/
theorem worker_iff (hkept : lease.Kept db) (hnow : now ≤ lease.expiresAt)
    {operation : WorkerOperation} (hok : operation.serve db now = .ok ((), next)) :
    lease.Kept next ↔ ¬ operation.Curtails lease := by
  obtain ⟨lock, hrow, hcovers⟩ := hkept
  have hkept : lease.Kept db := ⟨lock, hrow, hcovers⟩
  have hlive := hcovers.live now hnow
  have hframe : ∀ {id : DocumentId} {row : Option DocumentLock}, id ≠ lease.documentId →
      lease.Kept (db.setLock id row) := by
    intro id row hne
    exact (congr (by simp [Ne.symm hne])).mpr hkept
  cases WorkerOperation.serve_effect hok with
  | @periodic id content doc expiresAt hdoc =>
      by_cases hid : id = lease.documentId
      · subst hid
        refine iff_of_false ?_ fun hspares => hspares ⟨rfl, rfl⟩
        exact not_of_collaborative (by rw [setLock_documentLocks, Function.update_self]) rfl
      · exact iff_of_true ((congr (by simp [Ne.symm hid])).mpr hkept)
          fun hcurtails => hid (Option.some.inj hcurtails.1)
  | @final id content doc hdoc =>
      by_cases hid : id = lease.documentId
      · subst hid
        exact iff_of_false (not_of_none (by simp)) fun hspares => hspares ⟨rfl, rfl⟩
      · exact iff_of_true ((congr (by simp [Ne.symm hid])).mpr hkept)
          fun hcurtails => hid (Option.some.inj hcurtails.1)
  | release id =>
      by_cases hid : id = lease.documentId
      · subst hid
        exact iff_of_false (not_of_none (by simp)) fun hspares => hspares rfl
      · exact iff_of_true (hframe hid) hid
  | @acquireNew id new hdocument hfree =>
      refine iff_of_true (hframe ?_) not_false
      rintro rfl
      cases hlive.symm.trans (hfree lock hrow)
  | @acquireExtend id old new hold hlive hshared =>
      refine iff_of_true (hframe ?_) not_false
      rintro rfl
      rw [hrow, Option.some.injEq] at hold
      subst hold
      cases hcovers.type.symm.trans hshared

/-- What takes a lease away before it expires. -/
theorem step_iff {state after : State} (hkept : lease.Kept state.db)
    (hnow : state.now ≤ lease.expiresAt) {event : Event}
    (hstep : system.step state event = some after) :
    lease.Kept after.db ↔ ¬ event.Curtails state lease := by
  cases step_cases hstep with
  | request client request reply written hok =>
      simpa [Event.Curtails, hok, Except.isOk, Except.toBool] using hkept.request_iff hnow hok
  | refuse client request error herror =>
      simpa [Event.Curtails, herror, Except.isOk, Except.toBool] using hkept
  | operation operation written hok =>
      simpa [Event.Curtails, hok, Except.isOk, Except.toBool] using hkept.worker_iff hnow hok
  | fail operation error herror =>
      simpa [Event.Curtails, herror, Except.isOk, Except.toBool] using hkept
  | advance nanoseconds hlimit => exact iff_of_true hkept id

/-- As long as a leased document keeps a lock row, its holder's saves are all that changes it. -/
theorem documents_step {state after : State} {event : Event}
    (hkept : lease.Kept state.db) (hdb : state.db.WellFormed)
    (hspares : event.Curtails state lease → event.isBy lease.holder = true)
    (hstep : system.step state event = some after)
    (hrow : after.db.documentLocks lease.documentId ≠ none) :
    after.db.documents lease.documentId = state.db.documents lease.documentId ∨
      ∃ user content, event = .user user (.save lease.documentId content) ∧
        user.id = lease.holder.id := by
  obtain ⟨lock, hlock, hcovers⟩ := hkept
  cases step_cases hstep with
  | request user request reply written hok =>
      cases Request.serve_effect hok with
      | unchanged htarget hdocuments => exact .inl (congrFun hdocuments _)
      | create doc howner hdocuments =>
          have hbound := hdb.document_id _ (hdb.lock_document _ _ hlock)
          refine .inl ((congrFun hdocuments _).trans (Function.update_of_ne ?_ _ _))
          exact Int.ne_of_lt hbound
      | @save id content doc found hdoc hedit hfound hlive hheld =>
          by_cases hid : id = lease.documentId
          · subst hid
            rw [hlock, Option.some.injEq] at hfound
            subst hfound
            exact .inr ⟨user, content, rfl, hcovers.isHeldBy_iff.mp (hheld hcovers.type)⟩
          · exact .inl (by simp [Ne.symm hid])
      | lock htarget hdocument heffect =>
          obtain ⟨row, -, rfl⟩ := heffect
          exact .inl rfl
      | @delete id written doc hdoc howner hdocuments hlocks =>
          by_cases hid : id = lease.documentId
          · subst hid
            exact absurd (by rw [hlocks, Function.update_self]) hrow
          · exact .inl ((congrFun hdocuments _).trans (Function.update_of_ne (Ne.symm hid) _ _))
      | grant row htarget hdocument hfresh hdocuments => exact .inl (congrFun hdocuments _)
  | refuse | fail | advance => exact .inl rfl
  | operation operation written hok =>
      have hserved : (operation.serve state.db state.now).isOk = true := by
        rw [hok]
        rfl
      cases WorkerOperation.serve_effect hok with
      | @periodic id content doc expiresAt hdoc =>
          by_cases hid : id = lease.documentId
          · cases hspares ⟨hserved, congrArg some hid, rfl⟩
          · exact .inl (by simp [Ne.symm hid])
      | @final id content doc hdoc =>
          by_cases hid : id = lease.documentId
          · cases hspares ⟨hserved, congrArg some hid, rfl⟩
          · exact .inl (by simp [Ne.symm hid])
      | release | acquireNew | acquireExtend => exact .inl rfl

end Lease.Kept

/-! ## New leases -/

/-- The lock that an exclusive request is granted is exclusive. -/
theorem LockService.acquireLock_exclusive {db next : Database} {now : Instant}
    {document : DocumentId} {user : User} {ttl : Option Duration} {lock : DocumentLock}
    (hok : acquireLock db now document user ttl (some .exclusive) = .ok (lock, next)) :
    lock.lockType = .exclusive := by
  unfold acquireLock at hok
  dsimp only [Option.getD_some] at hok
  split at hok
  next current hrow =>
    split at hok
    next => exact (createLock_ok hok).1
    next =>
      unfold handleLockRequest at hok
      split at hok
      next hsame =>
        split at hok
        next => cases hok
        next => exact (extendLock_ok hok).1.trans hsame
      next =>
        split at hok
        next hshares => cases hshares.2
        next => cases hok
  next => exact (createLock_ok hok).1

/-- The row a lock request leaves stands for its lease. -/
theorem Lease.Kept.of_row {next : Database} {id : DocumentId} {user : User} {lock : DocumentLock}
    {lease : Lease} (hrow : next.documentLocks id = some lock)
    (hheld : lock.lockType = .exclusive → lock.isHeldBy user = true)
    (hleased : ((next.documentLocks id).bind fun lock =>
      if lock.lockType = .exclusive then lock.expiresAt.map (⟨id, user, ·⟩) else none) =
        some lease) : lease.Kept next := by
  rw [hrow, Option.bind_some, Option.ite_none_right_eq_some] at hleased
  obtain ⟨htype, hleased⟩ := hleased
  obtain ⟨expiresAt, hexpires, rfl⟩ := Option.map_eq_some_iff.mp hleased
  refine ⟨lock, hrow, htype, hheld htype, fun instant hinstant => ?_⟩
  rw [DocumentLock.isExpired, hexpires]
  exact decide_eq_false (Int.not_lt.mpr hinstant)

theorem Request.leased_kept {db next : Database} {now : Instant} {user : User} {request : Request}
    {reply : Reply} {lease : Lease} (hok : request.serve db now user = .ok (reply, next))
    (hleased : request.leased next user = some lease) : lease.Kept next := by
  cases request with
  | acquireLock id lockType ttlSeconds =>
      simp only [serve, Except.bind_eq_ok_iff, Except.pure_eq_ok_iff, Prod.mk.injEq,
        Prod.exists] at hok
      obtain ⟨-, -, requestedType, -, lock, written, hacquire, -, rfl⟩ := hok
      refine .of_row (LockService.acquireLock_writes hacquire).row (fun htype => ?_) hleased
      cases requestedType with
      | exclusive =>
          have hgrant : LockGrant.acquireLock.run db now id user ttlSeconds = .ok (lock, written) :=
            hacquire
          exact (LockGrant.run_held hgrant).2 htype
      | collaborative => cases LockService.acquireLock_type htype hacquire
  | refreshLock id ttlSeconds =>
      simp only [serve, Except.bind_eq_ok_iff, Except.pure_eq_ok_iff, Prod.mk.injEq,
        Prod.exists] at hok
      obtain ⟨-, -, lock, written, hrefresh, -, rfl⟩ := hok
      have hgrant : LockGrant.refreshLock.run db now id user ttlSeconds = .ok (lock, written) :=
        hrefresh
      exact .of_row (LockGrant.run_writes hgrant).row (LockGrant.run_held hgrant).2 hleased
  | create | read | save | switchToCollaborative | releaseLock | getLock | delete | createInvite
  | useInvite | processRequest => cases hleased

/-! ## Runs -/

theorem leasing_steps {before after : LeasedState} {event : Event}
    (hstep : leasing.step before event = some after) :
    ∃ next, Steps before.state event next ∧ after.state = next := by
  obtain ⟨next, hnext, rfl⟩ := Option.map_eq_some_iff.mp hstep
  exact ⟨next, step_cases hnext, rfl⟩

/-- The lease an event gives is kept in mind. -/
theorem mem_granted_of_leased {before after : LeasedState} {event : Event} {lease : Lease}
    (hstep : leasing.step before event = some after)
    (hleased : event.leased before.state = some lease) : lease ∈ after.granted := by
  obtain ⟨next, -, rfl⟩ := Option.map_eq_some_iff.mp hstep
  rw [hleased]
  exact List.mem_append_right _ (List.mem_singleton_self lease)

namespace LeasedState

/-- Every lease that has not been given back has its row until it expires. -/
def Kept (leased : LeasedState) : Prop :=
  ∀ lease ∈ leased.leases, leased.state.now ≤ lease.expiresAt → lease.Kept leased.state.db

theorem step_now {state after : State} {event : Event}
    (hstep : system.step state event = some after) : state.now ≤ after.now := by
  cases step_cases hstep with
  | request | refuse | operation | fail => exact Int.le_refl _
  | advance nanoseconds => exact Int.le_add_of_nonneg_right (by simp)

theorem Kept.step {leased next : LeasedState} (hkept : leased.Kept) {event : Event}
    (hspares : SparesLeases leased event) (hstep : leasing.step leased event = some next) :
    next.Kept := by
  obtain ⟨after, hafter, rfl⟩ := Option.map_eq_some_iff.mp hstep
  intro lease hlease hnow
  rcases List.mem_append.mp hlease with hold | hnew
  · obtain ⟨hopen, hkeeps⟩ := List.mem_filter.mp hold
    have hbefore := Int.le_trans (step_now hafter) hnow
    refine ((hkept lease hopen hbefore).step_iff hbefore hafter).mpr fun hcurtails => ?_
    exact of_decide_eq_true hkeeps ⟨hspares lease hopen hbefore hcurtails, hcurtails⟩
  · rw [Option.mem_toList] at hnew
    cases step_cases hafter with
    | request client request reply written hok =>
        simp only [Event.leased, hok] at hnew
        exact Request.leased_kept hok hnew
    | refuse client request error herror => simp [Event.leased, herror] at hnew
    | operation | fail | advance => simp [Event.leased] at hnew

theorem reachable_system {guard : LeasedState → Event → Prop} {leased : LeasedState}
    (hreach : leasing.ReachableUnder guard leased) : system.Reachable leased.state := by
  induction hreach with
  | init hinit => exact .init hinit.1
  | step _ _ hstep ih =>
      obtain ⟨after, hafter, rfl⟩ := Option.map_eq_some_iff.mp hstep
      exact ih.step trivial hafter

theorem reachable_kept {leased : LeasedState}
    (hreach : leasing.ReachableUnder SparesLeases leased) : leased.Kept := by
  refine hreach.invariant leasing Kept ?_ fun _ _ _ _ hkept hspares hstep =>
    hkept.step hspares hstep
  rintro leased ⟨-, -, hnone⟩ lease hlease
  rw [hnone] at hlease
  cases hlease

/-- Every unexpired lease is still open. -/
theorem reachable_open {leased : LeasedState}
    (hreach : leasing.ReachableUnder LeavesLeases leased) :
    ∀ lease ∈ leased.granted, leased.state.now ≤ lease.expiresAt → lease ∈ leased.leases := by
  refine hreach.invariant leasing (fun leased => ∀ lease ∈ leased.granted,
    leased.state.now ≤ lease.expiresAt → lease ∈ leased.leases) ?_ ?_
  · rintro leased ⟨-, hnone, -⟩ lease hlease
    rw [hnone] at hlease
    cases hlease
  · rintro leased event next - hopen hleaves hstep lease hlease hnow
    obtain ⟨after, hafter, rfl⟩ := Option.map_eq_some_iff.mp hstep
    rcases List.mem_append.mp hlease with hold | hnew
    · have hbefore := Int.le_trans (step_now hafter) hnow
      have hstays := hopen lease hold hbefore
      refine List.mem_append_left _ (List.mem_filter.mpr ⟨hstays, decide_eq_true ?_⟩)
      exact fun hback => hleaves lease hstays hbefore hback.2
    · exact List.mem_append_right _ hnew

end LeasedState

/-- One row stands for one holder. -/
theorem Lease.Kept.same_holder {db : Database} {first second : Lease} (hfirst : first.Kept db)
    (hsecond : second.Kept db) (hdocument : first.documentId = second.documentId) :
    first.holder.id = second.holder.id := by
  obtain ⟨lock, hrow, hcovers⟩ := hfirst
  obtain ⟨other, hother, hheld⟩ := hsecond
  rw [hdocument, hother, Option.some.injEq] at hrow
  subst hrow
  exact hheld.isHeldBy_iff.mp hcovers.held

/-- Under a lease its holder works, and no other editor does. -/
theorem Lease.Kept.gates {state : State} (hreach : system.Reachable state) {lease : Lease}
    (hkept : lease.Kept state.db) (hnow : state.now ≤ lease.expiresAt) {editor : User}
    (hedit : state.db.CanEdit lease.documentId editor) (gate : Gate) :
    (editor.id = lease.holder.id →
        Succeeds (gate.attempt state.db state.now lease.documentId editor)) ∧
      (editor.id ≠ lease.holder.id →
        Refused state.db (gate.attempt state.db state.now lease.documentId editor)) := by
  have hrange := (reachable_wellFormed hreach).2
  have hpermission := (reachable_consistent hreach).existsPermission_of_canEdit hedit
  obtain ⟨doc, hdoc, hrights⟩ := hedit
  obtain ⟨lock, hrow, hcovers⟩ := hkept
  have hlive := hcovers.live _ hnow
  constructor
  · intro hsame
    exact gate.succeeds_of_holder hrange.plus_ok hdoc hrights hpermission hrow hlive
      hcovers.type (hcovers.isHeldBy_iff.mpr hsame)
  · intro hother
    refine gate.refused_of_other hdoc hrights hrow hlive hcovers.type ?_
    exact Bool.not_eq_true _ ▸ fun hheld => hother (hcovers.isHeldBy_iff.mp hheld)

/-- As long as nobody takes another's unexpired lease away, a lease that has not been given back
decides about its document until it expires: all such leases of the document have one holder,
every operation under a lock succeeds for the holder if the holder may edit and is refused to
every other editor, and the only steps that end it before its expiry are those that curtail it. -/
theorem leases_decide {leased : LeasedState} (hreach : leasing.ReachableUnder SparesLeases leased)
    {lease : Lease} (hlease : lease ∈ leased.leases)
    (hnow : leased.state.now ≤ lease.expiresAt) :
    (∀ other ∈ leased.leases, other.documentId = lease.documentId →
        leased.state.now ≤ other.expiresAt → other.holder.id = lease.holder.id) ∧
      (∀ editor, leased.state.db.CanEdit lease.documentId editor → ∀ gate : Gate,
        (editor.id = lease.holder.id →
          Succeeds (gate.attempt leased.state.db leased.state.now lease.documentId editor)) ∧
        (editor.id ≠ lease.holder.id → Refused leased.state.db
          (gate.attempt leased.state.db leased.state.now lease.documentId editor))) ∧
      ∀ event next, leasing.step leased event = some next →
        (¬ lease.Kept next.state.db ↔ event.Curtails leased.state lease) := by
  have hkept := LeasedState.reachable_kept hreach
  have hlive := hkept lease hlease hnow
  refine ⟨fun other hother hdocument hunexpired => ?_, fun editor hedit gate => ?_, ?_⟩
  · exact (hkept other hother hunexpired).same_holder hlive hdocument
  · exact hlive.gates (LeasedState.reachable_system hreach) hnow hedit gate
  · intro event next hstep
    obtain ⟨after, hafter, rfl⟩ := Option.map_eq_some_iff.mp hstep
    rw [hlive.step_iff hnow hafter, not_not]

/-- An editor has given the lock back, has taken and refreshed it again, the owner asks for it in
vain, and four minutes have passed. -/
def editorsLease : List Event :=
  [.user ⟨1, "owner"⟩ (.create (some "notes") none),
    .user ⟨1, "owner"⟩ (.createInvite 1 false none "invite"),
    .user ⟨2, "editor"⟩ (.useInvite "invite"),
    .user ⟨1, "owner"⟩ (.processRequest 1 true (some "Editor")),
    .user ⟨2, "editor"⟩ (.acquireLock 1 (some "exclusive") (some 600)),
    .user ⟨2, "editor"⟩ (.releaseLock 1),
    .user ⟨2, "editor"⟩ (.acquireLock 1 (some "exclusive") (some 60)),
    .user ⟨2, "editor"⟩ (.refreshLock 1 none),
    .user ⟨1, "owner"⟩ (.acquireLock 1 (some "EXCLUSIVE") (some 300)),
    .advance 240000000000]

theorem leases_decide_editor : ∃ leased : LeasedState, ∃ lease ∈ leased.leases,
    lease.holder = ⟨2, "editor"⟩ ∧ leased.state.now ≤ lease.expiresAt ∧
      Refused leased.state.db ((Gate.saveDocument none).attempt leased.state.db leased.state.now
        lease.documentId ⟨1, "owner"⟩) := by
  obtain ⟨leased, hreach, hcheck⟩ := leasing.exists_reachable_of_exec
    (.init ⟨⟨rfl, by decide, by decide⟩, rfl, rfl⟩ :
      leasing.ReachableUnder SparesLeases ⟨⟨Database.empty, 0⟩, [], []⟩) editorsLease
    (fun leased => decide (⟨1, ⟨2, "editor"⟩, 300000000000⟩ ∈ leased.leases ∧
      leased.state.now = 240000000000) &&
      (leased.state.db.documents 1).any fun doc =>
        DocumentService.canUserEdit leased.state.db 1 doc ⟨1, "owner"⟩) (by decide +kernel)
  obtain ⟨hlease, hedit⟩ := Bool.and_eq_true_iff.mp hcheck
  obtain ⟨hlease, hnow⟩ := of_decide_eq_true hlease
  have hunexpired : leased.state.now ≤ 300000000000 := by
    rw [hnow]
    decide
  obtain ⟨doc, hdoc, hrights⟩ := (Option.any_eq_true _ _).mp hedit
  refine ⟨leased, _, hlease, rfl, hunexpired, ?_⟩
  exact ((leases_decide hreach hlease hunexpired).2.1 _ ⟨doc, hdoc, hrights⟩ _).2 (by decide)

end CollabEditor.Backend
