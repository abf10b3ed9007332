import CollabEditor.Backend.LockGates

/-! # What the client's ttl does to a lock

The ttl of a request reaches the arithmetic of instants as it is. A call that returns has
granted a lock for that long from now on, which a negative ttl makes no time at all.
-/

namespace CollabEditor.Backend

open Foundation Database

/-- The calls that grant a lock to a user. -/
inductive LockGrant
  | acquireLock
  | refreshLock
deriving DecidableEq, Repr

namespace LockGrant

/-- The call with the `ttlSeconds` of its request; the type asked for is exclusive. -/
def run (db : Database) (now : Instant) (document : DocumentId) (user : User)
    (ttlSeconds : Option Int) : LockGrant → Transaction DocumentLock
  | .acquireLock => LockService.acquireLock db now document user
      (ttlSeconds.map Duration.ofSeconds) (some .exclusive)
  | .refreshLock => LockService.refreshLock db now document user
      (ttlSeconds.map Duration.ofSeconds)

/-- The stored row lets the call through. -/
def admits (db : Database) (now : Instant) (document : DocumentId) (user : User)
    (grant : LockGrant) : Bool :=
  (db.documentLocks document).all fun lock => lock.isExpired now ||
    match grant with
    | .acquireLock => lock.lockType == .exclusive && lock.isHeldBy user
    | .refreshLock =>
        if lock.lockType = .exclusive then lock.isHeldBy user
        else db.existsPermission document user.id

/-- What a call that returns leaves behind is a lock its caller can save under, and a ttl
beyond the instants fails without a trace. -/
structure Usable (db : Database) (now : Instant) (document : DocumentId) (user : User)
    (ttlSeconds : Option Int) (grant : LockGrant) : Prop where
  granted : ∀ lock next, grant.run db now document user ttlSeconds = .ok (lock, next) →
    ∃ stored, next.documentLocks document = some stored ∧ stored.isExpired now = false ∧
      ∀ content, Succeeds (DocumentService.saveDocument next now document user content)
  failed : now.admitsTtl ttlSeconds = false →
    (∃ error, grant.run db now document user ttlSeconds = .error error) ∧
      (committed db (grant.run db now document user ttlSeconds)).documentLocks document =
        db.documentLocks document

end LockGrant

/-! ## Expiry after the ttl -/

/-- A row written for a ttl is expired at once exactly if the ttl is negative. -/
theorem LockService.Writes.isExpired_iff {next : Database} {now : Instant}
    {document : DocumentId} {ttlSeconds : Option Int} {lock : DocumentLock}
    (hwrites : Writes next now document (ttlSeconds.map Duration.ofSeconds) lock) :
    lock.isExpired now = true ↔ ∃ seconds ∈ ttlSeconds, seconds < 0 := by
  obtain ⟨expiresAt, hplus, hexpires⟩ := hwrites.expires
  obtain ⟨-, rfl⟩ := Instant.plus_eq_ok_iff.mp hplus
  rw [DocumentLock.isExpired, hexpires]
  cases ttlSeconds with
  | none =>
      have hdefault : (0 : Int) ≤ defaultLockTtl := by decide
      simp only [Option.map_none, Option.getD_none, decide_eq_true_eq, Option.not_mem_none,
        false_and, exists_false, iff_false]
      lia
  | some seconds =>
      simp only [Option.map_some, Option.getD_some, Duration.ofSeconds, Option.mem_def,
        Option.some.injEq, exists_eq_left']
      lia

/-! ## Whom a granted row belongs to -/

namespace LockService

variable {db next : Database} {now : Instant} {document : DocumentId} {user : User}
variable {ttl : Option Duration} {lock : DocumentLock}

theorem createLock_held {type : LockType} {ttl : Duration}
    (hok : createLock db now document user type ttl = .ok (lock, next)) :
    lock.lockType = .exclusive → lock.isHeldBy user = true := by
  intro htype
  obtain ⟨hsame, hholder, -⟩ := createLock_ok hok
  rw [← hsame, if_pos htype] at hholder
  exact (DocumentLock.isHeldBy_of_holder hholder).mpr rfl

/-- Extending a row leaves it with its holder. -/
theorem extendLock_held {current : DocumentLock} {ttl : Duration}
    (hheld : current.lockType = .exclusive → current.isHeldBy user = true)
    (hok : extendLock db now document current ttl = .ok (lock, next)) :
    lock.lockType = .exclusive → lock.isHeldBy user = true := by
  obtain ⟨htype, hholder, -⟩ := extendLock_ok hok
  rw [htype]
  unfold DocumentLock.isHeldBy at hheld ⊢
  rwa [hholder]

end LockService

/-! ## Calls that return -/

namespace LockGrant

variable {db next : Database} {now : Instant} {document : DocumentId} {user : User}
variable {ttlSeconds : Option Int} {lock : DocumentLock} {grant : LockGrant}

theorem run_writes (hok : grant.run db now document user ttlSeconds = .ok (lock, next)) :
    LockService.Writes next now document (ttlSeconds.map Duration.ofSeconds) lock := by
  cases grant with
  | acquireLock => exact LockService.acquireLock_writes hok
  | refreshLock => exact LockService.refreshLock_writes hok

theorem run_effect (hok : grant.run db now document user ttlSeconds = .ok (lock, next)) :
    LockEffect db next now document user := by
  cases grant with
  | acquireLock => exact LockService.acquireLock_effect hok
  | refreshLock => exact LockService.refreshLock_effect hok

/-- The row of a call that returns lets it through, and the row it leaves is no exclusive
row of another user. -/
theorem run_held (hok : grant.run db now document user ttlSeconds = .ok (lock, next)) :
    grant.admits db now document user = true ∧
      (lock.lockType = .exclusive → lock.isHeldBy user = true) := by
  unfold admits
  cases grant with
  | acquireLock =>
      simp only [run, LockService.acquireLock, Option.getD_some] at hok
      cases hrow : db.documentLocks document with
      | none =>
          simp only [hrow] at hok
          exact ⟨rfl, LockService.createLock_held hok⟩
      | some current =>
          simp only [hrow, Option.all_some] at hok ⊢
          cases hexpired : current.isExpired now with
          | true =>
              simp only [hexpired, if_true] at hok
              exact ⟨rfl, LockService.createLock_held hok⟩
          | false =>
              simp only [hexpired, LockService.handleLockRequest, Bool.false_eq_true,
                if_false, true_and, reduceCtorEq, and_false] at hok
              split at hok
              next htype =>
                split at hok
                next => cases hok
                next hheld =>
                  rw [Bool.not_eq_false] at hheld
                  exact ⟨by simp [htype, hheld], LockService.extendLock_held (fun _ => hheld) hok⟩
              next => cases hok
  | refreshLock =>
      simp only [run, LockService.refreshLock] at hok
      cases hrow : db.documentLocks document with
      | none =>
          simp only [hrow] at hok
          exact ⟨rfl, LockService.createLock_held hok⟩
      | some current =>
          simp only [hrow, Option.all_some] at hok ⊢
          cases hexpired : current.isExpired now with
          | true =>
              simp only [hexpired, if_true] at hok
              exact ⟨rfl, LockService.createLock_held hok⟩
          | false =>
              simp only [hexpired, Bool.false_eq_true, if_false] at hok
              split at hok
              next htype =>
                split at hok
                next => cases hok
                next hheld =>
                  rw [Bool.not_eq_false] at hheld
                  exact ⟨by simp [htype, hheld], LockService.extendLock_held (fun _ => hheld) hok⟩
              next htype =>
                split at hok
                next => cases hok
                next hpermission =>
                  rw [Bool.not_eq_false] at hpermission
                  exact ⟨by simp [htype, hpermission],
                    LockService.extendLock_held (fun hsame => absurd hsame htype) hok⟩

/-- On a document that is there, a call returns if the row lets it through and the ttl gives
an instant. -/
theorem run_succeeds (hdoc : (db.documents document).isSome)
    (hadmits : grant.admits db now document user = true)
    (httl : now.admitsTtl ttlSeconds = true) :
    ∃ lock next, grant.run db now document user ttlSeconds = .ok (lock, next) := by
  obtain ⟨later, hplus⟩ := Except.exists_of_isOk httl
  obtain ⟨-, rfl⟩ := Instant.plus_eq_ok_iff.mp hplus
  unfold admits at hadmits
  cases hrow : db.documentLocks document with
  | none =>
      cases grant with
      | acquireLock =>
          simp only [run, LockService.acquireLock, hrow]
          exact LockService.createLock_succeeds hplus hdoc hrow
      | refreshLock =>
          simp only [run, LockService.refreshLock, hrow]
          exact LockService.createLock_succeeds hplus hdoc hrow
  | some current =>
      rw [hrow, Option.all_some] at hadmits
      cases hexpired : current.isExpired now with
      | true =>
          have hfree : (db.deleteLock document).documentLocks document = none :=
            Function.update_self ..
          cases grant with
          | acquireLock =>
              simp only [run, LockService.acquireLock, hrow, hexpired, if_true]
              exact LockService.createLock_succeeds hplus hdoc hfree
          | refreshLock =>
              simp only [run, LockService.refreshLock, hrow, hexpired, if_true]
              exact LockService.createLock_succeeds hplus hdoc hfree
      | false =>
          rw [hexpired, Bool.false_or] at hadmits
          cases grant with
          | acquireLock =>
              obtain ⟨htype, hheld⟩ := Bool.and_eq_true_iff.mp hadmits
              simp only [run, LockService.acquireLock, LockService.handleLockRequest, hrow,
                hexpired, beq_iff_eq.mp htype, hheld, Option.getD_some, Bool.false_eq_true,
                Bool.true_eq_false, and_false, if_false, if_true]
              exact LockService.extendLock_succeeds db document current hplus
          | refreshLock =>
              simp only [run, LockService.refreshLock, hrow, hexpired, Bool.false_eq_true,
                if_false]
              dsimp only at hadmits
              split at hadmits
              next htype =>
                simp only [if_pos htype, hadmits, Bool.true_eq_false, if_false]
                exact LockService.extendLock_succeeds db document current hplus
              next htype =>
                simp only [if_neg htype, hadmits, Bool.true_eq_false, if_false]
                exact LockService.extendLock_succeeds db document current hplus

/-! ## When a granted lock is usable -/

/-- A call whose ttl gives no instant fails. -/
theorem run_fails (httl : now.admitsTtl ttlSeconds = false) :
    ∃ error, grant.run db now document user ttlSeconds = .error error := by
  cases hrun : grant.run db now document user ttlSeconds with
  | error error => exact ⟨error, rfl⟩
  | ok result =>
      have hadmits := (run_writes hrun).admitsTtl
      rw [httl] at hadmits
      cases hadmits

/-- An editor's calls leave a lock to save under exactly when no negative ttl gets through. -/
theorem usable_iff (grant : LockGrant) (db : Database) (now : Instant) (document : DocumentId)
    (user : User) (hedit : db.CanEdit document user) (ttlSeconds : Option Int) :
    grant.Usable db now document user ttlSeconds ↔
      ¬((∃ seconds ∈ ttlSeconds, seconds < 0) ∧ now.admitsTtl ttlSeconds = true ∧
        grant.admits db now document user = true) := by
  obtain ⟨doc, hdoc, hrights⟩ := hedit
  constructor
  · rintro husable ⟨hnegative, httl, hadmits⟩
    obtain ⟨lock, next, hok⟩ :=
      run_succeeds (Option.isSome_iff_exists.mpr ⟨doc, hdoc⟩) hadmits httl
    obtain ⟨stored, hrow, hlive, -⟩ := husable.granted lock next hok
    have hwrites := run_writes hok
    cases hrow.symm.trans hwrites.row
    rw [hwrites.isExpired_iff.mpr hnegative] at hlive
    cases hlive
  · intro hcondition
    constructor
    · intro lock next hok
      obtain ⟨hadmits, hheld⟩ := run_held hok
      have hwrites := run_writes hok
      have hlive : lock.isExpired now = false := by
        cases hexpired : lock.isExpired now with
        | false => rfl
        | true =>
            exact absurd ⟨hwrites.isExpired_iff.mp hexpired, hwrites.admitsTtl, hadmits⟩
              hcondition
      refine ⟨lock, hwrites.row, hlive, fun content => ?_⟩
      obtain ⟨row, -, rfl⟩ := run_effect hok
      -- a lock operation touches neither the document nor the permissions
      have hthere : (db.setLock document row).documents document = some doc := hdoc
      exact DocumentService.saveDocument_succeeds hthere hrights hwrites.row hlive hheld content
    · intro httl
      obtain ⟨error, herror⟩ :
          ∃ error, grant.run db now document user ttlSeconds = .error error := run_fails httl
      exact ⟨⟨error, herror⟩, by rw [herror, committed_error]⟩

end LockGrant

/-- The owner of a new document asks for a lock of minus one second and gets a row that has
expired. -/
theorem negative_ttl_grants_expired_row :
    ¬ ∀ state, system.Reachable state → ∀ (grant : LockGrant) (document : DocumentId)
      (user : User), state.db.CanEdit document user → ∀ ttlSeconds : Option Int,
        grant.Usable state.db state.now document user ttlSeconds := by
  intro hall
  obtain ⟨state, hreach, hcheck⟩ := system.exists_reachable_of_exec
    (.init ⟨rfl, by decide, by decide⟩ : system.Reachable ⟨Database.empty, 0⟩)
    [.user ⟨1, "owner"⟩ (.create (some "notes") none)]
    (fun state => ((state.db.documents 1).any fun doc =>
        DocumentService.canUserEdit state.db 1 doc ⟨1, "owner"⟩) &&
      match LockGrant.acquireLock.run state.db state.now 1 ⟨1, "owner"⟩ (some (-1)) with
      | .ok (_, next) => (next.documentLocks 1).all (·.isExpired state.now)
      | .error _ => false) (by decide +kernel)
  obtain ⟨hrights, hgranted⟩ := Bool.and_eq_true_iff.mp hcheck
  obtain ⟨doc, hdoc, hedit⟩ := (Option.any_eq_true _ _).mp hrights
  have husable := hall state hreach .acquireLock 1 ⟨1, "owner"⟩ ⟨doc, hdoc, hedit⟩ (some (-1))
  cases hrun : LockGrant.acquireLock.run state.db state.now 1 ⟨1, "owner"⟩ (some (-1)) with
  | error error =>
      rw [hrun] at hgranted
      cases hgranted
  | ok result =>
      obtain ⟨stored, hrow, hlive, -⟩ := husable.granted result.1 result.2 hrun
      simp [hrun, hrow, hlive] at hgranted

/-- The owner renews the lock of a new document. -/
theorem usable_iff_renewal : ∃ db : Database, db.CanEdit 1 ⟨1, "owner"⟩ ∧
    LockGrant.refreshLock.admits db 7 1 ⟨1, "owner"⟩ = true ∧
    (LockGrant.refreshLock.Usable db 7 1 ⟨1, "owner"⟩ (some 60) ↔
      ¬((∃ seconds ∈ some (60 : Int), seconds < 0) ∧ Instant.admitsTtl 7 (some 60) = true ∧
        LockGrant.refreshLock.admits db 7 1 ⟨1, "owner"⟩ = true)) := by
  let doc : Document := ⟨⟨1, "owner"⟩, "notes", some "", 0, 0, 0⟩
  let db := (Database.empty.updateDocument 1 doc).setLock 1 (some expiringLock)
  have hedit : db.CanEdit 1 ⟨1, "owner"⟩ := ⟨doc, rfl, rfl⟩
  exact ⟨db, hedit, by decide, LockGrant.usable_iff .refreshLock db 7 1 _ hedit (some 60)⟩

end CollabEditor.Backend
