import Mathlib.Data.Bool.Basic
import CollabEditor.Backend.LockRows

/-! # Two lock transactions at a time

A lock row has no version. A transaction reads it, and what it then writes is computed
from what it has read, whether or not the row has changed since. Under READ COMMITTED
the other transaction is seen as soon as it has committed.
-/

namespace CollabEditor.Backend

open Foundation Database

/-- The transactions of `LockService` on a document. -/
inductive LockCall
  | acquireLock (user : User) (ttl : Option Duration) (requestedType : Option LockType)
  | switchExclusiveToCollaborative (user : User) (ttl : Option Duration)
  | releaseLock (user : User)
  | refreshLock (user : User) (ttl : Option Duration)
  | acquireCollaborativeLock
  | releaseCollaborativeLock
deriving DecidableEq, Repr

/-- A call with the instant of its `Instant.now()`. -/
structure LockTransaction where
  call : LockCall
  now : Instant
deriving DecidableEq, Repr

namespace LockTransaction

variable (transaction : LockTransaction) (db : Database) (document : DocumentId)

/-- The transaction as a whole, with the lock it returns, if any. -/
def run : Transaction (Option DocumentLock) :=
  match transaction.call with
  | .acquireLock user ttl requestedType =>
      (LockService.acquireLock db transaction.now document user ttl requestedType).map
        fun (saved, next) => (some saved, next)
  | .switchExclusiveToCollaborative user ttl =>
      (LockService.switchExclusiveToCollaborative db transaction.now document user ttl).map
        fun (saved, next) => (some saved, next)
  | .releaseLock user =>
      (LockService.releaseLock db transaction.now document user).map
        fun (_, next) => (none, next)
  | .refreshLock user ttl =>
      (LockService.refreshLock db transaction.now document user ttl).map
        fun (saved, next) => (some saved, next)
  | .acquireCollaborativeLock =>
      (LockService.acquireCollaborativeLock db transaction.now document).map
        fun (saved, next) => (some saved, next)
  | .releaseCollaborativeLock =>
      (LockService.releaseCollaborativeLock db transaction.now document).map
        fun (_, next) => (none, next)

end LockTransaction

/-- A transaction between its read and its write: the row it has read, the row it is
going to leave, and what it is going to return. -/
structure PendingLock where
  read : Option DocumentLock
  written : Option DocumentLock
  returned : Option DocumentLock
deriving DecidableEq, Repr

/-- The row is read, and the rest computed; `none` when an exception is thrown. -/
def LockTransaction.begin (transaction : LockTransaction) (db : Database)
    (document : DocumentId) : Option PendingLock :=
  match transaction.run db document with
  | .error _ => none
  | .ok (returned, next) =>
      some ⟨db.documentLocks document, next.documentLocks document, returned⟩

/-- The statements at the end. An insert needs the key to be free, an update or a delete
needs the row to be there. An expired row is replaced by a delete and an insert; for an
unexpired one that keeps all its columns there is no statement. -/
def PendingLock.write (pending : PendingLock) (now : Instant) (db : Database)
    (document : DocumentId) : Option Database :=
  match pending.read, pending.written with
  | none, none => some db
  | none, some lock =>
      if (db.documentLocks document).isNone then some (db.setLock document (some lock)) else none
  | some read, written =>
      if read.isExpired now = false ∧ written = some read then some db
      else if (db.documentLocks document).isSome then some (db.setLock document written) else none

inductive LockPhase
  | waiting
  | pending (pending : PendingLock)
  | committed (returned : Option DocumentLock)
  | failed
deriving DecidableEq, Repr

/-- What a committed transaction has returned. -/
def LockPhase.result : LockPhase → Option (Option DocumentLock)
  | .committed returned => some returned
  | _ => none

/-- The database and the two transactions. -/
structure LockRace where
  db : Database
  phase : Bool → LockPhase

namespace LockRace

inductive Event
  | begin (side : Bool)
  | write (side : Bool)
  /-- The database ends the transaction, for example when a statement has waited for
  the other one and then finds no row. -/
  | abort (side : Bool)
deriving DecidableEq, Repr

variable (transactions : Bool → LockTransaction) (document : DocumentId) (race : LockRace)

def setPhase (side : Bool) (phase : LockPhase) : LockRace :=
  { race with phase := Function.update race.phase side phase }

def step : Event → Option LockRace
  | .begin side =>
      match race.phase side with
      | .waiting =>
          some <| race.setPhase side
            (((transactions side).begin race.db document).elim .failed .pending)
      | _ => none
  | .write side =>
      match race.phase side with
      | .pending pending =>
          match pending.write (transactions side).now race.db document with
          | none => some (race.setPhase side .failed)
          | some next =>
              some ({ race with db := next }.setPhase side (.committed pending.returned))
      | _ => none
  | .abort side =>
      match race.phase side with
      | .pending _ => some (race.setPhase side .failed)
      | _ => none

/-- Both transactions start on the database. -/
def system (db : Database) : TransitionSystem LockRace Event where
  init race := race = ⟨db, fun _ => .waiting⟩
  step := step transactions document

/-- The transactions that have committed could have run one after the other. -/
inductive Serialisable (db : Database) : Prop
  | none (hnone : ∀ side, (race.phase side).result = none) (hdb : race.db = db)
  | one (side : Bool) (returned : Option DocumentLock)
      (hreturned : (race.phase side).result = some returned)
      (hother : (race.phase !side).result = .none)
      (hrun : (transactions side).run db document = .ok (returned, race.db))
  | both (side : Bool) (first second : Option DocumentLock) (next : Database)
      (hfirst : (race.phase side).result = some first)
      (hsecond : (race.phase !side).result = some second)
      (hrun : (transactions side).run db document = .ok (first, next))
      (hrest : (transactions !side).run next document = .ok (second, race.db))

end LockRace

/-! ## When a stale write is no harm -/

/-- The columns that an extension writes back. -/
structure DocumentLock.SameLease (read current : DocumentLock) : Prop where
  lockType : current.lockType = read.lockType
  lockedByUser : current.lockedByUser = read.lockedByUser
  lockedAt : current.lockedAt = read.lockedAt

instance (read current : DocumentLock) : Decidable (read.SameLease current) :=
  decidable_of_iff (current.lockType = read.lockType ∧
    current.lockedByUser = read.lockedByUser ∧ current.lockedAt = read.lockedAt)
    ⟨fun h => ⟨h.1, h.2.1, h.2.2⟩, fun h => ⟨h.lockType, h.lockedByUser, h.lockedAt⟩⟩

/-- The row the holder asked to share has already become a shared one. -/
structure DocumentLock.SharedSince (read current : DocumentLock) : Prop where
  exclusive : read.lockType = .exclusive
  collaborative : current.lockType = .collaborative
  lockedByUser : current.lockedByUser = none
  lockedAt : current.lockedAt = read.lockedAt

instance (read current : DocumentLock) : Decidable (read.SharedSince current) :=
  decidable_of_iff (read.lockType = .exclusive ∧ current.lockType = .collaborative ∧
    current.lockedByUser = none ∧ current.lockedAt = read.lockedAt)
    ⟨fun h => ⟨h.1, h.2.1, h.2.2.1, h.2.2.2⟩,
      fun h => ⟨h.exclusive, h.collaborative, h.lockedByUser, h.lockedAt⟩⟩

/-- The call may overwrite the current row with what it has made of the one it read:
a worker may delete any row, a user one that has expired or that there is a permission
for; an unexpired row must still have the columns that are written back, and a row that
had expired must be an expired one still. -/
def LockCall.Allows (now : Instant) (permitted : User → Bool) (read current : DocumentLock) :
    LockCall → Prop
  | .releaseCollaborativeLock => True
  | .releaseLock user => permitted user = true ∨ current.isExpired now = true
  | .acquireLock _ _ requestedType => current.isExpired now = read.isExpired now ∧
      (read.isExpired now = false → read.SameLease current ∨
        requestedType = some .collaborative ∧ read.SharedSince current)
  | .refreshLock _ _ => current.isExpired now = read.isExpired now ∧
      current.lockType = read.lockType ∧ (read.isExpired now = false → read.SameLease current)
  | .switchExclusiveToCollaborative _ _ | .acquireCollaborativeLock =>
      current.isExpired now = read.isExpired now ∧
        (read.isExpired now = false → read.SameLease current)

instance (now : Instant) (permitted : User → Bool) (read current : DocumentLock) :
    (call : LockCall) → Decidable (call.Allows now permitted read current)
  | .releaseCollaborativeLock => .isTrue trivial
  | .releaseLock user =>
      inferInstanceAs (Decidable (permitted user = true ∨ current.isExpired now = true))
  | .acquireLock _ _ requestedType =>
      inferInstanceAs (Decidable (current.isExpired now = read.isExpired now ∧
        (read.isExpired now = false → read.SameLease current ∨
          requestedType = some .collaborative ∧ read.SharedSince current)))
  | .refreshLock _ _ =>
      inferInstanceAs (Decidable (current.isExpired now = read.isExpired now ∧
        current.lockType = read.lockType ∧ (read.isExpired now = false → read.SameLease current)))
  | .switchExclusiveToCollaborative _ _ | .acquireCollaborativeLock =>
      inferInstanceAs (Decidable (current.isExpired now = read.isExpired now ∧
        (read.isExpired now = false → read.SameLease current)))

namespace LockService

variable (db : Database) (now : Instant) {document : DocumentId} {read current : DocumentLock}

theorem deleteLock_setLock (row : Option DocumentLock) :
    (db.setLock document row).deleteLock document = db.deleteLock document := by
  simp [deleteLock_eq]

/-- The same columns are written back. -/
theorem extendLock_setLock (hlease : read.SameLease current) (row : Option DocumentLock)
    (ttl : Duration) : extendLock (db.setLock document row) now document current ttl =
      extendLock db now document read ttl := by
  have hsaved : ∀ expiresAt : Instant,
      ({ current with expiresAt := some expiresAt } : DocumentLock) =
        { read with expiresAt := some expiresAt } := by
    intro expiresAt
    rw [hlease.lockType, hlease.lockedByUser, hlease.lockedAt]
  unfold extendLock
  simp only [hsaved]
  have hupdate : ∀ lock, (db.setLock document row).updateLock document lock =
      db.updateLock document lock := by
    intro lock
    exact db.setLock_setLock document row (some lock)
  simp only [hupdate]

theorem makeCollaborative_setLock (hlease : read.SameLease current) (row : Option DocumentLock)
    (ttl : Duration) : makeCollaborative (db.setLock document row) now document current ttl =
      makeCollaborative db now document read ttl := by
  apply extendLock_setLock
  exact ⟨rfl, rfl, hlease.lockedAt⟩

/-- A shared row is extended as the exclusive one would have been shared. -/
theorem extendLock_setLock_shared (hshared : read.SharedSince current)
    (row : Option DocumentLock) (ttl : Duration) :
    extendLock (db.setLock document row) now document current ttl =
      makeCollaborative db now document read ttl := by
  apply extendLock_setLock
  exact ⟨hshared.collaborative, hshared.lockedByUser, hshared.lockedAt⟩

theorem isHeldBy_of_sameLease (hlease : read.SameLease current) (user : User) :
    current.isHeldBy user = read.isHeldBy user := by
  unfold DocumentLock.isHeldBy
  rw [hlease.lockedByUser]

/-! Begun on a row that it may overwrite, an operation does what it did on the row it has
read. -/

variable {db now} {next : Database} {lock : DocumentLock} {permitted : User → Bool}

theorem current_documentLocks :
    (db.setLock document (some current)).documentLocks document = some current := by
  simp

theorem acquireLock_setLock {user : User} {ttl : Option Duration}
    {requestedType : Option LockType} (hread : db.documentLocks document = some read)
    (hok : acquireLock db now document user ttl requestedType = .ok (lock, next))
    (hallows : (LockCall.acquireLock user ttl requestedType).Allows now permitted read current) :
    acquireLock (db.setLock document (some current)) now document user ttl requestedType =
      .ok (lock, next) := by
  obtain ⟨hexpired, hlease⟩ := hallows
  rw [← hok]
  unfold acquireLock
  rw [current_documentLocks, hread]
  dsimp only
  rw [hexpired, deleteLock_setLock]
  cases hlive : read.isExpired now with
  | true => rfl
  | false =>
      simp only [Bool.false_eq_true, if_false]
      unfold handleLockRequest
      rcases hlease hlive with hsame | ⟨hrequested, hshared⟩
      · rw [hsame.lockType, isHeldBy_of_sameLease hsame, extendLock_setLock db now hsame,
          makeCollaborative_setLock db now hsame]
      · subst hrequested
        have hheld : read.isHeldBy user = true := by
          cases hother : read.isHeldBy user with
          | true => rfl
          | false =>
              simp [acquireLock, handleLockRequest, hread, hlive, hshared.exclusive,
                hother] at hok
        simp [hshared.exclusive, hshared.collaborative, hheld,
          extendLock_setLock_shared db now hshared]

theorem switchExclusiveToCollaborative_setLock {user : User} {ttl : Option Duration}
    (hread : db.documentLocks document = some read)
    (hok : switchExclusiveToCollaborative db now document user ttl = .ok (lock, next))
    (hallows : (LockCall.switchExclusiveToCollaborative user ttl).Allows now permitted read
      current) :
    switchExclusiveToCollaborative (db.setLock document (some current)) now document user ttl =
      .ok (lock, next) := by
  obtain ⟨hexpired, hlease⟩ := hallows
  rw [← hok]
  unfold switchExclusiveToCollaborative
  rw [current_documentLocks, hread]
  dsimp only
  rw [hexpired]
  cases hlive : read.isExpired now with
  | true => rfl
  | false =>
      have hsame := hlease hlive
      rw [hsame.lockType, isHeldBy_of_sameLease hsame, makeCollaborative_setLock db now hsame]

theorem releaseLock_setLock {user : User} (hread : db.documentLocks document = some read)
    (hok : releaseLock db now document user = .ok ((), next))
    (hallows : (LockCall.releaseLock user).Allows now
      (fun user => db.existsPermission document user.id) read current) :
    releaseLock (db.setLock document (some current)) now document user = .ok ((), next) := by
  have hpermission : (db.setLock document (some current)).existsPermission document user.id =
      db.existsPermission document user.id := rfl
  have hnext : next = db.deleteLock document := by
    unfold releaseLock at hok
    rw [hread] at hok
    dsimp only at hok
    split at hok
    next =>
      cases hok
      rfl
    next =>
      split at hok
      next => cases hok
      next =>
        cases hok
        rfl
  unfold releaseLock
  rw [current_documentLocks, hpermission, hnext]
  dsimp only
  rw [deleteLock_setLock]
  rcases hallows with hpermitted | hexpired
  · simp [show db.existsPermission document user.id = true from hpermitted]
  · simp [hexpired]

theorem refreshLock_setLock {user : User} {ttl : Option Duration}
    (hread : db.documentLocks document = some read)
    (hok : refreshLock db now document user ttl = .ok (lock, next))
    (hallows : (LockCall.refreshLock user ttl).Allows now permitted read current) :
    refreshLock (db.setLock document (some current)) now document user ttl =
      .ok (lock, next) := by
  obtain ⟨hexpired, htype, hlease⟩ := hallows
  have hpermission : (db.setLock document (some current)).existsPermission document user.id =
      db.existsPermission document user.id := rfl
  rw [← hok]
  unfold refreshLock
  rw [current_documentLocks, hread]
  dsimp only
  rw [hexpired, htype, hpermission, deleteLock_setLock]
  cases hlive : read.isExpired now with
  | true => rfl
  | false =>
      have hsame := hlease hlive
      rw [isHeldBy_of_sameLease hsame, extendLock_setLock db now hsame]

theorem acquireCollaborativeLock_setLock (hread : db.documentLocks document = some read)
    (hok : acquireCollaborativeLock db now document = .ok (lock, next))
    (hallows : LockCall.acquireCollaborativeLock.Allows now permitted read current) :
    acquireCollaborativeLock (db.setLock document (some current)) now document =
      .ok (lock, next) := by
  obtain ⟨hexpired, hlease⟩ := hallows
  rw [← hok]
  unfold acquireCollaborativeLock
  rw [current_documentLocks, hread]
  dsimp only
  rw [hexpired, deleteLock_setLock]
  cases hlive : read.isExpired now with
  | true => rfl
  | false =>
      have hsame := hlease hlive
      rw [hsame.lockType, extendLock_setLock db now hsame]

/-- A lock operation of a worker leaves a lock row and nothing else. -/
theorem acquireCollaborativeLock_leaves_row
    (hok : acquireCollaborativeLock db now document = .ok (lock, next)) :
    ∃ row, next = db.setLock document row := by
  have heffect := acquireCollaborativeLock_ok hok
  generalize hoperation : WorkerOperation.acquireCollaborativeLock document = operation
    at heffect
  cases heffect with
  | acquireNew lock _ _ _ _ =>
      cases hoperation
      exact ⟨some lock, rfl⟩
  | acquireExtend old lock _ _ _ _ _ =>
      cases hoperation
      exact ⟨some lock, rfl⟩
  | _ => cases hoperation

end LockService

namespace LockTransaction

variable {transaction : LockTransaction} {db next : Database} {document : DocumentId}
variable {returned : Option DocumentLock}

/-- Behind the outcome of a transaction is that of its operation. -/
theorem of_map_eq_ok {α : Type} {outcome : Except ServiceError (α × Database)}
    (wrap : α → Option DocumentLock)
    (hok : outcome.map (fun result => (wrap result.1, result.2)) = .ok (returned, next)) :
    ∃ value, outcome = .ok (value, next) ∧ wrap value = returned := by
  cases outcome with
  | error error => cases hok
  | ok result =>
      cases hok
      exact ⟨result.1, rfl, rfl⟩

/-- A transaction leaves a lock row and nothing else. -/
theorem run_setLock (hrun : transaction.run db document = .ok (returned, next)) :
    next = db.setLock document (next.documentLocks document) := by
  suffices hrow : ∃ row, next = db.setLock document row by
    obtain ⟨row, hnext⟩ := hrow
    rw [hnext]
    simp
  unfold run at hrun
  split at hrun
  next =>
    obtain ⟨saved, hok, -⟩ := of_map_eq_ok some hrun
    obtain ⟨row, -, hnext⟩ := LockService.acquireLock_effect hok
    exact ⟨row, hnext⟩
  next =>
    obtain ⟨saved, hok, -⟩ := of_map_eq_ok some hrun
    obtain ⟨row, -, hnext⟩ := LockService.switchExclusiveToCollaborative_effect hok
    exact ⟨row, hnext⟩
  next =>
    obtain ⟨saved, hok, -⟩ := of_map_eq_ok (fun _ => none) hrun
    obtain ⟨row, -, hnext⟩ := LockService.releaseLock_effect hok
    exact ⟨row, hnext⟩
  next =>
    obtain ⟨saved, hok, -⟩ := of_map_eq_ok some hrun
    obtain ⟨row, -, hnext⟩ := LockService.refreshLock_effect hok
    exact ⟨row, hnext⟩
  next =>
    obtain ⟨saved, hok, -⟩ := of_map_eq_ok some hrun
    exact LockService.acquireCollaborativeLock_leaves_row hok
  next =>
    obtain ⟨saved, hok, -⟩ := of_map_eq_ok (fun _ => none) hrun
    rw [LockService.releaseCollaborativeLock_eq] at hok
    cases hok
    exact ⟨none, rfl⟩

/-- Begun on a row that it may overwrite, the transaction does what it did on the row it
has read. -/
theorem run_of_allows {read current : DocumentLock}
    (hread : db.documentLocks document = some read)
    (hok : transaction.run db document = .ok (returned, next))
    (hallows : transaction.call.Allows transaction.now
      (fun user => db.existsPermission document user.id) read current) :
    transaction.run (db.setLock document (some current)) document = .ok (returned, next) := by
  obtain ⟨call, now⟩ := transaction
  cases call with
  | acquireLock user ttl requestedType =>
      obtain ⟨lock, hlock, rfl⟩ := of_map_eq_ok some hok
      simp only [run, LockService.acquireLock_setLock hread hlock hallows]
      rfl
  | switchExclusiveToCollaborative user ttl =>
      obtain ⟨lock, hlock, rfl⟩ := of_map_eq_ok some hok
      simp only [run, LockService.switchExclusiveToCollaborative_setLock hread hlock hallows]
      rfl
  | releaseLock user =>
      obtain ⟨value, hlock, rfl⟩ := of_map_eq_ok (fun _ => none) hok
      simp only [run, LockService.releaseLock_setLock hread hlock hallows]
      rfl
  | refreshLock user ttl =>
      obtain ⟨lock, hlock, rfl⟩ := of_map_eq_ok some hok
      simp only [run, LockService.refreshLock_setLock hread hlock hallows]
      rfl
  | acquireCollaborativeLock =>
      obtain ⟨lock, hlock, rfl⟩ := of_map_eq_ok some hok
      simp only [run, LockService.acquireCollaborativeLock_setLock hread hlock hallows]
      rfl
  | releaseCollaborativeLock =>
      rw [← hok]
      simp only [run, LockService.releaseCollaborativeLock_eq, setLock_setLock]

/-- What is pending is the transaction run on the database it has read. -/
theorem begin_eq_some {pending : PendingLock}
    (hbegin : transaction.begin db document = some pending) :
    pending.read = db.documentLocks document ∧
      transaction.run db document =
        .ok (pending.returned, db.setLock document pending.written) := by
  unfold LockTransaction.begin at hbegin
  split at hbegin
  next => cases hbegin
  next returned next hrun =>
    cases hbegin
    refine ⟨rfl, ?_⟩
    rw [hrun, ← run_setLock hrun]

end LockTransaction

namespace PendingLock

variable {pending : PendingLock} {transaction : LockTransaction}
variable {now : Instant} {db next : Database} {document : DocumentId}

/-- A write leaves the row that is pending, unless that is the row that was read. It fails
unless the row is there exactly when one has been read. -/
theorem write_eq_some (hwrite : pending.write now db document = some next) :
    pending.written = pending.read ∧ next = db ∨
      (pending.read = none ↔ db.documentLocks document = none) ∧
        next = db.setLock document pending.written := by
  unfold write at hwrite
  split at hwrite
  next hread hwritten =>
    cases hwrite
    exact .inl ⟨hwritten.trans hread.symm, rfl⟩
  next lock hread hwritten =>
    split at hwrite
    next hfree =>
      cases hwrite
      exact .inr ⟨iff_of_true hread (Option.isNone_iff_eq_none.mp hfree), by rw [hwritten]⟩
    next => cases hwrite
  next read written hread =>
    split at hwrite
    next hsame =>
      cases hwrite
      exact .inl ⟨hsame.2.trans hread.symm, rfl⟩
    next =>
      split at hwrite
      next hthere =>
        cases hwrite
        refine .inr ⟨iff_of_false ?_ (Option.isSome_iff_ne_none.mp hthere), rfl⟩
        rw [hread]
        nofun
      next => cases hwrite

/-- Nothing has come between the read and the write. -/
theorem run_of_write (hbegin : transaction.begin db document = some pending)
    (hwrite : pending.write now db document = some next) :
    transaction.run db document = .ok (pending.returned, next) := by
  obtain ⟨hread, hrun⟩ := LockTransaction.begin_eq_some hbegin
  rcases write_eq_some hwrite with ⟨hwritten, rfl⟩ | ⟨-, rfl⟩
  · rw [hrun, hwritten, hread, setLock_self]
  · exact hrun

/-- The row is as it was read, or may be overwritten all the same. -/
def Undisturbed (pending : PendingLock) (transaction : LockTransaction) (db : Database)
    (document : DocumentId) : Prop :=
  match pending.read, db.documentLocks document with
  | some read, some current => read = current ∨ transaction.call.Allows transaction.now
      (fun user => db.existsPermission document user.id) read current
  | _, _ => True

instance : Decidable (pending.Undisturbed transaction db document) := by
  unfold Undisturbed
  split <;> infer_instance

/-- A row has come between the read and the write. The transaction does after it what it
would have done before, or it leaves the row alone and may as well have come first. -/
theorem run_of_stale_write {row : Option DocumentLock}
    (hbegin : transaction.begin db document = some pending)
    (hundisturbed : pending.Undisturbed transaction (db.setLock document row) document)
    (hwrite : pending.write now (db.setLock document row) document = some next) :
    transaction.run (db.setLock document row) document = .ok (pending.returned, next) ∨
      transaction.run db document = .ok (pending.returned, db) ∧
        next = db.setLock document row := by
  obtain ⟨hread, hrun⟩ := LockTransaction.begin_eq_some hbegin
  rcases write_eq_some hwrite with ⟨hwritten, rfl⟩ | ⟨hrows, rfl⟩
  · right
    refine ⟨?_, rfl⟩
    rw [hrun, hwritten, hread, setLock_self]
  · left
    have hsame : pending.read = row → db.setLock document row = db := by
      intro heq
      rw [← heq, hread, setLock_self]
    rw [setLock_setLock]
    rw [setLock_documentLocks, Function.update_self] at hrows
    cases row with
    | none =>
        rw [hsame (hrows.mpr rfl)]
        exact hrun
    | some current =>
        cases hpending : pending.read with
        | none => cases hrows.mp hpending
        | some read =>
            unfold Undisturbed at hundisturbed
            rw [hpending, setLock_documentLocks, Function.update_self] at hundisturbed
            rcases hundisturbed with heq | hallows
            · rw [hsame (by rw [hpending, heq])]
              exact hrun
            · apply LockTransaction.run_of_allows (hread.symm.trans hpending) hrun hallows

end PendingLock

/-! ## The order of the transactions -/

namespace LockPhase

/-- The transaction has not committed. If it is pending, it has begun on one of the
databases. -/
def BegunOn (phase : LockPhase) (transaction : LockTransaction) (document : DocumentId)
    (source : Database → Prop) : Prop :=
  match phase with
  | .waiting | .failed => True
  | .pending held => ∃ db, source db ∧ transaction.begin db document = some held
  | .committed _ => False

variable {phase : LockPhase} {transaction : LockTransaction} {document : DocumentId}
variable {source larger : Database → Prop}

theorem BegunOn.mono (hbegun : phase.BegunOn transaction document source)
    (hle : ∀ db, source db → larger db) : phase.BegunOn transaction document larger := by
  cases phase with
  | waiting | failed => trivial
  | pending held =>
      obtain ⟨db, hdb, hbegin⟩ := hbegun
      exact ⟨db, hle db hdb, hbegin⟩
  | committed => exact hbegun

theorem BegunOn.result (hbegun : phase.BegunOn transaction document source) :
    phase.result = none := by
  cases phase with
  | waiting | failed | pending => rfl
  | committed => exact hbegun.elim

/-- A transaction begins on the database it finds. -/
theorem begunOn_begin {db : Database} (hdb : source db) :
    ((transaction.begin db document).elim .failed .pending : LockPhase).BegunOn transaction
      document source := by
  cases hbegin : transaction.begin db document with
  | none => trivial
  | some held => exact ⟨db, hdb, hbegin⟩

end LockPhase

namespace LockRace

variable {transactions : Bool → LockTransaction} {document : DocumentId}
variable {race next : LockRace} {db : Database}

@[simp] theorem setPhase_db (side : Bool) (phase : LockPhase) :
    (race.setPhase side phase).db = race.db := rfl

@[simp] theorem setPhase_self (side : Bool) (phase : LockPhase) :
    (race.setPhase side phase).phase side = phase :=
  Function.update_self ..

@[simp] theorem setPhase_not (side : Bool) (phase : LockPhase) :
    (race.setPhase side phase).phase (!side) = race.phase !side :=
  Function.update_of_ne (Bool.not_ne_self side) ..

@[simp] theorem setPhase_not_self (side : Bool) (phase : LockPhase) :
    (race.setPhase (!side) phase).phase side = race.phase side :=
  Function.update_of_ne (Bool.not_ne_self side).symm ..

/-- What has committed and where the pending transactions have begun. -/
inductive Ordered (transactions : Bool → LockTransaction) (document : DocumentId)
    (db : Database) (race : LockRace) : Prop
  | none (hdb : race.db = db)
      (hbegun : ∀ side, (race.phase side).BegunOn (transactions side) document (· = db))
  | one (side : Bool) (returned : Option DocumentLock)
      (hphase : race.phase side = .committed returned)
      (hrun : (transactions side).run db document = .ok (returned, race.db))
      (hbegun : (race.phase !side).BegunOn (transactions !side) document
        fun source => source = db ∨ source = race.db)
  | both (side : Bool) (first second : Option DocumentLock) (middle : Database)
      (hfirst : race.phase side = .committed first)
      (hsecond : race.phase (!side) = .committed second)
      (hrun : (transactions side).run db document = .ok (first, middle))
      (hrest : (transactions !side).run middle document = .ok (second, race.db))

theorem Ordered.serialisable (hordered : Ordered transactions document db race) :
    race.Serialisable transactions document db := by
  cases hordered with
  | none hdb hbegun => exact .none (fun side => (hbegun side).result) hdb
  | one side returned hphase hrun hbegun =>
      refine .one side returned ?_ hbegun.result hrun
      rw [hphase, LockPhase.result]
  | both side first second middle hfirst hsecond hrun hrest =>
      refine .both side first second middle ?_ ?_ hrun hrest
      · rw [hfirst, LockPhase.result]
      · rw [hsecond, LockPhase.result]

/-- A transaction that writes finds the row it has read, or one that it may overwrite. -/
def Undisturbed (transactions : Bool → LockTransaction) (document : DocumentId)
    (race : LockRace) : Event → Prop
  | .write side =>
      match race.phase side with
      | .pending pending => pending.Undisturbed (transactions side) race.db document
      | _ => True
  | .begin _ | .abort _ => True

instance : (event : Event) → Decidable (Undisturbed transactions document race event)
  | .write side => by
      unfold Undisturbed
      dsimp only
      split <;> infer_instance
  | .begin _ | .abort _ => .isTrue trivial

/-- A phase that is not the end of a commit takes the place of one that is not. -/
theorem Ordered.setPhase (hordered : Ordered transactions document db race) (side : Bool)
    {phase : LockPhase} (hopen : (race.phase side).result = Option.none)
    (hbegun : ∀ source : Database → Prop, source race.db →
      phase.BegunOn (transactions side) document source) :
    Ordered transactions document db (race.setPhase side phase) := by
  cases hordered with
  | none hdb hall =>
      refine .none hdb fun other => ?_
      by_cases heq : other = side
      · subst heq
        rw [setPhase_self]
        exact hbegun _ hdb
      · obtain rfl := Bool.eq_not_of_ne heq
        rw [setPhase_not]
        exact hall _
  | one committed returned hphase hrun hother =>
      by_cases heq : committed = side
      · subst heq
        rw [hphase] at hopen
        cases hopen
      · obtain rfl := Bool.eq_not_of_ne (Ne.symm heq)
        refine .one committed returned ?_ hrun ?_
        · rw [setPhase_not_self]
          exact hphase
        · rw [setPhase_self]
          exact hbegun _ (.inr rfl)
  | both committed first second middle hfirst hsecond hrun hrest =>
      by_cases heq : committed = side
      · subst heq
        rw [hfirst] at hopen
        cases hopen
      · obtain rfl := Bool.eq_not_of_ne (Ne.symm heq)
        rw [hsecond] at hopen
        cases hopen

/-- A commit takes its place before or after the one that there is. -/
theorem Ordered.commit (hordered : Ordered transactions document db race) {side : Bool}
    {pending : PendingLock} {after : Database} (hphase : race.phase side = .pending pending)
    (hundisturbed : pending.Undisturbed (transactions side) race.db document)
    (hwrite : pending.write (transactions side).now race.db document = some after) :
    Ordered transactions document db
      ({ race with db := after }.setPhase side (.committed pending.returned)) := by
  cases hordered with
  | none hdb hall =>
      have hbegun := hall side
      rw [hphase] at hbegun
      obtain ⟨source, rfl, hbegin⟩ := hbegun
      rw [hdb] at hwrite
      refine .one side pending.returned (setPhase_self ..)
        (PendingLock.run_of_write hbegin hwrite) ?_
      rw [setPhase_not]
      exact (hall !side).mono fun _ => .inl
  | one committed returned hcommitted hrun hbegun =>
      have hne : side ≠ committed := by
        intro heq
        rw [heq, hcommitted] at hphase
        cases hphase
      obtain rfl := Bool.eq_not_of_ne hne
      rw [hphase] at hbegun
      obtain ⟨source, hsource, hbegin⟩ := hbegun
      have hlater : (transactions !committed).run race.db document =
          .ok (pending.returned, after) →
          Ordered transactions document db
            ({ race with db := after }.setPhase (!committed) (.committed pending.returned)) := by
        intro hrest
        refine .both committed returned pending.returned race.db ?_ (setPhase_self ..) hrun hrest
        rw [setPhase_not_self]
        exact hcommitted
      rcases hsource with rfl | rfl
      · have hrow := LockTransaction.run_setLock hrun
        rw [hrow] at hundisturbed hwrite
        rcases PendingLock.run_of_stale_write hbegin hundisturbed hwrite with
          hrest | ⟨hfirst, hafter⟩
        · rw [← hrow] at hrest
          exact hlater hrest
        · rw [← hrow] at hafter
          refine .both (!committed) pending.returned returned source (setPhase_self ..) ?_ hfirst ?_
          · rw [Bool.not_not, setPhase_not_self]
            exact hcommitted
          · rw [Bool.not_not, setPhase_db, hafter]
            exact hrun
      · exact hlater (PendingLock.run_of_write hbegin hwrite)
  | both committed first second middle hfirst hsecond hrun hrest =>
      by_cases heq : side = committed
      · rw [heq, hfirst] at hphase
        cases hphase
      · obtain rfl := Bool.eq_not_of_ne heq
        rw [hsecond] at hphase
        cases hphase

theorem Ordered.step {event : Event} (hordered : Ordered transactions document db race)
    (hundisturbed : Undisturbed transactions document race event)
    (hstep : race.step transactions document event = some next) :
    Ordered transactions document db next := by
  cases event with
  | begin side =>
      simp only [LockRace.step] at hstep
      split at hstep
      next hphase =>
        cases hstep
        apply hordered.setPhase side
        · simp [hphase, LockPhase.result]
        · intro source hsource
          apply LockPhase.begunOn_begin hsource
      next => cases hstep
  | write side =>
      simp only [LockRace.step] at hstep
      split at hstep
      next pending hphase =>
        split at hstep
        next =>
          cases hstep
          apply hordered.setPhase side
          · simp [hphase, LockPhase.result]
          · intro source hsource
            trivial
        next after hwrite =>
          cases hstep
          simp only [Undisturbed, hphase] at hundisturbed
          exact hordered.commit hphase hundisturbed hwrite
      next => cases hstep
  | abort side =>
      simp only [LockRace.step] at hstep
      split at hstep
      next pending hphase =>
        cases hstep
        apply hordered.setPhase side
        · simp [hphase, LockPhase.result]
        · intro source hsource
          trivial
      next => cases hstep

/-- Two lock transactions are serialisable when neither overwrites a row that has changed
under it to something it could not have been given. -/
theorem reachable_serialisable (transactions : Bool → LockTransaction) (document : DocumentId)
    (db : Database) (race : LockRace)
    (hreach : (system transactions document db).ReachableUnder
      (Undisturbed transactions document) race) :
    race.Serialisable transactions document db := by
  apply Ordered.serialisable
  induction hreach with
  | init hinit =>
      cases hinit
      exact .none rfl fun _ => trivial
  | step _ hguard hstep ih => exact ih.step hguard hstep

/-- The holder extends its row and switches it, and the switch, written last, has read the
row before the extension. -/
theorem reachable_serialisable_switch :
    ∃ transactions db race, (system transactions 1 db).ReachableUnder
        (Undisturbed transactions 1) race ∧
      ((∀ side, (race.phase side).result.isSome) ∧ (race.db.documentLocks 1).any fun lock =>
        lock.lockType = .collaborative) ∧
      race.Serialisable transactions 1 db := by
  let owner : User := ⟨1, "owner"⟩
  let transactions : Bool → LockTransaction
    | false => ⟨.refreshLock owner none, 1⟩
    | true => ⟨.switchExclusiveToCollaborative owner none, 1⟩
  let db := Database.empty.setLock 1 (some ⟨.exclusive, some owner, 0, some 2⟩)
  obtain ⟨race, hreach, hcheck⟩ := (system transactions 1 db).exists_reachable_of_exec
    (.init rfl : (system transactions 1 db).ReachableUnder (Undisturbed transactions 1) _)
    [.begin false, .begin true, .write false, .write true]
    (fun race => (∀ side, (race.phase side).result.isSome) ∧ (race.db.documentLocks 1).any
      fun lock => lock.lockType = .collaborative)
    (by decide +kernel)
  exact ⟨transactions, db, race, hreach, of_decide_eq_true hcheck,
    reachable_serialisable transactions 1 db race hreach⟩

/-- One transaction after the other, when both commit. -/
def inOrder (transactions : Bool → LockTransaction) (document : DocumentId) (db : Database)
    (side : Bool) : Option Database :=
  match (transactions side).run db document with
  | .error _ => none
  | .ok (_, next) =>
      match (transactions !side).run next document with
      | .error _ => none
      | .ok (_, last) => some last

theorem Serialisable.inOrder (hserialisable : race.Serialisable transactions document db)
    (hcommitted : ∀ side, (race.phase side).result.isSome) :
    ∃ side, inOrder transactions document db side = some race.db := by
  cases hserialisable with
  | none hnone hdb =>
      have hfalse := hcommitted false
      rw [hnone] at hfalse
      cases hfalse
  | one side returned hreturned hother hrun =>
      have hnot := hcommitted !side
      rw [hother] at hnot
      cases hnot
  | both side first second next hfirst hsecond hrun hrest =>
      refine ⟨side, ?_⟩
      unfold LockRace.inOrder
      rw [hrun]
      dsimp only
      rw [hrest]

/-- The holder extends its row and switches it, and the extension is written last: it has
read the exclusive row, and makes the shared one exclusive again. -/
theorem stale_refresh_undoes_switch :
    ¬ ∀ (state : State), Backend.system.Reachable state →
      ∀ (transactions : Bool → LockTransaction) (document : DocumentId) (race : LockRace),
        (system transactions document state.db).Reachable race →
          race.Serialisable transactions document state.db := by
  intro hall
  let owner : User := ⟨1, "owner"⟩
  let transactions : Bool → LockTransaction
    | false => ⟨.refreshLock owner none, 1⟩
    | true => ⟨.switchExclusiveToCollaborative owner none, 1⟩
  let events : List Event := [.begin false, .begin true, .write true, .write false]
  let differs (state : State) (race : LockRace) : Bool :=
    (∀ side, (race.phase side).result.isSome) ∧
      ∀ side, (inOrder transactions 1 state.db side).all fun last =>
        last.documentLocks 1 ≠ race.db.documentLocks 1
  obtain ⟨state, hstate, hrun⟩ := Backend.system.exists_reachable_of_exec
    (.init ⟨rfl, by decide, by decide⟩ : Backend.system.Reachable ⟨Database.empty, 0⟩)
    [.user owner (.create (some "notes") none),
      .user owner (.acquireLock 1 (some "EXCLUSIVE") none)]
    (fun state => ((system transactions 1 state.db).exec (fun _ _ => True)
      ⟨state.db, fun _ => .waiting⟩ events).any (differs state)) (by decide +kernel)
  obtain ⟨race, hreach, hdiffers⟩ := (system transactions 1 state.db).exists_reachable_of_exec
    (.init rfl : (system transactions 1 state.db).Reachable ⟨state.db, fun _ => .waiting⟩)
    events (differs state) hrun
  obtain ⟨hcommitted, hlast⟩ := of_decide_eq_true hdiffers
  obtain ⟨side, horder⟩ := (hall state hstate transactions 1 race hreach).inOrder hcommitted
  have hne := hlast side
  rw [horder] at hne
  simp at hne

end LockRace

end CollabEditor.Backend
