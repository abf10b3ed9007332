import CollabEditor.Backend.Effects

/-! # Referential integrity of the reachable databases -/

namespace CollabEditor.Backend

open Foundation Database

/-- What the foreign keys and the services maintain between the tables. -/
structure Database.WellFormed (db : Database) : Prop where
  /-- A lock row references a document. -/
  lock_document : ∀ id lock, db.documentLocks id = some lock → (db.documents id).isSome
  /-- The owner of a document has a permission row for it. -/
  owner_permission : ∀ id doc, db.documents id = some doc →
    ∃ row ∈ db.documentPermissions,
      row.documentId = id ∧ row.user.id = doc.owner.id ∧ row.level = .owner
  /-- Identity values are not used twice. -/
  document_id : ∀ id, (db.documents id).isSome → id < db.nextDocumentId
  permission_id : ∀ row ∈ db.documentPermissions, row.documentId < db.nextDocumentId
  /-- The holder is recorded in exactly the exclusive rows, and every row expires. -/
  lock_holder : ∀ id lock, db.documentLocks id = some lock →
    (lock.lockedByUser.isSome ↔ lock.lockType = .exclusive)

theorem Database.empty_wellFormed : Database.empty.WellFormed where
  lock_document := by simp [Database.empty]
  owner_permission := by simp [Database.empty]
  document_id := by simp [Database.empty]
  permission_id := by simp [Database.empty]
  lock_holder := by simp [Database.empty]

/-- A changed row has the shape of a lock row when the old one had. -/
theorem LockChange.holder {now : Instant} {user : User} {before after : Option DocumentLock}
    (hchange : LockChange now user before after)
    (hbefore : ∀ lock, before = some lock →
      (lock.lockedByUser.isSome ↔ lock.lockType = .exclusive)) :
    ∀ lock, after = some lock → (lock.lockedByUser.isSome ↔ lock.lockType = .exclusive) := by
  intro lock hafter
  cases hchange with
  | keep => exact hbefore lock hafter
  | remove => cases hafter
  | create new hfree hholder =>
      cases hafter
      rw [hholder]
      split <;> simp_all
  | extend hlive hheld htype hholder =>
      cases hafter
      rw [htype, hholder]
      exact hbefore _ rfl
  | share hlive htype hheld hshared hholder =>
      cases hafter
      simp [hshared, hholder]

namespace Database.WellFormed

variable {db next : Database} {now : Instant}

/-- Writing a lock row of the right shape on an existing document. -/
theorem setLock (hdb : db.WellFormed) {id : DocumentId} {row : Option DocumentLock}
    (hdocument : row.isSome → (db.documents id).isSome)
    (hrow : ∀ lock, row = some lock → (lock.lockedByUser.isSome ↔ lock.lockType = .exclusive)) :
    (db.setLock id row).WellFormed where
  lock_document := by
    intro other lock hlock
    by_cases heq : other = id
    · subst heq
      rw [Database.setLock_documentLocks, Function.update_self] at hlock
      exact hdocument (by simp [hlock])
    · rw [Database.setLock_documentLocks, Function.update_of_ne heq] at hlock
      exact hdb.lock_document other lock hlock
  owner_permission := hdb.owner_permission
  document_id := hdb.document_id
  permission_id := hdb.permission_id
  lock_holder := by
    intro other lock hlock
    by_cases heq : other = id
    · subst heq
      rw [Database.setLock_documentLocks, Function.update_self] at hlock
      exact hrow lock hlock
    · rw [Database.setLock_documentLocks, Function.update_of_ne heq] at hlock
      exact hdb.lock_holder other lock hlock

/-- Rewriting a document that exists, under the same owner. -/
theorem updateDocument (hdb : db.WellFormed) {id : DocumentId} {doc written : Document}
    (hdoc : db.documents id = some doc) (howner : written.owner = doc.owner) :
    (db.updateDocument id written).WellFormed where
  lock_document := by
    intro other lock hlock
    by_cases heq : other = id
    · simp [heq]
    · simpa [heq] using hdb.lock_document other lock hlock
  owner_permission := by
    intro other found hfound
    by_cases heq : other = id
    · subst heq
      simp only [updateDocument_documents, Function.update_self, Option.some.injEq] at hfound
      subst hfound
      rw [howner]
      exact hdb.owner_permission other doc hdoc
    · rw [updateDocument_documents, Function.update_of_ne heq] at hfound
      exact hdb.owner_permission other found hfound
  document_id := by
    intro other hother
    by_cases heq : other = id
    · subst heq
      exact hdb.document_id other (by simp [hdoc])
    · rw [updateDocument_documents, Function.update_of_ne heq] at hother
      exact hdb.document_id other hother
  permission_id := hdb.permission_id
  lock_holder := hdb.lock_holder

theorem request (hdb : db.WellFormed) {user : User} {request : Request}
    (heffect : RequestEffect db now user request next) : next.WellFormed := by
  cases heffect with
  | unchanged htarget hdocuments hlocks hpermissions hid =>
      exact ⟨hdocuments ▸ hlocks ▸ hdb.lock_document,
        hdocuments ▸ hpermissions ▸ hdb.owner_permission, hdocuments ▸ hid ▸ hdb.document_id,
        hpermissions ▸ hid ▸ hdb.permission_id, hlocks ▸ hdb.lock_holder⟩
  | create doc howner hdocuments hlocks hpermissions hid =>
      refine ⟨?_, ?_, ?_, ?_, hlocks ▸ hdb.lock_holder⟩
      · intro id lock hlock
        rw [hlocks] at hlock
        rw [hdocuments]
        by_cases heq : id = (db.nextDocumentId : DocumentId)
        · simp [heq]
        · simpa [heq] using hdb.lock_document id lock hlock
      · intro id found hfound
        rw [hdocuments] at hfound
        rw [hpermissions]
        by_cases heq : id = (db.nextDocumentId : DocumentId)
        · subst heq
          rw [Function.update_self, Option.some.injEq] at hfound
          subst hfound
          exact ⟨_, List.mem_cons_self, rfl, by rw [howner], rfl⟩
        · rw [Function.update_of_ne heq] at hfound
          obtain ⟨row, hrow, hfacts⟩ := hdb.owner_permission id found hfound
          exact ⟨row, List.mem_cons_of_mem _ hrow, hfacts⟩
      · intro id hsome
        rw [hdocuments] at hsome
        by_cases heq : id = (db.nextDocumentId : DocumentId)
        · lia
        · rw [Function.update_of_ne heq] at hsome
          have := hdb.document_id id hsome
          lia
      · intro row hrow
        rw [hpermissions, List.mem_cons] at hrow
        rcases hrow with rfl | hrow
        · lia
        · have := hdb.permission_id row hrow
          lia
  | save doc lock hdoc => exact hdb.updateDocument hdoc (by simp)
  | lock htarget hdocument heffect =>
      obtain ⟨row, hchange, rfl⟩ := heffect
      exact hdb.setLock (fun _ => hdocument) (hchange.holder (hdb.lock_holder _))
  | @delete id _ doc hdoc howner hdocuments hlocks hpermissions hid =>
      refine ⟨?_, ?_, ?_, ?_, ?_⟩
      · intro other lock hlock
        rw [hlocks] at hlock
        rw [hdocuments]
        by_cases heq : other = id
        · simp [heq] at hlock
        · rw [Function.update_of_ne heq] at hlock ⊢
          exact hdb.lock_document other lock hlock
      · intro other found hfound
        rw [hdocuments] at hfound
        by_cases heq : other = id
        · simp [heq] at hfound
        · rw [Function.update_of_ne heq] at hfound
          obtain ⟨row, hrow, hfacts⟩ := hdb.owner_permission other found hfound
          exact ⟨row, by rw [hpermissions]; simp [hrow, hfacts.1, heq], hfacts⟩
      · intro other hsome
        rw [hdocuments] at hsome
        by_cases heq : other = id
        · simp [heq] at hsome
        · rw [Function.update_of_ne heq] at hsome
          exact hid ▸ hdb.document_id other hsome
      · intro row hrow
        rw [hpermissions] at hrow
        exact hid ▸ hdb.permission_id row (List.mem_filter.mp hrow).1
      · intro other lock hlock
        rw [hlocks] at hlock
        by_cases heq : other = id
        · simp [heq] at hlock
        · rw [Function.update_of_ne heq] at hlock
          exact hdb.lock_holder other lock hlock
  | grant row htarget hdocument hfresh hdocuments hlocks hpermissions hid =>
      refine ⟨hdocuments ▸ hlocks ▸ hdb.lock_document, ?_, hdocuments ▸ hid ▸ hdb.document_id,
        ?_, hlocks ▸ hdb.lock_holder⟩
      · intro id doc hdoc
        obtain ⟨found, hfound, hfacts⟩ := hdb.owner_permission id doc (hdocuments ▸ hdoc)
        exact ⟨found, hpermissions ▸ List.mem_cons_of_mem _ hfound, hfacts⟩
      · intro found hfound
        rw [hpermissions, List.mem_cons] at hfound
        rw [hid]
        rcases hfound with rfl | hfound
        · exact hdb.document_id _ hdocument
        · exact hdb.permission_id found hfound

theorem worker (hdb : db.WellFormed) {operation : WorkerOperation}
    (heffect : WorkerEffect db now operation next) : next.WellFormed := by
  cases heffect with
  | periodic doc expiresAt hdoc =>
      refine WellFormed.setLock (hdb.updateDocument hdoc ?_) (by simp) (by simp)
      rfl
  | @final id _ doc hdoc =>
      have hreleased : (db.setLock id none).WellFormed := hdb.setLock (by simp) (by simp)
      exact hreleased.updateDocument hdoc (by simp)
  | release id => exact hdb.setLock (by simp) (by simp)
  | acquireNew lock hdocument hfree htype hholder =>
      exact hdb.setLock (fun _ => hdocument) (by simp [htype, hholder])
  | acquireExtend old lock hold hlive hshared htype hholder =>
      refine hdb.setLock (fun _ => hdb.lock_document _ old hold) ?_
      intro found hfound
      cases hfound
      rw [htype, hholder]
      exact hdb.lock_holder _ old hold

end Database.WellFormed

/-- The clock of the system stays where the default ttl can be added to it. -/
def State.InRange (state : State) : Prop :=
  Instant.minValue ≤ state.now ∧ state.now ≤ clockLimit

theorem State.InRange.plus_ok {state : State} (hrange : state.InRange) :
    state.now.plus (.ofMinutes 5) = .ok (state.now + Duration.ofMinutes 5) := by
  obtain ⟨hlow, hhigh⟩ := hrange
  have hpositive : (0 : Int) ≤ Duration.ofMinutes 5 := by decide
  unfold clockLimit at hhigh
  exact Instant.plus_eq_ok_iff.mpr ⟨⟨by lia, by lia⟩, rfl⟩

theorem reachable_wellFormed {state : State} (hreach : system.Reachable state) :
    state.db.WellFormed ∧ state.InRange := by
  refine hreach.invariant system (fun state => state.db.WellFormed ∧ state.InRange) ?_ ?_
  · rintro state ⟨hdb, hlow, hhigh⟩
    exact ⟨hdb ▸ Database.empty_wellFormed, hlow, hhigh⟩
  · rintro state event next - ⟨hdb, hrange⟩ - hstep
    cases step_cases hstep with
    | request user request reply next hok =>
        exact ⟨hdb.request (Request.serve_effect hok), hrange⟩
    | operation operation next hok =>
        exact ⟨hdb.worker (WorkerOperation.serve_effect hok), hrange⟩
    | refuse | fail => exact ⟨hdb, hrange⟩
    | advance nanoseconds hlimit =>
        exact ⟨hdb, Int.le_trans hrange.1 (Int.le_add_of_nonneg_right (by simp)), hlimit⟩

end CollabEditor.Backend
