import CollabEditor.Backend.DocumentWorkerProxyService
import CollabEditor.Backend.Effects
import CollabEditor.Worker.Server
import CollabEditor.Worker.Sessions

/-! # What a session start leaves behind

A start has effects in two systems: the worker's session and the lock row. It is whole
if it succeeds with both, or fails with neither.
-/

namespace CollabEditor.Platform

open Foundation
open Worker
open Backend
open LockService (defaultLockTtl acquireCollaborativeLock extendLock createSystemCollaborativeLock)
open DocumentWorkerProxyService

variable {Doc Raw : Type}

/-- The worker's session state for a document: the registered runtime. -/
abbrev WorkerSession (Doc : Type) := Option (DocumentRuntime Doc)

/-- A runtime that has not been shut down is registered. -/
def Live (session : WorkerSession Doc) : Prop :=
  ∃ runtime, session = some runtime ∧ runtime.shutdownCompleted = false

/-- An unexpired collaborative row. -/
def CollaborativelyLocked (db : Database) (now : Instant) (documentId : DocumentId) : Prop :=
  ∃ lock, db.documentLocks documentId = some lock ∧ lock.lockType = .collaborative ∧
    lock.isExpired now = false

/-- A session start succeeds with a live session and the lock, or fails and leaves both as
they were. -/
def AllOrNothing (documentId : DocumentId) (now : Instant) (db : Database)
    (session : WorkerSession Doc)
    (result : Except ServiceError ResponseEntity × Database × WorkerSession Doc) : Prop :=
  (∃ response, result.1 = .ok response ∧ response.is2xxSuccessful = true ∧
    Live result.2.2 ∧ CollaborativelyLocked result.2.1 now documentId) ∨
  ((∀ response, result.1 = .ok response → response.is2xxSuccessful = false) ∧
    result.2.2 = session ∧ result.2.1.documentLocks documentId = db.documentLocks documentId)

/-- A collaborative lock can be taken: an unexpired row is collaborative already, and
without one the document exists. -/
def Lockable (db : Database) (now : Instant) (documentId : DocumentId) : Prop :=
  (Instant.minValue ≤ now + defaultLockTtl ∧ now + defaultLockTtl ≤ Instant.maxValue) ∧
    match db.documentLocks documentId with
    | some lock =>
        if lock.isExpired now then (db.documents documentId).isSome = true
        else lock.lockType = .collaborative
    | none => (db.documents documentId).isSome = true

instance (db : Database) (now : Instant) (documentId : DocumentId) :
    Decidable (Lockable db now documentId) :=
  @instDecidableAnd _ _ inferInstance <|
    match db.documentLocks documentId with
    | some lock => inferInstanceAs (Decidable
        (if lock.isExpired now then (db.documents documentId).isSome = true
        else lock.lockType = .collaborative))
    | none => inferInstanceAs (Decidable ((db.documents documentId).isSome = true))

/-- What `createSystemCollaborativeLock` writes. -/
def systemLock (now : Instant) : DocumentLock where
  lockType := .collaborative
  lockedByUser := none
  lockedAt := now
  expiresAt := some (now + defaultLockTtl)

/-- The row that a collaborative lock leaves. -/
def lockRow (db : Database) (now : Instant) (documentId : DocumentId) : DocumentLock :=
  match db.documentLocks documentId with
  | some lock =>
      if lock.isExpired now then systemLock now
      else { lock with expiresAt := some (now + defaultLockTtl) }
  | none => systemLock now

/-- The body of an answer is missing or JSON. -/
def Parses (mapper : ObjectMapper) (response : ProxyResponse) : Prop :=
  ∀ body ∈ response.body, body ≠ [] → (mapper.readTree body).isSome = true

instance (mapper : ObjectMapper) (response : ProxyResponse) :
    Decidable (Parses mapper response) :=
  inferInstanceAs (Decidable (∀ body ∈ response.body,
    body ≠ [] → (mapper.readTree body).isSome = true))

/-- What the worker must do for a start to be whole. Where its answer cannot be read, or
the lock not taken, it must have left its session and the row alone, since nothing undoes
that; and it must have started the session exactly if its status says so, since the lock is
taken whatever the status. -/
def Consistent (mapper : ObjectMapper) (db : Database) (now : Instant) (documentId : DocumentId)
    (session : WorkerSession Doc) :
    Option ProxyResponse × Database × WorkerSession Doc → Prop
  | (none, after, next) =>
      next = session ∧ after.documentLocks documentId = db.documentLocks documentId
  | (some response, after, next) =>
      if Parses mapper response ∧ Lockable after now documentId then
        if response.toResponseEntity.is2xxSuccessful then Live next
        else next = session ∧ some (lockRow after now documentId) = db.documentLocks documentId
      else next = session ∧ after.documentLocks documentId = db.documentLocks documentId

/-! ## The collaborative lock -/

variable {db after : Database} {now : Instant} {documentId : DocumentId}

theorem not_expired_of_expiresAt {lock : DocumentLock}
    (h : lock.expiresAt = some (now + defaultLockTtl)) : lock.isExpired now = false := by
  have hlater : ¬now + defaultLockTtl < now := by
    rw [show defaultLockTtl = 300000000000 from rfl]
    lia
  rw [DocumentLock.isExpired, h]
  exact decide_eq_false hlater

theorem lockRow_expiresAt : (lockRow db now documentId).expiresAt = some (now + defaultLockTtl) := by
  rw [lockRow]
  split
  · split <;> rfl
  · rfl

theorem lockRow_lockType (h : Lockable db now documentId) :
    (lockRow db now documentId).lockType = .collaborative := by
  have hrow := h.2
  rw [lockRow]
  split
  next lock hlock =>
    rw [hlock] at hrow
    split
    next => rfl
    next hlive =>
      simp only [if_neg hlive] at hrow
      exact hrow
  next => rfl

theorem createSystemCollaborativeLock_of_free (hdocument : (db.documents documentId).isSome = true)
    (hplus : now.plus defaultLockTtl = .ok (now + defaultLockTtl))
    (hfree : db.documentLocks documentId = none) :
    createSystemCollaborativeLock db now documentId =
      .ok (systemLock now, db.updateLock documentId (systemLock now)) := by
  obtain ⟨document, hdocument⟩ := Option.isSome_iff_exists.mp hdocument
  rw [createSystemCollaborativeLock, hplus]
  simp only [bind, Except.bind, Database.insertLock, hdocument, hfree]
  rfl

theorem acquireCollaborativeLock_of_lockable (h : Lockable db now documentId) :
    ∃ next, acquireCollaborativeLock db now documentId =
        .ok (lockRow db now documentId, next) ∧
      next.documentLocks documentId = some (lockRow db now documentId) := by
  have hplus : now.plus defaultLockTtl = .ok (now + defaultLockTtl) :=
    Instant.plus_eq_ok_iff.mpr ⟨h.1, rfl⟩
  have hlockable := h.2
  rw [acquireCollaborativeLock, lockRow]
  cases hrow : db.documentLocks documentId with
  | none =>
      rw [hrow] at hlockable
      exact ⟨_, createSystemCollaborativeLock_of_free hlockable hplus hrow,
        Function.update_self ..⟩
  | some current =>
      rw [hrow] at hlockable
      cases hexpired : current.isExpired now with
      | true =>
          simp only [hexpired, if_true] at hlockable ⊢
          have hdeleted : ((db.deleteLock documentId).documents documentId).isSome = true :=
            hlockable
          have hfree : (db.deleteLock documentId).documentLocks documentId = none :=
            Function.update_self ..
          exact ⟨_, createSystemCollaborativeLock_of_free hdeleted hplus hfree,
            Function.update_self ..⟩
      | false =>
          simp only [hexpired, Bool.false_eq_true, if_false] at hlockable ⊢
          have hshared : current.lockType ≠ .exclusive := by
            rw [hlockable]
            decide
          rw [if_neg hshared]
          exact ⟨_, LockService.extendLock_of_plus hplus current, Function.update_self ..⟩

theorem lockable_of_createSystemCollaborativeLock {result : DocumentLock × Database}
    (hok : createSystemCollaborativeLock db now documentId = .ok result) :
    (Instant.minValue ≤ now + defaultLockTtl ∧ now + defaultLockTtl ≤ Instant.maxValue) ∧
      (db.documents documentId).isSome = true := by
  simp only [createSystemCollaborativeLock, Except.bind_eq_ok_iff,
    Database.insertLock_eq_ok_iff] at hok
  obtain ⟨expiresAt, hplus, _, ⟨hdocument, _⟩, _⟩ := hok
  exact ⟨(Instant.plus_eq_ok_iff.mp hplus).1, hdocument⟩

theorem lockable_of_acquireCollaborativeLock {result : DocumentLock × Database}
    (hok : acquireCollaborativeLock db now documentId = .ok result) :
    Lockable db now documentId := by
  rw [acquireCollaborativeLock] at hok
  rw [Lockable]
  cases hrow : db.documentLocks documentId with
  | none =>
      simp only [hrow] at hok
      exact lockable_of_createSystemCollaborativeLock hok
  | some current =>
      simp only [hrow] at hok
      split at hok
      next hexpired =>
        simp only [hexpired, if_true]
        have hlockable := lockable_of_createSystemCollaborativeLock hok
        exact hlockable
      next hlive =>
        split at hok
        next => cases hok
        next hshared =>
          simp only [extendLock, Except.bind_eq_ok_iff] at hok
          obtain ⟨expiresAt, hplus, _⟩ := hok
          simp only [if_neg hlive]
          refine ⟨(Instant.plus_eq_ok_iff.mp hplus).1, ?_⟩
          cases htype : current.lockType with
          | exclusive => exact absurd htype hshared
          | collaborative => rfl

theorem acquireCollaborativeLock_of_not_lockable (h : ¬Lockable db now documentId) :
    ∃ error, acquireCollaborativeLock db now documentId = .error error := by
  cases hresult : acquireCollaborativeLock db now documentId with
  | error error => exact ⟨error, rfl⟩
  | ok result => exact absurd (lockable_of_acquireCollaborativeLock hresult) h

/-! ## The worker's answer -/

theorem finalBytes_isSome_iff (mapper : ObjectMapper) (response : ProxyResponse)
    (content : Option String) :
    (finalBytes mapper response.toResponseEntity.body content).isSome = true ↔
      Parses mapper response := by
  rw [Parses, ProxyResponse.toResponseEntity, finalBytes]
  cases response.body with
  | none => simp
  | some body =>
      cases hempty : decide (body = []) with
      | true =>
          have hbody := of_decide_eq_true hempty
          simp [hbody]
      | false =>
          have hbody := of_decide_eq_false hempty
          simp only [Option.getD_some, Option.mem_some_iff, forall_eq', ne_eq, hbody,
            not_false_eq_true, true_implies]
          cases mapper.readTree body with
          | none => simp
          | some json => simp

variable {session next : WorkerSession Doc}

/-- A start that fails is whole if nothing has changed. -/
theorem allOrNothing_failed {result : Except ServiceError ResponseEntity}
    (hfailed : ∀ response, result = .ok response → response.is2xxSuccessful = false) :
    AllOrNothing documentId now db session (result, after, next) ↔
      next = session ∧ after.documentLocks documentId = db.documentLocks documentId := by
  constructor
  · rintro (⟨response, hresult, hsuccess, _⟩ | ⟨_, hunchanged⟩)
    · cases hsuccess.symm.trans (hfailed response hresult)
    · exact hunchanged
  · intro hunchanged
    exact .inr ⟨hfailed, hunchanged⟩

/-- A start that ends with the lock taken is whole if the worker's status says what it did. -/
theorem allOrNothing_locked {response : ResponseEntity} {lock : DocumentLock}
    (hrow : after.documentLocks documentId = some lock) (htype : lock.lockType = .collaborative)
    (hlive : lock.isExpired now = false) :
    AllOrNothing documentId now db session (.ok response, after, next) ↔
      if response.is2xxSuccessful then Live next
      else next = session ∧ some lock = db.documentLocks documentId := by
  cases hsuccess : response.is2xxSuccessful with
  | true =>
      rw [if_pos rfl]
      constructor
      · rintro (⟨_, _, _, hsession, _⟩ | ⟨hfailed, _⟩)
        · exact hsession
        · cases hsuccess.symm.trans (hfailed response rfl)
      · intro hsession
        exact .inl ⟨response, rfl, hsuccess, hsession, lock, hrow, htype, hlive⟩
  | false =>
      rw [if_neg (by decide)]
      constructor
      · rintro (⟨_, hresponse, htrue, _⟩ | ⟨_, hsession, hunchanged⟩)
        · cases hresponse
          cases hsuccess.symm.trans htrue
        · exact ⟨hsession, hrow.symm.trans hunchanged⟩
      · rintro ⟨hsession, hunchanged⟩
        refine .inr ⟨?_, hsession, hrow.trans hunchanged⟩
        rintro _ ⟨⟩
        exact hsuccess

/-- A session start is whole exactly if what the worker did, its answer and the lock row fit
together. -/
theorem initializeDocument_allOrNothing_iff (mapper : ObjectMapper) (router : RouterProperties)
    (call : WorkerRequest InitializeDocumentRequest → Database × WorkerSession Doc →
      Option ProxyResponse × Database × WorkerSession Doc)
    (db : Database) (now : Instant) (session : WorkerSession Doc) (documentId : DocumentId)
    (user : User) :
    AllOrNothing documentId now db session
        (initializeDocument mapper router call db now session documentId user) ↔
      ∀ document, db.documents documentId = some document → ∀ request,
        WorkerHttpClient.request router (toString documentId)
          (⟨document.content, user.id, user.username⟩ : InitializeDocumentRequest) = .ok request →
        Consistent mapper db now documentId session (call request (db, session)) := by
  rw [initializeDocument]
  cases hdocument : db.documents documentId with
  | none =>
      refine (allOrNothing_failed ?_).trans (iff_of_true ⟨rfl, rfl⟩ ?_)
      · rintro _ ⟨⟩
        rfl
      · intro document hnone
        cases hnone
  | some document =>
      simp only [Option.some.injEq, forall_eq']
      cases hrequest : WorkerHttpClient.request router (toString documentId)
          (⟨document.content, user.id, user.username⟩ : InitializeDocumentRequest) with
      | error error =>
          refine (allOrNothing_failed ?_).trans (iff_of_true ⟨rfl, rfl⟩ ?_)
          · rintro _ ⟨⟩
          · intro request hok
            cases hok
      | ok request =>
          simp only [Except.ok.injEq, forall_eq']
          obtain ⟨response, after, next⟩ := call request (db, session)
          cases response with
          | none =>
              apply allOrNothing_failed
              rintro _ ⟨⟩
          | some response =>
              have hfallback : ∀ entity,
                  (.ok failedToBuildResponse : Except ServiceError ResponseEntity) = .ok entity →
                    entity.is2xxSuccessful = false := by
                rintro _ ⟨⟩
                rfl
              have hparses := finalBytes_isSome_iff mapper response document.content
              simp only [Consistent]
              cases hbytes : finalBytes mapper response.toResponseEntity.body document.content with
              | none =>
                  have hnot : ¬Parses mapper response := by
                    rw [← hparses, hbytes]
                    decide
                  rw [if_neg fun h => hnot h.1]
                  exact allOrNothing_failed hfallback
              | some bytes =>
                  rw [hbytes] at hparses
                  by_cases hlockable : Lockable after now documentId
                  · obtain ⟨locked, hok, hrow⟩ := acquireCollaborativeLock_of_lockable hlockable
                    rw [hok, if_pos ⟨hparses.mp rfl, hlockable⟩]
                    exact allOrNothing_locked hrow (lockRow_lockType hlockable)
                      (not_expired_of_expiresAt lockRow_expiresAt)
                  · obtain ⟨error, herror⟩ := acquireCollaborativeLock_of_not_lockable hlockable
                    rw [herror, if_neg fun h => hlockable h.2]
                    exact allOrNothing_failed hfallback

/-! ## Runs -/

/-- The bytes of an ASCII text. -/
def asciiBytes (text : String) : List UInt8 := text.toList.map fun c => c.toNat.toUInt8

/-- What the init endpoint answers for document 1. -/
def initializedBody : List UInt8 := asciiBytes "\x7b\"status\":\"ok\",\"documentId\":1\x7d"

/-- The same with the content of the document. -/
def initializedText (content : String) : String :=
  "\x7b\"status\":\"ok\",\"documentId\":1,\"content\":\"" ++ content ++ "\"\x7d"

/-- Jackson on the answers to document 1, with contents that need no escapes. -/
def plainMapper : ObjectMapper where
  readTree bytes :=
    if bytes = initializedBody then
      some (.object [("status", .string "ok"), ("documentId", .number 1)])
    else none
  writeValueAsBytes json := asciiBytes (initializedText ((json.stringField "content").getD ""))

def plainRouter : RouterProperties where
  workerBearerToken := some "token"
  workers := [⟨some "http://worker"⟩]

theorem plainRouter_worker (documentId : String) :
    WorkerRoutingService.workerForDocument plainRouter documentId = .ok ⟨some "http://worker"⟩ :=
  WorkerRoutingService.workerForDocument_single rfl documentId

/-- Document 1 is locked exclusively for another minute. -/
def lockedDatabase : Database :=
  { Database.empty with
    documents := Function.update Database.empty.documents 1 (some
      { owner := ⟨1, "owner"⟩
        title := "title"
        content := some "text"
        version := 0
        createdAt := 0
        lastModified := 0 })
    documentLocks := Function.update Database.empty.documentLocks 1 (some
      { lockType := .exclusive
        lockedByUser := some ⟨2, "editor"⟩
        lockedAt := 0
        expiresAt := some (Duration.ofMinutes 1) }) }

/-- The worker starts a session and says so; the lock is refused, and the session stays. -/
theorem started_session_survives_refused_lock :
    ¬∀ (mapper : ObjectMapper) (router : RouterProperties)
      (call : WorkerRequest InitializeDocumentRequest → Database × WorkerSession String →
        Option ProxyResponse × Database × WorkerSession String)
      (db : Database) (now : Instant) (session : WorkerSession String) (documentId : DocumentId)
      (user : User), AllOrNothing documentId now db session
        (initializeDocument mapper router call db now session documentId user) := by
  intro hall
  let started (content : Option String) : DocumentRuntime String :=
    (DocumentRuntime.create textLibraries 1 0 (content.getD "")).startAutoPersistence
  let call (request : WorkerRequest InitializeDocumentRequest)
      (state : Database × WorkerSession String) :
      Option ProxyResponse × Database × WorkerSession String :=
    (some ⟨200, some initializedBody⟩, state.1, some (started request.body.content))
  have hwhole := hall plainMapper plainRouter call lockedDatabase 0 none 1 ⟨1, "owner"⟩
  have hresult : initializeDocument plainMapper plainRouter call lockedDatabase 0 none 1
      ⟨1, "owner"⟩ =
        (.ok failedToBuildResponse, lockedDatabase, some (started (some "text"))) := by
    have hdocument : lockedDatabase.documents 1 = some _ := rfl
    simp only [initializeDocument, hdocument, WorkerHttpClient.request, plainRouter_worker]
    rfl
  rw [hresult] at hwhole
  rcases hwhole with ⟨response, hok, hsuccess, _⟩ | ⟨_, hsession, _⟩
  · cases hok
    cases hsuccess
  · cases hsession

end CollabEditor.Platform
