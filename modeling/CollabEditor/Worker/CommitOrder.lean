import CollabEditor.Foundation.List
import CollabEditor.Worker.SyncRequests
import CollabEditor.Worker.Sessions

/-! # The order in which the backend commits a session's requests

A periodic commit leaves its content and a collaborative lock row, the final
one its content and no row, so the last commit decides. A request commits as a whole
here, and only the order varies; how statements of different transactions interleave is
the subject of `LockRace`.
-/

namespace CollabEditor.Worker

open Foundation
open Backend (DocumentId Instant Database ServiceError WorkerOperation Document DocumentLock)

/-- `SpringClient.syncDocument`: the operation the backend performs. -/
def SyncRequest.operation (request : SyncRequest) : WorkerOperation :=
  .syncDocument (some request.documentId) (some request.content) request.final

/-- Commit requests one after the other, each at its own instant. -/
def commitAll (db : Database) : List (Instant × SyncRequest) → Except ServiceError Database
  | [] => .ok db
  | (now, request) :: rest => do
      let (_, db) ← request.operation.serve db now
      commitAll db rest

/-- The document holds the content and has no collaborative lock row. -/
def Settled (db : Database) (documentId : DocumentId) (content : String) : Prop :=
  (db.documents documentId).map Document.content = some (some content) ∧
    ∀ lock, db.documentLocks documentId = some lock → lock.lockType ≠ .collaborative

theorem commitAll_append {first second : List (Instant × SyncRequest)} {db next : Database} :
    commitAll db (first ++ second) = .ok next ↔
      ∃ middle, commitAll db first = .ok middle ∧ commitAll middle second = .ok next := by
  induction first generalizing db with
  | nil => simp [commitAll]
  | cons commit rest ih =>
      simp only [List.cons_append, commitAll, Except.bind_eq_ok_iff, ih]
      constructor
      · rintro ⟨result, hserve, middle, hfirst, hsecond⟩
        exact ⟨middle, ⟨result, hserve, hfirst⟩, hsecond⟩
      · rintro ⟨middle, ⟨result, hserve, hfirst⟩, hsecond⟩
        exact ⟨result, hserve, middle, hfirst, hsecond⟩

/-- A single commit settles the document exactly when it is final. -/
theorem settled_after_commit_iff {db next : Database} {now : Instant} {request : SyncRequest}
    {content : String} (hcommit : commitAll db [(now, request)] = .ok next) :
    Settled next request.documentId content ↔
      request.final = true ∧ request.content = content := by
  simp only [commitAll, Except.bind_eq_ok_iff, Except.ok.injEq, Prod.exists] at hcommit
  obtain ⟨_, committed, hserve, rfl⟩ := hcommit
  obtain ⟨documentId, text, final⟩ := request
  cases Backend.WorkerOperation.serve_effect hserve with
  | periodic doc expiresAt hdoc =>
      simp [Settled]
  | final doc hdoc =>
      simp [Settled]

namespace Manager

variable {Doc Raw : Type} {lib : Libraries Doc Raw} {manager : Manager Doc}

/-- For every runtime that has sent its final request and every order in which
all its requests are committed, each as a whole: the document is settled with the final content
exactly when the final request is committed last. -/
theorem settled_after_commits_iff (hreach : (system lib).Reachable manager) {id : RuntimeId}
    {runtime : DocumentRuntime Doc} (hruntime : manager.runtimes[id]? = some runtime)
    {final : SyncRequest} (hfinal : final ∈ requestsOf manager.syncRequests id)
    (hflag : final.final = true) {commits : List (Instant × SyncRequest)}
    (horder : (commits.map Prod.snd).Perm (requestsOf manager.syncRequests id))
    {db next : Database} (hcommit : commitAll db commits = .ok next) :
    Settled next runtime.documentId final.content ↔
      (commits.map Prod.snd).getLast? = some final := by
  have hok := reachable_requestsOk hreach
  have hone : (requestsOf manager.syncRequests id).countP SyncRequest.final = 1 := by
    have hpositive : 0 < (requestsOf manager.syncRequests id).countP SyncRequest.final :=
      List.countP_pos_iff.mpr ⟨final, hfinal, hflag⟩
    rw [hok.final id runtime hruntime] at hpositive ⊢
    split at hpositive <;> simp_all
  rcases List.eq_nil_or_concat' commits with rfl | ⟨before, ⟨now, last⟩, rfl⟩
  · rw [List.map_nil, List.nil_perm] at horder
    simp [horder] at hfinal
  · obtain ⟨middle, -, hlast⟩ := commitAll_append.mp hcommit
    have hmem : last ∈ requestsOf manager.syncRequests id := horder.subset (by simp)
    rw [← hok.document id runtime hruntime last hmem, settled_after_commit_iff hlast]
    simp only [List.map_append, List.map_cons, List.map_nil, List.getLast?_concat,
      Option.some.injEq]
    constructor
    · rintro ⟨hlastFinal, -⟩
      exact Foundation.List.eq_of_countP_eq_one hone hmem hfinal hlastFinal hflag
    · rintro rfl
      exact ⟨hflag, rfl⟩

/-- One session of document 1 with a periodic request before its final one. -/
def closedRun : List (Event String) :=
  [.initializeDocument ⟨1, "text", 1, "owner", 0⟩, .resume 0 true, .resume 0 true, .tick 0,
    .closeDocument 1, .resume 0 true, .resume 0 true]

theorem exists_closed : ∃ (manager : Manager String) (runtime : DocumentRuntime String),
    (system textLibraries).Reachable manager ∧ manager.runtimes[0]? = some runtime ∧
      runtime.documentId = 1 ∧
      requestsOf manager.syncRequests 0 = [⟨1, "text", false⟩, ⟨1, "text", true⟩] := by
  obtain ⟨manager, hreach, hcheck⟩ := (system textLibraries).exists_reachable_of_exec
    (.init rfl : (system textLibraries).Reachable empty) closedRun
    (fun manager => manager.runtimes[0]?.any (·.documentId = 1) ∧
      requestsOf manager.syncRequests 0 = [⟨1, "text", false⟩, ⟨1, "text", true⟩]) (by decide)
  obtain ⟨hany, hrequests⟩ := of_decide_eq_true hcheck
  obtain ⟨runtime, hruntime, hdocument⟩ := (Option.any_eq_true _ _).mp hany
  exact ⟨manager, runtime, hreach, hruntime, of_decide_eq_true hdocument, hrequests⟩

/-- A backend in which document 1 exists, and both orders commit. -/
theorem exists_stored : ∃ state, Backend.system.Reachable state ∧
    (∃ next, commitAll state.db [(0, ⟨1, "text", false⟩), (1, ⟨1, "text", true⟩)] = .ok next) ∧
    ∃ next, commitAll state.db [(0, ⟨1, "text", true⟩), (1, ⟨1, "text", false⟩)] = .ok next := by
  obtain ⟨state, hreach, hcheck⟩ := Backend.system.exists_reachable_of_exec
    (.init ⟨rfl, by decide, by decide⟩ : Backend.system.Reachable ⟨Database.empty, 0⟩)
    [.user ⟨1, "owner"⟩ (.create (some "notes") (some "text"))]
    (fun state =>
      (commitAll state.db [(0, ⟨1, "text", false⟩), (1, ⟨1, "text", true⟩)]).isOk &&
      (commitAll state.db [(0, ⟨1, "text", true⟩), (1, ⟨1, "text", false⟩)]).isOk) (by decide)
  obtain ⟨hfirst, hsecond⟩ := Bool.and_eq_true_iff.mp hcheck
  exact ⟨state, hreach, Except.exists_of_isOk hfirst, Except.exists_of_isOk hsecond⟩

theorem final_commit_last_settles : ∃ db next,
    commitAll db [(0, ⟨1, "text", false⟩), (1, ⟨1, "text", true⟩)] = .ok next ∧
      Settled next 1 "text" := by
  obtain ⟨manager, runtime, hreach, hruntime, hdocument, hrequests⟩ := exists_closed
  obtain ⟨state, -, ⟨next, hcommit⟩, -⟩ := exists_stored
  refine ⟨state.db, next, hcommit, ?_⟩
  have hsettled := settled_after_commits_iff hreach hruntime
    (hrequests ▸ List.mem_cons_of_mem _ List.mem_cons_self : ⟨1, "text", true⟩ ∈ _) rfl
    (hrequests ▸ .refl _) hcommit
  rw [hdocument] at hsettled
  exact hsettled.mpr rfl

/-- Committed after the final request, a periodic one brings the lock back. -/
theorem late_periodic_commit_unsettles :
    ¬ ∀ (manager : Manager String), (system textLibraries).Reachable manager →
      ∀ id runtime, manager.runtimes[id]? = some runtime →
      ∀ final ∈ requestsOf manager.syncRequests id, final.final = true →
      ∀ commits : List (Instant × SyncRequest),
        (commits.map Prod.snd).Perm (requestsOf manager.syncRequests id) →
      ∀ state, Backend.system.Reachable state → ∀ next, commitAll state.db commits = .ok next →
        Settled next runtime.documentId final.content := by
  intro hclaim
  obtain ⟨manager, runtime, hreach, hruntime, hdocument, hrequests⟩ := exists_closed
  obtain ⟨state, hstate, -, ⟨next, hcommit⟩⟩ := exists_stored
  have hsettled := hclaim manager hreach 0 runtime hruntime ⟨1, "text", true⟩
    (hrequests ▸ List.mem_cons_of_mem _ List.mem_cons_self) rfl
    [(0, ⟨1, "text", true⟩), (1, ⟨1, "text", false⟩)] (hrequests ▸ .swap _ _ _) state hstate next
    hcommit
  have hsplit : commitAll state.db ([(0, ⟨1, "text", true⟩)] ++ [(1, ⟨1, "text", false⟩)]) =
      .ok next := hcommit
  obtain ⟨middle, -, hlast⟩ := commitAll_append.mp hsplit
  rw [hdocument] at hsettled
  obtain ⟨hflag, -⟩ := (settled_after_commit_iff hlast).mp hsettled
  cases hflag

end Manager

end CollabEditor.Worker
