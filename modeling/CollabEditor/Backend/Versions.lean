import CollabEditor.Backend.Integrity

/-! # The version of a document and its content

Saves and final syncs write through the entity, whose version the framework
maintains. The statement of a periodic sync writes the content table alone.
-/

namespace CollabEditor.Backend

open Foundation Database

/-- The save gets past the checks of `saveDocument` on a document that is there. -/
def Database.AdmitsSave (db : Database) (now : Instant) (id : DocumentId) (doc : Document)
    (user : User) : Prop :=
  DocumentService.canUserEdit db id doc user = true ∧
    ∃ lock ∈ db.documentLocks id, lock.isExpired now = false ∧
      (lock.lockType = .exclusive → lock.isHeldBy user = true)

instance (db : Database) (now : Instant) (id : DocumentId) (doc : Document) (user : User) :
    Decidable (db.AdmitsSave now id doc user) :=
  inferInstanceAs (Decidable (_ ∧ ∃ lock ∈ db.documentLocks id, _ ∧ (_ → _)))

/-- A write of the content through the entity is counted: a changed content comes at another
instant than the last write, and the version is not the last one before it wraps. -/
def Document.Counts (doc : Document) (now : Instant) (content : Option String) : Prop :=
  (content = doc.content ∨ doc.lastModified ≠ now) ∧
    (doc.lastModified ≠ now → doc.version ≠ Int32.maxValue)

instance (doc : Document) (now : Instant) (content : Option String) :
    Decidable (doc.Counts now content) :=
  inferInstanceAs (Decidable ((_ ∨ _) ∧ (_ → _)))

/-- Every write through the entity is counted, and a periodic sync does not change the
content. -/
def WritesVersioned (state : State) : Event → Prop
  | .user user (.save id content) => ∀ doc ∈ state.db.documents id,
      state.db.AdmitsSave state.now id doc user → doc.Counts state.now content
  | .worker (.syncDocument (some id) (some content) true) => ∀ doc ∈ state.db.documents id,
      doc.Counts state.now (some content)
  | .worker (.syncDocument (some id) (some content) false) => ∀ doc ∈ state.db.documents id,
      some content = doc.content
  | _ => True

instance (state : State) : (event : Event) → Decidable (WritesVersioned state event)
  | .user user (.save id content) => inferInstanceAs (Decidable (∀ doc ∈ state.db.documents id,
      state.db.AdmitsSave state.now id doc user → doc.Counts state.now content))
  | .worker (.syncDocument (some id) (some content) true) => inferInstanceAs (Decidable
      (∀ doc ∈ state.db.documents id, doc.Counts state.now (some content)))
  | .worker (.syncDocument (some id) (some content) false) => inferInstanceAs (Decidable
      (∀ doc ∈ state.db.documents id, some content = doc.content))
  | .worker (.syncDocument none _ _) | .worker (.syncDocument (some _) none _)
  | .worker (.releaseCollaborativeLock _) | .worker (.acquireCollaborativeLock _)
  | .user _ (.create ..) | .user _ (.read _) | .user _ (.acquireLock ..)
  | .user _ (.switchToCollaborative ..) | .user _ (.releaseLock _) | .user _ (.refreshLock ..)
  | .user _ (.getLock _) | .user _ (.delete _) | .user _ (.createInvite ..)
  | .user _ (.useInvite _) | .user _ (.processRequest ..) | .advance _ => .isTrue trivial

/-- What a guarded step makes of the row of a document. -/
inductive DocumentStep (db : Database) (now : Instant) (id : DocumentId) :
    Option Document → Prop
  | keep : DocumentStep db now id (db.documents id)
  | create (doc : Document) (hfresh : db.nextDocumentId ≤ id) (hmodified : doc.lastModified = now) :
      DocumentStep db now id (some doc)
  | delete : DocumentStep db now id none
  | save {doc : Document} {content : Option String} (hdoc : db.documents id = some doc)
      (hcounts : doc.Counts now content) :
      DocumentStep db now id (some ({ doc with content := content }.touch now))

namespace DocumentStep

variable {db next : Database} {now : Instant} {id : DocumentId}

theorem of_eq (hdocuments : next.documents = db.documents) :
    DocumentStep db now id (next.documents id) := by
  rw [hdocuments]
  exact .keep

/-- A rewritten document. -/
theorem update {target : DocumentId} {written : Document}
    (hwritten : DocumentStep db now target (some written))
    (hdocuments : next.documents = Function.update db.documents target (some written)) :
    DocumentStep db now id (next.documents id) := by
  rw [hdocuments]
  by_cases heq : id = target
  · subst heq
    rw [Function.update_self]
    exact hwritten
  · rw [Function.update_of_ne heq]
    exact .keep

end DocumentStep

theorem DocumentService.create_lastModified {db next : Database} {now : Instant} {user : User}
    {title content : Option String} {reply : Reply} {doc : Document}
    (hok : (Request.create title content).serve db now user = .ok (reply, next))
    (hdoc : next.documents db.nextDocumentId = some doc) : doc.lastModified = now := by
  simp only [Request.serve, Except.bind_eq_ok_iff, Except.pure_eq_ok_iff, Prod.mk.injEq,
    Prod.exists] at hok
  obtain ⟨id, created, hcreate, found, -, -, rfl⟩ := hok
  unfold DocumentService.create at hcreate
  simp only [Except.bind_eq_ok_iff, Except.pure_eq_ok_iff, Prod.mk.injEq,
    insertPermission_eq_ok_iff] at hcreate
  obtain ⟨named, -, inserted, ⟨-, -, rfl⟩, -, rfl⟩ := hcreate
  rw [updateDocument_documents, Function.update_self, Option.some.injEq] at hdoc
  subst hdoc
  rfl

theorem Request.serve_documentStep {state : State} {next : Database} {user : User}
    {request : Request} {reply : Reply} (hguard : WritesVersioned state (.user user request))
    (hok : request.serve state.db state.now user = .ok (reply, next)) (id : DocumentId) :
    DocumentStep state.db state.now id (next.documents id) := by
  cases Request.serve_effect hok with
  | unchanged htarget hdocuments => exact .of_eq hdocuments
  | create doc howner hdocuments =>
      refine .update (.create doc (Int.le_refl _) ?_) hdocuments
      apply DocumentService.create_lastModified hok
      rw [hdocuments, Function.update_self]
  | save doc lock hdoc hedit hlock hlive hheld =>
      exact .update (.save hdoc (hguard doc hdoc ⟨hedit, lock, hlock, hlive, hheld⟩)) rfl
  | lock htarget hdocument heffect =>
      obtain ⟨row, -, rfl⟩ := heffect
      exact .keep
  | @delete target _ doc hdoc howner hdocuments =>
      rw [hdocuments]
      by_cases heq : id = target
      · subst heq
        rw [Function.update_self]
        exact .delete
      · rw [Function.update_of_ne heq]
        exact .keep
  | grant row htarget hdocument hfresh hdocuments => exact .of_eq hdocuments

theorem WorkerEffect.documentStep {state : State} {next : Database}
    {operation : WorkerOperation} (hguard : WritesVersioned state (.worker operation))
    (heffect : WorkerEffect state.db state.now operation next) (id : DocumentId) :
    DocumentStep state.db state.now id (next.documents id) := by
  cases heffect with
  | @periodic target content doc expiresAt hdoc =>
      -- the statement writes the content that is there
      have hsame : some content = doc.content := hguard doc hdoc
      have hrow : DocumentStep state.db state.now target
          (some { doc with content := some content }) := by
        rw [hsame, ← hdoc]
        exact .keep
      exact hrow.update rfl
  | @final target content doc hdoc => exact .update (.save hdoc (hguard doc hdoc)) rfl
  | release | acquireNew | acquireExtend => exact .keep

theorem step_documentStep {state next : State} {event : Event}
    (hguard : WritesVersioned state event) (hstep : step state event = some next)
    (id : DocumentId) : DocumentStep state.db state.now id (next.db.documents id) := by
  cases step_cases hstep with
  | request user request reply next hok => exact Request.serve_documentStep hguard hok id
  | operation operation next hok =>
      exact (WorkerOperation.serve_effect hok).documentStep hguard id
  | refuse | fail | advance => exact .keep

/-! ## Runs -/

/-- Identity values are handed out once. -/
theorem step_nextDocumentId {state next : State} {event : Event}
    (hstep : step state event = some next) :
    state.db.nextDocumentId ≤ next.db.nextDocumentId := by
  cases step_cases hstep with
  | request user request reply next hok =>
      cases Request.serve_effect hok with
      | unchanged _ _ _ _ hid => exact Nat.le_of_eq hid.symm
      | create _ _ _ _ _ hid => exact hid ▸ Nat.le_succ _
      | save => exact Nat.le_refl _
      | lock _ _ heffect =>
          obtain ⟨row, -, hnext⟩ := heffect
          exact Nat.le_of_eq (congrArg Database.nextDocumentId hnext).symm
      | delete _ _ _ _ _ _ hid => exact Nat.le_of_eq hid.symm
      | grant _ _ _ _ _ _ _ hid => exact Nat.le_of_eq hid.symm
  | operation operation next hok =>
      cases WorkerOperation.serve_effect hok <;> exact Nat.le_refl _
  | refuse | fail | advance => exact Nat.le_refl _

theorem step_now {state next : State} {event : Event} (hstep : step state event = some next) :
    state.now ≤ next.now := by
  cases step_cases hstep with
  | advance nanoseconds => exact Int.le_add_of_nonneg_right (by simp)
  | request | refuse | operation | fail => exact Int.le_refl _

/-- The row has been written at most with new versions since. -/
structure Document.Precedes (old new : Document) : Prop where
  version : old.version ≤ new.version
  content : old.content ≠ new.content → old.version < new.version
  lastModified : old.lastModified ≤ new.lastModified

theorem Document.Precedes.refl (doc : Document) : doc.Precedes doc :=
  ⟨Int32.le_refl _, fun hchanged => absurd rfl hchanged, Int.le_refl _⟩

theorem Document.Precedes.trans {old middle new : Document} (hfirst : old.Precedes middle)
    (hsecond : middle.Precedes new) : old.Precedes new where
  version := Int32.le_trans hfirst.version hsecond.version
  content := by
    intro hchanged
    by_cases hsame : old.content = middle.content
    · exact Int32.lt_of_le_of_lt hfirst.version (hsecond.content (hsame ▸ hchanged))
    · exact Int32.lt_of_lt_of_le (hfirst.content hsame) hsecond.version
  lastModified := Int.le_trans hfirst.lastModified hsecond.lastModified

/-- A version that is not the last one is below the next one. -/
theorem lt_nextVersion {version : Int32} (hlast : version ≠ Int32.maxValue) :
    version < version + 1 := by
  have hbelow : version.toInt ≠ 2147483647 := fun hmax => hlast (Int32.toInt_inj.mp hmax)
  have hlow := version.le_toInt
  have hhigh := version.toInt_lt
  rw [Int32.lt_iff_toInt_lt, Int32.toInt_add, Int32.toInt_one, Int.bmod_eq_of_le] <;> lia

theorem Document.precedes_touch {doc : Document} {content : Option String} {now : Instant}
    (hpast : doc.lastModified ≤ now) (hcounts : doc.Counts now content) :
    doc.Precedes ({ doc with content := content }.touch now) := by
  unfold Document.touch
  split
  next hsame =>
    rw [hcounts.1.resolve_right fun hother => hother hsame]
    exact .refl doc
  next hother =>
    have hnext := lt_nextVersion (hcounts.2 hother)
    exact ⟨Int32.le_of_lt hnext, fun _ => hnext, hpast⟩

/-- No document has been modified in the future. -/
def State.ModifiedInPast (state : State) : Prop :=
  ∀ id doc, state.db.documents id = some doc → doc.lastModified ≤ state.now

theorem DocumentStep.precedes {state : State} (hpast : state.ModifiedInPast)
    (hformed : state.db.WellFormed) {id : DocumentId} {row : Option Document}
    (hchange : DocumentStep state.db state.now id row) {old new : Document}
    (hold : state.db.documents id = some old) (hnew : row = some new) : old.Precedes new := by
  cases hchange with
  | keep =>
      cases hold.symm.trans hnew
      exact .refl old
  | create doc hfresh hmodified =>
      have hbound := hformed.document_id id (by simp [hold])
      lia
  | delete => cases hnew
  | save hdoc hcounts =>
      cases hold.symm.trans hdoc
      cases hnew
      exact Document.precedes_touch (hpast id old hold) hcounts

theorem DocumentStep.lastModified_le {state : State} (hpast : state.ModifiedInPast)
    {id : DocumentId} {row : Option Document}
    (hchange : DocumentStep state.db state.now id row) {new : Document} (hnew : row = some new) :
    new.lastModified ≤ state.now := by
  cases hchange with
  | keep => exact hpast id new hnew
  | create doc hfresh hmodified =>
      cases hnew
      exact Int.le_of_eq hmodified
  | delete => cases hnew
  | save hdoc hcounts =>
      cases hnew
      unfold Document.touch
      split
      next hsame => exact Int.le_of_eq hsame
      next => exact Int.le_refl _

theorem reachable_modifiedInPast {state : State}
    (hreach : system.ReachableUnder WritesVersioned state) : state.ModifiedInPast := by
  refine hreach.invariant system State.ModifiedInPast ?_ ?_
  · rintro state ⟨hdb, -⟩ id doc hdoc
    rw [hdb] at hdoc
    cases hdoc
  · intro state event next _ hpast hguard hstep id doc hdoc
    have hchange := step_documentStep hguard hstep id
    exact Int.le_trans (hchange.lastModified_le hpast hdoc) (step_now hstep)

/-- The backend as it goes on from a state. -/
def systemFrom (state : State) : TransitionSystem State Event where
  init := (· = state)
  step := step

theorem reachable_systemFrom {state later : State}
    (hreach : system.ReachableUnder WritesVersioned state)
    (hlater : (systemFrom state).ReachableUnder WritesVersioned later) :
    system.ReachableUnder WritesVersioned later := by
  induction hlater with
  | init hinit => exact hinit ▸ hreach
  | step _ hguard hstep ih => exact ih.step hguard hstep

/-- A document read twice along a run: the second row comes after the first. -/
theorem precedes_later {state later : State}
    (hreach : system.ReachableUnder WritesVersioned state)
    (hlater : (systemFrom state).ReachableUnder WritesVersioned later) {id : DocumentId}
    {old new : Document} (hold : state.db.documents id = some old)
    (hnew : later.db.documents id = some new) : old.Precedes new := by
  have hbound := (reachable_wellFormed (hreach.reachable system)).1.document_id id (by simp [hold])
  have hrun : state.db.nextDocumentId ≤ later.db.nextDocumentId ∧
      ∀ new, later.db.documents id = some new → old.Precedes new := by
    clear hnew
    induction hlater with
    | init hinit =>
        subst hinit
        refine ⟨Nat.le_refl _, fun new hnew => ?_⟩
        cases hold.symm.trans hnew
        exact .refl old
    | @step middle event next hmiddle hguard hstep ih =>
        obtain ⟨hid, hbefore⟩ := ih
        refine ⟨Nat.le_trans hid (step_nextDocumentId hstep), fun new hnew => ?_⟩
        have hreached := reachable_systemFrom hreach hmiddle
        have hchange := step_documentStep hguard hstep id
        cases hrow : middle.db.documents id with
        | some doc =>
            have hpast := reachable_modifiedInPast hreached
            have hformed := (reachable_wellFormed (hreached.reachable system)).1
            exact (hbefore doc hrow).trans (hchange.precedes hpast hformed hrow hnew)
        | none =>
            -- a deleted document does not come back: its id is not handed out again
            generalize hrow' : next.db.documents id = row at hchange hnew
            cases hchange with
            | keep => cases hrow.symm.trans hnew
            | create doc hfresh hmodified => lia
            | delete => cases hnew
            | save hdoc hcounts => cases hrow.symm.trans hdoc
  exact hrun.2 new hnew

/-- When every write of a content is a write through the entity that is counted, each
change of a content comes with a higher version and no earlier `lastModified`, and two
reads that return one version return one content. -/
theorem version_tracks_content {state : State}
    (hreach : system.ReachableUnder WritesVersioned state) :
    (∀ event next, WritesVersioned state event → step state event = some next →
      ∀ id old new, state.db.documents id = some old → next.db.documents id = some new →
        old.content ≠ new.content →
          old.version < new.version ∧ old.lastModified ≤ new.lastModified) ∧
    ∀ later, (systemFrom state).ReachableUnder WritesVersioned later →
      ∀ id old new, state.db.documents id = some old → later.db.documents id = some new →
        old.version = new.version → old.content = new.content := by
  constructor
  · intro event next hguard hstep id old new hold hnew hchanged
    have hlater := (TransitionSystem.ReachableUnder.init rfl :
      (systemFrom state).ReachableUnder WritesVersioned state).step hguard hstep
    have hprecedes := precedes_later hreach hlater hold hnew
    exact ⟨hprecedes.content hchanged, hprecedes.lastModified⟩
  · intro later hlater id old new hold hnew hversion
    have hprecedes := precedes_later hreach hlater hold hnew
    by_contra hchanged
    exact Int32.lt_irrefl (hversion ▸ hprecedes.content hchanged)

/-- A save and a final sync, each a second after the write before it. -/
theorem version_tracks_content_saved : ∃ state, system.ReachableUnder WritesVersioned state ∧
    (state.db.documents 1).any (fun doc => doc.version = 2 ∧ doc.content = some "final") = true ∧
      ∀ later, (systemFrom state).ReachableUnder WritesVersioned later →
        ∀ id old new, state.db.documents id = some old → later.db.documents id = some new →
          old.version = new.version → old.content = new.content := by
  obtain ⟨state, hreach, hcheck⟩ := system.exists_reachable_of_exec
    (.init ⟨rfl, by decide, by decide⟩ : system.ReachableUnder WritesVersioned ⟨Database.empty, 0⟩)
    [.user ⟨1, "owner"⟩ (.create (some "notes") none),
      .user ⟨1, "owner"⟩ (.acquireLock 1 (some "EXCLUSIVE") none), .advance 1000000000,
      .user ⟨1, "owner"⟩ (.save 1 (some "draft")),
      .worker (.syncDocument (some 1) (some "draft") false),
      .advance 1000000000, .worker (.syncDocument (some 1) (some "final") true)]
    (fun state => (state.db.documents 1).any fun doc =>
      doc.version = 2 ∧ doc.content = some "final") (by decide +kernel)
  exact ⟨state, hreach, hcheck, (version_tracks_content hreach).2⟩

/-- A periodic sync writes a content under the version of another one. -/
theorem periodic_sync_keeps_version :
    ¬ ∀ state, system.Reachable state → ∀ event next, step state event = some next →
      ∀ id old new, state.db.documents id = some old → next.db.documents id = some new →
        old.content ≠ new.content → old.version < new.version := by
  intro hall
  obtain ⟨state, hreach, hcheck⟩ := system.exists_reachable_of_exec
    (.init ⟨rfl, by decide, by decide⟩ : system.Reachable ⟨Database.empty, 0⟩)
    [.user ⟨1, "owner"⟩ (.create (some "notes") none), .advance 1000000000]
    (fun state => (state.db.documents 1).any (·.content = some "")) (by decide +kernel)
  obtain ⟨doc, hdoc, hcontent⟩ := (Option.any_eq_true _ _).mp hcheck
  have hwritten : (committed state.db (WorkerDocumentSyncService.syncDocument state.db state.now
      (some 1) (some "typed") false)).documents 1 =
        some { doc with content := some "typed" } := by
    simp only [WorkerDocumentSyncService.syncDocument, hdoc,
      WorkerDocumentSyncRepository.updateContentAndRefreshCollaborativeLock]
    rw [WorkerDocumentSyncService.defaultLockTtl, (reachable_wellFormed hreach).2.plus_ok]
    simp [bind, Except.bind, pure, Except.pure]
  have hversion := hall state hreach (.worker (.syncDocument (some 1) (some "typed") false)) _ rfl 1
    doc _ hdoc hwritten (by simp [of_decide_eq_true hcontent])
  exact Int32.lt_irrefl hversion

end CollabEditor.Backend
