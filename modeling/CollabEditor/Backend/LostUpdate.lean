import CollabEditor.Backend.Effects

/-! # When a save overwrites an edit its author has not seen

A save is checked against the lock row of the moment only: the version a
client read is not part of its request. A history variable records, for each
document and client, whether somebody else's save has changed the content
since the client last read or saved it. A client is the account it acts for.
-/

namespace CollabEditor.Backend

open Foundation Database

/-- What happened so far, as far as lost updates are concerned. -/
structure History where
  /-- Another client's save has changed the content since this client last read
  or saved the document. -/
  outdated : DocumentId → UserId → Bool
  /-- The client has read or saved the document since its lock row was created. -/
  current : DocumentId → UserId → Bool
  /-- A save was accepted from a client whose copy was outdated. -/
  lost : Bool

namespace History

def empty : History where
  outdated := fun _ _ => false
  current := fun _ _ => false
  lost := false

variable (history : History) (id : DocumentId) (client : UserId)

/-- The client has seen the present content. -/
def read : History :=
  { history with
    outdated := Function.update history.outdated id
      (Function.update (history.outdated id) client false)
    current := Function.update history.current id
      (Function.update (history.current id) client true) }

/-- A save of the client was accepted; `changed` tells whether it altered the
content. -/
def save (changed : Bool) : History :=
  { outdated := Function.update history.outdated id fun other =>
      if other = client then false else history.outdated id other || changed
    current := Function.update history.current id
      (Function.update (history.current id) client true)
    lost := history.lost || history.outdated id client }

/-- The lock row of the document was created. -/
def renew : History :=
  { history with current := Function.update history.current id fun _ => false }

/-- Update the history with a committed request. A lock row counts as created
when there was none or an expired one before, and there is one afterwards. -/
def afterRequest (before next : Database) (now : Instant) (user : User) (request : Request)
    (reply : Reply) : History :=
  match request, reply with
  | .read id, .summary (some _) => history.read id user.id
  | .save id content, _ =>
      history.save id user.id ((before.documents id).map Document.content != some content)
  | request, _ =>
      match request.lockTarget with
      | some id =>
          if (before.documentLocks id).all (·.isExpired now) ∧ (next.documentLocks id).isSome then
            history.renew id
          else history
      | none => history

/-- Update the history with an event. -/
def record (before : State) : Event → History
  | .user user request =>
      match request.serve before.db before.now user with
      | .ok (reply, next) =>
          history.afterRequest before.db next before.now user request reply
      | .error _ => history
  | _ => history

end History

structure MonitoredState where
  state : State
  history : History

/-- The backend with its history. -/
def monitored : TransitionSystem MonitoredState Event where
  init monitor := system.init monitor.state ∧ monitor.history = .empty
  step monitor event := (system.step monitor.state event).map fun next =>
    ⟨next, monitor.history.record monitor.state event⟩

/-- The document a request saves. -/
def Request.saveTarget : Request → Option DocumentId
  | .save id _ => some id
  | _ => none

/-- The event is not a save that meets a collaborative lock, nor one under the
client's own exclusive lock that the client has not read or saved the document
since the row was created. -/
def SavesUnderReadLease (monitor : MonitoredState) : Event → Prop
  | .user user request =>
      ∀ id ∈ request.saveTarget, ∀ lock ∈ monitor.state.db.documentLocks id,
        lock.isExpired monitor.state.now = false →
          lock.lockType = .exclusive ∧
            (lock.isHeldBy user = true → monitor.history.current id user.id = true)
  | _ => True

instance (monitor : MonitoredState) :
    ∀ event, Decidable (SavesUnderReadLease monitor event)
  | .user user request => inferInstanceAs (Decidable (∀ id ∈ request.saveTarget,
      ∀ lock ∈ monitor.state.db.documentLocks id, lock.isExpired monitor.state.now = false →
        lock.lockType = .exclusive ∧
          (lock.isHeldBy user = true → monitor.history.current id user.id = true)))
  | .worker _ => isTrue trivial
  | .advance _ => isTrue trivial

namespace History

/-- The holder of an exclusive row who has read or saved the document since
the row was created has the present content. -/
def HolderCurrent (history : History) (locks : DocumentId → Option DocumentLock) : Prop :=
  ∀ id lock (user : User), locks id = some lock → lock.lockType = .exclusive →
    lock.isHeldBy user = true → history.current id user.id = true →
      history.outdated id user.id = false

namespace HolderCurrent

variable {history : History} {locks : DocumentId → Option DocumentLock}

theorem read (hcurrent : history.HolderCurrent locks) (id : DocumentId) (client : UserId) :
    (history.read id client).HolderCurrent locks := by
  intro other lock user hlock htype hheld hread
  by_cases hid : other = id
  · subst hid
    by_cases hclient : user.id = client
    · simp [History.read, hclient]
    · simp only [History.read, Function.update_self, Function.update_of_ne hclient] at hread ⊢
      exact hcurrent other lock user hlock htype hheld hread
  · simp only [History.read, Function.update_of_ne hid] at hread ⊢
    exact hcurrent other lock user hlock htype hheld hread

/-- A save that meets no row but the client's own. -/
theorem save (hcurrent : history.HolderCurrent locks) {id : DocumentId} {client : User}
    (hmine : ∀ lock, locks id = some lock → lock.isHeldBy client = true) (changed : Bool) :
    (history.save id client.id changed).HolderCurrent locks := by
  intro other lock user hlock htype hheld hread
  by_cases hid : other = id
  · subst hid
    have hsame : user.id = client.id := by
      have hmine := hmine lock hlock
      unfold DocumentLock.isHeldBy at hmine hheld
      cases hholder : lock.lockedByUser with
      | none => simp [hholder] at hheld
      | some holder =>
          simp only [hholder, beq_iff_eq] at hmine hheld
          exact hheld.symm.trans hmine
    simp [History.save, hsame]
  · simp only [History.save, Function.update_of_ne hid] at hread ⊢
    exact hcurrent other lock user hlock htype hheld hread

/-- Rewriting one row. A row that stays exclusive in the hands of its holder, or
one whose creation the history records, keeps the invariant. -/
theorem update (hcurrent : history.HolderCurrent locks) {id : DocumentId}
    {row : Option DocumentLock}
    (hrow : ∀ lock, row = some lock → lock.lockType = .exclusive → ∃ old,
      locks id = some old ∧ old.lockType = .exclusive ∧ old.lockedByUser = lock.lockedByUser) :
    history.HolderCurrent (Function.update locks id row) := by
  intro other lock user hlock htype hheld hread
  by_cases hid : other = id
  · subst hid
    rw [Function.update_self] at hlock
    obtain ⟨old, hold, holdtype, hholder⟩ := hrow lock hlock htype
    refine hcurrent other old user hold holdtype ?_ hread
    rwa [DocumentLock.isHeldBy, hholder]
  · rw [Function.update_of_ne hid] at hlock
    exact hcurrent other lock user hlock htype hheld hread

theorem renew (hcurrent : history.HolderCurrent locks) (id : DocumentId)
    (row : Option DocumentLock) :
    (history.renew id).HolderCurrent (Function.update locks id row) := by
  intro other lock user hlock htype hheld hread
  by_cases hid : other = id
  · subst hid
    simp [History.renew] at hread
  · rw [Function.update_of_ne hid] at hlock
    simp only [History.renew, Function.update_of_ne hid] at hread
    exact hcurrent other lock user hlock htype hheld hread

/-- A lock operation keeps the invariant with the history it leaves. -/
theorem lockEffect {db next : Database} {now : Instant} {id : DocumentId} {user : User}
    (hcurrent : history.HolderCurrent db.documentLocks)
    (heffect : LockEffect db next now id user) :
    (if (db.documentLocks id).all (·.isExpired now) ∧ (next.documentLocks id).isSome then
      history.renew id else history).HolderCurrent next.documentLocks := by
  obtain ⟨row, hchange, rfl⟩ := heffect
  rw [setLock_documentLocks, Function.update_self]
  split
  next => exact hcurrent.renew id row
  next hkept =>
    refine hcurrent.update fun lock hrow htype => ?_
    subst hrow
    generalize hbefore : db.documentLocks id = before at hchange hkept
    cases hchange with
    | keep => exact ⟨lock, rfl, htype, rfl⟩
    | create _ hfree hholder =>
        refine absurd ⟨?_, rfl⟩ hkept
        simpa [Option.all_eq_true] using hfree
    | extend hlive hheld hsame hholder => exact ⟨_, rfl, hsame ▸ htype, hholder.symm⟩
    | share hlive _ hheld hshared hholder => simp [hshared] at htype

/-- A worker operation leaves no exclusive row where it wrote one. -/
theorem workerEffect {db next : Database} {now : Instant} {operation : WorkerOperation}
    (hcurrent : history.HolderCurrent db.documentLocks)
    (heffect : WorkerEffect db now operation next) :
    history.HolderCurrent next.documentLocks := by
  cases heffect with
  | periodic doc expiresAt hdoc =>
      refine hcurrent.update fun lock hrow htype => ?_
      cases hrow
      cases htype
  | final doc hdoc => exact hcurrent.update fun lock hrow => by cases hrow
  | release id => exact hcurrent.update fun lock hrow => by cases hrow
  | acquireNew lock hdocument hfree hshared hholder =>
      refine hcurrent.update fun found hrow htype => ?_
      cases hrow
      rw [hshared] at htype
      cases htype
  | acquireExtend old lock hold hlive hshared hsame hholder =>
      refine hcurrent.update fun found hrow htype => ?_
      cases hrow
      rw [hsame, hshared] at htype
      cases htype

/-- A request that is not about a lock row. -/
theorem afterRequest {before next : Database} {now : Instant} {user : User} {request : Request}
    {reply : Reply} (hcurrent : history.HolderCurrent locks) (htarget : request.lockTarget = none)
    (hmine : ∀ id content, request = .save id content →
      ∀ lock, locks id = some lock → lock.isHeldBy user = true) :
    (history.afterRequest before next now user request reply).HolderCurrent locks := by
  unfold History.afterRequest
  split
  next => exact hcurrent.read _ _
  next _ id content => exact hcurrent.save (hmine id content rfl) _
  next => simpa only [htarget] using hcurrent

/-- A committed request keeps the invariant with the history it leaves, when a
save meets no row but the client's own. -/
theorem requestEffect {db next : Database} {now : Instant} {user : User} {request : Request}
    {reply : Reply} (hcurrent : history.HolderCurrent db.documentLocks)
    (heffect : RequestEffect db now user request next)
    (hmine : ∀ id content, request = .save id content →
      ∀ lock, db.documentLocks id = some lock → lock.isHeldBy user = true) :
    (history.afterRequest db next now user request reply).HolderCurrent next.documentLocks := by
  cases heffect with
  | unchanged htarget hdocuments hlocks hpermissions hid =>
      exact hlocks ▸ hcurrent.afterRequest htarget hmine
  | create doc howner hdocuments hlocks hpermissions hid => exact hlocks ▸ hcurrent
  | save doc lock hdoc hedit hlock hlive hheld => exact hcurrent.afterRequest rfl hmine
  | lock htarget hdocument heffect =>
      have hafter := hcurrent.lockEffect heffect
      unfold History.afterRequest
      split
      next => cases htarget
      next => cases htarget
      next => simpa only [htarget] using hafter
  | delete doc hdoc howner hdocuments hlocks hpermissions hid =>
      rw [hlocks]
      exact hcurrent.update fun lock hrow => by cases hrow
  | grant row htarget hdocument hfresh hdocuments hlocks hpermissions hid =>
      exact hlocks ▸ hcurrent.afterRequest htarget hmine

end HolderCurrent

/-- Only an accepted save of an outdated copy loses an update. -/
theorem afterRequest_lost {history : History} {before next : Database} {now : Instant}
    {user : User} {request : Request} {reply : Reply} (hlost : history.lost = false)
    (hsave : ∀ id content, request = .save id content → history.outdated id user.id = false) :
    (history.afterRequest before next now user request reply).lost = false := by
  unfold afterRequest
  split
  next => exact hlost
  next _ id content => simp [save, hlost, hsave id content rfl]
  next =>
    split
    next => split <;> exact hlost
    next => exact hlost

end History

/-- An accepted save that meets the guard is made under the saver's own row and
with the present content. -/
theorem SavesUnderReadLease.save_current {monitor : MonitoredState} {user : User}
    {id : DocumentId} {content : Option String} {saved : Document} {next : Database}
    (hguard : SavesUnderReadLease monitor (.user user (.save id content)))
    (hcurrent : monitor.history.HolderCurrent monitor.state.db.documentLocks)
    (hok : DocumentService.saveDocument monitor.state.db monitor.state.now id user content =
      .ok (saved, next)) :
    (∀ lock, monitor.state.db.documentLocks id = some lock → lock.isHeldBy user = true) ∧
      monitor.history.outdated id user.id = false := by
  obtain ⟨doc, lock, hdoc, hedit, hlock, hlive, hheld, rfl⟩ := DocumentService.saveDocument_ok hok
  obtain ⟨htype, hread⟩ := hguard id rfl lock hlock hlive
  have hmine := hheld htype
  refine ⟨?_, hcurrent id lock user hlock htype hmine (hread hmine)⟩
  intro found hfound
  rw [hlock, Option.some.injEq] at hfound
  exact hfound ▸ hmine

/-- In every run in which each save meets the saver's own exclusive lock, and
the saver has read or saved the document since that lock row was created, no
accepted save overwrites an edit its author has not seen. -/
theorem guarded_saves_lose_no_update {monitor : MonitoredState}
    (hreach : monitored.ReachableUnder SavesUnderReadLease monitor) :
    monitor.history.lost = false := by
  suffices hinvariant : monitor.history.lost = false ∧
      monitor.history.HolderCurrent monitor.state.db.documentLocks from hinvariant.1
  refine hreach.invariant monitored (fun monitor => monitor.history.lost = false ∧
    monitor.history.HolderCurrent monitor.state.db.documentLocks) ?_ ?_
  · rintro monitor ⟨⟨hdb, -⟩, hhistory⟩
    rw [hhistory, hdb]
    exact ⟨rfl, fun id lock user hlock => by cases hlock⟩
  · rintro ⟨⟨db, now⟩, history⟩ event next - ⟨hlost, hcurrent⟩ hguard hstep
    obtain ⟨state, hstate, rfl⟩ := Option.map_eq_some_iff.mp hstep
    cases step_cases hstate with
    | request user request reply written hserve =>
        dsimp only [History.record]
        rw [hserve]
        have hsave : ∀ id content, request = .save id content →
            (∀ lock, db.documentLocks id = some lock → lock.isHeldBy user = true) ∧
              history.outdated id user.id = false := by
          rintro id content rfl
          simp only [Request.serve, Except.bind_eq_ok_iff, Prod.exists] at hserve
          obtain ⟨saved, committed, hok, -⟩ := hserve
          exact hguard.save_current hcurrent hok
        exact ⟨History.afterRequest_lost hlost fun id content hrequest =>
            (hsave id content hrequest).2,
          hcurrent.requestEffect (Request.serve_effect hserve) fun id content hrequest =>
            (hsave id content hrequest).1⟩
    | refuse user request error herror =>
        dsimp only [History.record]
        rw [herror]
        exact ⟨hlost, hcurrent⟩
    | operation operation next hok =>
        exact ⟨hlost, hcurrent.workerEffect (WorkerOperation.serve_effect hok)⟩
    | fail | advance => exact ⟨hlost, hcurrent⟩

/-- The owner and an editor take turns, each reading under the own lock. -/
def turnsRun : List Event :=
  [.user ⟨1, "owner"⟩ (.create (some "notes") (some "draft")),
    .user ⟨1, "owner"⟩ (.createInvite 1 false none "invite"),
    .user ⟨2, "editor"⟩ (.useInvite "invite"),
    .user ⟨1, "owner"⟩ (.processRequest 1 true (some "editor")),
    .user ⟨2, "editor"⟩ (.acquireLock 1 (some "EXCLUSIVE") none),
    .user ⟨2, "editor"⟩ (.read 1),
    .user ⟨2, "editor"⟩ (.save 1 (some "editor's edit")),
    .user ⟨2, "editor"⟩ (.releaseLock 1),
    .user ⟨1, "owner"⟩ (.acquireLock 1 (some "EXCLUSIVE") none),
    .user ⟨1, "owner"⟩ (.read 1),
    .user ⟨1, "owner"⟩ (.save 1 (some "owner's edit"))]

theorem guarded_saves_taking_turns : ∃ monitor,
    monitored.ReachableUnder SavesUnderReadLease monitor ∧
    (monitor.state.db.documents 1).map Document.content = some (some "owner's edit") ∧
    monitor.history.lost = false := by
  obtain ⟨monitor, hreach, hcontent⟩ := monitored.exists_reachable_of_exec
    (.init ⟨⟨rfl, by decide, by decide⟩, rfl⟩ :
      monitored.ReachableUnder SavesUnderReadLease ⟨⟨Database.empty, 0⟩, .empty⟩)
    turnsRun
    (fun monitor => (monitor.state.db.documents 1).map Document.content =
      some (some "owner's edit")) (by decide)
  exact ⟨monitor, hreach, of_decide_eq_true hcontent, guarded_saves_lose_no_update hreach⟩

/-- User 2 reads the document and takes the lock, lets it lapse while the owner
edits, and gets it back through a refresh. -/
def lapsedRun : List Event :=
  [.user ⟨1, "owner"⟩ (.create (some "notes") (some "draft")),
    .user ⟨1, "owner"⟩ (.createInvite 1 false none "invite"),
    .user ⟨2, "editor"⟩ (.useInvite "invite"),
    .user ⟨1, "owner"⟩ (.processRequest 1 true (some "editor")),
    .user ⟨2, "editor"⟩ (.read 1),
    .user ⟨2, "editor"⟩ (.acquireLock 1 (some "EXCLUSIVE") none),
    .advance 600000000000,
    .user ⟨1, "owner"⟩ (.read 1),
    .user ⟨1, "owner"⟩ (.acquireLock 1 (some "EXCLUSIVE") none),
    .user ⟨1, "owner"⟩ (.save 1 (some "owner's edit")),
    .user ⟨1, "owner"⟩ (.releaseLock 1),
    .user ⟨2, "editor"⟩ (.refreshLock 1 none),
    .user ⟨2, "editor"⟩ (.save 1 (some "editor's edit"))]

/-- Without the guard an update is lost. -/
theorem refreshed_lock_loses_update :
    ¬ ∀ monitor, monitored.Reachable monitor → monitor.history.lost = false := by
  intro hsafe
  obtain ⟨monitor, hreach, hlost⟩ := monitored.exists_reachable_of_exec
    (.init ⟨⟨rfl, by decide, by decide⟩, rfl⟩ : monitored.Reachable ⟨⟨Database.empty, 0⟩, .empty⟩)
    lapsedRun (fun monitor => monitor.history.lost) (by decide)
  rw [hsafe monitor hreach] at hlost
  cases hlost

end CollabEditor.Backend
