import CollabEditor.Backend.LostUpdate
import CollabEditor.Frontend.PageVisits
import CollabEditor.Platform.Entrances

/-! # Many workspace pages before one backend

Any number of tabs, of any users, show the workspace page. The requests of their visits and their
saves reach the backend in any order, among whatever else happens there. What a lock is worth to
a page is what its lease is worth: as long as the user has held one without a break, the stored
text is the one that this tab has last read or written.
-/

namespace CollabEditor.Platform

open Foundation Backend Frontend

/-! ## On the wire -/

/-- How the page words an error and reads a time stamp. -/
structure PageTexts where
  describeError : ServiceError → String
  lastModified : Instant → String

/-- A lock without a holder is no exclusive one, and the page does not ask for its name. -/
def pageLock (dto : Backend.DocumentLockDto) : Frontend.DocumentLockDto where
  lockedByUsername := dto.lockedByUsername.getD ""
  lockType := gateLockType dto.lockType

/-- A document without a content row is shown empty. -/
def PageTexts.openedDocument (texts : PageTexts) (summary : DocumentService.Summary) :
    OpenedDocument String where
  title := summary.title
  content := summary.content.getD ""
  myPermission := docPermission summary.myPermission
  version := summary.version.toInt
  lastModified := texts.lastModified summary.lastModified

def PageTexts.savedDocument (texts : PageTexts) (dto : DocumentResponseDto) : SavedDocument where
  title := dto.title
  version := dto.version.toInt
  lastModified := texts.lastModified dto.lastModified

/-- The body of a read. -/
def replySummary : Reply → Option DocumentService.Summary
  | .summary summary => summary
  | _ => none

/-- How an answer reaches the visit. A read without a body does not. -/
def PageTexts.visitEvent (texts : PageTexts) (user : User) (stage : LoadStage) :
    Except ServiceError Reply → Option VisitingPage.Event
  | .error error =>
      if stage = .lookup ∧ errorStatus error = 404 then some (.lookedUp none (some user.username))
      else some (.loadFailed (texts.describeError error))
  | .ok reply =>
      match stage with
      | .lookup => some (.lookedUp ((replyLock reply).map pageLock) (some user.username))
      | .lock => some .locked
      | .document => (replySummary reply).map fun summary =>
          .document (texts.openedDocument summary)

/-- How an answer reaches the `await` of `saveDocument`. -/
def PageTexts.saveEvent (texts : PageTexts) : Except ServiceError Reply → Option VisitingPage.Event
  | .error error => some (.saveFailed (texts.describeError error))
  | .ok (.document dto) => some (.saved (texts.savedDocument dto))
  | .ok _ => none

/-! ## The system -/

/-- A tab of a user. The last two fields are records. -/
structure WorkspaceTab where
  user : User
  page : VisitingPage
  /-- What the backend has answered to the request that the visit waits for. -/
  answer : Option (Except ServiceError Reply)
  /-- The save that has not reached the backend, and the answer to one that has. -/
  sent : Option (Int × String)
  saveAnswer : Option (Except ServiceError Reply)
  /-- The user has had a lease on the document ever since the visit was granted the lock. -/
  leased : Bool
  /-- The content of the document as the visit has last read or the tab has last written it. -/
  known : Option (Option String)

namespace WorkspaceTab

inductive Event
  /-- The user, the router or Angular. -/
  | act (event : VisitingPage.Event)
  /-- The backend serves the request that the visit waits for. -/
  | serve
  | deliver
  /-- The request or its answer is lost. -/
  | lose (message : String)
  | serveSave
  | deliverSave
  | loseSave (message : String)

def fresh (user : User) (routeDocumentId : Option Int) : WorkspaceTab :=
  ⟨user, .fresh routeDocumentId, none, none, none, false, none⟩

variable (texts : PageTexts) (state : State) (tab : WorkspaceTab)

/-- A subscription ends with its visit; a save goes on. -/
def acted (event : VisitingPage.Event) (page : VisitingPage) : WorkspaceTab :=
  { tab with
    page := page
    answer := if event.endsVisit then none else tab.answer
    sent := (tab.page.newSave page).or tab.sent
    leased := tab.leased && !event.endsVisit
    known := if event.endsVisit then none else tab.known }

/-- The backend has served the request of the visit. -/
def served (stage : LoadStage) (outcome : Except ServiceError (Reply × Database)) :
    WorkspaceTab :=
  { tab with
    answer := some (outcome.map Prod.fst)
    leased := if stage = .lock then outcome.isOk else tab.leased
    known := match stage, outcome with
      | .document, .ok (reply, _) => (replySummary reply).map DocumentService.Summary.content
      | .lock, _ => none
      | _, _ => tab.known }

/-- The backend has served a save. -/
def servedSave (documentId : Int) (content : String)
    (outcome : Except ServiceError (Reply × Database)) : WorkspaceTab :=
  { tab with
    sent := none
    saveAnswer := some (outcome.map Prod.fst)
    known := if outcome.isOk = true ∧ tab.page.visit = some documentId then some (some content)
      else tab.known }

/-- What the event asks of the backend. -/
def request : Event → Option Request
  | .serve => if tab.answer.isSome then none else
      tab.page.visit.bind fun documentId => tab.page.stage.map (gateRequest documentId)
  | .serveSave => tab.sent.map fun save => .save save.1 (some save.2)
  | .act _ | .deliver | .lose _ | .deliverSave | .loseSave _ => none

def step : Event → Option WorkspaceTab
  | .act event =>
      if event.source = .browser then (tab.page.step event).map (tab.acted event) else none
  | .serve => (tab.request .serve).bind fun request =>
      tab.page.stage.map fun stage => tab.served stage (request.serve state.db state.now tab.user)
  | .deliver => tab.page.stage.bind fun stage =>
      (tab.answer.bind (texts.visitEvent tab.user stage)).bind fun event =>
        (tab.page.step event).map fun page => { tab with page := page, answer := none }
  | .lose message => (tab.page.step (.loadFailed message)).map fun page =>
      { tab with page := page, answer := none }
  | .serveSave => tab.sent.map fun save => tab.servedSave save.1 save.2
      ((Request.save save.1 (some save.2)).serve state.db state.now tab.user)
  | .deliverSave => (tab.saveAnswer.bind texts.saveEvent).bind fun event =>
      (tab.page.step event).map fun page => { tab with page := page, saveAnswer := none }
  | .loseSave message => (tab.page.step (.saveFailed message)).map fun page =>
      { tab with page := page, sent := none, saveAnswer := none }

end WorkspaceTab

/-- The user has an unexpired lease on the document that has not been given back. -/
def holdsLease (backend : LeasedState) (user : User) (documentId : Int) : Bool :=
  backend.leases.any fun lease => lease.documentId = documentId ∧ lease.holder.id = user.id ∧
    backend.state.now ≤ lease.expiresAt

/-- The record of the lease is brought up to date. -/
def WorkspaceTab.watch (backend : LeasedState) (tab : WorkspaceTab) : WorkspaceTab :=
  { tab with leased := tab.leased && tab.page.visit.any (holdsLease backend tab.user) }

/-- The backend serves a request, if there is one. -/
def serveRequest (backend : LeasedState) (user : User) : Option Request → Option LeasedState
  | none => some backend
  | some request => leasing.step backend (.user user request)

structure Workspaces where
  backend : LeasedState
  tabs : List WorkspaceTab

namespace Workspaces

variable (texts : PageTexts) (workspaces : Workspaces)

inductive Event
  | openTab (user : User) (routeDocumentId : Option Int)
  | tab (index : Nat) (event : WorkspaceTab.Event)
  /-- Whatever else happens at the backend: the lock refresh and the unlock of the pages too. -/
  | backend (event : Backend.Event)

def step : Event → Option Workspaces
  | .openTab user routeDocumentId =>
      some { workspaces with tabs := workspaces.tabs ++ [.fresh user routeDocumentId] }
  | .tab index event =>
      (workspaces.tabs[index]?).bind fun tab =>
        (tab.step texts workspaces.backend.state event).bind fun next =>
          (serveRequest workspaces.backend tab.user (tab.request event)).map fun backend =>
            ⟨backend, (workspaces.tabs.set index next).map (WorkspaceTab.watch backend)⟩
  | .backend event =>
      (leasing.step workspaces.backend event).map fun backend =>
        ⟨backend, workspaces.tabs.map (WorkspaceTab.watch backend)⟩

def system : TransitionSystem Workspaces Event where
  init workspaces := leasing.init workspaces.backend ∧ workspaces.tabs = []
  step := step texts

/-- The event does not save the document that one of the tabs shows under a lease of its own
user. -/
def SavesElsewhere (tabs : List WorkspaceTab) : Backend.Event → Prop
  | .user user request => ∀ documentId ∈ request.saveTarget, ∀ tab ∈ tabs, tab.leased = true →
      tab.page.visit = some documentId → tab.user.id ≠ user.id
  | .worker _ | .advance _ => True

instance (tabs : List WorkspaceTab) :
    (event : Backend.Event) → Decidable (SavesElsewhere tabs event)
  | .user user request => inferInstanceAs (Decidable (∀ documentId ∈ request.saveTarget,
      ∀ tab ∈ tabs, tab.leased = true → tab.page.visit = some documentId →
        tab.user.id ≠ user.id))
  | .worker _ | .advance _ => isTrue trivial

/-- Nobody takes another's lease away, and what a user saves under a lease is saved in one tab. -/
def Undisturbed (workspaces : Workspaces) : Event → Prop
  | .openTab _ _ => True
  | .tab index event => ∀ tab ∈ workspaces.tabs[index]?, ∀ request ∈ tab.request event,
      SparesLeases workspaces.backend (.user tab.user request) ∧
        SavesElsewhere (workspaces.tabs.eraseIdx index) (.user tab.user request)
  | .backend event =>
      SparesLeases workspaces.backend event ∧ SavesElsewhere workspaces.tabs event

instance (workspaces : Workspaces) : (event : Event) → Decidable (workspaces.Undisturbed event)
  | .openTab _ _ => isTrue trivial
  | .tab index event => inferInstanceAs (Decidable (∀ tab ∈ workspaces.tabs[index]?,
      ∀ request ∈ tab.request event, SparesLeases workspaces.backend (.user tab.user request) ∧
        SavesElsewhere (workspaces.tabs.eraseIdx index) (.user tab.user request)))
  | .backend event => inferInstanceAs (Decidable
      (SparesLeases workspaces.backend event ∧ SavesElsewhere workspaces.tabs event))

end Workspaces

/-! ## What a page knows -/

namespace WorkspaceTab

/-- The visit has been granted its lock. -/
def HasLock (tab : WorkspaceTab) : Prop :=
  tab.page.stage = some .document ∨ tab.page.lockHeld = true ∨
    tab.page.stage = some .lock ∧ ∃ reply, tab.answer = some (.ok reply)

/-- The visit has read its document. -/
def HasRead (tab : WorkspaceTab) : Prop :=
  tab.page.lockHeld = true ∨
    tab.page.stage = some .document ∧ ∃ summary, tab.answer = some (.ok (.summary (some summary)))

/-- The stored content of the document is the one the tab knows. -/
def KnowsContent (backend : LeasedState) (tab : WorkspaceTab) : Prop :=
  ∀ documentId content, tab.page.visit = some documentId → tab.known = some content →
    (backend.state.db.documents documentId).map Document.content = some content

/-- A page that holds its lock was granted it and has read its document; under an unbroken lease
it knows the stored content. -/
structure Sound (backend : LeasedState) (tab : WorkspaceTab) : Prop where
  page : tab.page.Sound
  granted : tab.HasLock → ∀ documentId, tab.page.visit = some documentId →
    ∃ lease ∈ backend.granted, lease.documentId = documentId ∧ lease.holder = tab.user
  read : tab.HasRead → tab.known.isSome = true
  holds : tab.leased = true → tab.page.visit.any (holdsLease backend tab.user) = true
  knows : tab.leased = true → tab.KnowsContent backend

variable {texts : PageTexts} {backend after : LeasedState} {tab next : WorkspaceTab}

/-- The record of the lease is kept up to date by `watch`. -/
theorem Sound.of_watch (hpage : tab.page.Sound)
    (hgranted : tab.HasLock → ∀ documentId, tab.page.visit = some documentId →
      ∃ lease ∈ backend.granted, lease.documentId = documentId ∧ lease.holder = tab.user)
    (hread : tab.HasRead → tab.known.isSome = true)
    (hknows : tab.leased = true → tab.page.visit.any (holdsLease backend tab.user) = true →
      tab.KnowsContent backend) : (tab.watch backend).Sound backend where
  page := hpage
  granted := hgranted
  read := hread
  holds hleased := (Bool.and_eq_true_iff.mp hleased).2
  knows hleased := hknows (Bool.and_eq_true_iff.mp hleased).1 (Bool.and_eq_true_iff.mp hleased).2

theorem KnowsContent.congr (h : tab.KnowsContent backend)
    (hvisit : next.page.visit = tab.page.visit) (hknown : next.known = tab.known) :
    next.KnowsContent backend := by
  unfold KnowsContent
  rw [hvisit, hknown]
  exact h

/-- A lease stays granted. -/
theorem Sound.granted_step (h : tab.Sound backend) {event : Backend.Event}
    (hstep : leasing.step backend event = some after) (hlock : tab.HasLock) {documentId : Int}
    (hvisit : tab.page.visit = some documentId) :
    ∃ lease ∈ after.granted, lease.documentId = documentId ∧ lease.holder = tab.user := by
  obtain ⟨lease, hlease, hpair⟩ := h.granted hlock documentId hvisit
  exact ⟨lease, (Later.step hstep).granted hlease, hpair⟩

theorem holdsLease_iff {user : User} {documentId : Int} :
    holdsLease backend user documentId = true ↔ ∃ lease ∈ backend.leases,
      lease.documentId = documentId ∧ lease.holder.id = user.id ∧
        backend.state.now ≤ lease.expiresAt := by
  simp [holdsLease]

/-- As long as the lease goes on and the tab's user does not save the document, the tab knows its
content. -/
theorem Sound.knows_step (h : tab.Sound backend) (hleased : tab.leased = true)
    (hbackend : leasing.ReachableUnder SparesLeases backend) {event : Backend.Event}
    (hspares : SparesLeases backend event) (hstep : leasing.step backend event = some after)
    (hsaves : ∀ documentId user content, tab.page.visit = some documentId →
      event = .user user (.save documentId content) → tab.user.id ≠ user.id)
    (hholds : tab.page.visit.any (holdsLease after tab.user) = true) : tab.KnowsContent after := by
  intro documentId content hvisit hknown
  have hbefore := h.knows hleased documentId content hvisit hknown
  have hheld := h.holds hleased
  rw [hvisit, Option.any_some, holdsLease_iff] at hheld hholds
  obtain ⟨lease, hlease, rfl, huser, hnow⟩ := hheld
  obtain ⟨other, hother, hdocument, -, hunexpired⟩ := hholds
  have hkept := LeasedState.reachable_kept hbackend lease hlease hnow
  have hafter := LeasedState.reachable_kept (hbackend.step hspares hstep) other hother hunexpired
  have hdb := (reachable_wellFormed (LeasedState.reachable_system hbackend)).1
  have hrow : after.state.db.documentLocks lease.documentId ≠ none := by
    obtain ⟨lock, hlock, -⟩ := hafter
    rw [← hdocument, hlock]
    exact Option.some_ne_none lock
  obtain ⟨state, hstate, rfl⟩ := Option.map_eq_some_iff.mp hstep
  rcases hkept.documents_step hdb (hspares lease hlease hnow) hstate hrow with
    hsame | ⟨user, written, hsave, hholder⟩
  · exact (congrArg _ hsame).trans hbefore
  · exact absurd (huser.symm.trans hholder.symm) (hsaves _ user written hvisit hsave)

/-- A tab that nothing happens to. -/
theorem Sound.spared (h : tab.Sound backend)
    (hbackend : leasing.ReachableUnder SparesLeases backend) {event : Backend.Event}
    (hspares : SparesLeases backend event) (hstep : leasing.step backend event = some after)
    (hsaves : ∀ documentId user content, tab.page.visit = some documentId →
      event = .user user (.save documentId content) → tab.leased = true → tab.user.id ≠ user.id) :
    (tab.watch after).Sound after := by
  refine .of_watch h.page (fun hlock _ hvisit => h.granted_step hstep hlock hvisit) h.read
    fun hleased hholds => h.knows_step hleased hbackend hspares hstep ?_ hholds
  exact fun documentId user content hvisit hsave =>
    hsaves documentId user content hvisit hsave hleased

/-- The backend does nothing. -/
theorem Sound.idle (h : tab.Sound backend) : (tab.watch backend).Sound backend :=
  .of_watch h.page h.granted h.read fun hleased _ => h.knows hleased

end WorkspaceTab

/-! ## What happens to one tab -/

theorem PageTexts.visitEvent_cases {texts : PageTexts} {user : User} {stage : LoadStage}
    {outcome : Except ServiceError Reply} {event : VisitingPage.Event}
    (hevent : texts.visitEvent user stage outcome = some event) :
    event.source = .visit ∧ (event = .locked → ∃ reply, outcome = .ok reply) ∧
      ∀ doc, event = .document doc → ∃ summary, outcome = .ok (.summary (some summary)) := by
  cases outcome with
  | error error =>
      dsimp only [visitEvent] at hevent
      split at hevent
      next => cases hevent; exact ⟨rfl, nofun, nofun⟩
      next => cases hevent; exact ⟨rfl, nofun, nofun⟩
  | ok reply =>
      cases stage with
      | lookup => cases hevent; exact ⟨rfl, nofun, nofun⟩
      | lock => cases hevent; exact ⟨rfl, fun _ => ⟨reply, rfl⟩, nofun⟩
      | document =>
          obtain ⟨summary, hsummary, rfl⟩ := Option.map_eq_some_iff.mp hevent
          refine ⟨rfl, nofun, fun _ _ => ⟨summary, ?_⟩⟩
          cases reply <;> cases hsummary
          rfl

theorem PageTexts.saveEvent_source {texts : PageTexts} {outcome : Except ServiceError Reply}
    {event : VisitingPage.Event} (hevent : texts.saveEvent outcome = some event) :
    event.source = .save := by
  cases outcome with
  | error error => cases hevent; rfl
  | ok reply => cases reply <;> cases hevent; rfl

namespace WorkspaceTab

variable {texts : PageTexts} {backend after : LeasedState} {tab : WorkspaceTab}
  {page : VisitingPage} {event : VisitingPage.Event}

theorem Sound.fresh (user : User) (routeDocumentId : Option Int) :
    (fresh user routeDocumentId).Sound backend where
  page := .fresh routeDocumentId
  granted _ _ hvisit := by cases hvisit
  read hread := by rcases hread with hheld | ⟨hstage, -⟩ <;> contradiction
  holds := nofun
  knows := nofun

/-- The browser. -/
theorem Sound.act (h : tab.Sound backend) (hevent : event.source = .browser)
    (hstep : tab.page.step event = some page) :
    ((tab.acted event page).watch backend).Sound backend := by
  rcases h.page.step_browser hevent hstep with
    ⟨hends, hstage, hheld⟩ | ⟨hgoes, hvisit, hstage, hheld⟩
  · refine .of_watch (h.page.step hstep) ?_ ?_ ?_
    · rintro (hdocument | hshown | ⟨-, reply, hanswer⟩)
      · rcases hstage with hstage | hstage <;> cases hstage.symm.trans hdocument
      · cases hheld.symm.trans hshown
      · simp [acted, hends] at hanswer
    · rintro (hshown | ⟨-, summary, hanswer⟩)
      · cases hheld.symm.trans hshown
      · simp [acted, hends] at hanswer
    · intro hleased
      simp [acted, hends] at hleased
  · have hacted : tab.acted event page =
        { tab with page := page, sent := (tab.page.newSave page).or tab.sent } := by
      simp [acted, hgoes]
    rw [hacted]
    refine .of_watch (h.page.step hstep) ?_ ?_ ?_
    · simpa only [HasLock, hstage, hheld, hvisit] using h.granted
    · simpa only [HasRead, hstage, hheld] using h.read
    · exact fun hleased _ => (h.knows hleased).congr hvisit rfl

/-- The answer to the request of the visit arrives. -/
theorem Sound.deliver (h : tab.Sound backend) {stage : LoadStage}
    {outcome : Except ServiceError Reply} (hanswer : tab.answer = some outcome)
    (hevent : texts.visitEvent tab.user stage outcome = some event)
    (hstep : tab.page.step event = some page) :
    (watch backend { tab with page := page, answer := none }).Sound backend := by
  obtain ⟨hsource, hlocked, hdocument⟩ := PageTexts.visitEvent_cases hevent
  obtain ⟨hvisit, hwaits, hshows⟩ := h.page.step_visit hsource hstep
  refine .of_watch (h.page.step hstep) ?_ ?_ ?_
  · rw [hvisit]
    rintro (hnext | hshown | ⟨-, _, hnone⟩)
    · obtain ⟨rfl, hlock⟩ := hwaits hnext
      obtain ⟨reply, rfl⟩ := hlocked rfl
      exact h.granted (.inr (.inr ⟨hlock, reply, hanswer⟩))
    · exact h.granted (.inl (hshows hshown).2)
    · cases hnone
  · rintro (hshown | ⟨-, _, hnone⟩)
    · obtain ⟨⟨doc, rfl⟩, hread⟩ := hshows hshown
      obtain ⟨summary, rfl⟩ := hdocument doc rfl
      exact h.read (.inr ⟨hread, summary, hanswer⟩)
    · cases hnone
  · exact fun hleased _ => (h.knows hleased).congr hvisit rfl

/-- The request of the visit, or its answer, is lost. -/
theorem Sound.lose (h : tab.Sound backend) {message : String}
    (hstep : tab.page.step (.loadFailed message) = some page) :
    (watch backend { tab with page := page, answer := none }).Sound backend := by
  obtain ⟨hvisit, hwaits, hshows⟩ := h.page.step_visit rfl hstep
  refine .of_watch (h.page.step hstep) ?_ ?_ ?_
  · rintro (hnext | hshown | ⟨-, _, hnone⟩)
    · cases (hwaits hnext).1
    · obtain ⟨⟨doc, hdocument⟩, -⟩ := hshows hshown
      cases hdocument
    · cases hnone
  · rintro (hshown | ⟨-, _, hnone⟩)
    · obtain ⟨⟨doc, hdocument⟩, -⟩ := hshows hshown
      cases hdocument
    · cases hnone
  · exact fun hleased _ => (h.knows hleased).congr hvisit rfl

/-- A save is answered, or lost. -/
theorem Sound.answerSave (h : tab.Sound backend) (hevent : event.source = .save)
    (hstep : tab.page.step event = some page) (sent : Option (Int × String)) :
    (watch backend { tab with page := page, sent := sent, saveAnswer := none }).Sound
      backend := by
  obtain ⟨hvisit, hstage, hheld⟩ := VisitingPage.step_save hevent hstep
  refine .of_watch (h.page.step hstep) ?_ ?_ ?_
  · simpa only [HasLock, hstage, hheld, hvisit] using h.granted
  · simpa only [HasRead, hstage, hheld] using h.read
  · exact fun hleased _ => (h.knows hleased).congr hvisit rfl

end WorkspaceTab

/-! ## Requests -/

namespace WorkspaceTab

variable {texts : PageTexts} {backend after : LeasedState} {tab : WorkspaceTab}

theorem map_fst_eq_ok {outcome : Except ServiceError (Reply × Database)} {reply : Reply}
    (hreply : outcome.map Prod.fst = .ok reply) : ∃ next, outcome = .ok (reply, next) := by
  cases outcome with
  | error error => cases hreply
  | ok result =>
      cases hreply
      exact ⟨result.2, rfl⟩

/-- A committed save is what is stored. -/
theorem save_stores {db next : Database} {now : Instant} {user : User} {documentId : Int}
    {content : Option String} {reply : Reply}
    (hok : (Request.save documentId content).serve db now user = .ok (reply, next)) :
    (next.documents documentId).map Document.content = some content := by
  simp only [Request.serve, Except.bind_eq_ok_iff, Except.pure_eq_ok_iff, Prod.mk.injEq,
    Prod.exists] at hok
  obtain ⟨saved, written, hsave, -, rfl⟩ := hok
  obtain ⟨doc, lock, -, -, -, -, -, rfl⟩ := DocumentService.saveDocument_ok hsave
  simp

/-- A read gives what is stored. -/
theorem read_stored {db next : Database} {now : Instant} {user : User} {documentId : Int}
    {reply : Reply} {content : Option String}
    (hok : (Request.read documentId).serve db now user = .ok (reply, next))
    (hread : (replySummary reply).map DocumentService.Summary.content = some content) :
    (next.documents documentId).map Document.content = some content := by
  simp only [Request.serve, Except.ok.injEq, Prod.mk.injEq] at hok
  obtain ⟨rfl, rfl⟩ := hok
  obtain ⟨summary, hsummary, rfl⟩ := Option.map_eq_some_iff.mp hread
  rw [replySummary, DocumentService.getDocumentSummaryWithContent] at hsummary
  split at hsummary
  next row doc hrow hdoc =>
    cases hsummary
    rw [hdoc]
    rfl
  next => cases hsummary

/-- The request of the visit is served. -/
theorem Sound.serve (h : tab.Sound backend)
    (hbackend : leasing.ReachableUnder SparesLeases backend) {documentId : Int} {stage : LoadStage}
    (hvisit : tab.page.visit = some documentId) (hstage : tab.page.stage = some stage)
    (hspares : SparesLeases backend (.user tab.user (gateRequest documentId stage)))
    (hstep : leasing.step backend (.user tab.user (gateRequest documentId stage)) = some after) :
    (watch after (tab.served stage ((gateRequest documentId stage).serve backend.state.db
      backend.state.now tab.user))).Sound after := by
  have hheld := (h.page.waiting stage hstage).2.1
  refine .of_watch h.page ?_ ?_ ?_
  · rintro hlock other hother
    obtain rfl : documentId = other := Option.some.inj (hvisit.symm.trans hother)
    rcases hlock with hdocument | hshown | ⟨hwaits, reply, hanswer⟩
    · exact h.granted_step hstep (.inl hdocument) hvisit
    · cases hheld.symm.trans hshown
    · obtain rfl : stage = .lock := Option.some.inj (hstage.symm.trans hwaits)
      obtain ⟨next, hok⟩ := map_fst_eq_ok (Option.some.inj hanswer)
      obtain ⟨expiresAt, hlease⟩ := gateRequest_lock hok
      exact ⟨_, mem_granted_of_leased hstep hlease, rfl, rfl⟩
  · rintro (hshown | ⟨hwaits, summary, hanswer⟩)
    · cases hheld.symm.trans hshown
    · obtain rfl : stage = .document := Option.some.inj (hstage.symm.trans hwaits)
      obtain ⟨next, hok⟩ := map_fst_eq_ok (Option.some.inj hanswer)
      simp [served, hok, replySummary]
  · cases stage with
    | lookup =>
        intro hleased hholds
        refine h.knows_step hleased hbackend hspares hstep ?_ hholds
        rintro _ _ _ - ⟨⟩
    | lock => exact fun _ _ _ _ _ hknown => by cases hknown
    | document =>
        rintro - - other content hother hknown
        obtain rfl : documentId = other := Option.some.inj (hvisit.symm.trans hother)
        obtain ⟨state, hstate, hsame⟩ := leasing_steps hstep
        rw [hsame]
        cases hstate with
        | request client request reply next hok =>
            simp only [served, hok] at hknown
            exact read_stored hok hknown
        | refuse client request error herror => cases herror

/-- A save is served. -/
theorem Sound.serveSave (h : tab.Sound backend)
    (hbackend : leasing.ReachableUnder SparesLeases backend) {documentId : Int} {content : String}
    (hspares : SparesLeases backend (.user tab.user (.save documentId (some content))))
    (hstep : leasing.step backend (.user tab.user (.save documentId (some content))) =
      some after) :
    (watch after (tab.servedSave documentId content ((Request.save documentId
      (some content)).serve backend.state.db backend.state.now tab.user))).Sound after := by
  refine .of_watch h.page (fun hlock _ hother => h.granted_step hstep hlock hother)
    (fun hread => ?_) ?_
  · simp only [servedSave]
    split
    next => rfl
    next => exact h.read hread
  · intro hleased hholds
    by_cases hown : tab.page.visit = some documentId
    · intro other known hother hknown
      obtain rfl : documentId = other := Option.some.inj (hown.symm.trans hother)
      obtain ⟨state, hstate, hsame⟩ := leasing_steps hstep
      rw [hsame]
      cases hstate with
      | request client request reply next hok =>
          simp only [servedSave, hok, Except.isOk, Except.toBool, hown, and_self, if_true,
            Option.some.injEq] at hknown
          exact hknown ▸ save_stores hok
      | refuse client request error herror =>
          simp only [servedSave, herror, Except.isOk, Except.toBool, Bool.false_eq_true,
            false_and, if_false] at hknown
          exact h.knows hleased documentId known hown hknown
    · -- the save of an earlier visit
      have hknown : (tab.servedSave documentId content ((Request.save documentId
          (some content)).serve backend.state.db backend.state.now tab.user)).known =
            tab.known := by
        simp [servedSave, hown]
      intro other known hother
      rw [hknown]
      refine h.knows_step hleased hbackend hspares hstep ?_ hholds other known hother
      rintro visited user written hvisit ⟨⟩
      exact absurd hvisit hown

end WorkspaceTab

/-! ## Runs -/

namespace WorkspaceTab

variable {texts : PageTexts} {backend after : LeasedState} {tab next : WorkspaceTab}

/-- Whatever happens to a tab. -/
theorem Sound.step (h : tab.Sound backend) (hbackend : leasing.ReachableUnder SparesLeases backend)
    {event : Event} (hstep : tab.step texts backend.state event = some next)
    (hspares : ∀ request ∈ tab.request event, SparesLeases backend (.user tab.user request))
    (hserve : serveRequest backend tab.user (tab.request event) = some after) :
    (next.watch after).Sound after := by
  cases event with
  | act event =>
      obtain ⟨hsource, hstep⟩ := Option.ite_none_right_eq_some.mp hstep
      obtain ⟨page, hpage, rfl⟩ := Option.map_eq_some_iff.mp hstep
      cases hserve
      exact h.act hsource hpage
  | serve =>
      obtain ⟨request, hrequest, hstep⟩ := Option.bind_eq_some_iff.mp hstep
      obtain ⟨stage, hstage, rfl⟩ := Option.map_eq_some_iff.mp hstep
      have hserved := hspares request hrequest
      rw [hrequest] at hserve
      obtain ⟨-, hrequest⟩ := Option.ite_none_left_eq_some.mp hrequest
      obtain ⟨documentId, hvisit, hpair⟩ := Option.bind_eq_some_iff.mp hrequest
      rw [hstage, Option.map_some, Option.some.injEq] at hpair
      subst hpair
      exact h.serve hbackend hvisit hstage hserved hserve
  | deliver =>
      obtain ⟨stage, -, hstep⟩ := Option.bind_eq_some_iff.mp hstep
      obtain ⟨event, hevent, hstep⟩ := Option.bind_eq_some_iff.mp hstep
      obtain ⟨outcome, hanswer, hevent⟩ := Option.bind_eq_some_iff.mp hevent
      obtain ⟨page, hpage, rfl⟩ := Option.map_eq_some_iff.mp hstep
      cases hserve
      exact h.deliver hanswer hevent hpage
  | lose message =>
      obtain ⟨page, hpage, rfl⟩ := Option.map_eq_some_iff.mp hstep
      cases hserve
      exact h.lose hpage
  | serveSave =>
      obtain ⟨save, hsent, rfl⟩ := Option.map_eq_some_iff.mp hstep
      have hrequest : tab.request .serveSave = some (.save save.1 (some save.2)) := by
        rw [request, hsent, Option.map_some]
      rw [hrequest] at hserve
      exact h.serveSave hbackend (hspares _ hrequest) hserve
  | deliverSave =>
      obtain ⟨event, hevent, hstep⟩ := Option.bind_eq_some_iff.mp hstep
      obtain ⟨outcome, -, hevent⟩ := Option.bind_eq_some_iff.mp hevent
      obtain ⟨page, hpage, rfl⟩ := Option.map_eq_some_iff.mp hstep
      cases hserve
      exact h.answerSave (PageTexts.saveEvent_source hevent) hpage tab.sent
  | loseSave message =>
      obtain ⟨page, hpage, rfl⟩ := Option.map_eq_some_iff.mp hstep
      cases hserve
      exact h.answerSave rfl hpage none

end WorkspaceTab

namespace Workspaces

variable {texts : PageTexts} {workspaces next : Workspaces}

theorem SavesElsewhere.other_user {tabs : List WorkspaceTab} {event : Backend.Event}
    (helsewhere : SavesElsewhere tabs event) {tab : WorkspaceTab} (htab : tab ∈ tabs)
    (documentId : Int) (user : User) (content : Option String)
    (hvisit : tab.page.visit = some documentId)
    (hsave : event = .user user (.save documentId content)) (hleased : tab.leased = true) :
    tab.user.id ≠ user.id := by
  subst hsave
  exact helsewhere documentId rfl tab htab hleased hvisit

/-- A tab is the one that has moved, or one of the others. -/
theorem mem_set_tab {tabs : List WorkspaceTab} {index : Nat} {moved tab : WorkspaceTab}
    (htab : tab ∈ tabs.set index moved) : tab = moved ∨ tab ∈ tabs.eraseIdx index := by
  obtain ⟨position, hposition⟩ := List.mem_iff_getElem?.mp htab
  by_cases hsame : index = position
  · subst hsame
    rw [List.getElem?_set_self', Option.map_eq_map, Option.map_eq_some_iff] at hposition
    obtain ⟨_, -, hmoved⟩ := hposition
    exact .inl hmoved.symm
  · rw [List.getElem?_set_ne hsame] at hposition
    exact .inr (List.mem_eraseIdx_iff_getElem?.mpr ⟨position, Ne.symm hsame, hposition⟩)

/-- Every tab is sound before a backend that has spared the leases. -/
structure Sound (workspaces : Workspaces) : Prop where
  backend : leasing.ReachableUnder SparesLeases workspaces.backend
  tabs : ∀ tab ∈ workspaces.tabs, tab.Sound workspaces.backend

theorem Sound.step (h : workspaces.Sound) {event : Event}
    (hguard : workspaces.Undisturbed event)
    (hstep : workspaces.step texts event = some next) : next.Sound := by
  cases event with
  | openTab user routeDocumentId =>
      cases hstep
      refine ⟨h.backend, fun tab htab => ?_⟩
      rcases List.mem_append.mp htab with hold | hnew
      · exact h.tabs tab hold
      · rw [List.mem_singleton.mp hnew]
        exact .fresh user routeDocumentId
  | tab index event =>
      obtain ⟨tab, htab, hstep⟩ := Option.bind_eq_some_iff.mp hstep
      obtain ⟨moved, hmoved, hstep⟩ := Option.bind_eq_some_iff.mp hstep
      obtain ⟨backend, hserve, rfl⟩ := Option.map_eq_some_iff.mp hstep
      have hsound := h.tabs tab (List.mem_of_getElem? htab)
      have hrequests := hguard tab htab
      have hnext := hsound.step h.backend hmoved (fun request hrequest =>
        (hrequests request hrequest).1) hserve
      cases hrequest : tab.request event with
      | none =>
          rw [hrequest] at hserve
          cases hserve
          refine ⟨h.backend, fun other hother => ?_⟩
          obtain ⟨before, hbefore, rfl⟩ := List.mem_map.mp hother
          rcases mem_set_tab hbefore with rfl | hold
          · exact hnext
          · exact (h.tabs before (List.mem_of_mem_eraseIdx hold)).idle
      | some request =>
          rw [hrequest] at hserve
          obtain ⟨hspares, helsewhere⟩ := hrequests request hrequest
          refine ⟨h.backend.step hspares hserve, fun other hother => ?_⟩
          obtain ⟨before, hbefore, rfl⟩ := List.mem_map.mp hother
          rcases mem_set_tab hbefore with rfl | hold
          · exact hnext
          · exact (h.tabs before (List.mem_of_mem_eraseIdx hold)).spared h.backend hspares hserve
              (helsewhere.other_user hold)
  | backend event =>
      obtain ⟨backend, hserved, rfl⟩ := Option.map_eq_some_iff.mp hstep
      obtain ⟨hspares, helsewhere⟩ := hguard
      refine ⟨h.backend.step hspares hserved, fun tab htab => ?_⟩
      obtain ⟨before, hbefore, rfl⟩ := List.mem_map.mp htab
      exact (h.tabs before hbefore).spared h.backend hspares hserved
        (helsewhere.other_user hbefore)

theorem reachable_sound (hreach : (system texts).ReachableUnder Undisturbed workspaces) :
    workspaces.Sound := by
  refine hreach.invariant (system texts) Sound ?_ fun _ _ _ _ h hguard hstep => h.step hguard hstep
  rintro workspaces ⟨hinit, hnone⟩
  refine ⟨.init hinit, fun tab htab => ?_⟩
  rw [hnone] at htab
  cases htab

end Workspaces

/-- As long as nobody takes another's unexpired lease away and nobody saves one document in two
tabs: a page that holds its lock was granted it and has read its document. While its user has had
a lease without a break, the stored content is the one that the tab has last read or written, no
page of another user has such a lease, every operation under the lock succeeds for the user if the
user may edit, and it is refused to every other editor. -/
theorem shown_text_stored {texts : PageTexts} {workspaces : Workspaces}
    (hreach : (Workspaces.system texts).ReachableUnder Workspaces.Undisturbed workspaces)
    {tab : WorkspaceTab} (htab : tab ∈ workspaces.tabs) {documentId : Int}
    (hactive : tab.page.activeDocumentId = some documentId) (hheld : tab.page.lockHeld = true) :
    (∃ lease ∈ workspaces.backend.granted,
        lease.documentId = documentId ∧ lease.holder = tab.user) ∧
      tab.known.isSome = true ∧ (tab.leased = true →
        (workspaces.backend.state.db.documents documentId).map Document.content = tab.known ∧
        (∀ other ∈ workspaces.tabs, other.page.activeDocumentId = some documentId →
          other.leased = true → other.user.id = tab.user.id) ∧
        ∀ editor, workspaces.backend.state.db.CanEdit documentId editor → ∀ gate : Gate,
          (editor.id = tab.user.id → Succeeds (gate.attempt workspaces.backend.state.db
            workspaces.backend.state.now documentId editor)) ∧
          (editor.id ≠ tab.user.id → Refused workspaces.backend.state.db
            (gate.attempt workspaces.backend.state.db workspaces.backend.state.now documentId
              editor))) := by
  have hsound := Workspaces.reachable_sound hreach
  have hkept := LeasedState.reachable_kept hsound.backend
  have hsystem := LeasedState.reachable_system hsound.backend
  have htabs := hsound.tabs tab htab
  have hvisit := htabs.page.active.symm.trans hactive
  have hknown := htabs.read (.inl hheld)
  refine ⟨htabs.granted (.inr (.inl hheld)) documentId hvisit, hknown, fun hleased => ?_⟩
  have hlease := htabs.holds hleased
  rw [hvisit, Option.any_some, WorkspaceTab.holdsLease_iff] at hlease
  obtain ⟨lease, hlease, rfl, huser, hnow⟩ := hlease
  have hlive := hkept lease hlease hnow
  refine ⟨?_, fun other hother hshown hunbroken => ?_, fun editor hedit gate => ?_⟩
  · obtain ⟨content, hcontent⟩ := Option.isSome_iff_exists.mp hknown
    rw [hcontent]
    exact htabs.knows hleased lease.documentId content hvisit hcontent
  · have hothers := hsound.tabs other hother
    have hsecond := hothers.holds hunbroken
    rw [hothers.page.active.symm.trans hshown, Option.any_some,
      WorkspaceTab.holdsLease_iff] at hsecond
    obtain ⟨second, hsecond, hdocument, hholder, hunexpired⟩ := hsecond
    rw [← hholder, ← huser]
    exact (hkept second hsecond hunexpired).same_holder hlive hdocument
  · rw [← huser]
    exact hlive.gates hsystem hnow hedit gate

/-- The owner edits and saves the document; an editor finds it locked and waits for it. -/
def ownersPage : List Workspaces.Event :=
  [.backend (.user ⟨1, "owner"⟩ (.create (some "notes") (some "draft"))),
    .backend (.user ⟨1, "owner"⟩ (.createInvite 1 false none "invite")),
    .backend (.user ⟨2, "editor"⟩ (.useInvite "invite")),
    .backend (.user ⟨1, "owner"⟩ (.processRequest 1 true (some "editor"))),
    .openTab ⟨1, "owner"⟩ (some 1), .openTab ⟨2, "editor"⟩ (some 1),
    .tab 0 (.act .runEffect), .tab 0 .serve, .tab 0 .deliver, .tab 0 .serve, .tab 0 .deliver,
    .tab 0 .serve, .tab 0 .deliver,
    .tab 0 (.act (.handleContentChange "second draft")), .tab 0 (.act .saveDocument),
    .backend (.advance 240000000000),
    .backend (.user ⟨1, "owner"⟩ (.refreshLock 1 (some 300))),
    .tab 1 (.act .runEffect), .tab 1 .serve, .tab 0 .serveSave, .tab 1 .deliver,
    .backend (.advance 240000000000)]

theorem shown_text_stored_owner : ∃ workspaces : Workspaces,
    (Workspaces.system ⟨fun _ => "", fun _ => ""⟩).ReachableUnder Workspaces.Undisturbed
        workspaces ∧
      (∃ tab ∈ workspaces.tabs, tab.page.lockHeld = true ∧ tab.leased = true) ∧
      (workspaces.backend.state.db.documents 1).map Document.content =
        some (some "second draft") := by
  obtain ⟨workspaces, hreach, hcheck⟩ :=
    (Workspaces.system ⟨fun _ => "", fun _ => ""⟩).exists_reachable_of_exec
      (.init ⟨⟨⟨rfl, by decide, by decide⟩, rfl, rfl⟩, rfl⟩ :
        (Workspaces.system ⟨fun _ => "", fun _ => ""⟩).ReachableUnder Workspaces.Undisturbed
          ⟨⟨⟨Database.empty, 0⟩, [], []⟩, []⟩)
      ownersPage (fun workspaces => workspaces.tabs.any fun tab =>
        tab.page.activeDocumentId = some 1 ∧ tab.page.lockHeld = true ∧ tab.leased = true ∧
          tab.known = some (some "second draft"))
      (by decide +kernel)
  obtain ⟨tab, htab, hfound⟩ := List.any_eq_true.mp hcheck
  obtain ⟨hactive, hheld, hleased, hknown⟩ := of_decide_eq_true hfound
  obtain ⟨-, -, hunbroken⟩ := shown_text_stored hreach htab hactive hheld
  exact ⟨workspaces, hreach, ⟨tab, htab, hheld, hleased⟩, (hunbroken hleased).1.trans hknown⟩

end CollabEditor.Platform
