import CollabEditor.Backend.AccessHistory
import CollabEditor.Backend.Leases
import CollabEditor.Frontend.EntryGate

/-! # Many gates before one backend

Any number of tabs, of any users, have a gate open. Their requests reach the backend in any
order, among whatever else happens there, and the answers come back late, or not at all.
-/

namespace CollabEditor.Platform

open Foundation Backend Frontend

/-! ## On the wire -/

def gateLockType : LockType → DocumentLockType
  | .exclusive => .exclusive
  | .collaborative => .collaborative

def docPermission : PermissionLevel → DocPermission
  | .owner => .owner
  | .editor => .editor
  | .viewer => .viewer

def gateLock (dto : Backend.DocumentLockDto) : GateLock where
  lockedByUsername := dto.lockedByUsername
  lockType := gateLockType dto.lockType

/-- The status of the error response. -/
def errorStatus : ServiceError → Nat
  | .appException _ status => status
  | .illegalArgument | .illegalState | .accessDenied | .dateTime | .constraintViolation
  | .nonUniqueResult => 500

/-- The request a gate waits for: `getDocumentLock`, and the two of `openDocument`. -/
def gateRequest (documentId : Int) : LoadStage → Request
  | .lookup => .getLock documentId
  | .lock => .acquireLock documentId (some "EXCLUSIVE") (some 300)
  | .document => .read documentId

/-- The body of a lookup. -/
def replyLock : Reply → Option Backend.DocumentLockDto
  | .lock dto => dto
  | _ => none

/-- The level in the body of a read. -/
def replyLevel : Reply → Option PermissionLevel
  | .summary summary => summary.map DocumentService.Summary.myPermission
  | _ => none

/-- How the answer reaches the gate; only the lookup has a `catchError`. -/
def gateAnswer (describeError : ServiceError → String) (stage : LoadStage) :
    Except ServiceError (Reply × Database) → EntryGatePage.Event
  | .error error =>
      if stage = .lookup ∧ errorStatus error = 404 then .lookedUp none
      else .failed (describeError error)
  | .ok (reply, _) =>
      match stage with
      | .lookup => .lookedUp ((replyLock reply).map gateLock)
      | .lock => .locked
      | .document => .document ((replyLevel reply).map docPermission)

/-! ## The system -/

/-- A visit that came through: the expiry of the lock it was granted and the level it read. -/
structure GateEntry where
  documentId : Int
  granted : Option Instant
  level : Option PermissionLevel
deriving DecidableEq, Repr

/-- The levels that are sent to the editor. -/
def GateEntry.admitted (entry : GateEntry) : Bool :=
  entry.level = some .owner ∨ entry.level = some .editor

def GateEntry.destination (entry : GateEntry) : Destination :=
  if entry.admitted then .edit entry.documentId else .readonly entry.documentId

/-- A tab of a user. The last three fields are records. -/
structure GateTab where
  user : User
  page : EntryGatePage
  /-- An answer on its way. -/
  answer : Option EntryGatePage.Event
  /-- The expiry of the lock that was granted to the visit, and the level that was read. -/
  granted : Option Instant
  level : Option PermissionLevel
  entries : List GateEntry

structure Entrances where
  backend : LeasedState
  tabs : List GateTab

namespace Entrances

variable (describeError : ServiceError → String) (entrances : Entrances)

inductive Event
  | openTab (user : User) (routeDocumentId : Option Int) (intent : EntryIntent)
  /-- The user, the router or Angular. -/
  | act (index : Nat) (event : EntryGatePage.Event)
  /-- The backend serves the request that a gate waits for. -/
  | serve (index : Nat)
  | deliver (index : Nat)
  /-- The answer is lost, or another one comes instead. -/
  | lose (index : Nat) (message : String)
  /-- Whatever else happens at the backend. -/
  | backend (event : Backend.Event)

/-- The request a tab waits for, as an event of the backend. -/
def request (tab : GateTab) : Option (DocumentId × LoadStage) :=
  tab.page.visit.bind fun documentId => tab.page.stage.map (documentId, ·)

/-- A subscription ends with its visit, and its answer is not heard. -/
def afterAct (tab : GateTab) (event : EntryGatePage.Event) (page : EntryGatePage) : GateTab :=
  if event.endsVisit then { tab with page := page, answer := none, granted := none, level := none }
  else { tab with page := page }

/-- The backend has served the request. -/
def afterServe (tab : GateTab) (stage : LoadStage) (lease : Option Lease)
    (outcome : Except ServiceError (Reply × Database)) : GateTab :=
  { tab with
    answer := some (gateAnswer describeError stage outcome)
    granted := if stage = .lock then lease.map Lease.expiresAt else tab.granted
    level := match outcome with
      | .ok (reply, _) => if stage = .document then replyLevel reply else tab.level
      | .error _ => tab.level }

/-- The answer has arrived. -/
def afterDeliver (tab : GateTab) (event : EntryGatePage.Event) (page : EntryGatePage) : GateTab :=
  { tab with
    page := page
    answer := none
    entries := match event, tab.page.visit with
      | .document _, some documentId => tab.entries ++ [⟨documentId, tab.granted, tab.level⟩]
      | _, _ => tab.entries }

def step : Event → Option Entrances
  | .openTab user routeDocumentId intent =>
      some { entrances with
        tabs := entrances.tabs ++ [⟨user, .fresh routeDocumentId intent, none, none, none, []⟩] }
  | .act index event =>
      (entrances.tabs[index]?).bind fun tab =>
        if event.isAnswer then none
        else (tab.page.step event).map fun page =>
          { entrances with tabs := entrances.tabs.set index (afterAct tab event page) }
  | .serve index =>
      (entrances.tabs[index]?).bind fun tab =>
        if tab.answer.isSome then none
        else (request tab).bind fun (documentId, stage) =>
          let event : Backend.Event := .user tab.user (gateRequest documentId stage)
          (leasing.step entrances.backend event).map fun backend =>
            { backend := backend
              tabs := entrances.tabs.set index <|
                afterServe describeError tab stage (event.leased entrances.backend.state)
                  ((gateRequest documentId stage).serve entrances.backend.state.db
                    entrances.backend.state.now tab.user) }
  | .deliver index =>
      (entrances.tabs[index]?).bind fun tab =>
        tab.answer.bind fun event =>
          (tab.page.step event).map fun page =>
            { entrances with tabs := entrances.tabs.set index (afterDeliver tab event page) }
  | .lose index message =>
      (entrances.tabs[index]?).bind fun tab =>
        (tab.page.step (.failed message)).map fun page =>
          { entrances with
            tabs := entrances.tabs.set index { tab with page := page, answer := none } }
  | .backend event =>
      (leasing.step entrances.backend event).map fun backend =>
        { entrances with backend := backend }

def system : TransitionSystem Entrances Event where
  init entrances := leasing.init entrances.backend ∧ entrances.tabs = []
  step := step describeError

end Entrances

/-! ## What a tab has come by -/

/-- The user has a permission of this level as long as the document is there. -/
def HasLevel (state : State) (documentId : DocumentId) (user : User) (level : PermissionLevel) :
    Prop :=
  ∃ row : DocumentPermission, row.documentId = documentId ∧ row.user.id = user.id ∧
    row.level = level ∧ Keeps documentId row state

/-- The backend has gone on. -/
structure Later (before after : LeasedState) : Prop where
  granted : before.granted ⊆ after.granted
  keeps : ∀ documentId user level, HasLevel before.state documentId user level →
    HasLevel after.state documentId user level

theorem Later.refl (backend : LeasedState) : Later backend backend :=
  ⟨fun _ hlease => hlease, fun _ _ _ hlevel => hlevel⟩

theorem Later.step {before after : LeasedState} {event : Backend.Event}
    (hstep : leasing.step before event = some after) : Later before after := by
  obtain ⟨next, hnext, rfl⟩ := Option.map_eq_some_iff.mp hstep
  refine ⟨List.subset_append_left _ _, ?_⟩
  rintro documentId user level ⟨row, hdocument, huser, hlevel, hkeeps⟩
  exact ⟨row, hdocument, huser, hlevel, step_keeps hdocument hkeeps hnext⟩

/-! ## Answers -/

theorem gateAnswer_isAnswer (describeError : ServiceError → String) (stage : LoadStage)
    (outcome : Except ServiceError (Reply × Database)) :
    (gateAnswer describeError stage outcome).isAnswer = true := by
  unfold gateAnswer
  split
  next => split <;> rfl
  next => split <;> rfl

theorem gateAnswer_eq_locked {describeError : ServiceError → String} {stage : LoadStage}
    {outcome : Except ServiceError (Reply × Database)}
    (hanswer : gateAnswer describeError stage outcome = .locked) :
    stage = .lock ∧ ∃ reply next, outcome = .ok (reply, next) := by
  unfold gateAnswer at hanswer
  split at hanswer
  next => split at hanswer <;> cases hanswer
  next reply next =>
    cases stage with
    | lock => exact ⟨rfl, reply, next, rfl⟩
    | lookup | document => cases hanswer

theorem gateAnswer_eq_document {describeError : ServiceError → String} {stage : LoadStage}
    {outcome : Except ServiceError (Reply × Database)} {myPermission : Option DocPermission}
    (hanswer : gateAnswer describeError stage outcome = .document myPermission) :
    stage = .document ∧ ∃ reply next, outcome = .ok (reply, next) ∧
      myPermission = (replyLevel reply).map docPermission := by
  unfold gateAnswer at hanswer
  split at hanswer
  next => split at hanswer <;> cases hanswer
  next reply next =>
    cases stage with
    | document =>
        cases hanswer
        exact ⟨rfl, reply, next, rfl, rfl⟩
    | lookup | lock => cases hanswer

/-- A granted lock is a lease. -/
theorem gateRequest_lock {state : State} {user : User} {documentId : Int} {reply : Reply}
    {next : Database}
    (hok : (gateRequest documentId .lock).serve state.db state.now user = .ok (reply, next)) :
    ∃ expiresAt, Backend.Event.leased state (.user user (gateRequest documentId .lock)) =
      some ⟨documentId, user, expiresAt⟩ := by
  rw [gateRequest] at hok ⊢
  have hserve := hok
  simp only [Request.serve, Except.bind_eq_ok_iff, Except.pure_eq_ok_iff, Prod.mk.injEq,
    Prod.exists] at hserve
  obtain ⟨-, -, requestedType, hrequested, lock, written, hacquire, -, rfl⟩ := hserve
  obtain rfl : requestedType = .exclusive := by
    rw [show LockType.fromRequest (some "EXCLUSIVE") = .ok .exclusive by decide] at hrequested
    exact (Except.ok.inj hrequested).symm
  have hwrites := LockService.acquireLock_writes hacquire
  obtain ⟨expiresAt, -, hexpires⟩ := hwrites.expires
  refine ⟨expiresAt, ?_⟩
  simp only [Backend.Event.leased, hok, Request.leased, hwrites.row,
    Option.bind_some, LockService.acquireLock_exclusive hacquire, if_true, hexpires,
    Option.map_some]

/-- A level that is read is that of a permission row. -/
theorem hasLevel_of_read {state : State} (hdb : state.db.WellFormed) {user : User}
    {documentId : Int} {level : PermissionLevel} {reply : Reply} {next : Database}
    (hok : (Request.read documentId).serve state.db state.now user = .ok (reply, next))
    (hlevel : replyLevel reply = some level) : HasLevel state documentId user level := by
  simp only [Request.serve, Except.ok.injEq, Prod.mk.injEq] at hok
  obtain ⟨rfl, -⟩ := hok
  obtain ⟨summary, hsummary, rfl⟩ := Option.map_eq_some_iff.mp hlevel
  unfold DocumentService.getDocumentSummaryWithContent at hsummary
  split at hsummary
  next row doc hrow hdoc =>
    cases hsummary
    have hmem := List.mem_of_find?_eq_some hrow
    have hpair := List.find?_some hrow
    simp only [Bool.and_eq_true, beq_iff_eq] at hpair
    refine ⟨row, hpair.1, hpair.2, rfl, ?_, fun _ => hmem⟩
    exact hpair.1 ▸ hdb.permission_id row hmem
  next => cases hsummary

namespace GateTab

/-- The locks a tab counts on were granted, the levels were read, and the editor is entered
with both. -/
structure Sound (backend : LeasedState) (tab : GateTab) : Prop where
  answer : ∀ event, tab.answer = some event → event.isAnswer = true
  granted : tab.page.stage = some .document ∨ tab.answer = some .locked →
    ∀ documentId, tab.page.visit = some documentId → ∃ expiresAt,
      tab.granted = some expiresAt ∧ ⟨documentId, tab.user, expiresAt⟩ ∈ backend.granted
  read : ∀ myPermission, tab.answer = some (.document myPermission) →
    myPermission = tab.level.map docPermission ∧
      ∀ documentId level, tab.page.visit = some documentId → tab.level = some level →
        HasLevel backend.state documentId tab.user level
  entries : ∀ entry ∈ tab.entries,
    (∃ expiresAt, entry.granted = some expiresAt ∧
      ⟨entry.documentId, tab.user, expiresAt⟩ ∈ backend.granted) ∧
      ∀ level, entry.level = some level →
        HasLevel backend.state entry.documentId tab.user level
  entered : ∀ documentId, .edit documentId ∈ tab.page.navigations →
    ∃ entry ∈ tab.entries, entry.documentId = documentId ∧ entry.admitted = true
  sent : ∀ entry ∈ tab.entries, entry.destination ∈ tab.page.navigations

variable {backend after : LeasedState} {tab : GateTab}

theorem Sound.later (h : tab.Sound backend) (hlater : Later backend after) :
    tab.Sound after where
  answer := h.answer
  granted hgranted documentId hvisit := by
    obtain ⟨expiresAt, hexpires, hlease⟩ := h.granted hgranted documentId hvisit
    exact ⟨expiresAt, hexpires, hlater.granted hlease⟩
  read myPermission hanswer := by
    refine ⟨(h.read myPermission hanswer).1, fun documentId level hvisit hlevel => ?_⟩
    exact hlater.keeps _ _ _ ((h.read myPermission hanswer).2 documentId level hvisit hlevel)
  entries entry hentry := by
    obtain ⟨⟨expiresAt, hexpires, hlease⟩, hlevel⟩ := h.entries entry hentry
    refine ⟨⟨expiresAt, hexpires, hlater.granted hlease⟩, fun level hread => ?_⟩
    exact hlater.keeps _ _ _ (hlevel level hread)
  entered := h.entered
  sent := h.sent

theorem Sound.fresh (user : User) (routeDocumentId : Option Int) (intent : EntryIntent) :
    Sound backend ⟨user, .fresh routeDocumentId intent, none, none, none, []⟩ where
  answer := nofun
  granted h := by
    rcases h with hstage | hanswer
    · cases hstage
    · cases hanswer
  read := nofun
  entries := nofun
  entered := nofun
  sent := nofun

/-- The browser. -/
theorem Sound.act (h : tab.Sound backend) {event : EntryGatePage.Event} {page : EntryGatePage}
    (hevent : event.isAnswer = false) (hstep : tab.page.step event = some page) :
    (Entrances.afterAct tab event page).Sound backend := by
  unfold Entrances.afterAct
  cases EntryGatePage.step_browser hevent hstep with
  | ended hends hstage hout =>
      rw [if_pos hends]
      refine ⟨nofun, fun hgranted => ?_, nofun, h.entries, fun documentId hmem => ?_, ?_⟩
      · rcases hgranted with hdocument | hanswer
        · exact absurd hdocument hstage
        · cases hanswer
      · exact h.entered documentId (hout.edit documentId hmem)
      · exact fun entry hentry => hout.kept (h.sent entry hentry)
  | goesOn hgoes hvisit hstage hout =>
      rw [if_neg (by simp [hgoes])]
      refine ⟨h.answer, ?_, ?_, h.entries, fun documentId hmem => ?_, ?_⟩
      · rw [hstage, hvisit]
        exact h.granted
      · rw [hvisit]
        exact h.read
      · exact h.entered documentId (hout.edit documentId hmem)
      · exact fun entry hentry => hout.kept (h.sent entry hentry)

/-- The backend serves the request of the tab. -/
theorem Sound.serve (h : tab.Sound backend) (hdb : backend.state.db.WellFormed)
    (describeError : ServiceError → String) {documentId : Int} {stage : LoadStage}
    (hrequest : Entrances.request tab = some (documentId, stage))
    (hstep : leasing.step backend (.user tab.user (gateRequest documentId stage)) =
      some after) :
    (Entrances.afterServe describeError tab stage
      (Backend.Event.leased backend.state (.user tab.user (gateRequest documentId stage)))
      ((gateRequest documentId stage).serve backend.state.db backend.state.now
        tab.user)).Sound after := by
  have hlater := Later.step hstep
  have hbefore := h.later hlater
  obtain ⟨visited, hvisit, hpair⟩ := Option.bind_eq_some_iff.mp hrequest
  obtain ⟨found, hstage, hsame⟩ := Option.map_eq_some_iff.mp hpair
  cases hsame
  refine ⟨?_, ?_, ?_, hbefore.entries, hbefore.entered, hbefore.sent⟩
  · intro event hevent
    cases hevent
    exact gateAnswer_isAnswer _ _ _
  · intro hgranted other hother
    obtain rfl : documentId = other := Option.some.inj (hvisit.symm.trans hother)
    rcases hgranted with hdocument | hlocked
    · -- the lock has been granted before
      obtain rfl : stage = .document := Option.some.inj (hstage.symm.trans hdocument)
      exact hbefore.granted (.inl hdocument) documentId hvisit
    · obtain ⟨rfl, reply, next, hok⟩ := gateAnswer_eq_locked (Option.some.inj hlocked)
      obtain ⟨expiresAt, hlease⟩ := gateRequest_lock hok
      refine ⟨expiresAt, ?_, mem_granted_of_leased hstep hlease⟩
      simp only [Entrances.afterServe, if_true, hlease, Option.map_some]
  · intro myPermission hanswer
    obtain ⟨rfl, reply, next, hok, rfl⟩ := gateAnswer_eq_document (Option.some.inj hanswer)
    simp only [Entrances.afterServe, hok, if_true]
    refine ⟨trivial, fun other level hother hlevel => ?_⟩
    obtain rfl : documentId = other := Option.some.inj (hvisit.symm.trans hother)
    exact hlater.keeps _ _ _ (hasLevel_of_read hdb hok hlevel)

/-- An answer arrives. -/
theorem Sound.deliver (h : tab.Sound backend) {event : EntryGatePage.Event} {page : EntryGatePage}
    (hanswer : tab.answer = some event) (hstep : tab.page.step event = some page) :
    (Entrances.afterDeliver tab event page).Sound backend := by
  rcases EntryGatePage.step_answer (h.answer event hanswer) hstep with
    ⟨message, rfl, rfl⟩ | ⟨documentId, hvisit, hanswered⟩
  · exact ⟨nofun, fun hgranted => by rcases hgranted with hstage | hnone <;> contradiction, nofun,
      h.entries, h.entered, h.sent⟩
  cases hanswered with
  | lookedUp lock next hstage hsame hout =>
      refine ⟨nofun, fun hgranted => ?_, nofun, h.entries, fun other hmem => ?_, ?_⟩
      · rcases hgranted with hdocument | hnone
        · rcases hstage with hnothing | hlock
          · cases hnothing.symm.trans hdocument
          · cases hlock.symm.trans hdocument
        · cases hnone
      · exact h.entered other (hout.edit other hmem)
      · exact fun entry hentry => hout.kept (h.sent entry hentry)
  | locked hlock =>
      exact ⟨nofun, fun _ => h.granted (.inr hanswer), nofun, h.entries, h.entered, h.sent⟩
  | document myPermission hdocument =>
      obtain ⟨expiresAt, hgranted, hlease⟩ := h.granted (.inl hdocument) documentId hvisit
      obtain ⟨rfl, hread⟩ := h.read myPermission hanswer
      have hlevel : (if tab.level.map docPermission = none ∨
          tab.level.map docPermission = some DocPermission.viewer then
            Destination.readonly documentId else .edit documentId) =
          GateEntry.destination ⟨documentId, tab.granted, tab.level⟩ := by
        unfold GateEntry.destination GateEntry.admitted
        cases tab.level with
        | none => rfl
        | some level => cases level <;> rfl
      refine ⟨nofun, fun hwaits => ?_, nofun, ?_, ?_, ?_⟩
      · rcases hwaits with hstage | hnone
        · cases hstage
        · cases hnone
      · simp only [Entrances.afterDeliver, hvisit]
        intro entry hentry
        rcases List.mem_append.mp hentry with hold | hnew
        · exact h.entries entry hold
        · obtain rfl := List.mem_singleton.mp hnew
          refine ⟨⟨expiresAt, hgranted, hlease⟩, fun level hlevel => ?_⟩
          exact hread documentId level hvisit hlevel
      · simp only [Entrances.afterDeliver, hvisit]
        intro other hmem
        rcases EntryGatePage.mem_navigate.mp hmem with hold | hnew
        · obtain ⟨entry, hentry, hdocuments, hadmitted⟩ := h.entered other hold
          exact ⟨entry, List.mem_append_left _ hentry, hdocuments, hadmitted⟩
        · refine ⟨_, List.mem_append_right _ (List.mem_singleton_self _), ?_⟩
          rw [hlevel, GateEntry.destination] at hnew
          split at hnew
          next hadmitted =>
            cases hnew
            exact ⟨rfl, hadmitted⟩
          next => cases hnew
      · simp only [Entrances.afterDeliver, hvisit]
        intro entry hentry
        refine EntryGatePage.mem_navigate.mpr ?_
        rcases List.mem_append.mp hentry with hold | hnew
        · exact .inl (h.sent entry hold)
        · obtain rfl := List.mem_singleton.mp hnew
          exact .inr hlevel.symm

/-- The answer is lost. -/
theorem Sound.lose (h : tab.Sound backend) {message : String} {page : EntryGatePage}
    (hstep : tab.page.step (.failed message) = some page) :
    Sound backend { tab with page := page, answer := none } := by
  obtain ⟨-, hnext⟩ := Option.ite_none_right_eq_some.mp hstep
  cases hnext
  refine ⟨nofun, fun hgranted => ?_, nofun, h.entries, h.entered, h.sent⟩
  rcases hgranted with hstage | hnone
  · cases hstage
  · cases hnone

end GateTab

/-! ## Runs -/

namespace Entrances

variable {describeError : ServiceError → String} {entrances next : Entrances}

/-- No unexpired lease is taken away or given back. -/
def Leaves (entrances : Entrances) : Event → Prop
  | .serve index => ∀ tab ∈ entrances.tabs[index]?, ∀ pair ∈ request tab,
      LeavesLeases entrances.backend (.user tab.user (gateRequest pair.1 pair.2))
  | .backend event => LeavesLeases entrances.backend event
  | .openTab _ _ _ | .act _ _ | .deliver _ | .lose _ _ => True

instance (entrances : Entrances) : (event : Event) → Decidable (entrances.Leaves event)
  | .serve index => inferInstanceAs (Decidable (∀ tab ∈ entrances.tabs[index]?,
      ∀ pair ∈ request tab,
        LeavesLeases entrances.backend (.user tab.user (gateRequest pair.1 pair.2))))
  | .backend event => inferInstanceAs (Decidable (LeavesLeases entrances.backend event))
  | .openTab _ _ _ | .act _ _ | .deliver _ | .lose _ _ => isTrue trivial

/-- A step of the whole is one of the backend, or none there. -/
theorem step_backend {event : Event} (hstep : entrances.step describeError event = some next) :
    next.backend = entrances.backend ∨
      ∃ served, leasing.step entrances.backend served = some next.backend ∧
        (entrances.Leaves event → LeavesLeases entrances.backend served) := by
  cases event with
  | openTab user routeDocumentId intent =>
      cases hstep
      exact .inl rfl
  | act index event =>
      obtain ⟨tab, -, hstep⟩ := Option.bind_eq_some_iff.mp hstep
      obtain ⟨-, hstep⟩ := Option.ite_none_left_eq_some.mp hstep
      obtain ⟨page, -, rfl⟩ := Option.map_eq_some_iff.mp hstep
      exact .inl rfl
  | serve index =>
      obtain ⟨tab, htab, hstep⟩ := Option.bind_eq_some_iff.mp hstep
      obtain ⟨-, hstep⟩ := Option.ite_none_left_eq_some.mp hstep
      obtain ⟨⟨documentId, stage⟩, hrequest, hstep⟩ := Option.bind_eq_some_iff.mp hstep
      obtain ⟨backend, hbackend, rfl⟩ := Option.map_eq_some_iff.mp hstep
      exact .inr ⟨_, hbackend, fun hleaves => hleaves tab htab _ hrequest⟩
  | deliver index =>
      obtain ⟨tab, -, hstep⟩ := Option.bind_eq_some_iff.mp hstep
      obtain ⟨event, -, hstep⟩ := Option.bind_eq_some_iff.mp hstep
      obtain ⟨page, -, rfl⟩ := Option.map_eq_some_iff.mp hstep
      exact .inl rfl
  | lose index message =>
      obtain ⟨tab, -, hstep⟩ := Option.bind_eq_some_iff.mp hstep
      obtain ⟨page, -, rfl⟩ := Option.map_eq_some_iff.mp hstep
      exact .inl rfl
  | backend event =>
      obtain ⟨backend, hbackend, rfl⟩ := Option.map_eq_some_iff.mp hstep
      exact .inr ⟨event, hbackend, fun hleaves => hleaves⟩

theorem reachable_backend {guard : Entrances → Event → Prop}
    (hreach : (system describeError).ReachableUnder guard entrances) :
    leasing.Reachable entrances.backend := by
  induction hreach with
  | init hinit => exact .init hinit.1
  | step _ _ hstep ih =>
      rcases step_backend hstep with hsame | ⟨served, hserved, -⟩
      · exact hsame ▸ ih
      · exact ih.step trivial hserved

theorem left_backend (hreach : (system describeError).ReachableUnder Leaves entrances) :
    leasing.ReachableUnder LeavesLeases entrances.backend := by
  induction hreach with
  | init hinit => exact .init hinit.1
  | step _ hguard hstep ih =>
      rcases step_backend hstep with hsame | ⟨served, hserved, hleaves⟩
      · exact hsame ▸ ih
      · exact ih.step (hleaves hguard) hserved

/-- Every tab is sound. -/
def Sound (entrances : Entrances) : Prop := ∀ tab ∈ entrances.tabs, tab.Sound entrances.backend

theorem Sound.set (h : entrances.Sound) {backend : LeasedState} {index : Nat} {tab : GateTab}
    (hlater : Later entrances.backend backend) (htab : tab.Sound backend) :
    Sound ⟨backend, entrances.tabs.set index tab⟩ := by
  intro other hother
  rcases List.mem_or_eq_of_mem_set hother with hold | rfl
  · exact (h other hold).later hlater
  · exact htab

theorem Sound.step (h : entrances.Sound) (hbackend : leasing.Reachable entrances.backend)
    {event : Event} (hstep : entrances.step describeError event = some next) : next.Sound := by
  cases event with
  | openTab user routeDocumentId intent =>
      cases hstep
      intro tab htab
      rcases List.mem_append.mp htab with hold | hnew
      · exact h tab hold
      · rw [List.mem_singleton.mp hnew]
        exact .fresh user routeDocumentId intent
  | act index event =>
      obtain ⟨tab, htab, hstep⟩ := Option.bind_eq_some_iff.mp hstep
      obtain ⟨hevent, hstep⟩ := Option.ite_none_left_eq_some.mp hstep
      obtain ⟨page, hpage, rfl⟩ := Option.map_eq_some_iff.mp hstep
      have hsound := h tab (List.mem_of_getElem? htab)
      exact h.set (.refl _) (hsound.act (Bool.not_eq_true _ ▸ hevent) hpage)
  | serve index =>
      obtain ⟨tab, htab, hstep⟩ := Option.bind_eq_some_iff.mp hstep
      obtain ⟨-, hstep⟩ := Option.ite_none_left_eq_some.mp hstep
      obtain ⟨⟨documentId, stage⟩, hrequest, hstep⟩ := Option.bind_eq_some_iff.mp hstep
      obtain ⟨backend, hserved, rfl⟩ := Option.map_eq_some_iff.mp hstep
      have hsound := h tab (List.mem_of_getElem? htab)
      have hdb := (reachable_wellFormed (LeasedState.reachable_system hbackend)).1
      exact h.set (.step hserved) (hsound.serve hdb describeError hrequest hserved)
  | deliver index =>
      obtain ⟨tab, htab, hstep⟩ := Option.bind_eq_some_iff.mp hstep
      obtain ⟨event, hevent, hstep⟩ := Option.bind_eq_some_iff.mp hstep
      obtain ⟨page, hpage, rfl⟩ := Option.map_eq_some_iff.mp hstep
      have hsound := h tab (List.mem_of_getElem? htab)
      exact h.set (.refl _) (hsound.deliver hevent hpage)
  | lose index message =>
      obtain ⟨tab, htab, hstep⟩ := Option.bind_eq_some_iff.mp hstep
      obtain ⟨page, hpage, rfl⟩ := Option.map_eq_some_iff.mp hstep
      have hsound := h tab (List.mem_of_getElem? htab)
      exact h.set (.refl _) (hsound.lose hpage)
  | backend event =>
      obtain ⟨backend, hserved, rfl⟩ := Option.map_eq_some_iff.mp hstep
      exact fun tab htab => (h tab htab).later (.step hserved)

theorem reachable_sound {guard : Entrances → Event → Prop}
    (hreach : (system describeError).ReachableUnder guard entrances) : entrances.Sound := by
  refine hreach.invariant (system describeError) Sound ?_ ?_
  · rintro entrances ⟨-, hnone⟩ tab htab
    rw [hnone] at htab
    cases htab
  · exact fun _ _ _ hreached h _ hstep => h.step (reachable_backend hreached) hstep

end Entrances

/-- The levels of the editor are those of the backend. -/
theorem HasLevel.canEdit_iff {state : State} (hreach : Backend.system.Reachable state)
    {documentId : DocumentId} {user : User} {level : PermissionLevel}
    (h : HasLevel state documentId user level) (hdoc : (state.db.documents documentId).isSome) :
    state.db.CanEdit documentId user ↔ level = .owner ∨ level = .editor := by
  obtain ⟨row, hdocument, huser, hlevel, hkeeps⟩ := h
  have hdb := reachable_consistent hreach
  obtain ⟨doc, hfound⟩ := Option.isSome_iff_exists.mp hdoc
  have hrow : state.db.findPermission documentId user.id = some row :=
    hdb.findPermission_eq_some_iff.mpr ⟨hkeeps.2 hdoc, hdocument, huser⟩
  have hrights : DocumentService.canUserEdit state.db documentId doc user = true ↔
      level = .owner ∨ level = .editor := by
    rw [hdb.canUserEdit_iff hfound, WebSocketTicketService.resolvePermission, hrow,
      Option.map_some, hlevel]
    simp only [Option.some.injEq, exists_eq_left']
  constructor
  · rintro ⟨other, hother, hedit⟩
    rw [hfound, Option.some.injEq] at hother
    subst hother
    exact hrights.mp hedit
  · exact fun hlevels => ⟨doc, hfound, hrights.mpr hlevels⟩

/-- Whoever a gate has sent to the editor came through a visit that took the exclusive lock. And
every visit that came through has taken the lock, for the editor as for a reader: of those whose
level was read, those and only those who may edit the document were sent to the editor. A user
without a permission comes through as a reader, whatever is granted to him later. -/
theorem entered_with_lock {describeError : ServiceError → String} {entrances : Entrances}
    (hreach : (Entrances.system describeError).Reachable entrances) {tab : GateTab}
    (htab : tab ∈ entrances.tabs) :
    (∀ documentId, .edit documentId ∈ tab.page.navigations →
      ∃ entry ∈ tab.entries, entry.documentId = documentId ∧ entry.admitted = true) ∧
    ∀ entry ∈ tab.entries, entry.destination ∈ tab.page.navigations ∧
      (∃ expiresAt, entry.granted = some expiresAt ∧
        ⟨entry.documentId, tab.user, expiresAt⟩ ∈ entrances.backend.granted) ∧
      (entry.level.isSome → (entrances.backend.state.db.documents entry.documentId).isSome →
        (entrances.backend.state.db.CanEdit entry.documentId tab.user ↔
          entry.admitted = true)) := by
  have hsystem := LeasedState.reachable_system (Entrances.reachable_backend hreach)
  have hsound := Entrances.reachable_sound hreach tab htab
  refine ⟨hsound.entered, fun entry hentry => ?_⟩
  obtain ⟨hlease, hlevel⟩ := hsound.entries entry hentry
  refine ⟨hsound.sent entry hentry, hlease, fun hsome hdoc => ?_⟩
  obtain ⟨level, hread⟩ := Option.isSome_iff_exists.mp hsome
  rw [(hlevel level hread).canEdit_iff hsystem hdoc, GateEntry.admitted, hread]
  simp

/-- As long as no unexpired lease is taken away or given back: gates that let different users
through to one document never both hold an unexpired lock; until it expires nobody else saves,
whether or not the one who was let through may edit; and a lookup that is served meanwhile, be it
for the holder, stops at the dialog. -/
theorem entries_exclusive {describeError : ServiceError → String} {entrances : Entrances}
    (hreach : (Entrances.system describeError).ReachableUnder Entrances.Leaves entrances)
    {tab : GateTab} (htab : tab ∈ entrances.tabs) {entry : GateEntry} (hentry : entry ∈ tab.entries)
    {expiresAt : Instant} (hgranted : entry.granted = some expiresAt)
    (hnow : entrances.backend.state.now ≤ expiresAt) :
    (∀ other ∈ entrances.tabs, ∀ second ∈ other.entries, second.documentId = entry.documentId →
        ∀ limit ∈ second.granted, entrances.backend.state.now ≤ limit →
          other.user.id = tab.user.id) ∧
      (∀ editor, entrances.backend.state.db.CanEdit entry.documentId editor →
        editor.id ≠ tab.user.id → ∀ gate : Gate, Refused entrances.backend.state.db
          (gate.attempt entrances.backend.state.db entrances.backend.state.now entry.documentId
            editor)) ∧
      ∀ user, ∃ name, gateAnswer describeError .lookup
        ((gateRequest entry.documentId .lookup).serve entrances.backend.state.db
          entrances.backend.state.now user) = .lookedUp (some ⟨some name, .exclusive⟩) ∧
        ∀ page next : EntryGatePage,
          page.step (.lookedUp (some ⟨some name, .exclusive⟩)) = some next →
            next.stage = none ∧ next.lockModalOpen = true ∧ next.lockState = .exclusive ∧
              next.navigations = page.navigations := by
  have hleft := Entrances.left_backend hreach
  have hsystem := LeasedState.reachable_system hleft
  have hkept := LeasedState.reachable_kept (hleft.mono leasing fun _ _ => LeavesLeases.spares)
  have hopen := LeasedState.reachable_open hleft
  obtain ⟨_, hsame, hlease⟩ := ((Entrances.reachable_sound hreach tab htab).entries entry hentry).1
  obtain rfl := Option.some.inj (hgranted.symm.trans hsame)
  have hlive := hkept _ (hopen _ hlease hnow) hnow
  refine ⟨?_, ?_, fun user => ?_⟩
  · intro other hother second hsecond hdocument limit hlimit hunexpired
    obtain ⟨_, hexpires, hotherLease⟩ :=
      ((Entrances.reachable_sound hreach other hother).entries second hsecond).1
    obtain rfl := Option.some.inj (hlimit.symm.trans hexpires)
    exact (hkept _ (hopen _ hotherLease hunexpired) hunexpired).same_holder hlive hdocument
  · intro editor hedit hother gate
    exact (hlive.gates hsystem hnow hedit gate).2 hother
  · obtain ⟨lock, hrow, hcovers⟩ := hlive
    obtain ⟨doc, hdoc⟩ := Option.isSome_iff_exists.mp
      ((reachable_wellFormed hsystem).1.lock_document _ _ hrow)
    obtain ⟨holder, hholder⟩ := hcovers.holder
    refine ⟨holder.username, ?_, fun page next => EntryGatePage.step_exclusive⟩
    simp only [gateRequest, Request.serve, DocumentService.getById, hdoc, LockService.getLock,
      hrow, hcovers.live _ hnow, bind, Except.bind, pure, Except.pure, gateAnswer, replyLock,
      Option.map_some, gateLock, Backend.DocumentLock.toDto, hholder, hcovers.type, gateLockType,
      Bool.false_eq_true, if_false]

/-- A reader follows a link to the document, and comes as far as the page for readers. -/
def readersVisit : List Entrances.Event :=
  [.backend (.user ⟨1, "owner"⟩ (.create (some "notes") none)),
    .backend (.user ⟨1, "owner"⟩ (.createInvite 1 true none "invite")),
    .backend (.user ⟨2, "reader"⟩ (.useInvite "invite")),
    .openTab ⟨2, "reader"⟩ (some 1) .opening,
    .act 0 (.runEffect none),
    .serve 0, .deliver 0, .serve 0, .deliver 0, .serve 0, .deliver 0]

/-- Nothing has happened yet. -/
def untouched : Entrances := ⟨⟨⟨Database.empty, 0⟩, [], []⟩, []⟩

theorem entered_with_lock_reader : ∃ entrances : Entrances,
    (Entrances.system fun _ => "").Reachable entrances ∧ ∃ tab ∈ entrances.tabs,
    tab.user = ⟨2, "reader"⟩ ∧ .readonly 1 ∈ tab.page.navigations ∧ ∃ expiresAt,
      ⟨1, ⟨2, "reader"⟩, expiresAt⟩ ∈ entrances.backend.granted := by
  obtain ⟨entrances, hreach, hcheck⟩ :=
    (Entrances.system fun _ => "").exists_reachable_of_exec
      (.init ⟨⟨⟨rfl, by decide, by decide⟩, rfl, rfl⟩, rfl⟩ :
        (Entrances.system fun _ => "").Reachable untouched)
      readersVisit (fun entrances => entrances.tabs.any fun tab =>
        tab.user = ⟨2, "reader"⟩ ∧ ⟨1, some 300000000000, some .viewer⟩ ∈ tab.entries)
      (by decide +kernel)
  obtain ⟨tab, htab, hfound⟩ := List.any_eq_true.mp hcheck
  obtain ⟨huser, hentry⟩ := of_decide_eq_true hfound
  obtain ⟨hsent, ⟨expiresAt, -, hlease⟩, -⟩ := (entered_with_lock hreach htab).2 _ hentry
  exact ⟨entrances, hreach, tab, htab, huser, hsent, expiresAt, huser ▸ hlease⟩

/-- Almost five minutes later the owner still cannot save. -/
theorem entries_exclusive_reader : ∃ entrances : Entrances,
    (Entrances.system fun _ => "").ReachableUnder Entrances.Leaves entrances ∧
      entrances.backend.state.now = 299000000000 ∧
      entrances.backend.state.db.CanEdit 1 ⟨1, "owner"⟩ ∧
      Refused entrances.backend.state.db ((Gate.saveDocument (some "text")).attempt
        entrances.backend.state.db entrances.backend.state.now 1 ⟨1, "owner"⟩) := by
  obtain ⟨entrances, hreach, hcheck⟩ :=
    (Entrances.system fun _ => "").exists_reachable_of_exec
      (.init ⟨⟨⟨rfl, by decide, by decide⟩, rfl, rfl⟩, rfl⟩ :
        (Entrances.system fun _ => "").ReachableUnder Entrances.Leaves untouched)
      (readersVisit ++ [.backend (.advance 299000000000)])
      (fun entrances => (entrances.tabs.any fun tab =>
          tab.user = ⟨2, "reader"⟩ ∧ ⟨1, some 300000000000, some .viewer⟩ ∈ tab.entries) &&
        decide (entrances.backend.state.now = 299000000000) &&
        (entrances.backend.state.db.documents 1).any fun doc =>
          DocumentService.canUserEdit entrances.backend.state.db 1 doc ⟨1, "owner"⟩)
      (by decide +kernel)
  simp only [Bool.and_eq_true, List.any_eq_true, decide_eq_true_eq, Option.any_eq_true] at hcheck
  obtain ⟨⟨⟨tab, htab, huser, hentry⟩, hnow⟩, doc, hdoc, hrights⟩ := hcheck
  have hedit : entrances.backend.state.db.CanEdit 1 ⟨1, "owner"⟩ := ⟨doc, hdoc, hrights⟩
  have hunexpired : entrances.backend.state.now ≤ 300000000000 := by
    rw [hnow]
    decide
  refine ⟨entrances, hreach, hnow, hedit, ?_⟩
  exact (entries_exclusive hreach htab hentry rfl hunexpired).2.1 _ hedit (by rw [huser]; decide) _

end CollabEditor.Platform
