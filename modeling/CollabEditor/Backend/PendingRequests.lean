import Mathlib.Data.List.Perm.Basic
import CollabEditor.Backend.Permissions

/-! # Concurrent uses of invites

No constraint of the table keeps two requests of one pair apart: `useInvite` looks
for a row and inserts one when it sees none. Under READ COMMITTED every statement
of a transaction sees the rows committed before it, and what the transaction
writes is seen by others when it commits.
-/

namespace CollabEditor.Backend

open Foundation Database

/-- The document and the user a request is about. -/
def AccessRequest.pair (request : AccessRequest) : DocumentId × UserId :=
  (request.documentId, request.requester.id)

namespace PendingRequests

/-- A transaction under way, by what it has read or written so far. -/
inductive Flight
  /-- `useInvite` holds a valid invite. -/
  | invited (invite : Invite) (requester : User)
  /-- It has seen no request of the pair. -/
  | asking (documentId : DocumentId) (requester : User)
  /-- It has inserted its row. -/
  | inserted (row : AccessRequest)
  /-- The invite approves by itself, and the user has been seen without a permission row. -/
  | granting (documentId : DocumentId) (requester : User)
  /-- `processRequest` has read the request, and its caller owns the document. -/
  | processing (request : AccessRequest) (approve : Bool) (level : Option PermissionLevel)
deriving DecidableEq, Repr

/-- The pair whose request the next statement of the transaction looks for. -/
def Flight.looksFor : Flight → Option (DocumentId × UserId)
  | .invited invite requester =>
      if invite.autoApprove then none else some (invite.documentId, requester.id)
  | .asking .. | .inserted _ | .granting .. | .processing .. => none

/-- The pair for which the transaction has seen no request. -/
def Flight.asks : Flight → Option (DocumentId × UserId)
  | .asking documentId requester => some (documentId, requester.id)
  | .inserted row => some row.pair
  | .invited .. | .granting .. | .processing .. => none

/-- The committed rows and the transactions under way. -/
structure State where
  backend : Backend.State
  flights : List Flight

namespace State

variable (state : State)

abbrev db : Database := state.backend.db

abbrev now : Instant := state.backend.now

/-- Statements of a transaction: it moves to the front of the list. -/
def move (i : Nat) (flight : Flight) : State :=
  { state with flights := flight :: state.flights.eraseIdx i }

/-- The transaction ends without a trace. -/
def finish (i : Nat) : State :=
  { state with flights := state.flights.eraseIdx i }

/-- The transaction ends, and its writes are committed. -/
def commit (i : Nat) (db : Database) : State :=
  { state with
    backend := { state.backend with db := db }
    flights := state.flights.eraseIdx i }

/-- The first statement of `useInvite`. -/
def useInvite (token : String) (requester : User) : State :=
  match state.db.invites.find? fun row => row.token == token with
  | none => state
  | some invite =>
      if invite.expiresAt.any (· < state.now) then state
      else { state with flights := .invited invite requester :: state.flights }

/-- The second one looks for a permission row or for a request. -/
def look (i : Nat) (invite : Invite) (requester : User) : State :=
  if invite.autoApprove then
    if state.db.existsPermission invite.documentId requester.id then state.finish i
    else state.move i (.granting invite.documentId requester)
  else match SharingService.findByDocumentAndRequester state.db invite.documentId requester with
    | .ok none => state.move i (.asking invite.documentId requester)
    -- a pending request is returned, two are an exception
    | .ok (some _) => state.finish i
    | .error _ => state.finish i

/-- `save` of the new request. The row gets its identity value at once; its foreign key
needs the document. -/
def insert (i : Nat) (documentId : DocumentId) (requester : User) : State :=
  if (state.db.documents documentId).isNone then state.finish i
  else
    { state with
      backend := { state.backend with
        db := { state.db with nextRequestId := state.db.nextRequestId + 1 } }
      flights := .inserted
        { id := state.db.nextRequestId
          documentId := documentId
          requester := requester
          createdAt := state.now } :: state.flights.eraseIdx i }

/-- The commit of an inserted request. -/
def commitRequest (i : Nat) (row : AccessRequest) : State :=
  if (state.db.documents row.documentId).isNone then state.finish i
  else state.commit i { state.db with accessRequests := row :: state.db.accessRequests }

/-- The insertion of the permission row and its commit. -/
def grant (i : Nat) (documentId : DocumentId) (requester : User) : State :=
  match state.db.insertPermission
      { documentId := documentId, user := requester, level := .viewer, grantedAt := state.now } with
  | .ok db => state.commit i db
  | .error _ => state.finish i

/-- `processRequest` reads the request and the owner of its document. -/
def processRequest (requestId : Nat) (processor : User) (approve : Bool)
    (level : Option PermissionLevel) : State :=
  match state.db.accessRequests.find? fun row => row.id == requestId with
  | none => state
  | some request =>
      match state.db.documents request.documentId with
      | none => state
      | some doc =>
          if doc.owner.id ≠ processor.id then state
          else { state with flights := .processing request approve level :: state.flights }

/-- The writes of `processRequest` and its commit. Deleting a row that another
transaction has deleted fails, and so does a second permission row. -/
def commitProcess (i : Nat) (request : AccessRequest) (approve : Bool)
    (level : Option PermissionLevel) : State :=
  let permission : DocumentPermission :=
    { documentId := request.documentId
      user := request.requester
      level := level.getD .viewer
      grantedAt := state.now }
  match (if approve then state.db.insertPermission permission else .ok state.db) with
  | .error _ => state.finish i
  | .ok granted =>
      if granted.accessRequests.all (·.id != request.id) then state.finish i
      else state.commit i { granted with
        accessRequests := granted.accessRequests.filter fun row => row.id != request.id }

end State

/-- The other transactions of the backend are not taken apart. -/
def Undivided : Backend.Event → Prop
  | .user _ (.useInvite _) | .user _ (.processRequest ..) => False
  | _ => True

instance : DecidablePred Undivided
  | .user _ (.useInvite _) | .user _ (.processRequest ..) => .isFalse id
  | .user _ (.create ..) | .user _ (.read _) | .user _ (.save ..) | .user _ (.acquireLock ..)
  | .user _ (.switchToCollaborative ..) | .user _ (.releaseLock _) | .user _ (.refreshLock ..)
  | .user _ (.getLock _) | .user _ (.delete _) | .user _ (.createInvite ..)
  | .worker _ | .advance _ => .isTrue trivial

inductive Event
  | useInvite (token : String) (requester : User)
  | processRequest (requestId : Nat) (processor : User) (approve : Bool)
      (level : Option PermissionLevel)
  /-- The next statement of a transaction under way, or its commit. -/
  | proceed (i : Nat)
  | rollback (i : Nat)
  | other (event : Backend.Event)
deriving DecidableEq, Repr

def State.proceed (state : State) (i : Nat) : Flight → State
  | .invited invite requester => state.look i invite requester
  | .asking documentId requester => state.insert i documentId requester
  | .inserted row => state.commitRequest i row
  | .granting documentId requester => state.grant i documentId requester
  | .processing request approve level => state.commitProcess i request approve level

def step (state : State) : Event → Option State
  | .useInvite token requester => some (state.useInvite token requester)
  | .processRequest requestId processor approve level =>
      some (state.processRequest requestId processor approve level)
  | .proceed i => state.flights[i]?.map (state.proceed i)
  | .rollback i => if i < state.flights.length then some (state.finish i) else none
  | .other event =>
      if Undivided event then
        (Backend.step state.backend event).map fun backend => { state with backend := backend }
      else none

/-- The backend with the transactions of the sharing service taken apart. -/
def system : TransitionSystem State Event where
  init state := Backend.system.init state.backend ∧ state.flights = []
  step := step

/-- A transaction that looks for the request of a pair while another one asks for the
pair finds it. -/
def AsksAlone (state : State) : Event → Prop
  | .proceed i => ∀ flight ∈ state.flights[i]?, ∀ pair ∈ flight.looksFor,
      (∀ row ∈ state.db.accessRequests, row.pair ≠ pair) →
        ∀ other ∈ state.flights, other.asks ≠ some pair
  | _ => True

instance (state : State) : (event : Event) → Decidable (AsksAlone state event)
  | .proceed i => inferInstanceAs (Decidable
      (∀ flight ∈ state.flights[i]?, ∀ pair ∈ flight.looksFor,
        (∀ row ∈ state.db.accessRequests, row.pair ≠ pair) →
          ∀ other ∈ state.flights, other.asks ≠ some pair))
  | .useInvite .. | .processRequest .. | .rollback _ | .other _ => .isTrue trivial

/-! ## The taken-apart transactions are those of the service -/

/-- The state after an uninterrupted transaction. -/
def State.after (state : State) (db : Database) : State :=
  { state with backend := { state.backend with db := db } }

/-- The transaction at the front goes on `n` times. -/
def State.run : Nat → State → State
  | 0, state => state
  | n + 1, state => match state.flights with
      | [] => state
      | flight :: _ => run n (state.proceed 0 flight)

/-- Not interrupted by others, `useInvite` does what the service does. -/
theorem useInvite_alone (state : State) (token : String) (requester : User) :
    ∃ n, (state.useInvite token requester).run n = state.after
      (committed state.db (SharingService.useInvite state.db state.now token requester)) := by
  unfold State.useInvite SharingService.useInvite
  cases hinvite : state.db.invites.find? fun row => row.token == token with
  | none => exact ⟨0, rfl⟩
  | some invite =>
      dsimp only
      by_cases hexpired : invite.expiresAt.any (· < state.now) = true
      · rw [if_pos hexpired, if_pos hexpired]
        exact ⟨0, rfl⟩
      rw [if_neg hexpired, if_neg hexpired]
      by_cases hauto : invite.autoApprove = true
      · -- the permission is looked up, then inserted
        rw [if_pos hauto]
        cases hexists : state.db.existsPermission invite.documentId requester.id with
        | true =>
            exact ⟨1, by simp [State.run, State.proceed, State.look, State.finish, State.after,
              hauto, hexists]⟩
        | false =>
            refine ⟨2, ?_⟩
            simp only [State.run, State.proceed, State.look, State.move, State.grant, hauto,
              hexists, if_pos, Bool.false_eq_true, if_false, List.eraseIdx_cons_zero]
            cases state.db.insertPermission ⟨invite.documentId, requester, .viewer, state.now⟩ with
            | error error => rfl
            | ok granted => rfl
      · rw [if_neg hauto]
        cases hfound : SharingService.findByDocumentAndRequester state.db invite.documentId
            requester with
        | error error =>
            exact ⟨1, by simp [State.run, State.proceed, State.look, State.finish, State.after,
              hauto, hfound, bind, Except.bind]⟩
        | ok found =>
            cases found with
            | some request =>
                exact ⟨1, by simp [State.run, State.proceed, State.look, State.finish, State.after,
                  hauto, hfound, bind, Except.bind, pure, Except.pure]⟩
            | none =>
                cases hdoc : state.db.documents invite.documentId with
                | none =>
                    exact ⟨2, by simp [State.run, State.proceed, State.look, State.move, State.db,
                      State.insert, State.finish, State.after, Database.insertAccessRequest,
                      hauto, hfound, hdoc, bind, Except.bind]⟩
                | some doc =>
                    exact ⟨3, by simp [State.run, State.proceed, State.look, State.move, State.db,
                      State.insert, State.commitRequest, State.commit, State.after,
                      Database.insertAccessRequest, hauto, hfound, hdoc, bind, Except.bind, pure,
                      Except.pure]⟩

/-- So does `processRequest`. -/
theorem processRequest_alone (state : State) (requestId : Nat) (processor : User)
    (approve : Bool) (level : Option PermissionLevel) :
    ∃ n, (state.processRequest requestId processor approve level).run n = state.after
      (committed state.db
        (SharingService.processRequest state.db state.now requestId processor approve level)) := by
  unfold State.processRequest SharingService.processRequest
  cases hrequest : state.db.accessRequests.find? fun row => row.id == requestId with
  | none => exact ⟨0, rfl⟩
  | some request =>
      dsimp only
      cases hdoc : state.db.documents request.documentId with
      | none => exact ⟨0, rfl⟩
      | some doc =>
          dsimp only
          by_cases howner : doc.owner.id ≠ processor.id
          · rw [if_pos howner, if_pos howner]
            exact ⟨0, rfl⟩
          rw [if_neg howner, if_neg howner]
          refine ⟨1, ?_⟩
          have hid : request.id = requestId := by simpa using List.find?_some hrequest
          have hmem := List.mem_of_find?_eq_some hrequest
          cases hgranted : (if approve = true then state.db.insertPermission
              ⟨request.documentId, request.requester, level.getD .viewer, state.now⟩
            else Except.ok state.db) with
          | error error =>
              simp [State.run, State.proceed, State.commitProcess, State.finish, State.after,
                State.db, hgranted, bind, Except.bind]
          | ok granted =>
              have hsame : granted.accessRequests = state.db.accessRequests := by
                cases approve with
                | false =>
                    cases hgranted
                    rfl
                | true =>
                    rw [if_pos rfl, insertPermission_eq_ok_iff] at hgranted
                    obtain ⟨-, -, rfl⟩ := hgranted
                    rfl
              simp [State.run, State.proceed, State.commitProcess, State.commit, State.after,
                State.db, hgranted, hsame, hid, bind, Except.bind, pure, Except.pure]
              exact fun hnone => absurd hid (hnone request hmem)

/-! ## One request of a pair -/

/-- No pair has two rows, no pair that is asked for has one, and no pair is asked for twice. -/
structure OneRequest (state : State) : Prop where
  rows : state.db.accessRequests.Pairwise fun first second => first.pair ≠ second.pair
  fresh : ∀ flight ∈ state.flights, ∀ pair, flight.asks = some pair →
    ∀ row ∈ state.db.accessRequests, row.pair ≠ pair
  apart : state.flights.Pairwise fun first second =>
    ∀ pair, first.asks = some pair → second.asks ≠ some pair

namespace OneRequest

variable {state next : State}

/-- Requests and transactions at most disappear. -/
theorem shrink (hone : OneRequest state)
    (hrows : next.db.accessRequests.Sublist state.db.accessRequests)
    (hflights : next.flights.Sublist state.flights) : OneRequest next where
  rows := hone.rows.sublist hrows
  fresh flight hflight pair hasks row hrow :=
    hone.fresh flight (hflights.subset hflight) pair hasks row (hrows.subset hrow)
  apart := hone.apart.sublist hflights

/-- A transaction that asks for nothing yet. -/
theorem cons (hone : OneRequest state) {flight : Flight} (hasks : flight.asks = none)
    (hrows : next.db.accessRequests.Sublist state.db.accessRequests) {rest : List Flight}
    (hrest : rest.Sublist state.flights) (hflights : next.flights = flight :: rest) :
    OneRequest next where
  rows := hone.rows.sublist hrows
  fresh other hother pair hpair row hrow := by
    rw [hflights, List.mem_cons] at hother
    rcases hother with rfl | hother
    · cases hasks.symm.trans hpair
    · exact hone.fresh other (hrest.subset hother) pair hpair row (hrows.subset hrow)
  apart := by
    rw [hflights]
    refine List.pairwise_cons.mpr ⟨fun other _ pair hpair => ?_, hone.apart.sublist hrest⟩
    cases hasks.symm.trans hpair

/-- A transaction that has seen no row of a pair nobody else asks for. -/
theorem ask (hone : OneRequest state) {flight : Flight} {pair : DocumentId × UserId}
    (hasks : flight.asks = some pair) (hrows : next.db.accessRequests = state.db.accessRequests)
    {rest : List Flight} (hrest : rest.Sublist state.flights)
    (hflights : next.flights = flight :: rest)
    (hnone : ∀ row ∈ state.db.accessRequests, row.pair ≠ pair)
    (halone : ∀ other ∈ rest, other.asks ≠ some pair) : OneRequest next where
  rows := hrows ▸ hone.rows
  fresh other hother found hfound row hrow := by
    rw [hrows] at hrow
    rw [hflights, List.mem_cons] at hother
    rcases hother with rfl | hother
    · cases hasks.symm.trans hfound
      exact hnone row hrow
    · exact hone.fresh other (hrest.subset hother) found hfound row hrow
  apart := by
    rw [hflights]
    refine List.pairwise_cons.mpr ⟨fun other hother found hfound => ?_, hone.apart.sublist hrest⟩
    cases hasks.symm.trans hfound
    exact halone other hother

/-- Nobody else asks for the pair of a transaction that does. -/
theorem alone (hone : OneRequest state) {i : Nat} {flight : Flight}
    (hflight : state.flights[i]? = some flight) {pair : DocumentId × UserId}
    (hasks : flight.asks = some pair) :
    ∀ other ∈ state.flights.eraseIdx i, other.asks ≠ some pair := by
  obtain ⟨hlt, hget⟩ := List.getElem?_eq_some_iff.mp hflight
  have hperm : (flight :: state.flights.eraseIdx i).Perm state.flights :=
    hget ▸ List.getElem_cons_eraseIdx_perm hlt
  have hsymmetric : ∀ {first second : Flight},
      (∀ pair, first.asks = some pair → second.asks ≠ some pair) →
        ∀ pair, second.asks = some pair → first.asks ≠ some pair :=
    fun hapart pair hsecond hfirst => hapart pair hfirst hsecond
  have hpairwise := (hperm.pairwise_iff hsymmetric).mpr hone.apart
  intro other hother
  exact (List.pairwise_cons.mp hpairwise).1 other hother pair hasks

/-- The inserted row of a transaction becomes visible. -/
theorem commitRequest (hone : OneRequest state) {i : Nat} {row : AccessRequest}
    (hflight : state.flights[i]? = some (.inserted row))
    (hrows : next.db.accessRequests = row :: state.db.accessRequests)
    (hflights : next.flights = state.flights.eraseIdx i) : OneRequest next where
  rows := by
    rw [hrows]
    refine List.pairwise_cons.mpr ⟨fun other hother heq => ?_, hone.rows⟩
    exact hone.fresh _ (List.mem_of_getElem? hflight) _ rfl other hother heq.symm
  fresh flight hmem pair hasks found hfound := by
    rw [hflights] at hmem
    rw [hrows, List.mem_cons] at hfound
    rcases hfound with rfl | hfound
    · rintro rfl
      exact hone.alone hflight rfl flight hmem hasks
    · exact hone.fresh flight ((List.eraseIdx_sublist _ _).subset hmem) pair hasks found hfound
  apart := hflights ▸ hone.apart.sublist (List.eraseIdx_sublist _ _)

theorem finish (hone : OneRequest state) (i : Nat) : OneRequest (state.finish i) :=
  hone.shrink (.refl _) (List.eraseIdx_sublist _ _)

/-- A statement or a commit of a transaction under way. -/
theorem proceed (hone : OneRequest state) {i : Nat} {flight : Flight}
    (hflight : state.flights[i]? = some flight)
    (hguard : ∀ pair ∈ flight.looksFor, (∀ row ∈ state.db.accessRequests, row.pair ≠ pair) →
      ∀ other ∈ state.flights, other.asks ≠ some pair) :
    OneRequest (state.proceed i flight) := by
  cases flight with
  | invited invite requester =>
      change OneRequest (state.look i invite requester)
      unfold State.look
      split
      next =>
        split
        next => exact hone.finish i
        next => exact hone.cons rfl (.refl _) (List.eraseIdx_sublist _ _) rfl
      next hauto =>
        split
        next hnone =>
          have hfresh : ∀ row ∈ state.db.accessRequests,
              row.pair ≠ (invite.documentId, requester.id) := by
            intro row hrow hpair
            exact SharingService.findByDocumentAndRequester_none hnone row hrow
              (Prod.mk.inj hpair)
          have halone := hguard (invite.documentId, requester.id)
            (by simp [Flight.looksFor, hauto]) hfresh
          exact hone.ask rfl rfl (List.eraseIdx_sublist _ _) rfl hfresh fun other hother =>
            halone other ((List.eraseIdx_sublist _ _).subset hother)
        next => exact hone.finish i
        next => exact hone.finish i
  | asking documentId requester =>
      change OneRequest (state.insert i documentId requester)
      unfold State.insert
      split
      next => exact hone.finish i
      next =>
        have hmem := List.mem_of_getElem? hflight
        exact hone.ask rfl rfl (List.eraseIdx_sublist _ _) rfl (hone.fresh _ hmem _ rfl)
          (hone.alone hflight rfl)
  | inserted row =>
      change OneRequest (state.commitRequest i row)
      unfold State.commitRequest
      split
      next => exact hone.finish i
      next => exact hone.commitRequest hflight rfl rfl
  | granting documentId requester =>
      change OneRequest (state.grant i documentId requester)
      unfold State.grant
      split
      next db hgranted =>
        rw [insertPermission_eq_ok_iff] at hgranted
        obtain ⟨-, -, rfl⟩ := hgranted
        exact hone.shrink (.refl _) (List.eraseIdx_sublist _ _)
      next => exact hone.finish i
  | processing request approve level =>
      change OneRequest (state.commitProcess i request approve level)
      unfold State.commitProcess
      dsimp only
      split
      next => exact hone.finish i
      next granted hgranted =>
        split
        next => exact hone.finish i
        next =>
          have hsame : granted.accessRequests = state.db.accessRequests := by
            split at hgranted
            next =>
              rw [insertPermission_eq_ok_iff] at hgranted
              obtain ⟨-, -, rfl⟩ := hgranted
              rfl
            next =>
              cases hgranted
              rfl
          refine hone.shrink ?_ (List.eraseIdx_sublist _ _)
          change (granted.accessRequests.filter _).Sublist _
          rw [hsame]
          exact List.filter_sublist

end OneRequest

/-- The transactions that are not taken apart at most delete requests. -/
theorem undivided_accessRequests {state next : Backend.State} {event : Backend.Event}
    (hundivided : Undivided event) (hstep : Backend.step state event = some next) :
    next.db.accessRequests.Sublist state.db.accessRequests := by
  cases event with
  | user user request =>
      cases hstep
      cases hserve : request.serve state.db state.now user with
      | error error => exact .refl _
      | ok result =>
          obtain ⟨reply, written⟩ := result
          cases Request.serve_sharing hserve with
          | unchanged _ _ _ hrequests => exact hrequests ▸ .refl _
          | create _ _ _ _ _ hrequests => exact hrequests ▸ .refl _
          | delete _ _ _ hrequests =>
              rw [committed_ok, hrequests]
              exact List.filter_sublist
          | invite => exact .refl _
          | letIn | ask | approve | reject => cases hundivided
  | worker operation =>
      cases hstep
      cases hserve : operation.serve state.db state.now with
      | error error => exact .refl _
      | ok result =>
          obtain ⟨_, written⟩ := result
          cases WorkerOperation.serve_effect hserve <;> exact .refl _
  | advance nanoseconds =>
      simp only [Backend.step, Option.ite_none_right_eq_some, Option.some.injEq] at hstep
      obtain ⟨-, rfl⟩ := hstep
      exact .refl _

theorem step_oneRequest {state next : State} {event : Event} (hone : OneRequest state)
    (hguard : AsksAlone state event) (hstep : step state event = some next) :
    OneRequest next := by
  cases event with
  | useInvite token requester =>
      cases hstep
      unfold State.useInvite
      split
      next => exact hone
      next =>
        split
        next => exact hone
        next => exact hone.cons rfl (.refl _) (.refl _) rfl
  | processRequest requestId processor approve level =>
      cases hstep
      unfold State.processRequest
      split
      next => exact hone
      next =>
        split
        next => exact hone
        next =>
          split
          next => exact hone
          next => exact hone.cons rfl (.refl _) (.refl _) rfl
  | proceed i =>
      obtain ⟨flight, hflight, rfl⟩ := Option.map_eq_some_iff.mp hstep
      exact hone.proceed hflight (hguard flight hflight)
  | rollback i =>
      simp only [step, Option.ite_none_right_eq_some, Option.some.injEq] at hstep
      obtain ⟨-, rfl⟩ := hstep
      exact hone.finish i
  | other event =>
      simp only [step, Option.ite_none_right_eq_some, Option.map_eq_some_iff] at hstep
      obtain ⟨hundivided, backend, hbackend, rfl⟩ := hstep
      exact hone.shrink (undivided_accessRequests hundivided hbackend) (.refl _)

theorem OneRequest.length_le_one {state : State} (hone : OneRequest state) (docId : DocumentId)
    (requester : User) :
    (state.db.accessRequests.filter fun row =>
      row.documentId == docId && row.requester.id == requester.id).length ≤ 1 := by
  refine List.filter_length_le_one hone.rows fun first _ second _ hfirst hsecond hne => ?_
  simp only [Bool.and_eq_true, beq_iff_eq] at hfirst hsecond
  exact hne (Prod.ext (hfirst.1.trans hsecond.1.symm) (hfirst.2.trans hsecond.2.symm))

/-- When no two transactions ask for one pair at a time, a pair has one committed request
at most, and the query declared `Optional` meets no two rows. -/
theorem reachable_oneRequest {state : State}
    (hreach : system.ReachableUnder AsksAlone state) (docId : DocumentId) (requester : User) :
    (state.db.accessRequests.filter fun row =>
      row.documentId == docId && row.requester.id == requester.id).length ≤ 1 ∧
    SharingService.findByDocumentAndRequester state.db docId requester ≠
      .error .nonUniqueResult := by
  have hone : OneRequest state := by
    refine hreach.invariant system OneRequest ?_ ?_
    · rintro state ⟨⟨hdb, -⟩, hflights⟩
      constructor <;> simp [State.db, hdb, hflights, Database.empty]
    · intro state event next _ hone hguard hstep
      exact step_oneRequest hone hguard hstep
  have hlength := hone.length_le_one docId requester
  refine ⟨hlength, fun herror => ?_⟩
  unfold SharingService.findByDocumentAndRequester at herror
  split at herror
  next => cases herror
  next => cases herror
  next hnil hsingle =>
    rcases hfilter : state.db.accessRequests.filter fun row =>
        row.documentId == docId && row.requester.id == requester.id with
      _ | ⟨row, _ | ⟨other, rest⟩⟩
    · exact hnil hfilter
    · exact hsingle row hfilter
    · simp [hfilter] at hlength

/-- Two users ask at the same time, and the owner lets one of them in. -/
theorem reachable_oneRequest_shared : ∃ state, system.ReachableUnder AsksAlone state ∧
    state.db.existsPermission 1 2 = true ∧
    (state.db.accessRequests.filter fun row =>
      row.documentId == 1 && row.requester.id == 3).length ≤ 1 := by
  obtain ⟨state, hreach, hcheck⟩ := system.exists_reachable_of_exec
    (.init ⟨⟨rfl, by decide, by decide⟩, rfl⟩ :
      system.ReachableUnder AsksAlone ⟨⟨Database.empty, 0⟩, []⟩)
    [.other (.user ⟨1, "owner"⟩ (.create (some "notes") none)),
      .other (.user ⟨1, "owner"⟩ (.createInvite 1 false none "invite")),
      .useInvite "invite" ⟨2, "guest"⟩, .proceed 0, .useInvite "invite" ⟨3, "other"⟩, .proceed 0,
      .proceed 1, .proceed 0, .useInvite "invite" ⟨2, "guest"⟩, .proceed 1, .proceed 0,
      .proceed 0, .processRequest 1 ⟨1, "owner"⟩ true none, .proceed 0]
    (fun state => state.db.existsPermission 1 2 ∧ state.db.accessRequests.length = 1)
    (by decide +kernel)
  exact ⟨state, hreach, (of_decide_eq_true hcheck).1,
    (reachable_oneRequest hreach 1 ⟨3, "other"⟩).1⟩

/-- Two uses of an invite by one user, each of which looks before the other one commits. -/
theorem two_requests :
    ¬ ∀ state, system.Reachable state → ∀ docId requester,
      (state.db.accessRequests.filter fun row =>
        row.documentId == docId && row.requester.id == requester.id).length ≤ 1 ∧
      SharingService.findByDocumentAndRequester state.db docId requester ≠
        .error .nonUniqueResult := by
  intro hall
  obtain ⟨state, hreach, hcheck⟩ := system.exists_reachable_of_exec
    (.init ⟨⟨rfl, by decide, by decide⟩, rfl⟩ :
      system.Reachable ⟨⟨Database.empty, 0⟩, []⟩)
    [.other (.user ⟨1, "owner"⟩ (.create (some "notes") none)),
      .other (.user ⟨1, "owner"⟩ (.createInvite 1 false none "invite")),
      .useInvite "invite" ⟨2, "guest"⟩, .proceed 0, .useInvite "invite" ⟨2, "guest"⟩, .proceed 0,
      .proceed 0, .proceed 0, .proceed 0, .proceed 0]
    (fun state => (state.db.accessRequests.filter fun row =>
      row.documentId == 1 && row.requester.id == 2).length = 2) (by decide +kernel)
  have hone := (hall state hreach 1 ⟨2, "guest"⟩).1
  rw [of_decide_eq_true hcheck] at hone
  exact absurd hone (by decide)

end PendingRequests

end CollabEditor.Backend
