import CollabEditor.Backend.Requests
import CollabEditor.Backend.WebSocketTicketService
import CollabEditor.Hub.Protocol

/-! # One ticket, one client

The backend issues tickets while any number of `ServeHTTP` calls, on any nodes,
present texts as tickets. `Consume` takes the key out of Redis in one step and
checks what it has found in a later one.
-/

namespace CollabEditor.Platform

open Foundation
open Hub
open Backend (Database DocumentId Instant TicketStore User WebSocketTicketPayload)

/-- `GETDEL`. Redis counts the lifetime of a key by a clock of its own: `kept` tells
whether the key has not run out by that. -/
def getDel (store : TicketStore) (kept : Bool) (ticket : String) :
    Option WebSocketTicketPayload × TicketStore :=
  (if kept then store ticket else none, Function.update store ticket none)

/-- The checks of `Consume` on a payload. -/
def accepts (now : Instant) (payload : WebSocketTicketPayload) : Bool :=
  payload.expiresAt ≠ zeroTime ∧ now ≤ payload.expiresAt ∧
    0 < payload.documentId ∧ 0 < payload.userId

/-- At one instant, by one clock, the two steps are `Consume`. -/
theorem consume_eq_getDel (store : TicketStore) {now : Instant} (hnow : zeroTime < now)
    {ticket : String} (hticket : ticket ≠ "") :
    store.consume now ticket =
      ((getDel store (store.get now ticket).isSome ticket).1.filter (accepts now),
        (getDel store (store.get now ticket).isSome ticket).2) := by
  have hzero : ∀ payload : WebSocketTicketPayload, accepts now payload =
      decide (now ≤ payload.expiresAt ∧ 0 < payload.documentId ∧ 0 < payload.userId) := by
    intro payload
    unfold accepts
    apply decide_eq_decide.mpr
    refine ⟨fun h => h.2, fun h => ⟨fun heq => ?_, h⟩⟩
    exact absurd (heq ▸ h.1) (Int.not_le.mpr hnow)
  unfold TicketStore.consume getDel
  rw [if_neg hticket]
  cases hget : store.get now ticket with
  | none => rfl
  | some payload =>
      have hstored : store ticket = some payload := (Option.filter_eq_some_iff.mp hget).1
      have haccepts : accepts now = fun payload =>
          decide (now ≤ payload.expiresAt ∧ 0 < payload.documentId ∧ 0 < payload.userId) :=
        funext hzero
      simp [hstored, haccepts]

abbrev CallId := Nat

/-- How far a call of `ServeHTTP` has come. -/
inductive Admission
  /-- `Consume` has deleted the key and got its payload. -/
  | checking (payload : WebSocketTicketPayload)
  /-- `Consume` has returned the payload. -/
  | upgrading (payload : WebSocketTicketPayload)
  /-- Before `Register`. -/
  | registering (client : Client)
  | registered (client : Client)
  | refused

/-- A call of `ServeHTTP`. When `Consume` returned is only recorded. -/
structure UpgradeCall where
  node : NodeId
  /-- The `ticket` of the query. -/
  presented : String
  stage : Admission
  consumedAt : Instant

/-- The key the call looks up. -/
def UpgradeCall.ticket (call : UpgradeCall) : String := trimSpace call.presented

/-- A ticket that was issued, with the database at that moment. -/
structure Issue where
  ticket : String
  user : User
  documentId : DocumentId
  db : Database
  payload : WebSocketTicketPayload

/-- The backend, Redis and the calls; `issued` only records. -/
structure TicketOffice where
  backend : Backend.State
  tickets : TicketStore
  issued : List Issue
  calls : CallId → Option UpgradeCall

namespace TicketOffice

variable (office : TicketOffice)

def setCall (id : CallId) (call : UpgradeCall) : TicketOffice :=
  { office with calls := Function.update office.calls id (some call) }

inductive Event
  /-- The backend serves other requests, or time passes. -/
  | backend (event : Backend.Event)
  | createTicket (user : User) (documentId : DocumentId) (ticket : String)
  /-- `ServeHTTP` up to the `GETDEL` of `Consume`. -/
  | serveHTTP (id : CallId) (node : NodeId) (presented : String) (kept : Bool)
  /-- The rest of `Consume`. -/
  | check (id : CallId)
  | upgrade (id : CallId) (upgraded : Bool) (sendBuffer : Int)
  | register (id : CallId) (registered : Bool)

def step : Event → Option TicketOffice
  | .backend event =>
      (Backend.step office.backend event).map fun backend => { office with backend := backend }
  | .createTicket user documentId ticket =>
      match Backend.WebSocketTicketService.createTicketWithContent office.backend.db
          office.backend.now office.tickets documentId user ticket with
      | .error _ => some office
      | .ok (payload, tickets) =>
          some { office with
            tickets := tickets
            issued := office.issued ++ [⟨ticket, user, documentId, office.backend.db, payload⟩] }
  | .serveHTTP id node presented kept =>
      if (office.calls id).isSome then none
      else if trimSpace presented = "" then some office
      else
        let (found, tickets) := getDel office.tickets kept (trimSpace presented)
        some <| { office with tickets := tickets }.setCall id
          ⟨node, presented, found.elim .refused .checking, office.backend.now⟩
  | .check id => do
      let call ← office.calls id
      match call.stage with
      | .checking payload =>
          some <| office.setCall id
            { call with
              stage := if accepts office.backend.now payload then .upgrading payload else .refused
              consumedAt := office.backend.now }
      | _ => none
  | .upgrade id upgraded sendBuffer => do
      let call ← office.calls id
      match call.stage with
      | .upgrading payload =>
          let client := Client.new payload.userId payload.username payload.documentId
            payload.permissionLevel.name sendBuffer
          some <| office.setCall id
            { call with stage := if upgraded then .registering client else .refused }
      | _ => none
  | .register id registered => do
      let call ← office.calls id
      match call.stage with
      | .registering client =>
          some <| office.setCall id
            { call with stage := if registered then .registered client else .refused }
      | _ => none

/-- Nothing has been issued, and nobody has called. -/
def system : TransitionSystem TicketOffice Event where
  init office := Backend.system.init office.backend ∧ office.tickets = (fun _ => none) ∧
    office.issued = [] ∧ office.calls = fun _ => none
  step := step

/-- `generateOpaqueTicket` does not draw the text of an earlier ticket. -/
def DrawsFresh : Event → Prop
  | .createTicket _ _ ticket => ∀ issue ∈ office.issued, issue.ticket ≠ ticket
  | _ => True

instance (event : Event) : Decidable (office.DrawsFresh event) := by
  cases event with
  | createTicket user documentId ticket =>
      exact inferInstanceAs (Decidable (∀ issue ∈ office.issued, issue.ticket ≠ ticket))
  | _ => exact .isTrue trivial

end TicketOffice

/-! ## What a ticket lets in -/

/-- The identity in a payload. -/
structure Admission.Identifies (payload : WebSocketTicketPayload) (client : Client) : Prop where
  userId : client.userId = payload.userId
  username : client.username = payload.username
  documentId : client.documentId = payload.documentId
  permissionLevel : client.permissionLevel = payload.permissionLevel.name

/-- The call has the payload, or the client made of it. -/
def Admission.Carries (payload : WebSocketTicketPayload) : Admission → Prop
  | .checking found | .upgrading found => found = payload
  | .registering client | .registered client => Identifies payload client
  | .refused => False

def Admission.isChecking : Admission → Bool
  | .checking _ => true
  | _ => false

/-- The ticket has been issued with the payload, for a user with a permission. -/
structure Issue.Sound (issue : Issue) : Prop where
  userId : issue.payload.userId = issue.user.id
  username : issue.payload.username = issue.user.username
  documentId : issue.payload.documentId = issue.documentId
  permission : ∃ row, issue.db.findPermission issue.documentId issue.user.id = some row ∧
    issue.payload.permissionLevel = row.level

/-- A call that goes on has taken a ticket out, and in time. -/
def UpgradeCall.Sound (issued : List Issue) (call : UpgradeCall) : Prop :=
  call.stage ≠ .refused → ∃ issue ∈ issued, issue.ticket = call.ticket ∧
    call.stage.Carries issue.payload ∧
      (call.stage.isChecking = false → call.consumedAt ≤ issue.payload.expiresAt)

theorem UpgradeCall.Sound.mono {issued : List Issue} {call : UpgradeCall}
    (h : call.Sound issued) (more : List Issue) : call.Sound (issued ++ more) := by
  intro hstage
  obtain ⟨issue, hissue, hrest⟩ := h hstage
  exact ⟨issue, List.mem_append_left _ hissue, hrest⟩

namespace TicketOffice

variable {office : TicketOffice}

/-- What registered clients have to do with the tickets that were issued. -/
structure Admits (office : TicketOffice) : Prop where
  distinct : ∀ first ∈ office.issued, ∀ second ∈ office.issued,
    first.ticket = second.ticket → first = second
  /-- A ticket leads to one client at most. -/
  single : ∀ id other call second client registered,
    office.calls id = some call → office.calls other = some second →
    call.stage = .registered client → second.stage = .registered registered →
    call.ticket = second.ticket → id = other
  /-- A client has the identity its ticket was issued for. -/
  identity : ∀ id call client, office.calls id = some call → call.stage = .registered client →
    ∃ issue ∈ office.issued, issue.ticket = call.ticket ∧
      client.userId = issue.user.id ∧ client.username = issue.user.username ∧
      client.documentId = issue.documentId ∧
      (∃ row, issue.db.findPermission issue.documentId issue.user.id = some row ∧
        client.permissionLevel = row.level.name) ∧
      call.consumedAt ≤ issue.payload.expiresAt

/-- A ticket is in Redis, with one call, or used up. -/
structure Sound (office : TicketOffice) : Prop where
  distinct : ∀ first ∈ office.issued, ∀ second ∈ office.issued,
    first.ticket = second.ticket → first = second
  issue : ∀ issue ∈ office.issued, issue.Sound
  stored : ∀ ticket payload, office.tickets ticket = some payload →
    ∃ issue ∈ office.issued, issue.ticket = ticket ∧ issue.payload = payload
  unheld : ∀ ticket, (office.tickets ticket).isSome = true → ∀ id call,
    office.calls id = some call → call.stage ≠ .refused → call.ticket ≠ ticket
  single : ∀ id other call second, office.calls id = some call →
    office.calls other = some second → call.stage ≠ .refused → second.stage ≠ .refused →
      call.ticket = second.ticket → id = other
  call : ∀ id call, office.calls id = some call → call.Sound office.issued

theorem Sound.init {backend : Backend.State} {office : TicketOffice}
    (hoffice : office = ⟨backend, fun _ => none, [], fun _ => none⟩) : office.Sound := by
  subst hoffice
  exact ⟨by simp, by simp, by simp, by simp, by simp, by simp⟩

theorem setCall_cases {id other : CallId} {call found : UpgradeCall}
    (hfound : (office.setCall id call).calls other = some found) :
    other = id ∧ found = call ∨ other ≠ id ∧ office.calls other = some found := by
  dsimp only [setCall] at hfound
  by_cases heq : other = id
  · subst heq
    rw [Function.update_self, Option.some.injEq] at hfound
    exact .inl ⟨rfl, hfound.symm⟩
  · rw [Function.update_of_ne heq] at hfound
    exact .inr ⟨heq, hfound⟩

/-- A call goes on, or ends. -/
theorem Sound.advance (h : office.Sound) {id : CallId} {old new : UpgradeCall}
    (hold : office.calls id = some old) (hpresented : new.presented = old.presented)
    (hstage : old.stage ≠ .refused) (hcarries : new.stage ≠ .refused → ∀ payload,
      old.stage.Carries payload →
        (old.stage.isChecking = false → old.consumedAt ≤ payload.expiresAt) →
          new.stage.Carries payload ∧ new.consumedAt ≤ payload.expiresAt) :
    (office.setCall id new).Sound := by
  have hticket : new.ticket = old.ticket := congrArg trimSpace hpresented
  have hnew : new.Sound office.issued := by
    intro hgoing
    obtain ⟨issue, hissue, hfrom, hbefore, hintime⟩ := h.call id old hold hstage
    obtain ⟨hafter, hexpires⟩ := hcarries hgoing issue.payload hbefore hintime
    exact ⟨issue, hissue, hfrom.trans hticket.symm, hafter, fun _ => hexpires⟩
  refine ⟨h.distinct, h.issue, h.stored, ?_, ?_, ?_⟩
  · intro ticket hstored other call hcall hgoing
    rcases setCall_cases hcall with ⟨rfl, rfl⟩ | ⟨-, hcall⟩
    · rw [hticket]
      exact h.unheld ticket hstored other old hold hstage
    · exact h.unheld ticket hstored other call hcall hgoing
  · intro first second call other hcall hother hgoing hongoing hsame
    rcases setCall_cases hcall with ⟨rfl, rfl⟩ | ⟨-, hbefore⟩
    · rcases setCall_cases hother with ⟨rfl, rfl⟩ | ⟨-, hother⟩
      · rfl
      · exact h.single first second old other hold hother hstage hongoing
          (hticket.symm.trans hsame)
    · rcases setCall_cases hother with ⟨rfl, rfl⟩ | ⟨-, hother⟩
      · exact h.single first second call old hbefore hold hgoing hstage
          (hsame.trans hticket)
      · exact h.single first second call other hbefore hother hgoing hongoing hsame
  · intro other call hcall
    rcases setCall_cases hcall with ⟨rfl, rfl⟩ | ⟨-, hcall⟩
    · exact hnew
    · exact h.call other call hcall

/-- Whoever takes a key out of Redis is the only one to go on with it. -/
theorem Sound.serve (h : office.Sound) {id : CallId} (hnone : office.calls id = none)
    {new : UpgradeCall} {kept : Bool} {found : Option WebSocketTicketPayload}
    {tickets : TicketStore} (hget : getDel office.tickets kept new.ticket = (found, tickets))
    (hstage : new.stage = found.elim .refused .checking) :
    ({ office with tickets := tickets }.setCall id new).Sound := by
  have hleft : ∀ ticket payload, tickets ticket = some payload →
      ticket ≠ new.ticket ∧ office.tickets ticket = some payload := by
    intro ticket payload hpayload
    cases hget
    by_cases heq : ticket = new.ticket
    · rw [heq, Function.update_self] at hpayload
      cases hpayload
    · rw [Function.update_of_ne heq] at hpayload
      exact ⟨heq, hpayload⟩
  have htaken : new.stage ≠ .refused → ∃ payload,
      office.tickets new.ticket = some payload ∧ new.stage = .checking payload := by
    intro hgoing
    cases hfound : found with
    | none =>
        rw [hstage, hfound] at hgoing
        exact absurd rfl hgoing
    | some payload =>
        refine ⟨payload, ?_, by rw [hstage, hfound, Option.elim]⟩
        have htook := congrArg Prod.fst hget
        simp only [getDel, hfound, Option.ite_none_right_eq_some] at htook
        exact htook.2
  -- nobody else goes on with a key that was there
  have halone : new.stage ≠ .refused → ∀ other call, office.calls other = some call →
      call.stage ≠ .refused → call.ticket ≠ new.ticket := by
    intro hgoing other call hcall hongoing
    obtain ⟨payload, hstored, -⟩ := htaken hgoing
    exact h.unheld new.ticket (by simp [hstored]) other call hcall hongoing
  refine ⟨h.distinct, h.issue, ?_, ?_, ?_, ?_⟩
  · intro ticket payload hpayload
    exact h.stored ticket payload (hleft ticket payload hpayload).2
  · intro ticket hstored other call hcall hgoing
    obtain ⟨payload, hpayload⟩ := Option.isSome_iff_exists.mp hstored
    obtain ⟨hne, hbefore⟩ := hleft ticket payload hpayload
    rcases setCall_cases hcall with ⟨rfl, rfl⟩ | ⟨-, hcall⟩
    · exact hne.symm
    · exact h.unheld ticket (by simp [hbefore]) other call hcall hgoing
  · intro first second call other hcall hother hgoing hongoing hsame
    rcases setCall_cases hcall with ⟨rfl, rfl⟩ | ⟨-, hbefore⟩
    · rcases setCall_cases hother with ⟨rfl, -⟩ | ⟨-, hother⟩
      · rfl
      · exact absurd hsame.symm (halone hgoing second other hother hongoing)
    · rcases setCall_cases hother with ⟨rfl, rfl⟩ | ⟨-, hother⟩
      · exact absurd hsame (halone hongoing first call hbefore hgoing)
      · exact h.single first second call other hbefore hother hgoing hongoing hsame
  · intro other call hcall
    rcases setCall_cases hcall with ⟨rfl, rfl⟩ | ⟨-, hcall⟩
    · intro hgoing
      obtain ⟨payload, hstored, hchecking⟩ := htaken hgoing
      obtain ⟨issue, hissue, hticket, hpayload⟩ := h.stored _ payload hstored
      refine ⟨issue, hissue, hticket, ?_, ?_⟩
      · rw [hchecking]
        exact hpayload.symm
      · rw [hchecking]
        nofun
    · exact h.call other call hcall

/-- A new ticket is one that nobody has taken out. -/
theorem Sound.issueTicket (h : office.Sound) {user : User} {documentId : DocumentId}
    {ticket : String} (hfresh : ∀ issue ∈ office.issued, issue.ticket ≠ ticket)
    {payload : WebSocketTicketPayload} {tickets : TicketStore}
    (hok : Backend.WebSocketTicketService.createTicketWithContent office.backend.db
      office.backend.now office.tickets documentId user ticket = .ok (payload, tickets)) :
    Sound { office with
      tickets := tickets
      issued := office.issued ++ [⟨ticket, user, documentId, office.backend.db, payload⟩] } := by
  obtain ⟨hdocument, huser, row, hrow, hlevel⟩ :=
    Backend.WebSocketTicketService.createTicketWithContent_level _ _ hok
  obtain ⟨husername, htickets⟩ :=
    Backend.WebSocketTicketService.createTicketWithContent_store _ _ hok
  subst htickets
  have hmem : ∀ issue ∈ office.issued ++ [⟨ticket, user, documentId, office.backend.db, payload⟩],
      issue ∈ office.issued ∨ issue = ⟨ticket, user, documentId, office.backend.db, payload⟩ := by
    intro issue hissue
    rcases List.mem_append.mp hissue with hold | hnew
    · exact .inl hold
    · exact .inr (List.mem_singleton.mp hnew)
  refine ⟨?_, ?_, ?_, ?_, h.single, fun id call hcall => (h.call id call hcall).mono _⟩
  · intro first hfirst second hsecond hsame
    rcases hmem first hfirst with hfirst | rfl
    · rcases hmem second hsecond with hsecond | rfl
      · exact h.distinct first hfirst second hsecond hsame
      · exact absurd hsame (hfresh first hfirst)
    · rcases hmem second hsecond with hsecond | rfl
      · exact absurd hsame.symm (hfresh second hsecond)
      · rfl
  · intro issue hissue
    rcases hmem issue hissue with hold | rfl
    · exact h.issue issue hold
    · exact ⟨huser, husername, hdocument, row, hrow, hlevel⟩
  · intro other found hfound
    dsimp only at hfound ⊢
    by_cases heq : other = ticket
    · subst heq
      rw [Function.update_self, Option.some.injEq] at hfound
      exact ⟨_, List.mem_append_right _ (List.mem_singleton_self _), rfl, hfound⟩
    · rw [Function.update_of_ne heq] at hfound
      obtain ⟨issue, hissue, hrest⟩ := h.stored other found hfound
      exact ⟨issue, List.mem_append_left _ hissue, hrest⟩
  · intro other hstored id call hcall hgoing
    dsimp only at hstored
    by_cases heq : other = ticket
    · obtain ⟨issue, hissue, hticket, -⟩ := h.call id call hcall hgoing
      rw [heq, ← hticket]
      exact hfresh issue hissue
    · rw [Function.update_of_ne heq] at hstored
      exact h.unheld other hstored id call hcall hgoing

theorem Sound.step (h : office.Sound) {event : Event} {after : TicketOffice}
    (hguard : office.DrawsFresh event) (hstep : office.step event = some after) :
    after.Sound := by
  cases event with
  | backend event =>
      obtain ⟨backend, -, rfl⟩ := Option.map_eq_some_iff.mp hstep
      exact ⟨h.distinct, h.issue, h.stored, h.unheld, h.single, h.call⟩
  | createTicket user documentId ticket =>
      dsimp only [TicketOffice.step] at hstep
      split at hstep
      next =>
        cases hstep
        exact h
      next payload tickets hok =>
        cases hstep
        exact h.issueTicket hguard hok
  | serveHTTP id node presented kept =>
      dsimp only [TicketOffice.step] at hstep
      split at hstep
      next => cases hstep
      next hnone =>
        split at hstep
        next =>
          cases hstep
          exact h
        next =>
          cases htaken : getDel office.tickets kept (trimSpace presented) with
          | mk found tickets =>
              rw [htaken] at hstep
              cases hstep
              exact h.serve (Option.not_isSome_iff_eq_none.mp hnone) htaken rfl
  | check id =>
      obtain ⟨call, hcall, hstep⟩ := Option.bind_eq_some_iff.mp hstep
      split at hstep
      next payload hstage =>
        cases hstep
        refine h.advance hcall rfl (by simp [hstage]) fun hgoing found hcarries _ => ?_
        rw [hstage] at hcarries
        cases haccepts : accepts office.backend.now payload with
        | false =>
            rw [haccepts] at hgoing
            exact absurd rfl hgoing
        | true =>
            have hintime : office.backend.now ≤ payload.expiresAt :=
              (of_decide_eq_true haccepts).2.1
            exact ⟨hcarries, hcarries ▸ hintime⟩
      next => cases hstep
  | upgrade id upgraded sendBuffer =>
      obtain ⟨call, hcall, hstep⟩ := Option.bind_eq_some_iff.mp hstep
      split at hstep
      next payload hstage =>
        cases hstep
        refine h.advance hcall rfl (by simp [hstage]) fun hgoing found hcarries hintime => ?_
        rw [hstage] at hcarries hintime
        cases upgraded with
        | false => exact absurd rfl hgoing
        | true =>
            obtain rfl : payload = found := hcarries
            exact ⟨⟨rfl, rfl, rfl, rfl⟩, hintime rfl⟩
      next => cases hstep
  | register id registered =>
      obtain ⟨call, hcall, hstep⟩ := Option.bind_eq_some_iff.mp hstep
      split at hstep
      next client hstage =>
        cases hstep
        refine h.advance hcall rfl (by simp [hstage]) fun hgoing found hcarries hintime => ?_
        rw [hstage] at hcarries hintime
        cases registered with
        | false => exact absurd rfl hgoing
        | true => exact ⟨hcarries, hintime rfl⟩
      next => cases hstep

theorem Sound.admits (h : office.Sound) : office.Admits where
  distinct := h.distinct
  single id other call second client registered hcall hother hstage hregistered hsame := by
    apply h.single id other call second hcall hother _ _ hsame
    · simp [hstage]
    · simp [hregistered]
  identity id call client hcall hstage := by
    obtain ⟨issue, hissue, hticket, hcarries, hintime⟩ := h.call id call hcall (by simp [hstage])
    rw [hstage] at hcarries hintime
    obtain ⟨huser, husername, hdocument, row, hrow, hlevel⟩ := h.issue issue hissue
    refine ⟨issue, hissue, hticket, hcarries.userId.trans huser,
      hcarries.username.trans husername, hcarries.documentId.trans hdocument,
      ⟨row, hrow, ?_⟩, hintime rfl⟩
    rw [hcarries.permissionLevel, hlevel]

/-- Whatever is presented where and when, a ticket lets in one client at most, the one
it was issued for, and not after its time. -/
theorem reachable_admits (hreach : system.ReachableUnder DrawsFresh office) : office.Admits := by
  have hsound : office.Sound := by
    refine hreach.invariant system Sound ?_ ?_
    · rintro ⟨backend, tickets, issued, calls⟩ ⟨-, rfl, rfl, rfl⟩
      exact Sound.init rfl
    · exact fun state event after _ h hguard hstep => h.step hguard hstep
  exact hsound.admits

/-- An owner's ticket is presented with a blank in front of it. -/
def blankRun : List Event :=
  [.backend (.user ⟨1, "owner"⟩ (.create "title" none)),
    .createTicket ⟨1, "owner"⟩ 1 "5f1c", .serveHTTP 0 "node-a" " 5f1c" true,
    .serveHTTP 1 "node-b" "5f1c" true, .check 0, .upgrade 0 true 64, .register 0 true]

theorem reachable_admits_owner : ∃ office : TicketOffice,
    system.ReachableUnder DrawsFresh office ∧ office.Admits ∧
      ((office.calls 0).any fun call => call.stage matches .registered _) = true := by
  obtain ⟨office, hreach, hcalls⟩ := system.exists_reachable_of_exec
    (.init ⟨⟨rfl, by decide, by decide⟩, rfl, rfl, rfl⟩ : system.ReachableUnder DrawsFresh
      ⟨⟨Database.empty, 0⟩, fun _ => none, [], fun _ => none⟩) blankRun
    (fun office => (office.calls 0).any fun call => call.stage matches .registered _)
    (by decide +kernel)
  exact ⟨office, hreach, reachable_admits hreach, hcalls⟩

/-- The text with the blank was never issued. -/
theorem blank_ticket_registers :
    ¬ ∀ office : TicketOffice, system.ReachableUnder DrawsFresh office →
      ∀ id call client, office.calls id = some call → call.stage = .registered client →
        ∃ issue ∈ office.issued, issue.ticket = call.presented := by
  intro hclaim
  obtain ⟨office, hreach, hcheck⟩ := system.exists_reachable_of_exec
    (.init ⟨⟨rfl, by decide, by decide⟩, rfl, rfl, rfl⟩ : system.ReachableUnder DrawsFresh
      ⟨⟨Database.empty, 0⟩, fun _ => none, [], fun _ => none⟩) blankRun
    (fun office => office.issued.map Issue.ticket = ["5f1c"] ∧
      (office.calls 0).any fun call =>
        call.presented = " 5f1c" ∧ call.stage matches .registered _) (by decide +kernel)
  obtain ⟨hissued, hcalls⟩ := of_decide_eq_true hcheck
  obtain ⟨call, hcall, hcalls⟩ := (Option.any_eq_true _ _).mp hcalls
  obtain ⟨hpresented, hregistered⟩ := of_decide_eq_true hcalls
  cases hstage : call.stage with
  | registered client =>
      obtain ⟨issue, hissue, hticket⟩ := hclaim office hreach 0 call client hcall hstage
      have hmem := List.mem_map_of_mem (f := Issue.ticket) hissue
      rw [hissued, hticket, hpresented] at hmem
      exact absurd hmem (by decide)
  | _ => simp [hstage] at hregistered

end TicketOffice

end CollabEditor.Platform
