import CollabEditor.Worker.Persistence

/-! # Removed implies persisted

The backend answers each sync request once, or never. A call that waits for a
shutdown which has sent the final request goes on when that request is answered,
whatever the answer. Removing a runtime is safe as long as its text stands still
after the shutdown, nothing overtakes the final request and the request succeeds.
-/

namespace CollabEditor.Worker

open Foundation
open Backend (DocumentId)

namespace Manager

variable {Doc Raw : Type} {lib : Libraries Doc Raw}

/-- The runtimes in `documents`. -/
def registered (manager : Manager Doc) : List RuntimeId := manager.documents.entries.map Sigma.snd

theorem mem_registered {manager : Manager Doc} {id : RuntimeId} :
    id ∈ manager.registered ↔ ∃ documentId, manager.documents.lookup documentId = some id := by
  simp only [registered, List.mem_map]
  constructor
  · rintro ⟨entry, hentry, rfl⟩
    exact ⟨entry.1, AList.mem_lookup_iff.mpr hentry⟩
  · rintro ⟨documentId, hid⟩
    exact ⟨⟨documentId, id⟩, AList.mem_lookup_iff.mp hid, rfl⟩

/-- The entry an event deletes, with the runtime the event takes it to be. -/
def removes (manager : Manager Doc) : Event Raw → Option (DocumentId × RuntimeId)
  | .resume call _ => manager.calls[call]?.bind Frame.removes
  | _ => none

/-- The entry of the document stays as it is, but for an entry that is new. -/
def KeepsEntry (documentId : DocumentId) (created : Option InitializeRequest)
    (before after : Manager Doc) : Prop :=
  after.documents.lookup documentId = before.documents.lookup documentId ∨
    before.documents.lookup documentId = none ∧
      ∃ request, created = some request ∧ request.documentId = documentId

theorem KeepsEntry.of_eq {documentId : DocumentId} {created : Option InitializeRequest}
    {before after : Manager Doc} (hdocuments : after.documents = before.documents) :
    KeepsEntry documentId created before after :=
  .inl (by rw [hdocuments])

variable (manager : Manager Doc) (documentId : DocumentId) {created : Option InitializeRequest}

theorem returnTo_keepsEntry (caller : Caller) :
    KeepsEntry documentId created manager (manager.returnTo caller) := by
  cases caller <;> exact .of_eq rfl

theorem closeDocument_keepsEntry (closed : DocumentId) (caller : Caller) :
    KeepsEntry documentId created manager (manager.closeDocument closed caller) := by
  unfold closeDocument
  split
  next => exact manager.returnTo_keepsEntry documentId caller
  next => split <;> exact .of_eq rfl

theorem closeNext_keepsEntry (ids : List DocumentId) :
    KeepsEntry documentId created manager (manager.closeNext ids) := by
  cases ids with
  | nil => exact .of_eq rfl
  | cons closed remaining => exact manager.closeDocument_keepsEntry documentId closed _

theorem installRuntime_keepsEntry {request : InitializeRequest}
    (hother : documentId ≠ request.documentId ∨ manager.documents.lookup documentId = none) :
    KeepsEntry documentId (some request) manager (manager.installRuntime lib request) := by
  by_cases heq : documentId = request.documentId
  · exact .inr ⟨hother.resolve_left (not_not.mpr heq), request, rfl, heq.symm⟩
  · refine .inl ?_
    unfold installRuntime
    dsimp only
    split <;> simp [suspend, AList.lookup_insert_ne heq]

theorem shutdownRuntime_documents (id : RuntimeId) :
    (manager.shutdownRuntime id).documents = manager.documents := by
  unfold shutdownRuntime
  split <;> rfl

theorem handleRedisMessage_documents (channel : String) (rawMessage : Raw) :
    (manager.handleRedisMessage lib channel rawMessage).documents = manager.documents := by
  rcases handleRedisMessage_cases lib manager channel rawMessage with
    hdropped | ⟨_, _, _, _, _, -, -, -, -, -, hhandled⟩
  · rw [hdropped]
  · rw [hhandled]
    rfl

theorem resume_keepsEntry (resolved : Bool) {frame : Frame}
    (hframe : ∀ target ∈ frame.removes, target.1 ≠ documentId) :
    KeepsEntry documentId frame.installs manager (manager.resume lib resolved frame) := by
  cases frame with
  | initializeShutdown request existing =>
      have hne : documentId ≠ request.documentId := (hframe _ rfl).symm
      let removed := { manager with documents := manager.documents.erase request.documentId }
      have hremoved : removed.documents.lookup documentId = manager.documents.lookup documentId :=
        AList.lookup_erase_ne hne
      have hkeeps : KeepsEntry documentId (some request) removed
          (removed.installRuntime lib request) :=
        removed.installRuntime_keepsEntry documentId (.inl hne)
      rwa [KeepsEntry, hremoved] at hkeeps
  | initializeSubscribe request id =>
      dsimp only [resume]
      split <;> exact .of_eq rfl
  | initializeStart request id =>
      dsimp only [resume, startRuntime]
      split <;> exact .of_eq rfl
  | handleApplied applied id =>
      dsimp only [resume]
      split
      next => exact manager.closeDocument_keepsEntry documentId applied .direct
      next => exact .of_eq rfl
  | closeUnsubscribe closed id caller =>
      dsimp only [resume]
      split
      next => exact .of_eq rfl
      next => exact manager.returnTo_keepsEntry documentId caller
  | closeUnsubscribed closed id caller => exact .of_eq (manager.shutdownRuntime_documents id)
  | closeShutdown closed runtime caller =>
      let removed := { manager with documents := manager.documents.erase closed }
      have hremoved : removed.documents.lookup documentId = manager.documents.lookup documentId :=
        AList.lookup_erase_ne (hframe _ rfl).symm
      have hkeeps : KeepsEntry documentId none removed (removed.returnTo caller) :=
        removed.returnTo_keepsEntry documentId caller
      rwa [KeepsEntry, hremoved] at hkeeps
  | shutdownAll remaining => exact manager.closeNext_keepsEntry documentId remaining

/-- Only an event that resumes a call after its shutdown deletes an entry. -/
theorem step_keepsEntry {manager next : Manager Doc} {event : Event Raw} {documentId : DocumentId}
    (hevent : ∀ target ∈ manager.removes event, target.1 ≠ documentId)
    (hstep : manager.step lib event = some next) :
    KeepsEntry documentId (manager.installs event) manager next := by
  cases step_cases hstep with
  | initializeDocument request =>
      cases hexisting : manager.documents.lookup request.documentId with
      | some existing =>
          simp only [initializeDocument, hexisting]
          exact .of_eq (manager.shutdownRuntime_documents existing)
      | none =>
          simp only [initializeDocument, installs, hexisting]
          refine manager.installRuntime_keepsEntry documentId ?_
          by_cases heq : documentId = request.documentId
          · exact .inr (heq ▸ hexisting)
          · exact .inl heq
  | handleRedisMessage channel rawMessage =>
      exact .of_eq (manager.handleRedisMessage_documents channel rawMessage)
  | closeDocument closed =>
      exact manager.closeDocument_keepsEntry documentId closed .direct
  | shutdownAll ids hkeys => exact manager.closeNext_keepsEntry documentId ids
  | resume call resolved frame hframe =>
      have hinstalls : manager.installs (.resume call resolved : Event Raw) = frame.installs := by
        simp [installs, hframe]
      rw [hinstalls]
      refine (manager.withoutCall call).resume_keepsEntry documentId resolved
        fun target htarget => ?_
      exact hevent target (by simpa [removes, hframe] using htarget)
  | tick id runtime hruntime htimer => exact .of_eq rfl

end Manager

/-! ## Requests and their answers -/

/-- The manager with the answers of the backend to its sync requests. -/
structure Persistence (Doc : Type) where
  manager : Manager Doc
  /-- For each call in progress the position of the request whose answer it awaits. -/
  awaits : List (Option Nat)
  /-- Whether the request at a position succeeded; `none` while it is under way. -/
  answers : Nat → Option Bool
  /-- The number of requests that had been sent when the text of a runtime last changed. -/
  changedAt : RuntimeId → Nat
  /-- The runtimes that were taken out of `documents`. -/
  removed : List RuntimeId

namespace Persistence

variable {Doc Raw : Type} (lib : Libraries Doc Raw) (state : Persistence Doc)

def empty : Persistence Doc where
  manager := .empty
  awaits := []
  answers := fun _ => none
  changedAt := fun _ => 0
  removed := []

inductive Event (Raw : Type)
  | manager (event : Manager.Event Raw)
  /-- The backend acknowledges a request, or the request fails. -/
  | answer (position : Nat) (acknowledged : Bool)
deriving DecidableEq, Repr

/-- The call to resume awaits a request that has not been answered. -/
def blocked : Manager.Event Raw → Bool
  | .resume call _ =>
      match state.awaits[call]? with
      | some (some position) => (state.answers position).isNone
      | _ => false
  | _ => false

/-- What the calls that go on waiting await. -/
def waiting : Manager.Event Raw → List (Option Nat)
  | .resume call _ => state.awaits.eraseIdx call
  | _ => state.awaits

/-- What a call that starts to wait awaits: the request sent with it, if any. -/
def sent (next : Manager Doc) : Option Nat :=
  if state.manager.syncRequests.length < next.syncRequests.length then
    some state.manager.syncRequests.length
  else none

/-- When a text last changed, after an event of the manager. -/
def changed (next : Manager Doc) (id : RuntimeId) : Nat :=
  if next.runtimes[id]?.map DocumentRuntime.content =
      state.manager.runtimes[id]?.map DocumentRuntime.content then
    state.changedAt id
  else state.manager.syncRequests.length

/-- The state after an event of the manager. -/
def advance (event : Manager.Event Raw) (next : Manager Doc) : Persistence Doc :=
  { state with
    manager := next
    awaits :=
      List.replicate (next.calls.length - (state.waiting event).length) (state.sent next) ++
        state.waiting event
    changedAt := state.changed next
    removed := state.removed ++ state.manager.registered.filter (· ∉ next.registered) }

def withAnswer (position : Nat) (acknowledged : Bool) : Persistence Doc :=
  { state with answers := Function.update state.answers position (some acknowledged) }

def step : Event Raw → Option (Persistence Doc)
  | .manager event =>
      if state.blocked event then none
      else (state.manager.step lib event).map (state.advance event)
  | .answer position acknowledged =>
      if position < state.manager.syncRequests.length ∧ state.answers position = none then
        some (state.withAnswer position acknowledged)
      else none

/-- A worker that starts without sessions, and its backend. -/
def system : TransitionSystem (Persistence Doc) (Event Raw) where
  init state := state = empty
  step := step lib

/-- A request that carries the text of the runtime, and was sent after the last edit that
changed it, has been acknowledged. -/
def Persisted (id : RuntimeId) : Prop :=
  ∃ runtime ∈ state.manager.runtimes[id]?, ∃ position < state.manager.syncRequests.length,
    ∃ request ∈ state.manager.syncRequests[position]?,
      request.1 = id ∧ request.2.content = runtime.content ∧
        state.changedAt id ≤ position ∧ state.answers position = some true

instance (id : RuntimeId) : Decidable (state.Persisted id) :=
  inferInstanceAs (Decidable (∃ runtime ∈ state.manager.runtimes[id]?,
    ∃ position < state.manager.syncRequests.length,
      ∃ request ∈ state.manager.syncRequests[position]?, _ ∧ _ ∧ _ ∧ _))

/-- What the steps of a safe run have in common. A final request succeeds, a
text stands still after the shutdown, no shutdown overtakes an earlier one of
the same runtime, and a call deletes the entry of the runtime it has shut down.
Where the text has been persisted already the others are safe, too. -/
def Careful : Event Raw → Prop
  | .answer position acknowledged =>
      acknowledged = false → ∀ request ∈ state.manager.syncRequests[position]?,
        request.2.final = true → state.Persisted request.1
  | .manager event =>
      (∀ edit ∈ state.manager.appliedEdit lib event,
        ∀ runtime ∈ state.manager.runtimes[edit.1]?, runtime.shutdownCompleted = true →
          ∀ next ∈ runtime.edited lib edit.2, next.content = runtime.content) ∧
      (∀ target ∈ state.manager.shutsDown event,
        state.manager.documents.lookup target.1 = some target.2 →
          ∀ runtime ∈ state.manager.runtimes[target.2]?, runtime.shutdownCompleted = true →
            state.Persisted target.2) ∧
      ∀ target ∈ state.manager.removes event,
        ∀ other ∈ state.manager.documents.lookup target.1,
          other = target.2 ∨ state.Persisted other

instance (event : Event Raw) : Decidable (state.Careful lib event) :=
  match event with
  | .answer _ _ => inferInstanceAs (Decidable (_ → _))
  | .manager _ => inferInstanceAs (Decidable (_ ∧ _ ∧ _))

end Persistence

/-! ## Texts and requests over one step -/

theorem DocumentRuntime.shutdown_content {Doc : Type} {runtime : DocumentRuntime Doc}
    {request : SyncRequest} (hsent : runtime.shutdown.2 = some request) :
    runtime.shutdown.1.content = request.content := by
  unfold shutdown at hsent ⊢
  split at hsent
  next => cases hsent
  next hlive =>
    cases hsent
    rw [if_neg hlive]
    rfl

theorem DocumentRuntime.shutdown_of_live {Doc : Type} {runtime : DocumentRuntime Doc}
    (hlive : runtime.shutdownCompleted = false) :
    ∃ request, runtime.shutdown.2 = some request ∧ request.final = true := by
  unfold shutdown
  rw [hlive]
  exact ⟨_, rfl, rfl⟩

namespace Manager

variable {Doc Raw : Type} {lib : Libraries Doc Raw} {manager next : Manager Doc}
  {event : Event Raw}

/-- The event leaves the text of the runtime as it is. -/
def Still (lib : Libraries Doc Raw) (manager : Manager Doc) (event : Event Raw)
    (id : RuntimeId) : Prop :=
  ∀ update, manager.appliedEdit lib event = some (id, update) →
    ∀ runtime, manager.runtimes[id]? = some runtime →
      ∀ after, runtime.edited lib update = some after → after.content = runtime.content

theorem Still.of_unregistered {id : RuntimeId} (hid : id ∉ manager.registered) :
    manager.Still lib event id := by
  intro update hedit
  cases event with
  | handleRedisMessage channel rawMessage =>
      obtain ⟨documentId, -, -, hlookup, -⟩ := manager.editOf_spec hedit
      exact absurd (mem_registered.mpr ⟨documentId, hlookup⟩) hid
  | initializeDocument | closeDocument | shutdownAll | resume | tick => cases hedit

theorem Still.of_removes {target : DocumentId × RuntimeId} {id : RuntimeId}
    (htarget : manager.removes event = some target) : manager.Still lib event id := by
  intro update hedit
  cases event with
  | handleRedisMessage => cases htarget
  | initializeDocument | closeDocument | shutdownAll | resume | tick => cases hedit

theorem Still.text {id : RuntimeId} (hstill : manager.Still lib event id)
    (hstep : manager.step lib event = some next) {runtime : DocumentRuntime Doc}
    (hruntime : manager.runtimes[id]? = some runtime) :
    ∃ after, next.runtimes[id]? = some after ∧ after.content = runtime.content := by
  have hkeeps : ∀ {created}, KeepsTexts lib created manager next →
      ∃ after, next.runtimes[id]? = some after ∧ after.content = runtime.content := by
    intro created h
    obtain ⟨after, hafter, -, hcontent⟩ := h.text id runtime hruntime
    exact ⟨after, hafter, hcontent⟩
  cases event with
  | handleRedisMessage channel rawMessage =>
      cases hstep
      rcases manager.handleRedisMessage_text lib channel rawMessage with
        ⟨-, h⟩ | ⟨edited, update, old, new, hedit, hold, hnew, hruntimes, -⟩
      · exact hkeeps h
      · have hbound := (List.getElem?_eq_some_iff.mp hold).1
        by_cases heq : edited = id
        · subst heq
          cases hold.symm.trans hruntime
          exact ⟨new, by simp [hruntimes, hbound], hstill update hedit _ hold new hnew⟩
        · exact ⟨runtime, by simp [hruntimes, heq, hruntime], rfl⟩
  | initializeDocument | closeDocument | shutdownAll | resume | tick =>
      exact hkeeps (step_keepsTexts (by simp) hstep)

/-- What is registered was so before or is new. -/
theorem step_registered (hstep : manager.step lib event = some next) {documentId : DocumentId}
    {id : RuntimeId} (hid : next.documents.lookup documentId = some id) :
    manager.documents.lookup documentId = some id ∨ manager.runtimes.length ≤ id := by
  cases event with
  | handleRedisMessage channel rawMessage =>
      cases hstep
      rw [handleRedisMessage_documents] at hid
      exact .inl hid
  | initializeDocument | closeDocument | shutdownAll | resume | tick =>
      exact (step_keepsTexts (by simp) hstep).registered documentId id hid

theorem Completed.lt {id : RuntimeId} (h : manager.Completed id) :
    id < manager.runtimes.length := by
  obtain ⟨runtime, hruntime, -⟩ := h
  exact (List.getElem?_eq_some_iff.mp hruntime).1

/-- What is registered anew is the runtime the event constructs. -/
theorem step_registered_key (h : manager.Known) (hstep : manager.step lib event = some next)
    {documentId : DocumentId} {id : RuntimeId}
    (hid : next.documents.lookup documentId = some id) (hnew : manager.runtimes.length ≤ id) :
    ∃ request, manager.installs event = some request ∧ request.documentId = documentId := by
  by_cases hremoves : ∃ target, manager.removes event = some target ∧ target.1 = documentId
  · obtain ⟨target, htarget, rfl⟩ := hremoves
    cases event with
    | resume call resolved =>
        simp only [removes, Option.bind_eq_some_iff] at htarget
        obtain ⟨frame, hframe, htarget⟩ := htarget
        simp only [step, hframe, Option.some.injEq] at hstep
        cases frame with
        | initializeShutdown request existing =>
            cases htarget
            exact ⟨request, by simp [installs, hframe, Frame.installs], rfl⟩
        | closeShutdown closed runtime caller =>
            cases htarget
            let removed :=
              { manager.withoutCall call with documents := manager.documents.erase closed }
            have hgone : (removed.returnTo caller).documents.lookup closed = none := by
              cases caller <;> exact AList.lookup_erase closed manager.documents
            rw [← hstep] at hid
            cases hgone.symm.trans hid
        | initializeSubscribe | initializeStart | handleApplied | closeUnsubscribe
        | closeUnsubscribed | shutdownAll => cases htarget
    | initializeDocument | handleRedisMessage | closeDocument | shutdownAll | tick =>
        cases htarget
  · have hother : ∀ target ∈ manager.removes event, target.1 ≠ documentId :=
      fun target htarget heq => hremoves ⟨target, htarget, heq⟩
    rcases step_keepsEntry hother hstep with hkept | ⟨-, hcreated⟩
    · have hbound := h.registered documentId id (hkept ▸ hid)
      exact absurd hbound (not_lt.mpr hnew)
    · exact hcreated

/-- A registered runtime is one of its document. -/
theorem step_keys (h : manager.Known)
    (hkeys : ∀ documentId id, manager.documents.lookup documentId = some id →
      ∃ runtime, manager.runtimes[id]? = some runtime ∧ runtime.documentId = documentId)
    (hstep : manager.step lib event = some next) (documentId : DocumentId) (id : RuntimeId)
    (hlookup : next.documents.lookup documentId = some id) :
    ∃ runtime, next.runtimes[id]? = some runtime ∧ runtime.documentId = documentId := by
  rcases step_registered hstep hlookup with hbefore | hnew
  · obtain ⟨runtime, hruntime, hdocument⟩ := hkeys documentId id hbefore
    obtain ⟨after, hafter, hsame⟩ := (step_effect hstep).documentId hruntime
    exact ⟨after, hafter, hsame.trans hdocument⟩
  · obtain ⟨request, hinstalls, hkey⟩ := step_registered_key h hstep hlookup hnew
    have hafter := List.getElem?_eq_getElem ((h.step hstep).registered documentId id hlookup)
    rcases step_runtime hstep hafter with ⟨before, hbefore, -⟩ | ⟨-, created, hcreated, heq⟩
    · exact absurd (List.getElem?_eq_some_iff.mp hbefore).1 (not_lt.mpr hnew)
    · cases hinstalls.symm.trans hcreated
      exact ⟨_, hafter, by rw [heq]; exact hkey⟩

/-- Requests are only added. They have the text of the runtime, which has been shut
down if the request is final. -/
theorem SessionEffect.requests {before after : Manager Doc} (heffect : SessionEffect before after) :
    ∃ new, after.syncRequests = before.syncRequests ++ new ∧
      ∀ request ∈ new, ∃ runtime, after.runtimes[request.1]? = some runtime ∧
        runtime.content = request.2.content ∧
        (request.2.final = true → runtime.shutdownCompleted = true) := by
  cases heffect with
  | quiet _ hrequests | rewrite _ _ _ _ _ _ _ hrequests | install _ _ _ hrequests =>
      exact ⟨[], by simpa using hrequests, by simp⟩
  | shutdown id runtime hruntime hruntimes hrequests =>
      have hbound := (List.getElem?_eq_some_iff.mp hruntime).1
      refine ⟨_, hrequests, fun request hrequest => ?_⟩
      rw [List.mem_map] at hrequest
      obtain ⟨sent, hsent, rfl⟩ := hrequest
      rw [Option.mem_toList] at hsent
      exact ⟨runtime.shutdown.1, by simp [hruntimes, hbound],
        DocumentRuntime.shutdown_content hsent, fun _ => runtime.shutdown_shutdownCompleted⟩
  | tick id runtime hruntime hruntimes hrequests =>
      refine ⟨_, hrequests, fun request hrequest => ?_⟩
      rw [List.mem_singleton.mp hrequest]
      exact ⟨runtime, hruntimes ▸ hruntime, rfl, nofun⟩

theorem shutdownRuntime_syncRequests {id : RuntimeId} {runtime : DocumentRuntime Doc}
    (hruntime : manager.runtimes[id]? = some runtime) :
    (manager.shutdownRuntime id).syncRequests =
      manager.syncRequests ++ runtime.shutdown.2.toList.map (id, ·) := by
  unfold shutdownRuntime
  rw [hruntime]

/-- A runtime is shut down when its document is initialised again, or by a close. -/
theorem shutsDown_cases {target : DocumentId × RuntimeId}
    (htarget : manager.shutsDown event = some target) :
    (∃ request, event = .initializeDocument request ∧
      manager.documents.lookup request.documentId = some target.2) ∨
    ∃ call resolved caller, event = .resume call resolved ∧
      manager.calls[call]? = some (.closeUnsubscribed target.1 target.2 caller) := by
  obtain ⟨awaiting, hshutdown, htarget⟩ := Option.bind_eq_some_iff.mp htarget
  cases event with
  | initializeDocument request =>
      obtain ⟨existing, hexisting, rfl⟩ := Option.map_eq_some_iff.mp hshutdown
      cases htarget
      exact .inl ⟨request, rfl, hexisting⟩
  | resume call resolved =>
      obtain ⟨frame, hframe, hshutdown⟩ := Option.bind_eq_some_iff.mp hshutdown
      cases frame with
      | closeUnsubscribed documentId id caller =>
          cases hshutdown
          cases htarget
          exact .inr ⟨call, resolved, caller, rfl, hframe⟩
      | initializeShutdown | initializeSubscribe | initializeStart | handleApplied
      | closeUnsubscribe | closeShutdown | shutdownAll => cases hshutdown
  | handleRedisMessage | closeDocument | shutdownAll | tick => cases hshutdown

theorem Known.shutsDown_lt (h : manager.Known) {target : DocumentId × RuntimeId}
    (htarget : manager.shutsDown event = some target) : target.2 < manager.runtimes.length := by
  rcases shutsDown_cases htarget with ⟨request, -, hexisting⟩ | ⟨call, _, _, -, hframe⟩
  · exact h.registered _ _ hexisting
  · exact h.calls _ (List.mem_of_getElem? hframe)

/-- An event that shuts a runtime down sends its final request, if there is one. -/
theorem step_syncRequests {target : DocumentId × RuntimeId} {runtime : DocumentRuntime Doc}
    (htarget : manager.shutsDown event = some target)
    (hruntime : manager.runtimes[target.2]? = some runtime)
    (hstep : manager.step lib event = some next) :
    next.syncRequests = manager.syncRequests ++
      runtime.shutdown.2.toList.map (target.2, ·) := by
  rcases shutsDown_cases htarget with
    ⟨request, rfl, hexisting⟩ | ⟨call, resolved, caller, rfl, hframe⟩
  · cases hstep
    simp only [initializeDocument, hexisting]
    exact shutdownRuntime_syncRequests hruntime
  · simp only [step, hframe, Option.some.injEq] at hstep
    subst hstep
    exact (shutdownRuntime_syncRequests hruntime :
      ((manager.withoutCall call).shutdownRuntime target.2).syncRequests = _)

end Manager

namespace Persistence

variable {Doc Raw : Type} {lib : Libraries Doc Raw} {state : Persistence Doc}

/-! ## The invariant -/

/-- Every text a removed runtime ends with has been acknowledged. -/
def RemovedPersisted (state : Persistence Doc) : Prop :=
  ∀ id ∈ state.removed, state.Persisted id

/-- A call that will delete an entry has shut its runtime down. The text has
been persisted, or the runtime is no longer the registered one, or the call
awaits its final request. -/
def Waits (state : Persistence Doc) (frame : Frame) (await : Option Nat) : Prop :=
  ∀ target, frame.removes = some target → state.manager.Completed target.2 ∧
    (state.Persisted target.2 ∨ state.manager.documents.lookup target.1 ≠ some target.2 ∨
      ∃ position request, await = some position ∧
        state.manager.syncRequests[position]? = some request ∧ request.1 = target.2 ∧
          request.2.final = true)

structure Sound (state : Persistence Doc) : Prop where
  known : state.manager.Known
  changed : ∀ id, state.changedAt id ≤ state.manager.syncRequests.length
  finals : ∀ position request, state.manager.syncRequests[position]? = some request →
    request.2.final = true → state.changedAt request.1 ≤ position ∧
      ∃ runtime, state.manager.runtimes[request.1]? = some runtime ∧
        runtime.shutdownCompleted = true ∧ runtime.content = request.2.content
  answered : ∀ position answer, state.answers position = some answer →
    ∃ request, state.manager.syncRequests[position]? = some request ∧
      (request.2.final = true → state.Persisted request.1)
  waits : List.Forall₂ state.Waits state.manager.calls state.awaits
  removed : ∀ id ∈ state.removed, id ∉ state.manager.registered ∧ state.Persisted id

theorem empty_sound : (empty : Persistence Doc).Sound where
  known := Manager.empty_known
  changed := fun _ => Nat.zero_le _
  finals := by simp [empty, Manager.empty]
  answered := by simp [empty]
  waits := .nil
  removed := by simp [empty]

theorem persisted_iff {id : RuntimeId} :
    state.Persisted id ↔ ∃ runtime position request,
      state.manager.runtimes[id]? = some runtime ∧
        state.manager.syncRequests[position]? = some request ∧ request.1 = id ∧
        request.2.content = runtime.content ∧ state.changedAt id ≤ position ∧
        state.answers position = some true := by
  constructor
  · rintro ⟨runtime, hruntime, position, -, request, hrequest, hid, hcontent, hlater, hanswer⟩
    exact ⟨runtime, position, request, hruntime, hrequest, hid, hcontent, hlater, hanswer⟩
  · rintro ⟨runtime, position, request, hruntime, hrequest, hid, hcontent, hlater, hanswer⟩
    exact ⟨runtime, hruntime, position, (List.getElem?_eq_some_iff.mp hrequest).1, request,
      hrequest, hid, hcontent, hlater, hanswer⟩

/-- A text stays persisted while it stands still. -/
theorem Persisted.keep {before after : Persistence Doc} {id : RuntimeId} (h : before.Persisted id)
    (htext : ∀ runtime, before.manager.runtimes[id]? = some runtime →
      ∃ next, after.manager.runtimes[id]? = some next ∧ next.content = runtime.content)
    (hchanged : after.changedAt id ≤ before.changedAt id)
    (hsent : before.manager.syncRequests <+: after.manager.syncRequests)
    (hanswers : ∀ position, before.answers position = some true →
      after.answers position = some true) : after.Persisted id := by
  rw [persisted_iff] at h ⊢
  obtain ⟨runtime, position, request, hruntime, hrequest, hid, hcontent, hlater, hanswer⟩ := h
  obtain ⟨next, hnext, hsame⟩ := htext runtime hruntime
  exact ⟨next, position, request, hnext, Foundation.List.getElem?_of_prefix hsent hrequest, hid,
    hcontent.trans hsame.symm, hchanged.trans hlater, hanswers position hanswer⟩

/-! ### An answer -/

theorem Sound.answer (h : state.Sound) {position : Nat} {acknowledged : Bool}
    (hcareful : state.Careful lib (.answer position acknowledged : Event Raw))
    (hbound : position < state.manager.syncRequests.length)
    (hopen : state.answers position = none) :
    (state.withAnswer position acknowledged).Sound := by
  have hkept : ∀ other, state.answers other = some true →
      (state.withAnswer position acknowledged).answers other = some true := by
    intro other hother
    have hne : other ≠ position := by
      rintro rfl
      rw [hopen] at hother
      cases hother
    simpa [withAnswer, Function.update_of_ne hne] using hother
  have hkeep : ∀ id, state.Persisted id → (state.withAnswer position acknowledged).Persisted id :=
    fun id hid => hid.keep (fun runtime hruntime => ⟨runtime, hruntime, rfl⟩) le_rfl
      (List.prefix_refl _) hkept
  refine ⟨h.known, h.changed, h.finals, ?_, ?_, fun id hid => (h.removed id hid).imp_right (hkeep id)⟩
  · intro other answer hanswer
    by_cases heq : other = position
    · subst heq
      obtain ⟨request, hrequest⟩ : ∃ request, state.manager.syncRequests[other]? = some request :=
        ⟨_, List.getElem?_eq_getElem hbound⟩
      refine ⟨request, hrequest, fun hfinal => ?_⟩
      cases acknowledged with
      -- a final request that is lost has to be a repetition of one that was stored
      | false => exact hkeep _ (hcareful rfl request hrequest hfinal)
      | true =>
          -- the request carries the last content, for a runtime is shut down once
          obtain ⟨hlater, runtime, hruntime, -, hcontent⟩ := h.finals other request hrequest hfinal
          exact persisted_iff.mpr ⟨runtime, other, request, hruntime, hrequest, rfl,
            hcontent.symm, hlater, by simp [withAnswer]⟩
    · simp only [withAnswer, Function.update_of_ne heq] at hanswer
      obtain ⟨request, hrequest, hfinal⟩ := h.answered other answer hanswer
      exact ⟨request, hrequest, fun hrequest => hkeep _ (hfinal hrequest)⟩
  · refine h.waits.imp fun frame await hwaits target htarget => ?_
    obtain ⟨hdone, hsafe⟩ := hwaits target htarget
    exact ⟨hdone, hsafe.imp_left (hkeep _)⟩

/-! ### An event of the manager -/

section ManagerStep

variable {event : Manager.Event Raw} {next : Manager Doc}

/-- After a shutdown the text stands still. -/
theorem Careful.still (hcareful : state.Careful lib (.manager event)) {id : RuntimeId}
    (hdone : state.manager.Completed id) : state.manager.Still lib event id := by
  intro update hedit runtime hruntime after hafter
  obtain ⟨found, hfound, hflag⟩ := hdone
  cases hfound.symm.trans hruntime
  exact hcareful.1 (id, update) hedit runtime hruntime hflag after hafter

/-- A text that stands still does not change. -/
theorem changed_of_still {id : RuntimeId} (hstill : state.manager.Still lib event id)
    (hstep : state.manager.step lib event = some next) {runtime : DocumentRuntime Doc}
    (hruntime : state.manager.runtimes[id]? = some runtime) :
    (state.advance event next).changedAt id = state.changedAt id := by
  obtain ⟨after, hafter, hsame⟩ := hstill.text hstep hruntime
  exact if_pos (by rw [hafter, hruntime, Option.map_some, Option.map_some, hsame])

theorem Sound.changed_le (h : state.Sound) (event : Manager.Event Raw) (next : Manager Doc)
    (id : RuntimeId) :
    (state.advance event next).changedAt id ≤ state.manager.syncRequests.length := by
  dsimp only [Persistence.advance, Persistence.changed]
  split
  next => exact h.changed id
  next => exact le_rfl

theorem Persisted.advance {id : RuntimeId} (h : state.Persisted id)
    (hstill : state.manager.Still lib event id)
    (hstep : state.manager.step lib event = some next) :
    (state.advance event next).Persisted id := by
  obtain ⟨new, hnew, -⟩ := (Manager.step_effect hstep).requests
  have hchanged : (state.advance event next).changedAt id = state.changedAt id := by
    obtain ⟨runtime, hruntime, -⟩ := h
    exact changed_of_still hstill hstep hruntime
  refine h.keep (fun runtime hruntime => hstill.text hstep hruntime) hchanged.le ?_
    fun _ hanswer => hanswer
  rw [show (state.advance event next).manager.syncRequests = next.syncRequests from rfl, hnew]
  exact List.prefix_append _ _

theorem waiting_forall₂ {R : Frame → Option Nat → Prop}
    (h : List.Forall₂ R state.manager.calls state.awaits) (event : Manager.Event Raw) :
    List.Forall₂ R (state.manager.waiting event) (state.waiting event) := by
  cases event with
  | resume call resolved => exact Foundation.List.forall₂_eraseIdx h call
  | initializeDocument | handleRedisMessage | closeDocument | shutdownAll | tick => exact h

/-- The call that starts to wait, if one does, awaits the request sent with it. -/
theorem advance_awaits {new : Option Frame}
    (hcalls : next.calls = new.toList ++ state.manager.waiting event)
    (hlength : (state.manager.waiting event).length = (state.waiting event).length) :
    (state.advance event next).awaits =
      (new.map fun _ => state.sent next).toList ++ state.waiting event := by
  have hcount : next.calls.length - (state.waiting event).length = new.toList.length := by
    rw [hcalls, List.length_append, hlength, Nat.add_sub_cancel]
  simp only [advance, hcount]
  cases new <;> rfl

theorem Waits.advance (hcareful : state.Careful lib (.manager event))
    (hstep : state.manager.step lib event = some next) {frame : Frame} {await : Option Nat}
    (hwaits : state.Waits frame await) : (state.advance event next).Waits frame await := by
  intro target htarget
  obtain ⟨hdone, hsafe⟩ := hwaits target htarget
  have heffect := Manager.step_effect hstep
  refine ⟨hdone.effect heffect, ?_⟩
  rcases hsafe with hpersisted | hunregistered | ⟨position, request, hawait, hrequest, hid⟩
  · exact .inl (hpersisted.advance (hcareful.still hdone) hstep)
  · refine .inr (.inl fun hlookup => ?_)
    rcases Manager.step_registered hstep hlookup with hbefore | hnew
    · exact hunregistered hbefore
    · exact absurd hdone.lt (not_lt.mpr hnew)
  · obtain ⟨new, hnew, -⟩ := heffect.requests
    refine .inr (.inr ⟨position, request, hawait, ?_, hid⟩)
    exact Foundation.List.getElem?_of_prefix (hnew ▸ List.prefix_append _ _) hrequest

/-- A call that has just shut its runtime down awaits the final request, unless
that was sent before. -/
theorem Waits.suspended (h : state.Sound) (hcareful : state.Careful lib (.manager event))
    (hstep : state.manager.step lib event = some next) {frame : Frame}
    (hshutsDown : ∀ target, frame.removes = some target →
      state.manager.shutsDown event = some target) (hready : next.Ready frame) :
    (state.advance event next).Waits frame (state.sent next) := by
  intro target htarget
  have hdone : next.Completed target.2 := by
    cases frame with
    | initializeShutdown | closeShutdown =>
        cases htarget
        exact hready
    | initializeSubscribe | initializeStart | handleApplied | closeUnsubscribe
    | closeUnsubscribed | shutdownAll => cases htarget
  refine ⟨hdone, ?_⟩
  have hshutsDown := hshutsDown target htarget
  by_cases hlookup : state.manager.documents.lookup target.1 = some target.2
  · have hbound := h.known.registered target.1 target.2 hlookup
    obtain ⟨runtime, hruntime⟩ : ∃ runtime, state.manager.runtimes[target.2]? = some runtime :=
      ⟨_, List.getElem?_eq_getElem hbound⟩
    cases hflag : runtime.shutdownCompleted with
    -- a second shutdown sends nothing, so the first one must have been answered
    | true =>
        have hpersisted := hcareful.2.1 target hshutsDown hlookup runtime hruntime hflag
        exact .inl (hpersisted.advance (hcareful.still ⟨runtime, hruntime, hflag⟩) hstep)
    | false =>
        -- the call awaits the last request there is
        obtain ⟨request, hrequest, hfinal⟩ := DocumentRuntime.shutdown_of_live hflag
        have hsent : next.syncRequests = state.manager.syncRequests ++ [(target.2, request)] := by
          simpa [hrequest] using Manager.step_syncRequests hshutsDown hruntime hstep
        refine .inr (.inr ⟨state.manager.syncRequests.length, (target.2, request), ?_, ?_, rfl,
          hfinal⟩)
        · simp [Persistence.sent, hsent]
        · simp [Persistence.advance, hsent]
  · refine .inr (.inl fun hafter => ?_)
    rcases Manager.step_registered hstep hafter with hbefore | hnew
    · exact hlookup hbefore
    · exact absurd (h.known.shutsDown_lt hshutsDown) (not_lt.mpr hnew)

/-- A runtime that leaves `documents` has been persisted. -/
theorem Sound.leaves (h : state.Sound) (hcareful : state.Careful lib (.manager event))
    (hopen : state.blocked event = false) (hstep : state.manager.step lib event = some next)
    {id : RuntimeId} (hbefore : id ∈ state.manager.registered) (hafter : id ∉ next.registered) :
    (state.advance event next).Persisted id := by
  obtain ⟨documentId, hlookup⟩ := Manager.mem_registered.mp hbefore
  obtain ⟨target, htarget, hdocument⟩ :
      ∃ target, state.manager.removes event = some target ∧ target.1 = documentId := by
    by_contra hnone
    rcases Manager.step_keepsEntry (fun target htarget heq => hnone ⟨target, htarget, heq⟩)
      hstep with hkept | ⟨habsent, -⟩
    · exact hafter (Manager.mem_registered.mpr ⟨documentId, hkept.trans hlookup⟩)
    · rw [hlookup] at habsent
      cases habsent
  subst hdocument
  refine Persisted.advance ?_ (.of_removes htarget) hstep
  rcases hcareful.2.2 target htarget id hlookup with rfl | hpersisted
  -- the call goes on only when the request that it awaits is answered
  · cases event with
    | resume call resolved =>
        simp only [Manager.removes, Option.bind_eq_some_iff] at htarget
        obtain ⟨frame, hframe, htarget⟩ := htarget
        obtain ⟨await, hawait, hwaits⟩ := Foundation.List.forall₂_getElem? h.waits hframe
        obtain ⟨-, hpersisted | hother | ⟨position, request, rfl, hrequest, hid, hfinal⟩⟩ :=
          hwaits target htarget
        · exact hpersisted
        · exact absurd hlookup hother
        · simp only [blocked, hawait, Option.isNone_eq_false_iff, Option.isSome_iff_exists] at hopen
          obtain ⟨answer, hanswer⟩ := hopen
          obtain ⟨found, hfound, hsafe⟩ := h.answered position answer hanswer
          cases hrequest.symm.trans hfound
          exact hid ▸ hsafe hfinal
    | initializeDocument | handleRedisMessage | closeDocument | shutdownAll | tick =>
        cases htarget
  · exact hpersisted

theorem Sound.advance (h : state.Sound) (hcareful : state.Careful lib (.manager event))
    (hopen : state.blocked event = false) (hstep : state.manager.step lib event = some next) :
    (state.advance event next).Sound := by
  have heffect := Manager.step_effect hstep
  obtain ⟨new, hnew, hfinals⟩ := heffect.requests
  have hsent : state.manager.syncRequests.length ≤ next.syncRequests.length := by
    rw [hnew, List.length_append]
    exact Nat.le_add_right _ _
  refine ⟨h.known.step hstep, fun id => (h.changed_le event next id).trans hsent, ?_, ?_, ?_, ?_⟩
  · intro position request hrequest hfinal
    rw [show (state.advance event next).manager.syncRequests = next.syncRequests from rfl,
      hnew] at hrequest
    rcases lt_or_ge position state.manager.syncRequests.length with hold | hlater
    · rw [List.getElem?_append_left hold] at hrequest
      obtain ⟨hchanged, runtime, hruntime, hflag, hcontent⟩ :=
        h.finals position request hrequest hfinal
      have hdone : state.manager.Completed request.1 := ⟨runtime, hruntime, hflag⟩
      obtain ⟨after, hafter, hsame⟩ := (hcareful.still hdone).text hstep hruntime
      obtain ⟨found, hfound, hcompleted⟩ := hdone.effect heffect
      cases hfound.symm.trans hafter
      refine ⟨?_, after, hafter, hcompleted, hsame.trans hcontent⟩
      rw [changed_of_still (hcareful.still hdone) hstep hruntime]
      exact hchanged
    · rw [List.getElem?_append_right hlater] at hrequest
      obtain ⟨runtime, hruntime, hcontent, hdone⟩ := hfinals request (List.mem_of_getElem? hrequest)
      exact ⟨(h.changed_le event next _).trans hlater, runtime, hruntime, hdone hfinal, hcontent⟩
  · intro position answer hanswer
    obtain ⟨request, hrequest, hsafe⟩ := h.answered position answer hanswer
    refine ⟨request, Foundation.List.getElem?_of_prefix (hnew ▸ List.prefix_append _ _) hrequest,
      fun hfinal => ?_⟩
    obtain ⟨-, runtime, hruntime, hflag, -⟩ := h.finals position request hrequest hfinal
    exact (hsafe hfinal).advance (hcareful.still ⟨runtime, hruntime, hflag⟩) hstep
  · obtain ⟨-, suspended, hcalls, hshutdown, hready⟩ := Manager.step_suspends h.known hstep
    have hwaiting := waiting_forall₂ h.waits event
    have hold := hwaiting.imp fun frame await hwaits => hwaits.advance hcareful hstep
    -- the calls that were waiting still are, and at most one more is
    rw [advance_awaits hcalls hwaiting.length_eq,
      show (state.advance event next).manager.calls = next.calls from rfl, hcalls]
    cases suspended with
    | none => exact hold
    | some frame =>
        refine .cons (Waits.suspended h hcareful hstep (fun target hremoves => ?_)
          (hready frame rfl)) hold
        rw [Option.filter_some, hremoves, Option.isSome_some, if_pos rfl] at hshutdown
        rw [Manager.shutsDown, ← hshutdown, Option.bind_some, hremoves]
  · intro id hid
    rw [show (state.advance event next).removed = state.removed ++
      state.manager.registered.filter (· ∉ next.registered) from rfl, List.mem_append] at hid
    rcases hid with hold | hleaves
    · obtain ⟨hunregistered, hpersisted⟩ := h.removed id hold
      refine ⟨fun hagain => ?_, hpersisted.advance (.of_unregistered hunregistered) hstep⟩
      obtain ⟨documentId, hlookup⟩ := Manager.mem_registered.mp hagain
      obtain ⟨runtime, hruntime, -⟩ := hpersisted
      have hbound := (List.getElem?_eq_some_iff.mp hruntime).1
      rcases Manager.step_registered hstep hlookup with hbefore | hnew
      · exact hunregistered (Manager.mem_registered.mpr ⟨documentId, hbefore⟩)
      · exact absurd hbound (not_lt.mpr hnew)
    · rw [List.mem_filter, decide_eq_true_eq] at hleaves
      exact ⟨hleaves.2, h.leaves hcareful hopen hstep hleaves.1 hleaves.2⟩

end ManagerStep

theorem reachable_sound (hreach : (system lib).ReachableUnder (Careful lib) state) :
    state.Sound := by
  refine hreach.invariant (system lib) Sound ?_ ?_
  · rintro start rfl
    exact empty_sound
  · intro before event after _ h hcareful hstep
    cases event with
    | manager event =>
        simp only [system, step] at hstep
        split at hstep
        next => cases hstep
        next hopen =>
          obtain ⟨next, hnext, rfl⟩ := Option.map_eq_some_iff.mp hstep
          exact h.advance hcareful (Bool.eq_false_iff.mpr hopen) hnext
    | answer position acknowledged =>
        simp only [system, step, Option.ite_none_right_eq_some, Option.some.injEq] at hstep
        obtain ⟨⟨hbound, hopen⟩, rfl⟩ := hstep
        exact h.answer hcareful hbound hopen

/-- Removed implies persisted. -/
theorem removed_persisted (hreach : (system lib).ReachableUnder (Careful lib) state) :
    state.RemovedPersisted :=
  fun id hid => ((reachable_sound hreach).removed id hid).2

/-! ## Runs -/

/-- A session is initialised and closed, and the final request acknowledged. -/
def closingRun : List (Event String) :=
  [.manager (.initializeDocument ⟨7, "text", 1, "owner", 0⟩), .manager (.resume 0 true),
    .manager (.resume 0 true), .manager (.closeDocument 7), .manager (.resume 0 true),
    .manager (.resume 0 true), .answer 0 true, .manager (.resume 0 true)]

theorem removed_persisted_closing : ∃ state : Persistence String,
    (system textLibraries).ReachableUnder (Careful textLibraries) state ∧
      state.removed = [0] ∧ state.RemovedPersisted := by
  obtain ⟨state, hreach, hcheck⟩ := (system textLibraries).exists_reachable_of_exec
    (.init rfl : (system textLibraries).ReachableUnder (Careful textLibraries) empty) closingRun
    (fun state => state.removed = [0]) (by decide)
  exact ⟨state, hreach, of_decide_eq_true hcheck, removed_persisted hreach⟩

/-- Two closes of one session overlap. The shutdown of the second returns at
once, and the entry is deleted while the only request is under way. -/
def overlappingCloses : List (Event String) :=
  [.manager (.initializeDocument ⟨7, "text", 1, "owner", 0⟩), .manager (.resume 0 true),
    .manager (.resume 0 true), .manager (.closeDocument 7), .manager (.closeDocument 7),
    .manager (.resume 1 true), .manager (.resume 0 true), .manager (.resume 1 true),
    .manager (.resume 0 true), .manager (.resume 0 true)]

theorem overlapping_closes_remove_unsaved :
    ¬ ∀ state : Persistence String, (system textLibraries).Reachable state →
      state.RemovedPersisted := by
  intro hclaim
  obtain ⟨state, hreach, hcheck⟩ := (system textLibraries).exists_reachable_of_exec
    (.init rfl : (system textLibraries).Reachable (empty : Persistence String)) overlappingCloses
    (fun state => state.removed = [0] ∧ ¬state.Persisted 0) (by decide)
  obtain ⟨hremoved, hlost⟩ := of_decide_eq_true hcheck
  exact hlost (hclaim state hreach 0 (by rw [hremoved]; exact List.mem_singleton_self 0))

end Persistence

end CollabEditor.Worker
