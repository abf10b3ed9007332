import CollabEditor.Platform.Deployment
import CollabEditor.Worker.Removal

/-! # Initialising a session that is live

The text of the new runtime is read from the database before the old runtime is
shut down, and what the old one has not persisted by then is not in it.
-/

namespace CollabEditor.Platform

open Foundation
open Hub Worker
open Backend (DocumentId User)

/-- The text a call of `initializeDocument` that awaits a shutdown will put in
the place of the old one. -/
def handsOver : Frame → Option (DocumentId × String)
  | .initializeShutdown request _ => some (request.documentId, request.content)
  | _ => none

/-- The backend and the worker, between which requests take time. The last three
fields only record what happened. -/
structure Handover (Doc : Type) where
  backend : Backend.State
  manager : Manager Doc
  /-- Requests of the proxy to the init endpoint. -/
  initializing : List InitializeCall
  /-- Requests of the worker that the backend has not handled. -/
  syncing : List SyncRequest
  /-- The request each runtime was constructed for. -/
  origins : List InitializeRequest
  /-- The updates each runtime has applied. -/
  applied : RuntimeId → List (List UInt8)
  /-- The text of each runtime that was replaced, and the runtime in its place. -/
  replaced : List (String × RuntimeId)

namespace Handover

variable {Doc Raw : Type} (lib : Libraries Doc Raw) (state : Handover Doc)

/-- The runtimes that get no more messages once an event has replaced them: the
one that was shut down, and the one that is registered by then. -/
def replacedBy : Manager.Event Raw → List RuntimeId
  | .resume call _ =>
      match state.manager.calls[call]? with
      | some (.initializeShutdown request existing) =>
          existing :: (state.manager.documents.lookup request.documentId).toList.filter
            (· ≠ existing)
      | _ => []
  | _ => []

/-- The worker has moved. -/
def work (event : Manager.Event Raw) (next : Manager Doc) : Handover Doc :=
  { state with
    manager := next
    syncing := state.syncing ++
      (next.syncRequests.drop state.manager.syncRequests.length).map Prod.snd
    origins := state.origins ++ (state.manager.installs event).toList
    applied := fun id => state.applied id ++
      ((state.manager.appliedEdit lib event).toList.filter (·.1 = id)).map Prod.snd
    replaced := state.replaced ++ (state.replacedBy event).filterMap fun id =>
      state.manager.runtimes[id]?.map fun runtime =>
        (runtime.content, state.manager.runtimes.length) }

inductive Event (Raw : Type)
  /-- Anything the backend does but to handle a sync request. -/
  | backend (event : Backend.Event)
  /-- Anything the worker does but to handle an init request. -/
  | worker (event : Manager.Event Raw)
  /-- The proxy reads the document and calls the init endpoint. -/
  | requestInitialize (user : User) (documentId : DocumentId)
  | serveInit (index clientId : Nat)
  | sync (index : Nat)
deriving DecidableEq, Repr

/-- The request the init endpoint passes on to the manager. -/
def initializeRequest (index clientId : Nat) : Option InitializeRequest := do
  let call ← state.initializing[index]?
  match Server.init lib (toString call.documentId) call.content call.user.id call.user.username
      clientId with
  | .ok request => some request
  | .error _ => none

def step : Event Raw → Option (Handover Doc)
  | .backend (.worker (.syncDocument _ _ _)) => none
  | .backend event => (Backend.step state.backend event).map fun next =>
      { state with backend := next }
  | .worker (.initializeDocument _) => none
  | .worker event => (state.manager.step lib event).map (state.work lib event)
  | .requestInitialize user documentId =>
      (state.backend.db.documents documentId).map fun document =>
        { state with
          initializing := state.initializing ++ [⟨documentId, document.content, user⟩] }
  | .serveInit index clientId =>
      if index < state.initializing.length then
        let rest := { state with initializing := state.initializing.eraseIdx index }
        match state.initializeRequest lib index clientId with
        | none => some rest
        | some request =>
            (state.manager.step lib (.initializeDocument request)).map
              (rest.work lib (.initializeDocument request))
      else none
  | .sync index => do
      let request ← state.syncing[index]?
      let next ← Backend.step state.backend (.worker request.operation)
      return { state with backend := next, syncing := state.syncing.eraseIdx index }

/-- Backend and worker start, with an empty database. -/
def system : TransitionSystem (Handover Doc) (Event Raw) where
  init state := Backend.system.init state.backend ∧ state.manager = .empty ∧
    state.initializing = [] ∧ state.syncing = [] ∧ state.origins = [] ∧
    (∀ id, state.applied id = []) ∧ state.replaced = []
  step := step lib

/-- Every runtime that took the place of another started with the text the other
had, and what it sends to the backend is that text with edits it has applied. -/
def LosesNothing : Prop :=
  ∀ entry ∈ state.replaced, ∃ origin, state.origins[entry.2]? = some origin ∧
    (DocumentRuntime.create lib origin.documentId origin.clientId origin.content).content =
      entry.1 ∧
    ∀ request ∈ state.manager.syncRequests, request.1 = entry.2 →
      ∃ updates doc, updates <+: state.applied entry.2 ∧
        Relay.replay lib (lib.newDoc origin.clientId origin.content) updates = some doc ∧
        request.2.content = lib.toText doc

/-! ## A handover without a loss -/

/-- The texts on their way to a new runtime, with their documents. -/
def underWay : List (DocumentId × String) :=
  (state.initializing.filterMap fun call => do
    let documentId ← lib.number (toString call.documentId)
    let content ← call.content
    return (documentId, content)) ++
  state.manager.calls.filterMap handsOver

/-- The document has no runtime with another text. -/
def Agrees (manager : Manager Doc) (text : DocumentId × String) : Prop :=
  ∀ id ∈ manager.documents.lookup text.1, ∀ runtime ∈ manager.runtimes[id]?,
    runtime.content = text.2

/-- A runtime is about to be replaced. -/
def HandsOver (id : RuntimeId) : Prop :=
  (∃ text ∈ state.underWay lib, state.manager.documents.lookup text.1 = some id) ∨
    ∃ frame ∈ state.manager.calls, handsOver frame ≠ none ∧
      ∃ target ∈ frame.removes, target.2 = id

/-- No runtime that is about to be replaced changes its text, and no other text is
under way to a document that gets a runtime. -/
def Undisturbed (event : Manager.Event Raw) : Prop :=
  (∀ edit ∈ state.manager.appliedEdit lib event, state.HandsOver lib edit.1 →
    ∀ runtime ∈ state.manager.runtimes[edit.1]?, ∀ next ∈ runtime.edited lib edit.2,
      next.content = runtime.content) ∧
  ∀ request ∈ state.manager.installs event, ∀ text ∈ state.underWay lib,
    text.1 = request.documentId → text.2 = request.content

/-- The runtime of a document has its stored text when the proxy reads that, and
keeps it until it is replaced. -/
def Settled : Event Raw → Prop
  | .requestInitialize _ documentId =>
      ∀ document ∈ state.backend.db.documents documentId, ∀ content ∈ document.content,
        ∀ number ∈ lib.number (toString documentId), Agrees state.manager (number, content)
  | .worker event => state.Undisturbed lib event
  | .serveInit index clientId => ∀ request ∈ state.initializeRequest lib index clientId,
      state.Undisturbed lib (.initializeDocument request)
  | _ => True

instance (manager : Manager Doc) (text : DocumentId × String) :
    Decidable (Agrees manager text) :=
  inferInstanceAs (Decidable (∀ id ∈ manager.documents.lookup text.1,
    ∀ runtime ∈ manager.runtimes[id]?, runtime.content = text.2))

instance (id : RuntimeId) : Decidable (state.HandsOver lib id) :=
  inferInstanceAs (Decidable (_ ∨ _))

instance (event : Manager.Event Raw) : Decidable (state.Undisturbed lib event) :=
  inferInstanceAs (Decidable (_ ∧ _))

instance (event : Event Raw) : Decidable (state.Settled lib event) :=
  match event with
  | .requestInitialize _ documentId => inferInstanceAs (Decidable (∀ document ∈
      state.backend.db.documents documentId, ∀ content ∈ document.content,
        ∀ number ∈ lib.number (toString documentId), Agrees state.manager (number, content)))
  | .worker event => inferInstanceAs (Decidable (state.Undisturbed lib event))
  | .serveInit index clientId => inferInstanceAs (Decidable (∀ request ∈
      state.initializeRequest lib index clientId, state.Undisturbed lib (.initializeDocument request)))
  | .backend _ | .sync _ => inferInstanceAs (Decidable True)

/-! ## The invariant -/

variable {lib state} {event : Manager.Event Raw} {next : Manager Doc}

/-- Every text is that of the request its runtime was constructed for with the
recorded updates applied; so was every text that has been sent. -/
structure Recorded (lib : Libraries Doc Raw) (state : Handover Doc) : Prop where
  origins : state.origins.length = state.manager.runtimes.length
  unborn : ∀ id, state.manager.runtimes.length ≤ id → state.applied id = []
  texts : ∀ (id : RuntimeId) (runtime : DocumentRuntime Doc),
    state.manager.runtimes[id]? = some runtime → ∃ origin, state.origins[id]? = some origin ∧
      Relay.replay lib (lib.newDoc origin.clientId origin.content) (state.applied id) =
        some runtime.doc ∧ runtime.content = lib.toText runtime.doc
  sent : ∀ request ∈ state.manager.syncRequests, ∃ origin updates doc,
    state.origins[request.1]? = some origin ∧ updates <+: state.applied request.1 ∧
      Relay.replay lib (lib.newDoc origin.clientId origin.content) updates = some doc ∧
      request.2.content = lib.toText doc

structure Sound (lib : Libraries Doc Raw) (state : Handover Doc) : Prop where
  known : state.manager.Known
  recorded : state.Recorded lib
  agrees : ∀ text ∈ state.underWay lib, Agrees state.manager text
  waits : ∀ request existing, .initializeShutdown request existing ∈ state.manager.calls →
    ∀ runtime, state.manager.runtimes[existing]? = some runtime →
      runtime.content = request.content
  replaced : ∀ entry ∈ state.replaced, ∃ origin, state.origins[entry.2]? = some origin ∧
    origin.content = entry.1

theorem work_applied_of_edit {id : RuntimeId} {update : List UInt8}
    (hedit : state.manager.appliedEdit lib event = some (id, update)) :
    (state.work lib event next).applied id = state.applied id ++ [update] := by
  simp [work, hedit]

theorem work_applied_of_ne {id : RuntimeId}
    (hother : ∀ update, state.manager.appliedEdit lib event ≠ some (id, update)) :
    (state.work lib event next).applied id = state.applied id := by
  simp only [work]
  cases hedit : state.manager.appliedEdit lib event with
  | none => simp
  | some edit =>
      have hne : edit.1 ≠ id := by
        rintro rfl
        exact hother edit.2 hedit
      simp [hne]

theorem work_origins_grow : state.origins <+: (state.work lib event next).origins :=
  List.prefix_append _ _

theorem Recorded.text_of_work (h : state.Recorded lib) (hknown : state.manager.Known)
    (hstep : state.manager.step lib event = some next) {id : RuntimeId}
    {runtime : DocumentRuntime Doc} (hruntime : next.runtimes[id]? = some runtime) :
    ∃ origin, (state.work lib event next).origins[id]? = some origin ∧
      Relay.replay lib (lib.newDoc origin.clientId origin.content)
        ((state.work lib event next).applied id) = some runtime.doc ∧
      runtime.content = lib.toText runtime.doc := by
  rcases Manager.step_runtime hstep hruntime with
    ⟨before, hbefore, hchange⟩ | ⟨rfl, request, hinstalls, rfl⟩
  · obtain ⟨origin, horigin, hreplay, htext⟩ := h.texts id before hbefore
    refine ⟨origin, Foundation.List.getElem?_of_prefix work_origins_grow horigin, ?_⟩
    rcases hchange with ⟨hother, hdoc, hcontent⟩ | ⟨update, hedit, hdoc, hcontent⟩
    · rw [work_applied_of_ne hother, hdoc, hcontent]
      exact ⟨hreplay, htext⟩
    · rw [work_applied_of_edit hedit, Relay.replay, List.foldlM_append]
      rw [Relay.replay] at hreplay
      exact ⟨by simp [hreplay, hdoc], hcontent⟩
  · refine ⟨request, by simp [Handover.work, hinstalls, ← h.origins], ?_, rfl⟩
    rw [work_applied_of_ne fun update hedit =>
      absurd (hknown.appliedEdit_lt hedit) (Nat.lt_irrefl _), h.unborn _ le_rfl]
    rfl

theorem Recorded.work (h : state.Recorded lib) (hknown : state.manager.Known)
    (hstep : state.manager.step lib event = some next) :
    (state.work lib event next).Recorded lib where
  origins := by
    show (state.origins ++ (state.manager.installs event).toList).length = next.runtimes.length
    rw [List.length_append, h.origins, Manager.step_runtimes_length hstep]
  unborn id hid := by
    have hlength := Manager.step_runtimes_length hstep
    have hold : state.manager.runtimes.length ≤ id :=
      le_trans (le_of_le_of_eq (Nat.le_add_right _ _) hlength.symm) hid
    rw [work_applied_of_ne fun update hedit =>
      absurd (hknown.appliedEdit_lt hedit) (not_lt.mpr hold), h.unborn id hold]
  texts id runtime hruntime := h.text_of_work hknown hstep hruntime
  sent request hrequest := by
    obtain ⟨new, hnew, htexts⟩ := (Manager.step_effect hstep).requests
    rw [show (state.work lib event next).manager.syncRequests = next.syncRequests from rfl, hnew,
      List.mem_append] at hrequest
    rcases hrequest with hold | hrequest
    · obtain ⟨origin, updates, doc, horigin, hprefix, hreplay, hcontent⟩ := h.sent request hold
      exact ⟨origin, updates, doc, Foundation.List.getElem?_of_prefix work_origins_grow horigin,
        hprefix.trans (List.prefix_append _ _), hreplay, hcontent⟩
    · obtain ⟨runtime, hruntime, hcontent, -⟩ := htexts request hrequest
      obtain ⟨origin, horigin, hreplay, htext⟩ := h.text_of_work hknown hstep hruntime
      exact ⟨origin, _, runtime.doc, horigin, List.prefix_refl _, hreplay,
        hcontent.symm.trans htext⟩

/-! ### An event of the worker -/

theorem mem_underWay {text : DocumentId × String} :
    text ∈ state.underWay lib ↔
      (∃ call ∈ state.initializing, lib.number (toString call.documentId) = some text.1 ∧
        call.content = some text.2) ∨
      ∃ frame ∈ state.manager.calls, handsOver frame = some text := by
  simp only [underWay, List.mem_append, List.mem_filterMap, Option.bind_eq_bind,
    Option.bind_eq_some_iff, Option.pure_def, Option.some.injEq]
  refine or_congr_left (exists_congr fun call => and_congr_right fun _ => ?_)
  constructor
  · rintro ⟨documentId, hdocument, content, hcontent, rfl⟩
    exact ⟨hdocument, hcontent⟩
  · rintro ⟨hdocument, hcontent⟩
    exact ⟨text.1, hdocument, text.2, hcontent, rfl⟩

/-- A call that starts to await a shutdown in order to replace the runtime. -/
theorem waits_of_step (hknown : state.manager.Known)
    (hstep : state.manager.step lib event = some next) {request : InitializeRequest}
    {existing : RuntimeId} (hcall : .initializeShutdown request existing ∈ next.calls) :
    .initializeShutdown request existing ∈ state.manager.calls ∨
      event = .initializeDocument request ∧
        state.manager.documents.lookup request.documentId = some existing := by
  obtain ⟨-, new, hcalls, hshutdown, -⟩ := Manager.step_suspends hknown hstep
  rw [hcalls, List.mem_append, Option.mem_toList] at hcall
  rcases hcall with rfl | hwaiting
  · right
    have hshutdown : state.manager.shutdownFrame event =
        some (.initializeShutdown request existing) := hshutdown.symm
    cases event with
    | initializeDocument other =>
        obtain ⟨found, hfound, hframe⟩ := Option.map_eq_some_iff.mp hshutdown
        cases hframe
        exact ⟨rfl, hfound⟩
    | resume call resolved =>
        obtain ⟨frame, -, hframe⟩ := Option.bind_eq_some_iff.mp hshutdown
        cases frame <;> cases hframe
    | handleRedisMessage | closeDocument | shutdownAll | tick => cases hshutdown
  · left
    cases event with
    | resume call resolved => exact List.mem_of_mem_eraseIdx hwaiting
    | initializeDocument | handleRedisMessage | closeDocument | shutdownAll | tick =>
        exact hwaiting

theorem mem_replacedBy {id : RuntimeId} (hid : id ∈ state.replacedBy event) :
    ∃ request existing, .initializeShutdown request existing ∈ state.manager.calls ∧
      state.manager.installs event = some request ∧
      (id = existing ∨ state.manager.documents.lookup request.documentId = some id) := by
  cases event with
  | resume call resolved =>
      simp only [replacedBy] at hid
      split at hid
      next request existing hframe =>
        refine ⟨request, existing, List.mem_of_getElem? hframe, ?_, ?_⟩
        · simp [Manager.installs, hframe, Frame.installs]
        · rcases List.mem_cons.mp hid with heq | hlookup
          · exact .inl heq
          · exact .inr (Option.mem_toList.mp (List.mem_filter.mp hlookup).1)
      next => cases hid
  | initializeDocument | handleRedisMessage | closeDocument | shutdownAll | tick => cases hid

/-- The text of a runtime that is about to be replaced stays. -/
theorem Undisturbed.content (hguard : state.Undisturbed lib event)
    (hstep : state.manager.step lib event = some next) {id : RuntimeId}
    (hid : state.HandsOver lib id ∨ state.manager.appliedEdit lib event = none)
    {before after : DocumentRuntime Doc} (hbefore : state.manager.runtimes[id]? = some before)
    (hafter : next.runtimes[id]? = some after) : after.content = before.content := by
  rcases Manager.step_runtime hstep hafter with
    ⟨found, hfound, ⟨-, -, hcontent⟩ | ⟨update, hedit, hdoc, hcontent⟩⟩ | ⟨rfl, -⟩
  · cases hbefore.symm.trans hfound
    exact hcontent
  · cases hbefore.symm.trans hfound
    rcases hid with hid | hnone
    · have hsame := hguard.1 (id, update) hedit hid before hbefore
        { before with doc := after.doc, content := lib.toText after.doc }
        (by simp [DocumentRuntime.edited, hdoc])
      exact hcontent.trans hsame
    · rw [hnone] at hedit
      cases hedit
  · rw [List.getElem?_eq_none le_rfl] at hbefore
    cases hbefore

theorem Sound.work (h : state.Sound lib)
    (hnewDoc : ∀ clientId text, lib.toText (lib.newDoc clientId text) = text)
    (hguard : state.Undisturbed lib event)
    (hcalled : ∀ request, event = .initializeDocument request →
      Agrees state.manager (request.documentId, request.content))
    (hstep : state.manager.step lib event = some next) :
    (state.work lib event next).Sound lib := by
  refine ⟨h.known.step hstep, h.recorded.work h.known hstep, ?_, ?_, ?_⟩
  · intro text htext id hid after hafter
    have hcause : text ∈ state.underWay lib ∨ ∃ request, event = .initializeDocument request ∧
        text = (request.documentId, request.content) ∧ state.manager.installs event = none := by
      rcases mem_underWay.mp htext with hcall | ⟨frame, hframe, hhands⟩
      · exact .inl (mem_underWay.mpr (.inl hcall))
      · cases frame with
        | initializeShutdown request existing =>
            cases hhands
            rcases waits_of_step h.known hstep hframe with hold | ⟨rfl, hexisting⟩
            · exact .inl (mem_underWay.mpr (.inr ⟨_, hold, rfl⟩))
            · exact .inr ⟨request, rfl, rfl, by simp [Manager.installs, hexisting]⟩
        | initializeSubscribe | initializeStart | handleApplied | closeUnsubscribe
        | closeUnsubscribed | closeShutdown | shutdownAll => cases hhands
    have hagrees : Agrees state.manager text := by
      rcases hcause with hold | ⟨request, hevent, rfl, -⟩
      · exact h.agrees text hold
      · exact hcalled request hevent
    rcases Manager.step_registered hstep hid with hbefore | hnew
    · have hbound := h.known.registered _ _ hbefore
      have hstill : state.HandsOver lib id ∨ state.manager.appliedEdit lib event = none := by
        rcases hcause with hold | ⟨request, rfl, -⟩
        · exact .inl (.inl ⟨text, hold, hbefore⟩)
        · exact .inr rfl
      rw [hguard.content hstep hstill (List.getElem?_eq_getElem hbound) hafter]
      exact hagrees id hbefore _ (List.getElem?_eq_getElem hbound)
    · -- the runtime is new, and its text is the only one under way to the document
      obtain ⟨request, hinstalls, hdocument⟩ := Manager.step_registered_key h.known hstep hid hnew
      rcases Manager.step_runtime hstep hafter with
        ⟨before, hbefore, -⟩ | ⟨-, created, hcreated, rfl⟩
      · exact absurd (List.getElem?_eq_some_iff.mp hbefore).1 (not_lt.mpr hnew)
      · cases hinstalls.symm.trans hcreated
        rcases hcause with hold | ⟨_, -, -, hnone⟩
        · exact (hnewDoc _ _).trans (hguard.2 request hinstalls text hold hdocument.symm).symm
        · rw [hnone] at hinstalls
          cases hinstalls
  · intro request existing hcall after hafter
    rcases waits_of_step h.known hstep hcall with hold | ⟨rfl, hexisting⟩
    · have hdone : state.manager.Completed existing := h.known.calls _ hold
      obtain ⟨before, hbefore, -⟩ := hdone
      rw [hguard.content hstep (.inl (.inr ⟨_, hold, Option.some_ne_none _, _, rfl, rfl⟩)) hbefore hafter]
      exact h.waits request existing hold before hbefore
    · have hbound := h.known.registered _ _ hexisting
      rw [hguard.content hstep (.inr rfl) (List.getElem?_eq_getElem hbound) hafter]
      exact hcalled request rfl existing hexisting _ (List.getElem?_eq_getElem hbound)
  · intro entry hentry
    rcases List.mem_append.mp hentry with hold | hnew
    -- what was replaced before does not change any more
    · obtain ⟨origin, horigin, hcontent⟩ := h.replaced entry hold
      exact ⟨origin, Foundation.List.getElem?_of_prefix work_origins_grow horigin, hcontent⟩
    · obtain ⟨id, hid, hentry⟩ := List.mem_filterMap.mp hnew
      obtain ⟨runtime, hruntime, rfl⟩ := Option.map_eq_some_iff.mp hentry
      obtain ⟨request, existing, hframe, hinstalls, hid⟩ := mem_replacedBy hid
      refine ⟨request, by simp [Handover.work, hinstalls, ← h.recorded.origins], ?_⟩
      rcases hid with rfl | hlookup
      · exact (h.waits request id hframe runtime hruntime).symm
      -- the entry that the new runtime overwrites had the text that is under way
      · have hunderWay : (request.documentId, request.content) ∈ state.underWay lib :=
          mem_underWay.mpr (.inr ⟨_, hframe, rfl⟩)
        exact (h.agrees _ hunderWay id hlookup runtime hruntime).symm

/-! ### The other events -/

/-- Nothing changes but what is under way, of which there is not more. -/
theorem Sound.rest (h : state.Sound lib) {backend : Backend.State}
    {initializing : List InitializeCall} {syncing : List SyncRequest}
    (hfewer : ∀ call ∈ initializing, call ∈ state.initializing) :
    Sound lib { state with
      backend := backend, initializing := initializing, syncing := syncing } := by
  refine ⟨h.known, ⟨h.recorded.origins, h.recorded.unborn, h.recorded.texts, h.recorded.sent⟩,
    fun text htext => h.agrees text ?_, h.waits, h.replaced⟩
  rw [mem_underWay] at htext ⊢
  exact htext.imp_left fun ⟨call, hcall, htext⟩ => ⟨call, hfewer call hcall, htext⟩

/-- What the init endpoint passes on was under way. -/
theorem initializeRequest_spec {index clientId : Nat} {request : InitializeRequest}
    (hrequest : state.initializeRequest lib index clientId = some request) :
    (request.documentId, request.content) ∈ state.underWay lib := by
  obtain ⟨call, hcall, hinit⟩ := Option.bind_eq_some_iff.mp hrequest
  refine mem_underWay.mpr (.inl ⟨call, List.mem_of_getElem? hcall, ?_⟩)
  unfold Server.init at hinit
  cases hnumber : lib.number (toString call.documentId) with
  | none =>
      rw [hnumber] at hinit
      cases hinit
  | some number =>
      cases hcontent : call.content with
      | none =>
          rw [hnumber, hcontent] at hinit
          cases hinit
      | some content =>
          rw [hnumber, hcontent] at hinit
          cases hinit
          exact ⟨rfl, rfl⟩

theorem Sound.step (h : state.Sound lib)
    (hnewDoc : ∀ clientId text, lib.toText (lib.newDoc clientId text) = text)
    {event : Event Raw} (hguard : state.Settled lib event) {after : Handover Doc}
    (hstep : state.step lib event = some after) : after.Sound lib := by
  unfold Handover.step at hstep
  split at hstep
  next => cases hstep
  next =>
    obtain ⟨backend, -, rfl⟩ := Option.map_eq_some_iff.mp hstep
    exact h.rest fun _ hcall => hcall
  next => cases hstep
  next event hevent =>
    obtain ⟨manager, hmanager, rfl⟩ := Option.map_eq_some_iff.mp hstep
    exact h.work hnewDoc hguard (fun request heq => absurd heq (hevent request)) hmanager
  next user documentId =>
    obtain ⟨document, hdocument, rfl⟩ := Option.map_eq_some_iff.mp hstep
    refine ⟨h.known, ⟨h.recorded.origins, h.recorded.unborn, h.recorded.texts, h.recorded.sent⟩,
      fun text htext => ?_, h.waits, h.replaced⟩
    rcases mem_underWay.mp htext with ⟨call, hcall, hnumber, hcontent⟩ | hframe
    · rcases List.mem_append.mp hcall with hold | hnew
      · exact h.agrees text (mem_underWay.mpr (.inl ⟨call, hold, hnumber, hcontent⟩))
      · rw [List.mem_singleton] at hnew
        subst hnew
        exact hguard document hdocument text.2 hcontent text.1 hnumber
    · exact h.agrees text (mem_underWay.mpr (.inr hframe))
  next index clientId =>
    rw [Option.ite_none_right_eq_some] at hstep
    obtain ⟨-, hstep⟩ := hstep
    have hrest : Sound lib { state with initializing := state.initializing.eraseIdx index } :=
      h.rest fun _ hcall => List.mem_of_mem_eraseIdx hcall
    dsimp only at hstep
    split at hstep
    next =>
      cases hstep
      exact hrest
    next request hrequest =>
      obtain ⟨manager, hmanager, rfl⟩ := Option.map_eq_some_iff.mp hstep
      have hundisturbed := hguard request hrequest
      refine hrest.work hnewDoc ⟨?_, ?_⟩ ?_ hmanager
      · exact nofun
      · intro created hcreated text htext
        refine hundisturbed.2 created hcreated text ?_
        rw [mem_underWay] at htext ⊢
        exact htext.imp_left fun ⟨call, hcall, hsame⟩ =>
          ⟨call, List.mem_of_mem_eraseIdx hcall, hsame⟩
      · rintro other ⟨⟩
        exact h.agrees _ (initializeRequest_spec hrequest)
  next index =>
    obtain ⟨request, -, hstep⟩ := Option.bind_eq_some_iff.mp hstep
    obtain ⟨backend, -, hstep⟩ := Option.bind_eq_some_iff.mp hstep
    cases hstep
    exact h.rest fun _ hcall => hcall

/-- Re-initialising a live session loses nothing, if the stored text is the live
one when it is read and nothing changes until the runtime is replaced. -/
theorem reinitialised_losesNothing
    (hnewDoc : ∀ clientId text, lib.toText (lib.newDoc clientId text) = text)
    (hreach : (system lib).ReachableUnder (Settled lib) state) : state.LosesNothing lib := by
  have hsound : state.Sound lib := by
    refine hreach.invariant (system lib) (Sound lib) ?_ ?_
    · rintro start ⟨-, hmanager, hinitializing, -, horigins, happlied, hreplaced⟩
      refine ⟨hmanager ▸ Manager.empty_known, ⟨?_, fun id _ => happlied id, ?_, ?_⟩, ?_, ?_, ?_⟩
      · simp [hmanager, horigins, Manager.empty]
      · simp [hmanager, Manager.empty]
      · simp [hmanager, Manager.empty]
      · simp [mem_underWay, hmanager, hinitializing, Manager.empty]
      · simp [hmanager, Manager.empty]
      · simp [hreplaced]
    · exact fun before event after _ h hguard hstep => h.step hnewDoc hguard hstep
  intro entry hentry
  obtain ⟨origin, horigin, hcontent⟩ := hsound.replaced entry hentry
  refine ⟨origin, horigin, (hnewDoc _ _).trans hcontent, fun request hrequest hid => ?_⟩
  obtain ⟨found, updates, doc, hfound, hupdates, hreplay, htext⟩ :=
    hsound.recorded.sent request hrequest
  rw [hid] at hfound hupdates
  cases horigin.symm.trans hfound
  exact ⟨updates, doc, hupdates, hreplay, htext⟩

/-! ## Runs -/

/-- An edit as the worker receives it. -/
def appendedText (text : String) : Envelope ⊕ EnvelopeMessage :=
  .inl ⟨.docChange, 1, "", 1, 0, some (.object [("update", .string text)])⟩

/-- A session is initialised and edited, and initialised again. The given events
happen between the edit and the second initialisation. -/
def reinitialisation (between : List (Event (Envelope ⊕ EnvelopeMessage))) :
    List (Event (Envelope ⊕ EnvelopeMessage)) :=
  [.backend (.user ⟨1, "owner"⟩ (.create (some "notes") (some "text"))),
    .requestInitialize ⟨1, "owner"⟩ 1, .serveInit 0 0, .worker (.resume 0 true),
    .worker (.resume 0 true),
    .worker (.handleRedisMessage "ws:doc:1" (appendedText "!")), .worker (.resume 0 true)] ++
  between ++
  [.requestInitialize ⟨1, "owner"⟩ 1, .serveInit 0 1, .worker (.resume 0 true)]

theorem reinitialised_losesNothing_synced : ∃ state : Handover String,
    (system plainLibraries).ReachableUnder (Settled plainLibraries) state ∧
      state.replaced = [("text!", 1)] ∧ state.LosesNothing plainLibraries := by
  obtain ⟨state, hreach, hcheck⟩ := (system plainLibraries).exists_reachable_of_exec
    (.init ⟨⟨rfl, by decide, by decide⟩, rfl, rfl, rfl, rfl, fun _ => rfl, rfl⟩ :
      (system plainLibraries).ReachableUnder (Settled plainLibraries)
        ⟨⟨.empty, 0⟩, .empty, [], [], [], fun _ => [], []⟩)
    (reinitialisation [.worker (.tick 0), .sync 0])
    (fun state => state.replaced = [("text!", (1 : RuntimeId))]) (by decide +kernel)
  exact ⟨state, hreach, of_decide_eq_true hcheck,
    reinitialised_losesNothing (fun _ _ => rfl) hreach⟩

/-- What was not persisted before the read is lost. -/
theorem reinitialisation_loses_edit :
    ¬ ∀ state : Handover String, (system plainLibraries).Reachable state →
      state.LosesNothing plainLibraries := by
  intro hclaim
  obtain ⟨state, hreach, hcheck⟩ := (system plainLibraries).exists_reachable_of_exec
    (.init ⟨⟨rfl, by decide, by decide⟩, rfl, rfl, rfl, rfl, fun _ => rfl, rfl⟩ :
      (system plainLibraries).Reachable
        ⟨⟨.empty, 0⟩, .empty, [], [], [], fun _ => [], []⟩)
    (reinitialisation [])
    (fun state => state.replaced = [("text!", (1 : RuntimeId))] ∧
      state.origins[1]?.map InitializeRequest.content = some "text") (by decide +kernel)
  obtain ⟨hreplaced, hcontent⟩ := of_decide_eq_true hcheck
  obtain ⟨origin, horigin, hsame, -⟩ := hclaim state hreach ("text!", 1)
    (by rw [hreplaced]; exact List.mem_singleton_self _)
  rw [horigin, Option.map_some, Option.some.injEq] at hcontent
  have htext : origin.content = "text!" := hsame
  rw [hcontent] at htext
  exact absurd htext (by decide)

end Handover

end CollabEditor.Platform
