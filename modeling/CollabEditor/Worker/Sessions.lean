import Mathlib.Data.List.Perm.Basic
import CollabEditor.Worker.DocumentManager

/-! # Sessions that outlive their registration

`documents`, `subscribedChannels` and the timers are written on different sides
of the `await`s. As long as nothing else of a document runs while it is being
initialised they agree whenever the worker is idle.
-/

namespace CollabEditor.Worker

open Foundation
open Backend (DocumentId)

/-! ## Overlapping calls -/

namespace Frame

/-- The document an initialisation in progress is about. -/
def initializes : Frame → Option DocumentId
  | initializeShutdown request _ | initializeSubscribe request _ | initializeStart request _ =>
      some request.documentId
  | _ => none

/-- The document a close in progress is about. -/
def closes : Frame → Option DocumentId
  | closeUnsubscribe documentId _ _ | closeUnsubscribed documentId _ _
  | closeShutdown documentId _ _ => some documentId
  | _ => none

/-- Neither call initialises a document that the other initialises or closes. -/
def Compatible (first second : Frame) : Prop :=
  (∀ documentId, first.initializes = some documentId →
      second.initializes ≠ some documentId ∧ second.closes ≠ some documentId) ∧
    ∀ documentId, second.initializes = some documentId → first.closes ≠ some documentId

theorem Compatible.symm {first second : Frame} (h : first.Compatible second) :
    second.Compatible first :=
  ⟨fun documentId hinit => ⟨fun hfirst => (h.1 documentId hfirst).1 hinit,
    h.2 documentId hinit⟩, fun documentId hinit => (h.1 documentId hinit).2⟩

/-- A call that neither initialises nor closes. -/
theorem Compatible.of_neutral {first second : Frame} (hinit : first.initializes = none)
    (hclose : first.closes = none) : first.Compatible second :=
  ⟨fun _ h => by simp [hinit] at h, fun _ _ => by simp [hclose]⟩

end Frame

namespace Manager

variable {Doc Raw : Type} {lib : Libraries Doc Raw} {manager : Manager Doc}

/-- The document an event starts to initialise. -/
def initializeTarget : Event Raw → Option DocumentId
  | .initializeDocument request => some request.documentId
  | _ => none

/-- The document an event starts to close. -/
def closeTarget (manager : Manager Doc) : Event Raw → Option DocumentId
  | .closeDocument documentId => some documentId
  | .shutdownAll ids => ids.head?
  | .resume call _ =>
      match manager.calls[call]? with
      | some (.handleApplied documentId runtime) =>
          if manager.runtimes[runtime]?.any DocumentRuntime.shouldClose then some documentId
          else none
      | some (.shutdownAll remaining) => remaining.head?
      | _ => none
  | _ => none

/-- No call for a document starts while it is being initialised, and no
initialisation of it while it is being closed. -/
def OneAtATime (manager : Manager Doc) (event : Event Raw) : Prop :=
  (∀ documentId ∈ initializeTarget event, ∀ frame ∈ manager.calls,
      frame.initializes ≠ some documentId ∧ frame.closes ≠ some documentId) ∧
    ∀ documentId ∈ manager.closeTarget event, ∀ frame ∈ manager.calls,
      frame.initializes ≠ some documentId

instance (manager : Manager Doc) (event : Event Raw) : Decidable (OneAtATime manager event) :=
  inferInstanceAs (Decidable (_ ∧ _))

/-- Every running timer belongs to a registered and subscribed session that has
not been shut down. -/
def NoZombies (manager : Manager Doc) : Prop :=
  ∀ id runtime, manager.runtimes[id]? = some runtime → runtime.persistTimer = true →
    manager.documents.lookup runtime.documentId = some id ∧
      runtime.shutdownCompleted = false ∧
      documentChannel runtime.documentId ∈ manager.subscribedChannels ∧
      documentChannel runtime.documentId ∈ manager.redisChannels

/-! ## The invariant -/

/-- The runtime exists and is of the document. -/
def RuntimeOf (manager : Manager Doc) (documentId : DocumentId) (id : RuntimeId)
    (completed : Bool → Prop) : Prop :=
  ∃ runtime, manager.runtimes[id]? = some runtime ∧ runtime.documentId = documentId ∧
    completed runtime.shutdownCompleted

/-- What the rest of a waiting call relies on. -/
def FrameOk (manager : Manager Doc) : Frame → Prop
  | .initializeShutdown request existing =>
      manager.documents.lookup request.documentId = some existing ∧
        manager.RuntimeOf request.documentId existing (· = true)
  | .initializeSubscribe request id =>
      manager.documents.lookup request.documentId = some id ∧
        manager.RuntimeOf request.documentId id (· = false)
  | .initializeStart request id =>
      manager.documents.lookup request.documentId = some id ∧
        manager.RuntimeOf request.documentId id (· = false) ∧
        documentChannel request.documentId ∈ manager.subscribedChannels
  | .closeUnsubscribe documentId id _ | .closeUnsubscribed documentId id _ =>
      (∀ other, manager.documents.lookup documentId = some other → other = id) ∧
        manager.RuntimeOf documentId id fun _ => True
  | .closeShutdown documentId id _ =>
      (∀ other, manager.documents.lookup documentId = some other → other = id) ∧
        manager.RuntimeOf documentId id (· = true)
  | .handleApplied _ _ | .shutdownAll _ => True

/-- The state between two events of a run that meets the guard. A timer may run
without its channel only while a close is about to stop it. -/
structure Sound (manager : Manager Doc) : Prop where
  channels : manager.redisChannels = manager.subscribedChannels
  registered : ∀ documentId id, manager.documents.lookup documentId = some id →
    manager.RuntimeOf documentId id fun _ => True
  timers : ∀ id runtime, manager.runtimes[id]? = some runtime → runtime.persistTimer = true →
    manager.documents.lookup runtime.documentId = some id ∧
      runtime.shutdownCompleted = false ∧
      (documentChannel runtime.documentId ∈ manager.subscribedChannels ∨
        ∃ caller, .closeUnsubscribed runtime.documentId id caller ∈ manager.calls)
  frames : ∀ frame ∈ manager.calls, manager.FrameOk frame
  compatible : manager.calls.Pairwise Frame.Compatible

theorem empty_sound : (empty : Manager Doc).Sound where
  channels := rfl
  registered := by simp [empty]
  timers := by simp [empty]
  frames := by simp [empty]
  compatible := .nil

/-- With no call in progress the invariant is the property. -/
theorem Sound.noZombies (hsound : manager.Sound) (hidle : manager.calls = []) :
    manager.NoZombies := by
  intro id runtime hruntime htimer
  obtain ⟨hregistered, hlive, hchannel⟩ := hsound.timers id runtime hruntime htimer
  have hsubscribed : documentChannel runtime.documentId ∈ manager.subscribedChannels := by
    simpa [hidle] using hchannel
  exact ⟨hregistered, hlive, hsubscribed, hsound.channels ▸ hsubscribed⟩

/-! ## Calls in progress -/

/-- Replace the calls in progress. -/
def withCalls (manager : Manager Doc) (calls : List Frame) : Manager Doc :=
  { manager with calls := calls }

theorem frameOk_withCalls {calls : List Frame} {frame : Frame} :
    (manager.withCalls calls).FrameOk frame ↔ manager.FrameOk frame := by
  cases frame <;> exact Iff.rfl

/-- The order of the calls in progress does not matter. -/
theorem Sound.perm (hsound : manager.Sound) {calls : List Frame}
    (hperm : calls.Perm manager.calls) : (manager.withCalls calls).Sound where
  channels := hsound.channels
  registered := hsound.registered
  timers := by
    intro id runtime hruntime htimer
    obtain ⟨hregistered, hlive, hchannel⟩ := hsound.timers id runtime hruntime htimer
    exact ⟨hregistered, hlive, hchannel.imp_right fun ⟨caller, hmem⟩ =>
      ⟨caller, hperm.mem_iff.mpr hmem⟩⟩
  frames frame hframe :=
    frameOk_withCalls.mpr (hsound.frames frame (hperm.mem_iff.mp hframe))
  compatible := hsound.compatible.perm hperm.symm Frame.Compatible.symm

/-- Starting to wait. -/
theorem Sound.suspend (hsound : manager.Sound) {frame : Frame} (hok : manager.FrameOk frame)
    (hcompatible : ∀ other ∈ manager.calls, frame.Compatible other) :
    (manager.suspend frame).Sound where
  channels := hsound.channels
  registered := hsound.registered
  timers := by
    intro id runtime hruntime htimer
    obtain ⟨hregistered, hlive, hchannel⟩ := hsound.timers id runtime hruntime htimer
    exact ⟨hregistered, hlive, hchannel.imp_right fun ⟨caller, hmem⟩ =>
      ⟨caller, List.mem_cons_of_mem _ hmem⟩⟩
  frames other hother := by
    have hbefore : manager.FrameOk other := by
      rcases List.mem_cons.mp hother with rfl | hother
      · exact hok
      · exact hsound.frames other hother
    exact frameOk_withCalls.mpr hbefore
  compatible := .cons hcompatible hsound.compatible

/-- A call ends. A close that was about to stop a timer must have done so. -/
theorem Sound.finish {calls : List Frame} {frame : Frame}
    (hsound : (manager.withCalls (frame :: calls)).Sound)
    (hstopped : ∀ documentId id caller, frame = .closeUnsubscribed documentId id caller →
      ∀ runtime, manager.runtimes[id]? = some runtime → runtime.persistTimer = false) :
    (manager.withCalls calls).Sound where
  channels := hsound.channels
  registered := hsound.registered
  timers := by
    intro id runtime hruntime htimer
    obtain ⟨hregistered, hlive, hchannel⟩ := hsound.timers id runtime hruntime htimer
    refine ⟨hregistered, hlive, hchannel.imp_right ?_⟩
    rintro ⟨caller, hmem⟩
    rcases List.mem_cons.mp hmem with heq | hmem
    · rw [hstopped _ _ caller heq.symm runtime hruntime] at htimer
      cases htimer
    · exact ⟨caller, hmem⟩
  frames other hother :=
    frameOk_withCalls.mpr
      (frameOk_withCalls.mp (hsound.frames other (List.mem_cons_of_mem _ hother)))
  compatible := (List.pairwise_cons.mp hsound.compatible).2

/-- The requests sent so far do not matter. -/
theorem Sound.withRequests (hsound : manager.Sound) (requests : List (RuntimeId × SyncRequest)) :
    { manager with syncRequests := requests }.Sound :=
  ⟨hsound.channels, hsound.registered, hsound.timers,
    fun frame hframe => by cases frame <;> exact hsound.frames _ hframe, hsound.compatible⟩

/-! ## Changing one runtime -/

theorem setRuntime_getElem? {id : RuntimeId} {old : DocumentRuntime Doc}
    (hold : manager.runtimes[id]? = some old) (new : DocumentRuntime Doc) (other : RuntimeId) :
    (manager.setRuntime id new).runtimes[other]? =
      if other = id then some new else manager.runtimes[other]? := by
  have hlength : id < manager.runtimes.length := (List.getElem?_eq_some_iff.mp hold).1
  by_cases heq : other = id
  · subst heq
    simp [Manager.setRuntime, hlength]
  · simp [Manager.setRuntime, heq, Ne.symm heq]

/-- A runtime that is rewritten stays of its document; what holds of the old
flag must hold of the new one. -/
theorem RuntimeOf.setRuntime {documentId : DocumentId} {id other : RuntimeId}
    {completed : Bool → Prop} (hof : manager.RuntimeOf documentId other completed)
    {old new : DocumentRuntime Doc} (hold : manager.runtimes[id]? = some old)
    (hdocument : new.documentId = old.documentId)
    (hcompleted : old.documentId = documentId → completed old.shutdownCompleted →
      completed new.shutdownCompleted) :
    (manager.setRuntime id new).RuntimeOf documentId other completed := by
  obtain ⟨runtime, hruntime, hdoc, hflag⟩ := hof
  by_cases heq : other = id
  · subst heq
    rw [hold, Option.some.injEq] at hruntime
    subst runtime
    exact ⟨new, by simp [setRuntime_getElem? hold], hdocument.trans hdoc, hcompleted hdoc hflag⟩
  · exact ⟨runtime, by simp [setRuntime_getElem? hold, heq, hruntime], hdoc, hflag⟩

/-- Rewriting a runtime under a waiting call. Its shutdown flag may only be set,
and not while its document is being initialised. -/
theorem FrameOk.setRuntime {frame : Frame} (hok : manager.FrameOk frame) {id : RuntimeId}
    {old new : DocumentRuntime Doc} (hold : manager.runtimes[id]? = some old)
    (hdocument : new.documentId = old.documentId)
    (hdone : old.shutdownCompleted = true → new.shutdownCompleted = true)
    (hlive : frame.initializes = some old.documentId → old.shutdownCompleted = false →
      new.shutdownCompleted = false) :
    (manager.setRuntime id new).FrameOk frame := by
  cases frame with
  | initializeShutdown request existing =>
      exact ⟨hok.1, hok.2.setRuntime hold hdocument fun _ => hdone⟩
  | initializeSubscribe request other =>
      exact ⟨hok.1, hok.2.setRuntime hold hdocument fun hdoc => hlive (congrArg some hdoc.symm)⟩
  | initializeStart request other =>
      exact ⟨hok.1, hok.2.1.setRuntime hold hdocument fun hdoc =>
        hlive (congrArg some hdoc.symm), hok.2.2⟩
  | closeUnsubscribe documentId other caller =>
      exact ⟨hok.1, hok.2.setRuntime hold hdocument fun _ _ => trivial⟩
  | closeUnsubscribed documentId other caller =>
      exact ⟨hok.1, hok.2.setRuntime hold hdocument fun _ _ => trivial⟩
  | closeShutdown documentId other caller =>
      exact ⟨hok.1, hok.2.setRuntime hold hdocument fun _ => hdone⟩
  | handleApplied documentId other => trivial
  | shutdownAll remaining => trivial

/-- Rewriting a runtime. A timer that runs afterwards must be in order. -/
theorem Sound.setRuntime (hsound : manager.Sound) {id : RuntimeId}
    {old new : DocumentRuntime Doc} (hold : manager.runtimes[id]? = some old)
    (hdocument : new.documentId = old.documentId)
    (hdone : old.shutdownCompleted = true → new.shutdownCompleted = true)
    (hlive : ∀ frame ∈ manager.calls, frame.initializes = some old.documentId →
      old.shutdownCompleted = false → new.shutdownCompleted = false)
    (htimer : new.persistTimer = true →
      manager.documents.lookup old.documentId = some id ∧ new.shutdownCompleted = false ∧
        (documentChannel old.documentId ∈ manager.subscribedChannels ∨
          ∃ caller, .closeUnsubscribed old.documentId id caller ∈ manager.calls)) :
    (manager.setRuntime id new).Sound where
  channels := hsound.channels
  registered documentId other hlookup :=
    (hsound.registered documentId other hlookup).setRuntime hold hdocument fun _ _ => trivial
  timers := by
    intro other runtime hruntime hrunning
    rw [setRuntime_getElem? hold] at hruntime
    split at hruntime
    next heq =>
      cases hruntime
      subst heq
      rw [hdocument]
      exact htimer hrunning
    next => exact hsound.timers other runtime hruntime hrunning
  frames frame hframe :=
    (hsound.frames frame hframe).setRuntime hold hdocument hdone (hlive frame hframe)
  compatible := hsound.compatible

/-- Handling an envelope. -/
theorem Sound.setRuntime_sameLifecycle (hsound : manager.Sound) {id : RuntimeId}
    {old new : DocumentRuntime Doc} (hold : manager.runtimes[id]? = some old)
    (hsame : old.SameLifecycle new) : (manager.setRuntime id new).Sound := by
  obtain ⟨hdocument, htimer, hflag⟩ := hsame
  refine hsound.setRuntime hold hdocument (hflag.trans ·) (fun _ _ _ => (hflag.trans ·)) ?_
  intro hrunning
  rw [hflag]
  exact hsound.timers id old hold (htimer ▸ hrunning)

/-- A shut down runtime has no timer. -/
theorem Sound.shutdown_persistTimer (hsound : manager.Sound) {id : RuntimeId}
    {runtime : DocumentRuntime Doc} (hruntime : manager.runtimes[id]? = some runtime) :
    runtime.shutdown.1.persistTimer = false := by
  unfold DocumentRuntime.shutdown
  split
  next hdone =>
    rw [Bool.eq_false_iff]
    intro hrunning
    obtain ⟨-, hlive, -⟩ := hsound.timers id runtime hruntime hrunning
    rw [hlive] at hdone
    cases hdone
  next => rfl

theorem shutdownRuntime_eq {id : RuntimeId} {runtime : DocumentRuntime Doc}
    (hruntime : manager.runtimes[id]? = some runtime) :
    manager.shutdownRuntime id =
      { manager.setRuntime id runtime.shutdown.1 with
        syncRequests := manager.syncRequests ++ runtime.shutdown.2.toList.map (id, ·) } := by
  simp [Manager.shutdownRuntime, hruntime]

/-- `shutdown` of a runtime whose document is not being initialised. -/
theorem Sound.shutdownRuntime (hsound : manager.Sound) {id : RuntimeId}
    {runtime : DocumentRuntime Doc} (hruntime : manager.runtimes[id]? = some runtime)
    (hfree : ∀ frame ∈ manager.calls, frame.initializes ≠ some runtime.documentId) :
    (manager.shutdownRuntime id).Sound := by
  rw [shutdownRuntime_eq hruntime]
  refine Sound.withRequests (hsound.setRuntime hruntime (by simp) (by simp) ?_ ?_) _
  · exact fun frame hframe hinit => absurd hinit (hfree frame hframe)
  · intro hrunning
    rw [hsound.shutdown_persistTimer hruntime] at hrunning
    cases hrunning

/-- The end of an initialisation starts the timer of the registered runtime. -/
theorem Sound.startRuntime (hsound : manager.Sound) {request : InitializeRequest}
    {id : RuntimeId} (hok : manager.FrameOk (.initializeStart request id)) :
    (manager.startRuntime request id).Sound := by
  obtain ⟨hlookup, ⟨runtime, hruntime, hdocument, hlive⟩, hchannel⟩ := hok
  rw [← hdocument] at hlookup hchannel
  unfold Manager.startRuntime
  simp only [hruntime]
  exact hsound.setRuntime hruntime rfl (fun h => h) (fun _ _ _ h => h)
    fun _ => ⟨hlookup, hlive, .inl hchannel⟩

/-! ## Channels -/

theorem Sound.subscribe (hsound : manager.Sound) (channel : String) :
    { manager with
      redisChannels := insert channel manager.redisChannels
      subscribedChannels := insert channel manager.subscribedChannels }.Sound where
  channels := by simp [hsound.channels]
  registered := hsound.registered
  timers := by
    intro id runtime hruntime hrunning
    obtain ⟨hregistered, hlive, hchannel⟩ := hsound.timers id runtime hruntime hrunning
    exact ⟨hregistered, hlive, hchannel.imp_left Finset.mem_insert_of_mem⟩
  frames := by
    intro frame hframe
    have hok := hsound.frames frame hframe
    cases frame with
    | initializeStart request id => exact ⟨hok.1, hok.2.1, Finset.mem_insert_of_mem hok.2.2⟩
    | _ => exact hok
  compatible := hsound.compatible

/-- A close has unsubscribed its channel, and the runtime it is about to stop is
the only one of its document. -/
theorem Sound.unsubscribe {documentId : DocumentId} {id : RuntimeId} {caller : Caller}
    {calls : List Frame}
    (hsound : (manager.withCalls (.closeUnsubscribe documentId id caller :: calls)).Sound) :
    ({ manager with
      redisChannels := manager.redisChannels.erase (documentChannel documentId)
      subscribedChannels := manager.subscribedChannels.erase (documentChannel documentId)
      calls := .closeUnsubscribed documentId id caller :: calls } : Manager Doc).Sound := by
  obtain ⟨honly, hof⟩ := frameOk_withCalls.mp (hsound.frames _ List.mem_cons_self)
  obtain ⟨hhead, htail⟩ := List.pairwise_cons.mp hsound.compatible
  refine ⟨?_, hsound.registered, ?_, ?_, ?_⟩
  · have hchannels : manager.redisChannels = manager.subscribedChannels := hsound.channels
    simp [hchannels]
  · intro other runtime hruntime hrunning
    obtain ⟨hregistered, hlive, hchannel⟩ := hsound.timers other runtime hruntime hrunning
    refine ⟨hregistered, hlive, ?_⟩
    by_cases hdocument : runtime.documentId = documentId
    · right
      rw [hdocument] at hregistered ⊢
      rw [honly other hregistered]
      exact ⟨caller, List.mem_cons_self⟩
    · refine hchannel.imp (fun hmem => ?_) fun ⟨other, hmem⟩ => ⟨other, ?_⟩
      · exact Finset.mem_erase.mpr ⟨fun h => hdocument (documentChannel_injective h), hmem⟩
      · rcases List.mem_cons.mp hmem with heq | hmem
        · cases heq
        · exact List.mem_cons_of_mem _ hmem
  · intro frame hframe
    rcases List.mem_cons.mp hframe with rfl | hframe
    · exact ⟨honly, hof⟩
    · have hok := frameOk_withCalls.mp (hsound.frames frame (List.mem_cons_of_mem _ hframe))
      cases frame with
      -- another document is being initialised, and its channel has another name
      | initializeStart request other =>
          refine ⟨hok.1, hok.2.1, Finset.mem_erase.mpr ⟨fun h => ?_, hok.2.2⟩⟩
          exact (hhead _ hframe).2 request.documentId rfl
            (congrArg some (documentChannel_injective h).symm)
      | _ => exact hok
  · exact .cons hhead htail

/-! ## Registration -/

/-- No running timer belongs to the document. -/
def TimersOff (manager : Manager Doc) (documentId : DocumentId) : Prop :=
  ∀ (id : RuntimeId) (runtime : DocumentRuntime Doc), manager.runtimes[id]? = some runtime →
    runtime.persistTimer = true → runtime.documentId ≠ documentId

/-- The timers of a document are off when its registered runtime is shut down. -/
theorem Sound.timersOff (hsound : manager.Sound) {documentId : DocumentId}
    (hshutdown : ∀ id, manager.documents.lookup documentId = some id →
      manager.RuntimeOf documentId id (· = true)) : manager.TimersOff documentId := by
  rintro id runtime hruntime hrunning rfl
  obtain ⟨hregistered, hlive, -⟩ := hsound.timers id runtime hruntime hrunning
  obtain ⟨found, hfound, -, hdone⟩ := hshutdown id hregistered
  rw [hruntime, Option.some.injEq] at hfound
  subst found
  rw [hlive] at hdone
  cases hdone

theorem Sound.unregister (hsound : manager.Sound) {documentId : DocumentId}
    (hoff : manager.TimersOff documentId)
    (hfree : ∀ frame ∈ manager.calls, frame.initializes ≠ some documentId) :
    { manager with documents := manager.documents.erase documentId }.Sound := by
  have hbefore : ∀ other id, (manager.documents.erase documentId).lookup other = some id →
      manager.documents.lookup other = some id := by
    intro other id hlookup
    by_cases heq : other = documentId
    · rw [heq, AList.lookup_erase] at hlookup
      cases hlookup
    · rwa [AList.lookup_erase_ne heq] at hlookup
  have hkept : ∀ other id, other ≠ documentId → manager.documents.lookup other = some id →
      (manager.documents.erase documentId).lookup other = some id := by
    intro other id hne hlookup
    rwa [AList.lookup_erase_ne hne]
  refine ⟨hsound.channels, fun other id hlookup => hsound.registered other id
    (hbefore other id hlookup), ?_, ?_, hsound.compatible⟩
  · intro id runtime hruntime hrunning
    obtain ⟨hregistered, hrest⟩ := hsound.timers id runtime hruntime hrunning
    -- a running timer belongs to another document, whose entry is kept
    exact ⟨hkept _ id (hoff id runtime hruntime hrunning) hregistered, hrest⟩
  · intro frame hframe
    have hok := hsound.frames frame hframe
    have hne := hfree frame hframe
    cases frame with
    | initializeShutdown request id =>
        exact ⟨hkept _ id (fun h => hne (congrArg some h)) hok.1, hok.2⟩
    | initializeSubscribe request id =>
        exact ⟨hkept _ id (fun h => hne (congrArg some h)) hok.1, hok.2⟩
    | initializeStart request id =>
        exact ⟨hkept _ id (fun h => hne (congrArg some h)) hok.1, hok.2⟩
    | closeUnsubscribe other id caller =>
        exact ⟨fun found hfound => hok.1 found (hbefore other found hfound), hok.2⟩
    | closeUnsubscribed other id caller =>
        exact ⟨fun found hfound => hok.1 found (hbefore other found hfound), hok.2⟩
    | closeShutdown other id caller =>
        exact ⟨fun found hfound => hok.1 found (hbefore other found hfound), hok.2⟩
    | handleApplied other id => trivial
    | shutdownAll remaining => trivial

/-- A new runtime takes the place of its document. -/
theorem Sound.register (hsound : manager.Sound) {documentId : DocumentId}
    {runtime : DocumentRuntime Doc} (hdocument : runtime.documentId = documentId)
    (hnew : runtime.persistTimer = false) (hoff : manager.TimersOff documentId)
    (hfree : ∀ frame ∈ manager.calls,
      frame.initializes ≠ some documentId ∧ frame.closes ≠ some documentId) :
    { manager with
      runtimes := manager.runtimes ++ [runtime]
      documents := manager.documents.insert documentId manager.runtimes.length }.Sound := by
  have hkept : ∀ {other id} {completed : Bool → Prop}, manager.RuntimeOf other id completed →
      ({ manager with
        runtimes := manager.runtimes ++ [runtime]
        documents := manager.documents.insert documentId manager.runtimes.length }
        : Manager Doc).RuntimeOf other id completed := by
    rintro other id completed ⟨found, hfound, hrest⟩
    have hlength := (List.getElem?_eq_some_iff.mp hfound).1
    exact ⟨found, by rw [List.getElem?_append_left hlength, hfound], hrest⟩
  have hlookup : ∀ other, other ≠ documentId →
      (manager.documents.insert documentId manager.runtimes.length).lookup other =
        manager.documents.lookup other :=
    fun other hne => AList.lookup_insert_ne hne
  refine ⟨hsound.channels, ?_, ?_, ?_, hsound.compatible⟩
  · intro other id hregistered
    by_cases heq : other = documentId
    · subst heq
      rw [AList.lookup_insert, Option.some.injEq] at hregistered
      subst hregistered
      exact ⟨runtime, by simp, hdocument, trivial⟩
    · rw [hlookup other heq] at hregistered
      exact hkept (hsound.registered other id hregistered)
  · intro id found hfound hrunning
    rw [List.getElem?_append] at hfound
    split at hfound
    next =>
      -- the timers of the document are off, so the new entry hides none that runs
      obtain ⟨hregistered, hrest⟩ := hsound.timers id found hfound hrunning
      refine ⟨?_, hrest⟩
      rw [hlookup _ (hoff id found hfound hrunning)]
      exact hregistered
    next =>
      rw [List.mem_singleton.mp (List.mem_of_getElem? hfound), hnew] at hrunning
      cases hrunning
  · intro frame hframe
    have hok := hsound.frames frame hframe
    obtain ⟨hinit, hclose⟩ := hfree frame hframe
    cases frame with
    | initializeShutdown request id =>
        exact ⟨(hlookup _ fun h => hinit (congrArg some h)).trans hok.1, hkept hok.2⟩
    | initializeSubscribe request id =>
        exact ⟨(hlookup _ fun h => hinit (congrArg some h)).trans hok.1, hkept hok.2⟩
    | initializeStart request id =>
        exact ⟨(hlookup _ fun h => hinit (congrArg some h)).trans hok.1, hkept hok.2.1, hok.2.2⟩
    | closeUnsubscribe other id caller =>
        refine ⟨fun found hfound => hok.1 found ?_, hkept hok.2⟩
        exact (hlookup _ fun h => hclose (congrArg some h)).symm.trans hfound
    | closeUnsubscribed other id caller =>
        refine ⟨fun found hfound => hok.1 found ?_, hkept hok.2⟩
        exact (hlookup _ fun h => hclose (congrArg some h)).symm.trans hfound
    | closeShutdown other id caller =>
        refine ⟨fun found hfound => hok.1 found ?_, hkept hok.2⟩
        exact (hlookup _ fun h => hclose (congrArg some h)).symm.trans hfound
    | handleApplied other id => trivial
    | shutdownAll remaining => trivial

/-! ## The methods -/

theorem shutdownRuntime_withCalls (id : RuntimeId) (calls : List Frame) :
    (manager.withCalls calls).shutdownRuntime id =
      (manager.shutdownRuntime id).withCalls calls := by
  unfold Manager.shutdownRuntime withCalls
  cases manager.runtimes[id]? <;> rfl

theorem Sound.returnTo (hsound : manager.Sound) (caller : Caller) :
    (manager.returnTo caller).Sound := by
  cases caller with
  | direct => exact hsound
  | shutdownAll remaining =>
      exact Sound.suspend hsound trivial fun _ _ => Frame.Compatible.of_neutral rfl rfl

/-- A close starts while its document is not being initialised. -/
theorem Sound.closeDocument (hsound : manager.Sound) {documentId : DocumentId}
    (hfree : ∀ frame ∈ manager.calls, frame.initializes ≠ some documentId) (caller : Caller) :
    (manager.closeDocument documentId caller).Sound := by
  unfold Manager.closeDocument
  cases hlookup : manager.documents.lookup documentId with
  | none => exact hsound.returnTo caller
  | some id =>
      have honly : ∀ other, manager.documents.lookup documentId = some other → other = id :=
        fun other hother => Option.some.inj (hother.symm.trans hlookup)
      have hof := hsound.registered documentId id hlookup
      have hcompatible : ∀ (frame : Frame), frame.initializes = none →
          frame.closes = some documentId → ∀ other ∈ manager.calls, frame.Compatible other := by
        intro frame hinit hclose other hother
        refine ⟨fun found hfound => by simp [hinit] at hfound, fun found hfound hsame => ?_⟩
        rw [hclose, Option.some.injEq] at hsame
        exact hfree other hother (hsame ▸ hfound)
      dsimp only
      split
      next => exact Sound.suspend hsound ⟨honly, hof⟩ (hcompatible _ rfl rfl)
      next => exact Sound.suspend hsound ⟨honly, hof⟩ (hcompatible _ rfl rfl)

theorem Sound.closeNext (hsound : manager.Sound) {ids : List DocumentId}
    (hfree : ∀ documentId ∈ ids.head?, ∀ frame ∈ manager.calls,
      frame.initializes ≠ some documentId) : (manager.closeNext ids).Sound := by
  cases ids with
  | nil => exact hsound
  | cons documentId remaining => exact hsound.closeDocument (hfree documentId rfl) _

/-- The construction of a runtime, when the old one of its document is shut down
and nothing else of the document is in progress. -/
theorem Sound.installRuntime (hsound : manager.Sound) {request : InitializeRequest}
    (hoff : manager.TimersOff request.documentId)
    (hfree : ∀ frame ∈ manager.calls, frame.initializes ≠ some request.documentId ∧
      frame.closes ≠ some request.documentId) :
    (manager.installRuntime lib request).Sound := by
  let runtime := DocumentRuntime.create lib request.documentId request.clientId request.content
  have hinstalled := hsound.register (show runtime.documentId = request.documentId from rfl) rfl
    hoff hfree
  have hcompatible : ∀ (frame : Frame), frame.initializes = some request.documentId →
      frame.closes = none → ∀ other ∈ manager.calls, frame.Compatible other := by
    intro frame hinit hclose other hother
    refine ⟨fun found hfound => ?_, fun found hfound => by simp [hclose]⟩
    rw [hinit, Option.some.injEq] at hfound
    exact hfound ▸ hfree other hother
  unfold Manager.installRuntime
  dsimp only
  split
  next hchannel =>
    refine Sound.suspend hinstalled ⟨AList.lookup_insert _, ?_, hchannel⟩ (hcompatible _ rfl rfl)
    exact ⟨runtime, List.getElem?_concat_length, rfl, rfl⟩
  next =>
    refine Sound.suspend hinstalled ⟨AList.lookup_insert _, ?_⟩ (hcompatible _ rfl rfl)
    exact ⟨runtime, List.getElem?_concat_length, rfl, rfl⟩

theorem Sound.initializeDocument (hsound : manager.Sound) {request : InitializeRequest}
    (hfree : ∀ frame ∈ manager.calls, frame.initializes ≠ some request.documentId ∧
      frame.closes ≠ some request.documentId) :
    (manager.initializeDocument lib request).Sound := by
  unfold Manager.initializeDocument
  cases hlookup : manager.documents.lookup request.documentId with
  | none => exact hsound.installRuntime (hsound.timersOff (by simp [hlookup])) hfree
  | some existing =>
      obtain ⟨runtime, hruntime, hdocument, -⟩ := hsound.registered _ existing hlookup
      have hshutdown := hsound.shutdownRuntime hruntime
        fun frame hframe => hdocument ▸ (hfree frame hframe).1
      dsimp only
      rw [shutdownRuntime_eq hruntime] at hshutdown ⊢
      refine Sound.suspend hshutdown ⟨hlookup, runtime.shutdown.1, ?_, ?_, ?_⟩ ?_
      · exact (setRuntime_getElem? hruntime _ existing).trans (if_pos rfl)
      · simpa using hdocument
      · simp
      · intro other hother
        refine ⟨fun found hfound => ?_, fun found _ => nofun⟩
        cases hfound
        exact hfree other hother

theorem Sound.handleRedisMessage (hsound : manager.Sound) (channel : String) (rawMessage : Raw) :
    (manager.handleRedisMessage lib channel rawMessage).Sound := by
  rcases Manager.handleRedisMessage_cases lib manager channel rawMessage with
    hdropped | ⟨documentId, id, runtime, envelope, applied, -, -, hruntime, -, happly, hhandled⟩
  · rw [hdropped]
    exact hsound
  · rw [hhandled]
    refine Sound.suspend ?_ trivial fun _ _ => Frame.Compatible.of_neutral rfl rfl
    exact hsound.setRuntime_sameLifecycle hruntime (runtime.applyEnvelope_sameLifecycle lib happly)

/-- A waiting call continues. When it goes on to close a document, that document
is not being initialised. -/
theorem Sound.resume {frame : Frame} {calls : List Frame} {resolved : Bool}
    (hsound : (manager.withCalls (frame :: calls)).Sound)
    (hhandled : ∀ documentId runtime, frame = .handleApplied documentId runtime →
      manager.runtimes[runtime]?.any DocumentRuntime.shouldClose →
      ∀ other ∈ calls, other.initializes ≠ some documentId)
    (hloop : ∀ remaining, frame = .shutdownAll remaining →
      ∀ documentId ∈ remaining.head?, ∀ other ∈ calls, other.initializes ≠ some documentId) :
    ((manager.withCalls calls).resume lib resolved frame).Sound := by
  have hok := frameOk_withCalls.mp (hsound.frames frame List.mem_cons_self)
  obtain ⟨hhead, -⟩ := List.pairwise_cons.mp hsound.compatible
  cases frame with
  | initializeShutdown request existing =>
      have hrest : (manager.withCalls calls).Sound := hsound.finish nofun
      have hfree : ∀ other ∈ calls, other.initializes ≠ some request.documentId ∧
          other.closes ≠ some request.documentId :=
        fun other hother => (hhead other hother).1 _ rfl
      have hoff : (manager.withCalls calls).TimersOff request.documentId := by
        refine hrest.timersOff fun id hid => ?_
        cases hok.1.symm.trans hid
        exact hok.2
      have hremoved := hrest.unregister hoff fun other hother => (hfree other hother).1
      exact hremoved.installRuntime hoff hfree
  | initializeSubscribe request id =>
      have hrest : (manager.withCalls calls).Sound := hsound.finish nofun
      dsimp only [Manager.resume]
      split
      next =>
        have hsubscribed := hrest.subscribe (documentChannel request.documentId)
        refine Sound.suspend hsubscribed ⟨hok.1, hok.2, Finset.mem_insert_self _ _⟩ ?_
        exact fun other hother => ⟨(hhead other hother).1, (hhead other hother).2⟩
      next => exact hrest
  | initializeStart request id =>
      have hrest : (manager.withCalls calls).Sound := hsound.finish nofun
      exact hrest.startRuntime hok
  | handleApplied documentId id =>
      have hrest : (manager.withCalls calls).Sound := hsound.finish nofun
      dsimp only [Manager.resume]
      split
      next hclose => exact hrest.closeDocument (hhandled documentId id rfl hclose) _
      next => exact hrest
  | closeUnsubscribe documentId id caller =>
      have hrest : (manager.withCalls calls).Sound := hsound.finish nofun
      dsimp only [Manager.resume]
      split
      next => exact hsound.unsubscribe
      next => exact hrest.returnTo caller
  | closeUnsubscribed documentId id caller =>
      obtain ⟨honly, runtime, hruntime, hdocument, -⟩ := hok
      have hfree : ∀ other ∈ calls, other.initializes ≠ some documentId :=
        fun other hother hinit => (hhead other hother).2 documentId hinit rfl
      have hstopped := hsound.shutdownRuntime hruntime (by
        rw [hdocument]
        intro other hother
        rcases List.mem_cons.mp hother with rfl | hother
        · nofun
        · exact hfree other hother)
      have hafter : (manager.shutdownRuntime id).runtimes[id]? = some runtime.shutdown.1 := by
        rw [shutdownRuntime_eq hruntime]
        exact (setRuntime_getElem? hruntime _ id).trans (if_pos rfl)
      rw [shutdownRuntime_withCalls] at hstopped
      have hrest : ((manager.shutdownRuntime id).withCalls calls).Sound := by
        refine hstopped.finish fun _ _ _ hframe found hfound => ?_
        cases hframe
        rw [hafter, Option.some.injEq] at hfound
        exact hfound ▸ hsound.shutdown_persistTimer hruntime
      dsimp only [Manager.resume]
      rw [shutdownRuntime_withCalls]
      refine Sound.suspend hrest ⟨?_, runtime.shutdown.1, hafter, by simpa using hdocument, ?_⟩ ?_
      · intro other hother
        refine honly other ?_
        rw [shutdownRuntime_eq hruntime] at hother
        exact hother
      · exact runtime.shutdown_shutdownCompleted
      · exact fun other hother => ⟨nofun, (hhead other hother).2⟩
  | closeShutdown documentId id caller =>
      have hrest : (manager.withCalls calls).Sound := hsound.finish nofun
      refine Sound.returnTo (hrest.unregister (hrest.timersOff fun other hother => ?_) ?_) caller
      · cases hok.1 other hother
        exact hok.2
      · exact fun other hother hinit => (hhead other hother).2 documentId hinit rfl
  | shutdownAll remaining =>
      have hrest : (manager.withCalls calls).Sound := hsound.finish nofun
      exact hrest.closeNext (hloop remaining rfl)

/-- Every event that meets the guard keeps the invariant. -/
theorem Sound.step {next : Manager Doc} {event : Event Raw} (hsound : manager.Sound)
    (hguard : OneAtATime manager event) (hstep : manager.step lib event = some next) :
    next.Sound := by
  cases step_cases hstep with
  | initializeDocument request =>
      exact hsound.initializeDocument (hguard.1 request.documentId rfl)
  | handleRedisMessage channel rawMessage =>
      exact hsound.handleRedisMessage channel rawMessage
  | closeDocument documentId =>
      exact hsound.closeDocument (hguard.2 documentId rfl) .direct
  | shutdownAll ids hkeys => exact hsound.closeNext hguard.2
  | resume call resolved frame hframe =>
      obtain ⟨hbound, hget⟩ := List.getElem?_eq_some_iff.mp hframe
      have hperm : (frame :: manager.calls.eraseIdx call).Perm manager.calls :=
        hget ▸ List.getElem_cons_eraseIdx_perm hbound
      have hsub : ∀ other ∈ manager.calls.eraseIdx call, other ∈ manager.calls :=
        fun other hother => List.mem_of_mem_eraseIdx hother
      refine (hsound.perm hperm).resume ?_ ?_
      · rintro documentId runtime rfl hclose other hother
        refine hguard.2 documentId ?_ other (hsub other hother)
        simp only [closeTarget, hframe, hclose, if_true, Option.mem_def]
      · rintro remaining rfl documentId hhead other hother
        refine hguard.2 documentId ?_ other (hsub other hother)
        simpa only [closeTarget, hframe] using hhead
  | tick id runtime hruntime htimer => exact hsound.withRequests _

/-- In a run in which nothing else of a document starts while it is being
initialised, and no initialisation while it is being closed, every running
timer of an idle worker belongs to a live session. -/
theorem idle_noZombies (hreach : (system lib).ReachableUnder OneAtATime manager)
    (hidle : manager.calls = []) : manager.NoZombies := by
  suffices hsound : manager.Sound from hsound.noZombies hidle
  refine hreach.invariant (system lib) Sound ?_ ?_
  · rintro start rfl
    exact empty_sound
  · exact fun before event next _ hsound hguard hstep => hsound.step hguard hstep

/-- One session, initialised and persisted once. -/
def sessionRun : List (Event String) :=
  [.initializeDocument ⟨7, "text", 1, "owner", 0⟩, .resume 0 true, .resume 0 true, .tick 0]

theorem session_noZombies : ∃ manager : Manager String,
    (system textLibraries).ReachableUnder OneAtATime manager ∧
      manager.syncRequests = [(0, ⟨7, "text", false⟩)] ∧ manager.NoZombies := by
  obtain ⟨manager, hreach, hcheck⟩ := (system textLibraries).exists_reachable_of_exec
    (.init rfl : (system textLibraries).ReachableUnder OneAtATime empty) sessionRun
    (fun manager => manager.calls = [] ∧ manager.syncRequests = [(0, ⟨7, "text", false⟩)])
    (by decide)
  obtain ⟨hidle, hrequests⟩ := of_decide_eq_true hcheck
  exact ⟨manager, hreach, hrequests, idle_noZombies hreach hidle⟩

/-- A second initialisation shuts the first runtime down while the first waits
for its subscription. -/
def overlapRun : List (Event String) :=
  [.initializeDocument ⟨7, "first", 1, "owner", 0⟩,
    .initializeDocument ⟨7, "second", 1, "owner", 1⟩,
    .resume 1 true, .resume 0 true, .resume 0 true, .resume 0 true]

/-- The first initialisation then starts the timer of a runtime that is shut
down and replaced. -/
theorem overlapping_initialisations_leave_zombie :
    ¬ ∀ manager : Manager String, (system textLibraries).Reachable manager →
      manager.calls = [] → manager.NoZombies := by
  intro hclaim
  obtain ⟨manager, hreach, hcheck⟩ := (system textLibraries).exists_reachable_of_exec
    (.init rfl : (system textLibraries).Reachable empty) overlapRun
    (fun manager => manager.calls = [] ∧ manager.runtimes[0]?.any fun runtime =>
      runtime.persistTimer && runtime.shutdownCompleted) (by decide)
  obtain ⟨hidle, hzombie⟩ := of_decide_eq_true hcheck
  obtain ⟨runtime, hruntime, hflags⟩ := (Option.any_eq_true _ _).mp hzombie
  obtain ⟨hrunning, hdone⟩ := (Bool.and_eq_true_iff).mp hflags
  obtain ⟨-, hlive, -⟩ := hclaim manager hreach hidle 0 runtime hruntime hrunning
  rw [hlive] at hdone
  cases hdone

end Manager

end CollabEditor.Worker
