import CollabEditor.Worker.Sessions

/-! # Messages the worker ignores

The log of a call tells how it has treated its message. Part of a message may already have
been applied by the time its payload turns out to be invalid, and a message that is ignored is
still followed by the question whether its session is over.
-/

namespace CollabEditor.Worker

open Foundation
open Backend (DocumentId)

inductive LogLevel
  | debug
  | info
  | warn
deriving DecidableEq, Repr

/-- A line of the log, without the details that are appended to it. -/
structure LogLine where
  level : LogLevel
  message : String
deriving DecidableEq, Repr

/-- The line reports a message or a payload that is not acted upon. -/
def LogLine.Dismisses (line : LogLine) : Prop :=
  line.level = .warn ∨ line.message = "ignored envelope type"

instance (line : LogLine) : Decidable line.Dismisses :=
  inferInstanceAs (Decidable (line.level = .warn ∨ line.message = "ignored envelope type"))

namespace DocumentRuntime

variable {Doc Raw : Type} (lib : Libraries Doc Raw) (runtime : DocumentRuntime Doc)

/-- What `addParticipant` logs. -/
def addParticipantLog (payload : Option Json) : List LogLine :=
  match parseParticipantEventPayload payload with
  | none =>
      [⟨.warn, "ignored invalid participant join payload for document " ++
        toString runtime.documentId⟩]
  | some _ => []

/-- What `removeParticipant` logs. -/
def removeParticipantLog (payload : Option Json) : List LogLine :=
  match parseParticipantEventPayload payload with
  | none =>
      [⟨.warn, "ignored invalid participant leave payload for document " ++
        toString runtime.documentId⟩]
  | some _ => []

/-- What `applyEnvelope` logs, up to the statement that throws. -/
def envelopeLog (envelope : Json) : List LogLine :=
  match envelope.stringField "type" with
  | some "room.participant.joined" =>
      runtime.addParticipantLog (envelope.field "payload") ++ [⟨.debug, "participant joined"⟩]
  | some "room.participant.left" =>
      runtime.removeParticipantLog (envelope.field "payload") ++ [⟨.debug, "participant left"⟩]
  | some "doc.change" =>
      match (envelope.field "payload").bind (Json.stringField "update") with
      | some update =>
          match runtime.applyDocChange lib update with
          | some _ => [⟨.debug, "document changed"⟩]
          | none => []
      | none => [⟨.warn, "invalid doc.change payload"⟩]
  | some "chat.message" => [⟨.debug, "chat message stored"⟩]
  | some "connection.ack" => [⟨.debug, "ignored envelope type"⟩]
  | some "error" => [⟨.debug, "ignored envelope type"⟩]
  | _ => [⟨.warn, "unknown envelope type"⟩]

/-- The fields a message is about. -/
def roomState : Nat × (AList fun _ : Rat => String) × List Json × String :=
  (runtime.userCount, runtime.participantMap, runtime.chatHistory, runtime.content)

/-- Whether an envelope that is dismissed has no effect. A session is `stuck` that cannot be
closed because Redis rejects the command. -/
def DismissedSafely (stuck : Prop) (envelope : Json) : Prop :=
  match envelope.stringField "type" with
  | some "room.participant.joined" =>
      parseParticipantEventPayload (envelope.field "payload") ≠ none
  | some "room.participant.left" =>
      match parseParticipantEventPayload (envelope.field "payload") with
      | some (userId, _) =>
          stuck → 1 < runtime.userCount ∨ runtime.userCount = 0 ∧ userId ∉ runtime.participantMap
      | none => runtime.userCount = 0 ∧ stuck
  | some "doc.change" =>
      match (envelope.field "payload").bind (Json.stringField "update") with
      | some update =>
          runtime.userCount = 0 → stuck → ∀ bytes doc, lib.atob update = some bytes →
            lib.applyUpdate runtime.doc bytes = some doc → lib.toText doc = runtime.content
      | none => runtime.userCount = 0 → stuck
  | some "chat.message" => runtime.userCount = 0 → ¬stuck
  | _ => runtime.userCount = 0 → stuck

/-- If the envelope is dismissed after it has been applied, the room is as before, and the
session is not closed. -/
def DismissalHarmless (stuck : Prop) (envelope : Json) (applied : DocumentRuntime Doc) : Prop :=
  (∃ line ∈ runtime.envelopeLog lib envelope, line.Dismisses) ∨
      applied.shouldClose = true ∧ stuck →
    applied.roomState = runtime.roomState ∧ (applied.shouldClose = true → stuck)

variable {lib runtime} {stuck : Prop} {envelope : Json}

theorem erase_eq_self_iff {key : Rat} {map : AList fun _ : Rat => String} :
    map.erase key = map ↔ key ∉ map := by
  constructor
  · intro hsame hmem
    rw [← hsame, AList.mem_erase] at hmem
    exact hmem.1 rfl
  · intro hmem
    exact AList.ext (List.kerase_of_notMem_keys hmem)

theorem applyDocChange_eq_some_iff {update : String} {applied : DocumentRuntime Doc} :
    runtime.applyDocChange lib update = some applied ↔
      ∃ bytes doc, lib.atob update = some bytes ∧ lib.applyUpdate runtime.doc bytes = some doc ∧
        { runtime with doc := doc, content := lib.toText doc } = applied := by
  simp [applyDocChange, Option.bind_eq_some_iff]

/-- A text update is dismissed only when the promise rejects. -/
theorem textUpdate_harmless_iff {update : String} :
    (runtime.userCount = 0 → stuck → ∀ bytes doc, lib.atob update = some bytes →
        lib.applyUpdate runtime.doc bytes = some doc → lib.toText doc = runtime.content) ↔
      ∀ applied, runtime.applyDocChange lib update = some applied →
        applied.shouldClose = true ∧ stuck →
          applied.roomState = runtime.roomState ∧ (applied.shouldClose = true → stuck) := by
  constructor
  · rintro hsame applied happlied ⟨hclose, hstuck⟩
    obtain ⟨bytes, doc, hbytes, hdoc, rfl⟩ := applyDocChange_eq_some_iff.mp happlied
    have htext := hsame (by simpa [shouldClose] using hclose) hstuck bytes doc hbytes hdoc
    exact ⟨by simp [roomState, htext], fun _ => hstuck⟩
  · intro hharmless hcount hstuck bytes doc hbytes hdoc
    have happlied := applyDocChange_eq_some_iff.mpr ⟨bytes, doc, hbytes, hdoc, rfl⟩
    have hroom := (hharmless _ happlied ⟨by simp [shouldClose, hcount], hstuck⟩).1
    simp only [roomState, Prod.mk.injEq] at hroom
    exact hroom.2.2.2

theorem dismissedSafely_iff :
    runtime.DismissedSafely lib stuck envelope ↔
      ∀ applied, runtime.applyEnvelope lib envelope = some applied →
        runtime.DismissalHarmless lib stuck envelope applied := by
  unfold DismissedSafely applyEnvelope DismissalHarmless envelopeLog
  split
  next htype =>
    -- the count has grown, whatever the payload is
    simp only [htype, Option.some.injEq, forall_eq']
    cases hparse : parseParticipantEventPayload (envelope.field "payload") with
    | none =>
        simp [addParticipant, addParticipantLog, hparse, incrementUserCount, roomState,
          LogLine.Dismisses]
    | some participant =>
        simp [addParticipant, addParticipantLog, hparse, incrementUserCount, LogLine.Dismisses,
          shouldClose]
  next htype =>
    simp only [htype, Option.some.injEq, forall_eq']
    cases hparse : parseParticipantEventPayload (envelope.field "payload") with
    | none =>
        -- the line is written in any case, so the count must have been zero
        simp only [removeParticipant, removeParticipantLog, hparse, decrementUserCount, roomState,
          LogLine.Dismisses, shouldClose, List.cons_append, List.nil_append, List.mem_cons,
          exists_eq_or_imp, true_or, Prod.mk.injEq, and_true, beq_iff_eq, forall_const]
        grind
    | some participant =>
        simp only [removeParticipant, removeParticipantLog, hparse, decrementUserCount, roomState,
          LogLine.Dismisses, shouldClose, List.nil_append, List.mem_singleton, exists_eq_left,
          Prod.mk.injEq, and_true, beq_iff_eq, reduceCtorEq, String.reduceEq, or_self, false_or,
          erase_eq_self_iff]
        grind
  next htype =>
    simp only [htype]
    cases hupdate : (envelope.field "payload").bind (Json.stringField "update") with
    | none => simp [LogLine.Dismisses, shouldClose]
    | some update =>
        simp only [textUpdate_harmless_iff]
        refine forall_congr' fun applied => forall_congr' fun happlied => ?_
        simp [happlied, LogLine.Dismisses]
  next htype => simp [htype, LogLine.Dismisses, shouldClose, addChatMessage, roomState]
  next hjoined hleft hchange hchat =>
    simp only [Option.some.injEq, forall_eq']
    split
    next htype => exact absurd htype hjoined
    next htype => exact absurd htype hleft
    next htype => exact absurd htype hchange
    next htype => exact absurd htype hchat
    all_goals simp [LogLine.Dismisses, shouldClose]

end DocumentRuntime

namespace Manager

variable {Doc Raw : Type} (lib : Libraries Doc Raw) (manager : Manager Doc)

/-- What a call leaves, has logged, and whether its promise rejects. -/
structure Handled (Doc : Type) where
  after : Manager Doc
  log : List LogLine
  rejected : Bool

/-- The message or its payload is treated as invalid. -/
def Handled.Dismissed (handled : Handled Doc) : Prop :=
  (∃ line ∈ handled.log, line.Dismisses) ∨ handled.rejected = true

/-- `closeDocument` from `runtime.shutdown()` on, while nothing else runs. -/
def removeDocument (documentId : DocumentId) (runtime : RuntimeId) : Manager Doc :=
  let shutDown := manager.shutdownRuntime runtime
  { shutDown with documents := shutDown.documents.erase documentId }

/-- `closeDocument` while nothing else runs. Redis answers the command as `unsubscribed`. -/
def closeAlone (unsubscribed : Bool) (documentId : DocumentId) : Handled Doc :=
  match manager.documents.lookup documentId with
  | none => ⟨manager, [], false⟩
  | some runtime =>
      if documentChannel documentId ∈ manager.subscribedChannels then
        if unsubscribed then
          ⟨{ manager with
              redisChannels := manager.redisChannels.erase (documentChannel documentId)
              subscribedChannels :=
                manager.subscribedChannels.erase (documentChannel documentId) }.removeDocument
              documentId runtime,
            [⟨.info, "document runtime closed"⟩], false⟩
        else ⟨manager, [], true⟩
      else
        ⟨manager.removeDocument documentId runtime, [⟨.info, "document runtime closed"⟩], false⟩

/-- `handleRedisMessage` while nothing else runs. -/
def handleAlone (unsubscribed : Bool) (channel : String) (rawMessage : Raw) : Handled Doc :=
  match parseDocumentIdFromChannel lib channel with
  | none => ⟨manager, [⟨.warn, "received message for unknown channel"⟩], false⟩
  | some documentId =>
      match manager.documents.lookup documentId with
      | none => ⟨manager, [⟨.warn, "no runtime found for message"⟩], false⟩
      | some id =>
          match manager.runtimes[id]? with
          | none => ⟨manager, [⟨.warn, "no runtime found for message"⟩], false⟩
          | some runtime =>
              match parseEnvelopeMessage lib rawMessage with
              | none => ⟨manager, [⟨.warn, "failed to parse envelope message"⟩], false⟩
              | some envelope =>
                  match runtime.applyEnvelope lib envelope with
                  | none => ⟨manager, runtime.envelopeLog lib envelope, true⟩
                  | some applied =>
                      if applied.shouldClose then
                        let closed :=
                          (manager.setRuntime id applied).closeAlone unsubscribed documentId
                        { closed with log := runtime.envelopeLog lib envelope ++ closed.log }
                      else
                        ⟨manager.setRuntime id applied, runtime.envelopeLog lib envelope, false⟩

/-- Nothing a message is about has changed. -/
structure Unchanged (after : Manager Doc) : Prop where
  documents : after.documents = manager.documents
  subscribedChannels : after.subscribedChannels = manager.subscribedChannels
  rooms : ∀ id : RuntimeId, after.runtimes[id]?.map DocumentRuntime.roomState =
    manager.runtimes[id]?.map DocumentRuntime.roomState

/-- Closing the session would fail. -/
def Stuck (unsubscribed : Bool) (documentId : DocumentId) : Prop :=
  documentChannel documentId ∈ manager.subscribedChannels ∧ unsubscribed = false

/-- The message does not reach a runtime, or may be dismissed by the one it reaches. -/
def Harmless (unsubscribed : Bool) (channel : String) (rawMessage : Raw) : Prop :=
  ∀ documentId id runtime envelope, parseDocumentIdFromChannel lib channel = some documentId →
    manager.documents.lookup documentId = some id → manager.runtimes[id]? = some runtime →
    parseEnvelopeMessage lib rawMessage = some envelope →
    runtime.DismissedSafely lib (manager.Stuck unsubscribed documentId) envelope

variable {lib manager}

/-- The uninterrupted call is a run of the manager: the call, and then its own awaits. -/
theorem exec_closeAlone (lib : Libraries Doc Raw) (manager : Manager Doc) (unsubscribed : Bool)
    (documentId : DocumentId) :
    ∃ awaits, (system lib).exec (fun _ _ => True) (manager.closeDocument documentId .direct)
        (List.replicate awaits (Event.resume 0 unsubscribed : Event Raw)) =
      some (manager.closeAlone unsubscribed documentId).after := by
  unfold closeDocument closeAlone
  cases manager.documents.lookup documentId with
  | none => exact ⟨0, rfl⟩
  | some runtime =>
      by_cases hchannel : documentChannel documentId ∈ manager.subscribedChannels
      · simp only [if_pos hchannel]
        cases unsubscribed with
        | true => exact ⟨3, rfl⟩
        | false => exact ⟨1, rfl⟩
      · simp only [if_neg hchannel]
        exact ⟨2, rfl⟩

theorem exec_handleAlone (unsubscribed : Bool) (channel : String) (rawMessage : Raw) :
    ∃ awaits, (system lib).exec (fun _ _ => True) manager
        (.handleRedisMessage channel rawMessage ::
          List.replicate awaits (.resume 0 unsubscribed)) =
      some (manager.handleAlone lib unsubscribed channel rawMessage).after := by
  simp only [TransitionSystem.exec, system, step, if_true, Option.bind_some]
  unfold handleRedisMessage handleAlone
  cases hid : parseDocumentIdFromChannel lib channel with
  | none => exact ⟨0, rfl⟩
  | some documentId =>
      simp only [Option.bind_eq_bind, Option.bind_some]
      cases hentry : manager.documents.lookup documentId with
      | none => exact ⟨0, rfl⟩
      | some id =>
          simp only [Option.bind_some]
          cases hruntime : manager.runtimes[id]? with
          | none => exact ⟨0, rfl⟩
          | some runtime =>
              simp only [Option.bind_some]
              cases henvelope : parseEnvelopeMessage lib rawMessage with
              | none => exact ⟨0, rfl⟩
              | some envelope =>
                  simp only [Option.bind_some]
                  cases happlied : runtime.applyEnvelope lib envelope with
                  | none => exact ⟨0, rfl⟩
                  | some applied =>
                      have hset : (manager.setRuntime id applied).runtimes[id]? = some applied := by
                        obtain ⟨hlt, -⟩ := List.getElem?_eq_some_iff.mp hruntime
                        simp [setRuntime, hlt]
                      by_cases hclose : applied.shouldClose = true
                      · obtain ⟨awaits, hclosed⟩ := exec_closeAlone lib
                          (manager.setRuntime id applied) unsubscribed documentId
                        refine ⟨awaits + 1, ?_⟩
                        simp only [if_pos hclose]
                        rw [← hclosed]
                        simp [List.replicate_succ, TransitionSystem.exec, suspend, withoutCall,
                          resume, system, step, hset, hclose]
                      · refine ⟨1, ?_⟩
                        simp [List.replicate_succ, TransitionSystem.exec, suspend, withoutCall,
                          resume, step, hset, hclose]

/-! ## What a call has changed -/

theorem Unchanged.refl : manager.Unchanged manager where
  documents := rfl
  subscribedChannels := rfl
  rooms _ := rfl

theorem setRuntime_unchanged_iff {id : RuntimeId} {runtime applied : DocumentRuntime Doc}
    (hruntime : manager.runtimes[id]? = some runtime) :
    manager.Unchanged (manager.setRuntime id applied) ↔
      applied.roomState = runtime.roomState := by
  obtain ⟨hlt, -⟩ := List.getElem?_eq_some_iff.mp hruntime
  constructor
  · intro hunchanged
    have hroom := hunchanged.rooms id
    simpa [setRuntime, hruntime, List.getElem?_set_self hlt] using hroom
  · intro hroom
    refine ⟨rfl, rfl, fun other => ?_⟩
    by_cases hother : id = other
    · subst hother
      simp [setRuntime, hruntime, List.getElem?_set_self hlt, hroom]
    · simp [setRuntime, List.getElem?_set_ne hother]

theorem removeDocument_changed {updated : Manager Doc} {documentId : DocumentId}
    {id runtime : RuntimeId} (hentry : manager.documents.lookup documentId = some id) :
    ¬manager.Unchanged (updated.removeDocument documentId runtime) := by
  intro hunchanged
  have herased : (updated.removeDocument documentId runtime).documents.lookup documentId = none :=
    AList.lookup_erase _ _
  rw [hunchanged.documents, hentry] at herased
  cases herased

section Reached

variable {unsubscribed : Bool} {channel : String} {rawMessage : Raw} {documentId : DocumentId}
  {id : RuntimeId} {runtime applied : DocumentRuntime Doc} {envelope : Json}

/-- A call whose envelope has been applied. -/
theorem handleAlone_applied (hid : parseDocumentIdFromChannel lib channel = some documentId)
    (hentry : manager.documents.lookup documentId = some id)
    (hruntime : manager.runtimes[id]? = some runtime)
    (henvelope : parseEnvelopeMessage lib rawMessage = some envelope)
    (happlied : runtime.applyEnvelope lib envelope = some applied) :
    manager.handleAlone lib unsubscribed channel rawMessage =
      if applied.shouldClose then
        { (manager.setRuntime id applied).closeAlone unsubscribed documentId with
          log := runtime.envelopeLog lib envelope ++
            ((manager.setRuntime id applied).closeAlone unsubscribed documentId).log }
      else ⟨manager.setRuntime id applied, runtime.envelopeLog lib envelope, false⟩ := by
  simp only [handleAlone, hid, hentry, hruntime, henvelope, happlied]

/-- The three ways in which a session that should close is closed. -/
theorem closeAlone_cases (applied : DocumentRuntime Doc) (unsubscribed : Bool)
    (hentry : manager.documents.lookup documentId = some id) :
    (manager.Stuck unsubscribed documentId ∧
        (manager.setRuntime id applied).closeAlone unsubscribed documentId =
          ⟨manager.setRuntime id applied, [], true⟩) ∨
      (¬manager.Stuck unsubscribed documentId ∧ ∃ updated : Manager Doc,
        (manager.setRuntime id applied).closeAlone unsubscribed documentId =
          ⟨updated.removeDocument documentId id, [⟨.info, "document runtime closed"⟩], false⟩) := by
  have hset : (manager.setRuntime id applied).documents.lookup documentId = some id := hentry
  have hsubscribed : (manager.setRuntime id applied).subscribedChannels =
      manager.subscribedChannels := rfl
  unfold closeAlone Stuck
  simp only [hset, hsubscribed]
  by_cases hchannel : documentChannel documentId ∈ manager.subscribedChannels
  · simp only [if_pos hchannel]
    cases unsubscribed with
    | true => exact .inr ⟨by simp, _, rfl⟩
    | false => exact .inl ⟨⟨hchannel, rfl⟩, rfl⟩
  · simp only [if_neg hchannel]
    exact .inr ⟨fun hstuck => hchannel hstuck.1, _, rfl⟩

theorem handleAlone_dismissed_iff
    (hid : parseDocumentIdFromChannel lib channel = some documentId)
    (hentry : manager.documents.lookup documentId = some id)
    (hruntime : manager.runtimes[id]? = some runtime)
    (henvelope : parseEnvelopeMessage lib rawMessage = some envelope)
    (happlied : runtime.applyEnvelope lib envelope = some applied) :
    (manager.handleAlone lib unsubscribed channel rawMessage).Dismissed ↔
      (∃ line ∈ runtime.envelopeLog lib envelope, line.Dismisses) ∨
        applied.shouldClose = true ∧ manager.Stuck unsubscribed documentId := by
  rw [handleAlone_applied hid hentry hruntime henvelope happlied]
  by_cases hclose : applied.shouldClose = true
  · simp only [Handled.Dismissed, hclose, if_true, true_and]
    obtain ⟨hstuck, heq⟩ | ⟨hstuck, updated, heq⟩ :=
      closeAlone_cases applied unsubscribed hentry
    · simp [heq, hstuck]
    · simp [heq, hstuck, or_and_right, exists_or, LogLine.Dismisses]
  · simp [hclose, Handled.Dismissed]

theorem handleAlone_unchanged_iff
    (hid : parseDocumentIdFromChannel lib channel = some documentId)
    (hentry : manager.documents.lookup documentId = some id)
    (hruntime : manager.runtimes[id]? = some runtime)
    (henvelope : parseEnvelopeMessage lib rawMessage = some envelope)
    (happlied : runtime.applyEnvelope lib envelope = some applied) :
    manager.Unchanged (manager.handleAlone lib unsubscribed channel rawMessage).after ↔
      applied.roomState = runtime.roomState ∧
        (applied.shouldClose = true → manager.Stuck unsubscribed documentId) := by
  rw [handleAlone_applied hid hentry hruntime henvelope happlied]
  by_cases hclose : applied.shouldClose = true
  · simp only [if_pos hclose]
    obtain ⟨hstuck, heq⟩ | ⟨hstuck, updated, heq⟩ :=
      closeAlone_cases applied unsubscribed hentry
    · simp [heq, hstuck, setRuntime_unchanged_iff hruntime]
    · simp [heq, hstuck, hclose, removeDocument_changed hentry]
  · simp [hclose, setRuntime_unchanged_iff hruntime]

end Reached

/-- A call that dismisses its message leaves everything as it was if and only if the message
is harmless. -/
theorem dismissed_unchanged_iff {unsubscribed : Bool} {channel : String} {rawMessage : Raw} :
    ((manager.handleAlone lib unsubscribed channel rawMessage).Dismissed →
        manager.Unchanged (manager.handleAlone lib unsubscribed channel rawMessage).after) ↔
      manager.Harmless lib unsubscribed channel rawMessage := by
  constructor
  · intro hunchanged documentId id runtime envelope hid hentry hruntime henvelope
    refine DocumentRuntime.dismissedSafely_iff.mpr fun applied happlied hdismissed => ?_
    exact (handleAlone_unchanged_iff hid hentry hruntime henvelope happlied).mp
      (hunchanged ((handleAlone_dismissed_iff hid hentry hruntime henvelope happlied).mpr
        hdismissed))
  · intro hharmless hdismissed
    cases hid : parseDocumentIdFromChannel lib channel with
    | none => simpa [handleAlone, hid] using Unchanged.refl
    | some documentId =>
        cases hentry : manager.documents.lookup documentId with
        | none => simpa [handleAlone, hid, hentry] using Unchanged.refl
        | some id =>
            cases hruntime : manager.runtimes[id]? with
            | none => simpa [handleAlone, hid, hentry, hruntime] using Unchanged.refl
            | some runtime =>
                cases henvelope : parseEnvelopeMessage lib rawMessage with
                | none =>
                    simpa [handleAlone, hid, hentry, hruntime, henvelope] using Unchanged.refl
                | some envelope =>
                    cases happlied : runtime.applyEnvelope lib envelope with
                    | none =>
                        simpa [handleAlone, hid, hentry, hruntime, henvelope, happlied] using
                          Unchanged.refl
                    | some applied =>
                        have hsafe := DocumentRuntime.dismissedSafely_iff.mp
                          (hharmless documentId id runtime envelope hid hentry hruntime henvelope)
                        exact (handleAlone_unchanged_iff hid hentry hruntime henvelope
                          happlied).mpr (hsafe applied happlied
                            ((handleAlone_dismissed_iff hid hentry hruntime henvelope
                              happlied).mp hdismissed))

/-- A bare envelope without a payload. -/
def joinWithoutPayload : String := "\x7b\"type\":\"room.participant.joined\"\x7d"

/-- The libraries on the one message that is received. -/
def joinLibraries : Libraries String String :=
  { textLibraries with
    number := fun text => if text = "7" then some 7 else none
    parse := fun raw =>
      if raw = joinWithoutPayload then
        some (.object [("type", .string "room.participant.joined")])
      else none }

/-- The owner of document 7 is in its session. -/
def ownedSession : Manager String :=
  { (empty : Manager String) with
    documents := (∅ : AList fun _ : DocumentId => RuntimeId).insert 7 0
    subscribedChannels := {documentChannel 7}
    redisChannels := {documentChannel 7}
    runtimes := [DocumentRuntime.create joinLibraries 7 0 "text"] }

/-- The participant counts although the payload that should name it is ignored. -/
theorem ignored_join_is_counted :
    ¬ ∀ (manager : Manager String) (unsubscribed : Bool) (channel rawMessage : String),
      (manager.handleAlone joinLibraries unsubscribed channel rawMessage).Dismissed →
        manager.Unchanged
          (manager.handleAlone joinLibraries unsubscribed channel rawMessage).after := by
  intro hclaim
  let handled := ownedSession.handleAlone joinLibraries true "ws:doc:7" joinWithoutPayload
  have hline : handled.log.any (fun line => decide line.Dismisses) = true := by decide +kernel
  obtain ⟨line, hmem, hdismisses⟩ := List.any_eq_true.mp hline
  have hdismissed : handled.Dismissed := .inl ⟨line, hmem, of_decide_eq_true hdismisses⟩
  have hroom := (hclaim ownedSession true "ws:doc:7" joinWithoutPayload hdismissed).rooms 0
  have hcount : handled.after.runtimes[0]?.map DocumentRuntime.userCount =
      ownedSession.runtimes[0]?.map DocumentRuntime.userCount := by
    have hfirst := congrArg (Option.map Prod.fst) hroom
    rwa [Option.map_map, Option.map_map] at hfirst
  revert hcount
  decide +kernel

end Manager

end CollabEditor.Worker
