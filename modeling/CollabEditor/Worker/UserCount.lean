import CollabEditor.Worker.Removal
import CollabEditor.Worker.RoomFields

/-! # The user count of a session

It starts at 1 and follows the announcements of the room. No call but the handling
of a message changes it. The handling of a message that finds it at 0 closes the
session.
-/

namespace CollabEditor.Worker

open Foundation
open Backend (DocumentId)

variable {Doc Raw : Type}

/-- Whether a message announces that a participant has joined (`true`) or left. -/
def announcement (lib : Libraries Doc Raw) (rawMessage : Raw) : Option Bool := do
  let envelope ← Manager.parseEnvelopeMessage lib rawMessage
  match envelope.stringField "type" with
  | some "room.participant.joined" => some true
  | some "room.participant.left" => some false
  | _ => none

/-- The user count after an announcement. -/
def counted (userCount : Nat) : Option Bool → Nat
  | some true => userCount + 1
  | some false => userCount - 1
  | none => userCount

variable {lib : Libraries Doc Raw}

theorem DocumentRuntime.applyEnvelope_userCount {runtime next : DocumentRuntime Doc}
    {envelope : Json} {rawMessage : Raw}
    (hparse : Manager.parseEnvelopeMessage lib rawMessage = some envelope)
    (happly : runtime.applyEnvelope lib envelope = some next) :
    next.userCount = counted runtime.userCount (announcement lib rawMessage) := by
  unfold announcement
  rw [hparse, Option.bind_eq_bind, Option.bind_some]
  unfold applyEnvelope at happly
  split at happly
  next htype =>
    cases happly
    rw [htype]
    unfold addParticipant
    split <;> rfl
  next htype =>
    cases happly
    rw [htype]
    unfold removeParticipant
    split <;> rfl
  next htype =>
    rw [htype]
    split at happly
    next update _ =>
      simp only [applyDocChange, Option.bind_eq_bind, Option.bind_eq_some_iff] at happly
      obtain ⟨bytes, -, doc, -, hnext⟩ := happly
      cases hnext
      rfl
    next =>
      cases happly
      rfl
  next htype =>
    cases happly
    rw [htype]
    rfl
  next hjoined hleft _ _ =>
    cases happly
    split
    next htype => exact absurd htype hjoined
    next htype => exact absurd htype hleft
    next => rfl

namespace Manager

/-- An envelope that cannot be applied is no announcement. -/
theorem announcement_of_throws {runtime : DocumentRuntime Doc} {envelope : Json} {rawMessage : Raw}
    (hparse : parseEnvelopeMessage lib rawMessage = some envelope)
    (hthrows : runtime.applyEnvelope lib envelope = none) : announcement lib rawMessage = none := by
  unfold announcement
  rw [hparse, Option.bind_eq_bind, Option.bind_some]
  unfold DocumentRuntime.applyEnvelope at hthrows
  split at hthrows
  next => cases hthrows
  next => cases hthrows
  next htype =>
    rw [htype]
    rfl
  next => cases hthrows
  next => cases hthrows

/-- Each runtime keeps its count, or is new and has count 1. -/
def KeepsCounts (before after : Manager Doc) : Prop :=
  ∀ (id : RuntimeId) (next : DocumentRuntime Doc), after.runtimes[id]? = some next →
    (∃ runtime : DocumentRuntime Doc, before.runtimes[id]? = some runtime ∧
      next.userCount = runtime.userCount) ∨
    id = before.runtimes.length ∧ next.userCount = 1

theorem userCount_roomField :
    RoomField lib (fun runtime : DocumentRuntime Doc => runtime.userCount) 1 where
  created _ _ _ := rfl
  shutdown runtime := by
    unfold DocumentRuntime.shutdown
    split <;> rfl
  started _ _ := rfl

/-- No event but a message of Redis changes a count. -/
theorem step_keepsCounts {manager next : Manager Doc} {event : Event Raw}
    (hevent : ∀ channel rawMessage, event ≠ .handleRedisMessage channel rawMessage)
    (hstep : manager.step lib event = some next) : KeepsCounts manager next :=
  step_keepsField userCount_roomField hevent hstep

variable (manager : Manager Doc)

/-- A message counts for the runtime it is handled by, and for no other. -/
theorem handleRedisMessage_userCount {channel : String} {rawMessage : Raw} {id : RuntimeId}
    {next : DocumentRuntime Doc}
    (hnext : (manager.handleRedisMessage lib channel rawMessage).runtimes[id]? = some next) :
    ∃ runtime, manager.runtimes[id]? = some runtime ∧
      next.userCount =
        if (parseDocumentIdFromChannel lib channel).bind (manager.documents.lookup ·) = some id then
          counted runtime.userCount (announcement lib rawMessage)
        else runtime.userCount := by
  unfold handleRedisMessage at hnext
  cases hdocument : parseDocumentIdFromChannel lib channel with
  | none =>
      rw [hdocument] at hnext
      exact ⟨next, hnext, by simp⟩
  | some documentId =>
      cases hlookup : manager.documents.lookup documentId with
      | none =>
          simp only [hdocument, hlookup, Option.bind_eq_bind, Option.bind_some, Option.bind_none,
            Option.getD_none] at hnext
          exact ⟨next, hnext, by simp [hlookup]⟩
      | some registered =>
          simp only [hdocument, hlookup, Option.bind_eq_bind, Option.bind_some] at hnext ⊢
          cases hruntime : manager.runtimes[registered]? with
          | none =>
              simp only [hruntime, Option.bind_none, Option.getD_none] at hnext
              have hne : registered ≠ id := by
                rintro rfl
                cases hruntime.symm.trans hnext
              exact ⟨next, hnext, by simp [hne]⟩
          | some runtime =>
              simp only [hruntime, Option.bind_some] at hnext
              cases hparse : parseEnvelopeMessage lib rawMessage with
              | none =>
                  simp only [hparse, Option.bind_none, Option.getD_none] at hnext
                  have hnone : announcement lib rawMessage = none := by simp [announcement, hparse]
                  exact ⟨next, hnext, by simp [hnone, counted]⟩
              | some envelope =>
                  simp only [hparse, Option.bind_some] at hnext
                  cases happly : runtime.applyEnvelope lib envelope with
                  | none =>
                      simp only [happly, Option.bind_none, Option.getD_none] at hnext
                      have hnone := announcement_of_throws hparse happly
                      exact ⟨next, hnext, by simp [hnone, counted]⟩
                  | some applied =>
                      simp only [happly, Option.bind_some, Option.pure_def, Option.getD_some,
                        suspend, setRuntime] at hnext
                      by_cases heq : registered = id
                      · subst heq
                        have hbound := (List.getElem?_eq_some_iff.mp hruntime).1
                        rw [List.getElem?_set_self hbound, Option.some.injEq] at hnext
                        subst hnext
                        refine ⟨runtime, hruntime, ?_⟩
                        simp [DocumentRuntime.applyEnvelope_userCount hparse happly]
                      · rw [List.getElem?_set_ne heq] at hnext
                        exact ⟨next, hnext, by simp [heq]⟩

/-! ## Closes -/

/-- The document whose session the event makes `handleRedisMessage` close, and the runtime
that is asked. -/
def closes (manager : Manager Doc) : Event Raw → Option (DocumentId × RuntimeId)
  | .resume call _ =>
      match manager.calls[call]? with
      | some (.handleApplied documentId id) =>
          if manager.runtimes[id]?.any DocumentRuntime.shouldClose ∧
              (manager.documents.lookup documentId).isSome then some (documentId, id)
          else none
      | _ => none
  | _ => none

/-- The document whose session is being closed for a handled message. -/
def closing : Frame → Option DocumentId
  | .closeUnsubscribe documentId _ .direct | .closeUnsubscribed documentId _ .direct
  | .closeShutdown documentId _ .direct => some documentId
  | _ => none

variable {manager}

theorem shouldClose_of_closes {event : Event Raw} {target : DocumentId × RuntimeId}
    (hcloses : manager.closes event = some target) :
    manager.runtimes[target.2]?.any DocumentRuntime.shouldClose = true := by
  unfold closes at hcloses
  split at hcloses
  next =>
    split at hcloses
    next =>
      obtain ⟨⟨hempty, -⟩, htarget⟩ := Option.ite_none_right_eq_some.mp hcloses
      cases htarget
      exact hempty
    next => cases hcloses
  next => cases hcloses

/-- A frame that was there, or that closes nothing for a message. -/
theorem closing_cons {suspended frame : Frame} {calls : List Frame} {documentId : DocumentId}
    (hframe : frame ∈ suspended :: calls) (hcloses : closing frame = some documentId) :
    closing suspended = some documentId ∨ frame ∈ calls := by
  rcases List.mem_cons.mp hframe with rfl | hold
  · exact .inl hcloses
  · exact .inr hold

theorem returnTo_closing {caller : Caller} {frame : Frame} {documentId : DocumentId}
    (hframe : frame ∈ (manager.returnTo caller).calls)
    (hcloses : closing frame = some documentId) : frame ∈ manager.calls := by
  cases caller with
  | direct => exact hframe
  | shutdownAll remaining => exact (closing_cons hframe hcloses).resolve_left nofun

/-- `closeDocument` waits only if there is a session. -/
theorem closeDocument_closing {key documentId : DocumentId} {caller : Caller} {frame : Frame}
    (hframe : frame ∈ (manager.closeDocument key caller).calls)
    (hcloses : closing frame = some documentId) :
    frame ∈ manager.calls ∨
      caller = .direct ∧ key = documentId ∧ (manager.documents.lookup key).isSome = true := by
  unfold closeDocument at hframe
  split at hframe
  next => exact .inl (returnTo_closing hframe hcloses)
  next runtime hlookup =>
    have hsome : (manager.documents.lookup key).isSome = true := Option.isSome_of_mem hlookup
    split at hframe
    all_goals
      rcases closing_cons hframe hcloses with hnew | hold
      · cases caller with
        | direct =>
            cases hnew
            exact .inr ⟨rfl, rfl, hsome⟩
        | shutdownAll remaining => cases hnew
      · exact .inl hold

theorem closeNext_closing {ids : List DocumentId} {frame : Frame} {documentId : DocumentId}
    (hframe : frame ∈ (manager.closeNext ids).calls)
    (hcloses : closing frame = some documentId) : frame ∈ manager.calls := by
  cases ids with
  | nil => exact hframe
  | cons key remaining => exact (closeDocument_closing hframe hcloses).resolve_right nofun

theorem installRuntime_closing {request : InitializeRequest} {frame : Frame}
    {documentId : DocumentId} (hframe : frame ∈ (manager.installRuntime lib request).calls)
    (hcloses : closing frame = some documentId) : frame ∈ manager.calls := by
  unfold installRuntime at hframe
  dsimp only at hframe
  split at hframe
  all_goals exact (closing_cons hframe hcloses).resolve_left nofun

theorem shutdownRuntime_calls (id : RuntimeId) :
    (manager.shutdownRuntime id).calls = manager.calls := by
  unfold shutdownRuntime
  split <;> rfl

theorem resume_closing {resolved : Bool} {current frame : Frame} {documentId : DocumentId}
    (hframe : frame ∈ (manager.resume lib resolved current).calls)
    (hcloses : closing frame = some documentId) :
    frame ∈ manager.calls ∨ closing current = some documentId ∨
      ∃ id, current = .handleApplied documentId id ∧
        manager.runtimes[id]?.any DocumentRuntime.shouldClose = true ∧
        (manager.documents.lookup documentId).isSome = true := by
  cases current with
  | initializeShutdown request existing =>
      let removed := { manager with documents := manager.documents.erase request.documentId }
      have hremoved : frame ∈ removed.calls := installRuntime_closing hframe hcloses
      exact .inl hremoved
  | initializeSubscribe request id =>
      dsimp only [resume] at hframe
      split at hframe
      next => exact .inl ((closing_cons hframe hcloses).resolve_left nofun)
      next => exact .inl hframe
  | initializeStart request id =>
      dsimp only [resume, startRuntime] at hframe
      split at hframe <;> exact .inl hframe
  | handleApplied key id =>
      dsimp only [resume] at hframe
      split at hframe
      next hempty =>
        rcases closeDocument_closing hframe hcloses with hold | ⟨-, rfl, hsome⟩
        · exact .inl hold
        · exact .inr (.inr ⟨id, rfl, hempty, hsome⟩)
      next => exact .inl hframe
  | closeUnsubscribe key id caller =>
      dsimp only [resume] at hframe
      split at hframe
      next =>
        refine (closing_cons hframe hcloses).symm.imp_right fun hnew => .inl ?_
        cases caller <;> exact hnew
      next => exact .inl (returnTo_closing hframe hcloses)
  | closeUnsubscribed key id caller =>
      refine (closing_cons hframe hcloses).symm.imp (fun hold => ?_) fun hnew => .inl ?_
      · rwa [shutdownRuntime_calls] at hold
      · cases caller <;> exact hnew
  | closeShutdown key id caller =>
      let removed := { manager with documents := manager.documents.erase key }
      have hremoved : frame ∈ removed.calls := returnTo_closing hframe hcloses
      exact .inl hremoved
  | shutdownAll remaining => exact .inl (closeNext_closing hframe hcloses)

/-- A close for a handled message goes on, or begins with the test. -/
theorem step_closing {event : Event Raw} {next : Manager Doc}
    (hevent : ∀ documentId, event ≠ .closeDocument documentId)
    (hstep : manager.step lib event = some next) {frame : Frame} {documentId : DocumentId}
    (hframe : frame ∈ next.calls) (hcloses : closing frame = some documentId) :
    (∃ old ∈ manager.calls, closing old = some documentId) ∨
      ∃ id, manager.closes event = some (documentId, id) := by
  cases step_cases hstep with
  | initializeDocument request =>
      refine .inl ⟨frame, ?_, hcloses⟩
      unfold initializeDocument at hframe
      split at hframe
      next existing _ =>
        have hold := (closing_cons hframe hcloses).resolve_left nofun
        rwa [shutdownRuntime_calls] at hold
      next => exact installRuntime_closing hframe hcloses
  | handleRedisMessage channel rawMessage =>
      refine .inl ⟨frame, ?_, hcloses⟩
      rcases handleRedisMessage_cases lib manager channel rawMessage with
        hdropped | ⟨key, id, runtime, envelope, applied, -, -, -, -, -, hhandled⟩
      · rwa [hdropped] at hframe
      · rw [hhandled] at hframe
        exact (closing_cons hframe hcloses).resolve_left nofun
  | closeDocument key => exact absurd rfl (hevent key)
  | shutdownAll ids hkeys => exact .inl ⟨frame, closeNext_closing hframe hcloses, hcloses⟩
  | resume call resolved current hcurrent =>
      rcases resume_closing hframe hcloses with hold | hcurrentCloses | ⟨id, rfl, hempty, hsome⟩
      · exact .inl ⟨frame, List.mem_of_mem_eraseIdx hold, hcloses⟩
      · exact .inl ⟨current, List.mem_of_getElem? hcurrent, hcurrentCloses⟩
      · refine .inr ⟨id, ?_⟩
        have hempty : manager.runtimes[id]?.any DocumentRuntime.shouldClose = true := hempty
        have hsome : (manager.documents.lookup documentId).isSome = true := hsome
        simp [closes, hcurrent, hempty, hsome]
  | tick => exact .inl ⟨frame, hframe, hcloses⟩

end Manager

end CollabEditor.Worker
