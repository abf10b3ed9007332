import CollabEditor.Worker.Edits
import CollabEditor.Worker.RoomFields

/-! # The chat history of a session

A new session has none. A chat message that the manager handles is put behind the
others, and no other call changes a history.
-/

namespace CollabEditor.Worker

open Foundation
open Backend (DocumentId)

variable {Doc Raw : Type} {lib : Libraries Doc Raw}

/-- What an envelope adds to the chat history. -/
def chatOf (envelope : Json) : List Json :=
  if envelope.stringField "type" = some "chat.message" then [envelope] else []

theorem DocumentRuntime.applyEnvelope_chatHistory {runtime next : DocumentRuntime Doc}
    {envelope : Json} (happly : runtime.applyEnvelope lib envelope = some next) :
    next.chatHistory = runtime.chatHistory ++ chatOf envelope := by
  unfold applyEnvelope at happly
  unfold chatOf
  split at happly
  next htype =>
    cases happly
    rw [htype, if_neg (by decide), List.append_nil]
    unfold addParticipant
    split <;> rfl
  next htype =>
    cases happly
    rw [htype, if_neg (by decide), List.append_nil]
    unfold removeParticipant
    split <;> rfl
  next htype =>
    rw [htype, if_neg (by decide), List.append_nil]
    split at happly
    next update _ =>
      simp only [applyDocChange, Option.bind_eq_bind, Option.bind_eq_some_iff] at happly
      obtain ⟨bytes, -, doc, -, hnext⟩ := happly
      cases hnext
      rfl
    next =>
      cases happly
      rfl
  next htype =>
    cases happly
    rw [if_pos htype]
    rfl
  next hother =>
    cases happly
    rw [if_neg hother, List.append_nil]

namespace Manager

/-- The chat history of a runtime, empty until there is one. -/
def chats (manager : Manager Doc) (id : RuntimeId) : List Json :=
  (manager.runtimes[id]?).elim [] DocumentRuntime.chatHistory

/-- The runtime that handles a message of Redis, and what this adds to its history. -/
def chatAdded (lib : Libraries Doc Raw) (manager : Manager Doc) (channel : String)
    (rawMessage : Raw) : Option (RuntimeId × List Json) := do
  let documentId ← parseDocumentIdFromChannel lib channel
  let id ← manager.documents.lookup documentId
  let runtime ← manager.runtimes[id]?
  let envelope ← parseEnvelopeMessage lib rawMessage
  let _ ← runtime.applyEnvelope lib envelope
  return (id, chatOf envelope)

theorem chatHistory_roomField :
    RoomField lib (fun runtime : DocumentRuntime Doc => runtime.chatHistory) [] where
  created _ _ _ := rfl
  shutdown runtime := by
    unfold DocumentRuntime.shutdown
    split <;> rfl
  started _ _ := rfl

theorem syncDocument_chatHistory {manager : Manager Doc} {documentId : DocumentId} {id : RuntimeId}
    {response : WorkerSyncResponse} (hlookup : manager.documents.lookup documentId = some id)
    (hresponse : manager.syncDocument lib documentId = some response) :
    response.chatHistory = manager.chats id := by
  simp only [syncDocument, hlookup, Option.bind_eq_bind, Option.bind_some,
    Option.bind_eq_some_iff, Option.pure_def, Option.some.injEq] at hresponse
  obtain ⟨runtime, hruntime, rfl⟩ := hresponse
  rw [chats, hruntime]
  rfl

theorem chatAdded_eq {manager : Manager Doc} {channel : String} {rawMessage : Raw}
    {added : RuntimeId × List Json}
    (hadded : manager.chatAdded lib channel rawMessage = some added) :
    ∃ envelope, added.2 = chatOf envelope := by
  simp only [chatAdded, Option.bind_eq_bind, Option.bind_eq_some_iff, Option.pure_def,
    Option.some.injEq] at hadded
  obtain ⟨-, -, -, -, -, -, envelope, -, -, -, rfl⟩ := hadded
  exact ⟨envelope, rfl⟩

/-- No event but a message of Redis changes a history. -/
theorem step_chats {manager next : Manager Doc} {event : Event Raw}
    (hevent : ∀ channel rawMessage, event ≠ .handleRedisMessage channel rawMessage)
    (hstep : manager.step lib event = some next) : next.chats = manager.chats := by
  funext id
  have hkeeps := step_keepsField chatHistory_roomField hevent hstep
  have hlength := step_runtimes_length hstep
  cases hafter : next.runtimes[id]? with
  | none =>
      have hbefore : manager.runtimes[id]? = none := by
        rw [List.getElem?_eq_none_iff] at hafter ⊢
        omega
      rw [chats, chats, hafter, hbefore]
  | some after =>
      rcases hkeeps id after hafter with ⟨runtime, hruntime, hsame⟩ | ⟨rfl, hfirst⟩
      · rw [chats, chats, hafter, hruntime]
        exact hsame
      · rw [chats, chats, hafter, List.getElem?_eq_none (Nat.le_refl _)]
        exact hfirst

/-- A message of Redis goes to the history of the runtime that handles it. -/
theorem handleRedisMessage_chats (lib : Libraries Doc Raw) (manager : Manager Doc)
    (channel : String) (rawMessage : Raw) :
    (manager.handleRedisMessage lib channel rawMessage).chats =
      match manager.chatAdded lib channel rawMessage with
      | none => manager.chats
      | some (id, added) => Function.update manager.chats id (manager.chats id ++ added) := by
  unfold handleRedisMessage chatAdded
  cases parseDocumentIdFromChannel lib channel with
  | none => rfl
  | some documentId =>
      cases hlookup : manager.documents.lookup documentId with
      | none => simp [hlookup]
      | some id =>
          simp only [Option.bind_eq_bind, Option.bind_some, hlookup]
          cases hruntime : manager.runtimes[id]? with
          | none => rfl
          | some runtime =>
              simp only [Option.bind_some]
              cases parseEnvelopeMessage lib rawMessage with
              | none => rfl
              | some envelope =>
                  simp only [Option.bind_some]
                  cases happly : runtime.applyEnvelope lib envelope with
                  | none => rfl
                  | some applied =>
                      have hbound := (List.getElem?_eq_some_iff.mp hruntime).1
                      simp only [Option.bind_some, Option.pure_def, Option.getD_some]
                      funext other
                      by_cases hother : other = id
                      · subst hother
                        have hchats : manager.chats other = runtime.chatHistory := by
                          rw [chats, hruntime]
                          rfl
                        rw [Function.update_self, hchats]
                        simp [suspend, setRuntime, chats, hbound,
                          DocumentRuntime.applyEnvelope_chatHistory happly]
                      · have hne : id ≠ other := Ne.symm hother
                        simp [suspend, setRuntime, chats, hother, hne]

end Manager

end CollabEditor.Worker
