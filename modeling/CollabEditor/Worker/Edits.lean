import CollabEditor.Foundation.List
import CollabEditor.Worker.DocumentManager

/-! # Which calls change the text of a session

Only a `doc.change` envelope does. Every other call leaves the document of each
runtime as it is, and registers at most a runtime that is new.
-/

namespace CollabEditor.Worker

open Foundation
open Backend (DocumentId)

variable {Doc Raw : Type} {lib : Libraries Doc Raw}

/-- The update an envelope carries, if it is an edit. -/
def updateOf (lib : Libraries Doc Raw) (envelope : Json) : Option (List UInt8) :=
  if envelope.stringField "type" = some "doc.change" then
    ((envelope.field "payload").bind (Json.stringField "update")).bind lib.atob
  else none

namespace DocumentRuntime

/-- The runtime after an update, if Yjs accepts it. -/
def edited (lib : Libraries Doc Raw) (runtime : DocumentRuntime Doc) (update : List UInt8) :
    Option (DocumentRuntime Doc) :=
  (lib.applyUpdate runtime.doc update).map fun doc =>
    { runtime with doc := doc, content := lib.toText doc }

theorem applyEnvelope_of_update {runtime : DocumentRuntime Doc} {envelope : Json}
    {update : List UInt8} (hupdate : updateOf lib envelope = some update) :
    runtime.applyEnvelope lib envelope = runtime.edited lib update := by
  simp only [updateOf, Option.ite_none_right_eq_some, Option.bind_eq_some_iff] at hupdate
  obtain ⟨htype, text, ⟨payload, hpayload, htext⟩, hbytes⟩ := hupdate
  have htext : (envelope.field "payload").bind (Json.stringField "update") = some text := by
    rw [hpayload, Option.bind_some, htext]
  simp only [applyEnvelope, htype, htext, applyDocChange, hbytes, edited, Option.bind_eq_bind,
    Option.bind_some, Option.pure_def]
  cases lib.applyUpdate runtime.doc update <;> rfl

/-- An envelope that is no edit leaves the document alone. -/
theorem applyEnvelope_of_none {runtime next : DocumentRuntime Doc} {envelope : Json}
    (hnone : updateOf lib envelope = none)
    (happly : runtime.applyEnvelope lib envelope = some next) :
    next.doc = runtime.doc ∧ next.content = runtime.content := by
  unfold applyEnvelope at happly
  split at happly
  next =>
    cases happly
    unfold addParticipant
    split <;> exact ⟨rfl, rfl⟩
  next =>
    cases happly
    unfold removeParticipant
    split <;> exact ⟨rfl, rfl⟩
  next htype =>
    split at happly
    next text htext =>
      simp only [applyDocChange, Option.bind_eq_bind, Option.bind_eq_some_iff] at happly
      obtain ⟨update, hupdate, -⟩ := happly
      simp [updateOf, htype, htext, hupdate] at hnone
    next =>
      cases happly
      exact ⟨rfl, rfl⟩
  next =>
    cases happly
    exact ⟨rfl, rfl⟩
  next =>
    cases happly
    exact ⟨rfl, rfl⟩

end DocumentRuntime

/-- The request for which a call constructs a runtime when it goes on. -/
def Frame.installs : Frame → Option InitializeRequest
  | .initializeShutdown request _ => some request
  | _ => none

namespace Manager

/-- The request for which an event constructs a runtime. -/
def installs (manager : Manager Doc) : Event Raw → Option InitializeRequest
  | .initializeDocument request =>
      match manager.documents.lookup request.documentId with
      | some _ => none
      | none => some request
  | .resume call _ => manager.calls[call]?.bind Frame.installs
  | _ => none

/-- The runtime that applies the edit in a message of Redis, with the update. -/
def editOf (lib : Libraries Doc Raw) (manager : Manager Doc) (channel : String)
    (rawMessage : Raw) : Option (RuntimeId × List UInt8) := do
  let documentId ← parseDocumentIdFromChannel lib channel
  let id ← manager.documents.lookup documentId
  let runtime ← manager.runtimes[id]?
  let envelope ← parseEnvelopeMessage lib rawMessage
  let update ← updateOf lib envelope
  let _ ← lib.applyUpdate runtime.doc update
  return (id, update)

/-- No text changes, and what is registered was so before or is new. At most the
runtime of one request is new. -/
structure KeepsTexts (lib : Libraries Doc Raw) (created : Option InitializeRequest)
    (before after : Manager Doc) : Prop where
  text : ∀ (id : RuntimeId) (runtime : DocumentRuntime Doc), before.runtimes[id]? = some runtime →
    ∃ next : DocumentRuntime Doc, after.runtimes[id]? = some next ∧ next.doc = runtime.doc ∧
      next.content = runtime.content
  length : after.runtimes.length = before.runtimes.length + created.toList.length
  created : ∀ request, created = some request → after.runtimes[before.runtimes.length]? =
    some (.create lib request.documentId request.clientId request.content)
  registered : ∀ documentId id, after.documents.lookup documentId = some id →
    before.documents.lookup documentId = some id ∨ before.runtimes.length ≤ id

theorem KeepsTexts.of_same {before after : Manager Doc}
    (hruntimes : after.runtimes = before.runtimes)
    (hdocuments : after.documents = before.documents) : KeepsTexts lib none before after where
  text id runtime hruntime := ⟨runtime, hruntimes ▸ hruntime, rfl, rfl⟩
  length := by rw [hruntimes]; rfl
  created := nofun
  registered documentId id hid := .inl (hdocuments ▸ hid)

theorem KeepsTexts.trans {created : Option InitializeRequest} {first second third : Manager Doc}
    (hfirst : KeepsTexts lib none first second)
    (hsecond : KeepsTexts lib created second third) : KeepsTexts lib created first third where
  text id runtime hruntime := by
    obtain ⟨middle, hmiddle, hdoc, hcontent⟩ := hfirst.text id runtime hruntime
    obtain ⟨last, hlast, hlastDoc, hlastContent⟩ := hsecond.text id middle hmiddle
    exact ⟨last, hlast, hlastDoc.trans hdoc, hlastContent.trans hcontent⟩
  length := by rw [hsecond.length, hfirst.length]; rfl
  created request hrequest := by
    have hlength : second.runtimes.length = first.runtimes.length := hfirst.length
    exact hlength ▸ hsecond.created request hrequest
  registered documentId id hid := by
    have hlength : second.runtimes.length = first.runtimes.length := hfirst.length
    rcases hsecond.registered documentId id hid with hid | hnew
    · exact hfirst.registered documentId id hid
    · exact .inr (hlength ▸ hnew)

/-- A runtime is constructed and registered. -/
theorem KeepsTexts.of_installed {before after : Manager Doc} {request : InitializeRequest}
    (hruntimes : after.runtimes = before.runtimes ++
      [.create lib request.documentId request.clientId request.content])
    (hdocuments : after.documents =
      before.documents.insert request.documentId before.runtimes.length) :
    KeepsTexts lib (some request) before after where
  text id runtime hruntime := by
    refine ⟨runtime, ?_, rfl, rfl⟩
    rw [hruntimes]
    exact Foundation.List.getElem?_of_prefix (List.prefix_append _ _) hruntime
  length := by simp [hruntimes]
  created found hfound := by
    cases hfound
    simp [hruntimes]
  registered documentId id hid := by
    rw [hdocuments] at hid
    by_cases heq : documentId = request.documentId
    · subst heq
      rw [AList.lookup_insert, Option.some.injEq] at hid
      exact .inr hid.le
    · exact .inl (by simpa [AList.lookup_insert_ne heq] using hid)

variable (manager : Manager Doc)

theorem setRuntime_keepsTexts {id : RuntimeId} {old new : DocumentRuntime Doc}
    (hold : manager.runtimes[id]? = some old) (hdoc : new.doc = old.doc)
    (hcontent : new.content = old.content) : KeepsTexts lib none manager (manager.setRuntime id new) where
  text other runtime hruntime := by
    by_cases heq : id = other
    · subst heq
      cases hold.symm.trans hruntime
      have hlength := (List.getElem?_eq_some_iff.mp hold).1
      exact ⟨new, by simp [setRuntime, hlength], hdoc, hcontent⟩
    · exact ⟨runtime, by simp [setRuntime, heq, hruntime], rfl, rfl⟩
  length := by simp [setRuntime]
  created := nofun
  registered _ _ hid := .inl hid

theorem erase_keepsTexts (documentId : DocumentId) :
    KeepsTexts lib none manager { manager with documents := manager.documents.erase documentId } where
  text _ runtime hruntime := ⟨runtime, hruntime, rfl, rfl⟩
  length := rfl
  created := nofun
  registered other id hid := by
    by_cases heq : other = documentId
    · subst heq
      simp at hid
    · exact .inl (by simpa [AList.lookup_erase_ne heq] using hid)

theorem shutdownRuntime_keepsTexts (id : RuntimeId) :
    KeepsTexts lib none manager (manager.shutdownRuntime id) := by
  unfold shutdownRuntime
  split
  next => exact .of_same rfl rfl
  next runtime hruntime =>
    have hsame : runtime.shutdown.1.doc = runtime.doc ∧
        runtime.shutdown.1.content = runtime.content := by
      unfold DocumentRuntime.shutdown
      split <;> exact ⟨rfl, rfl⟩
    exact (manager.setRuntime_keepsTexts hruntime hsame.1 hsame.2).trans (.of_same rfl rfl)

theorem returnTo_keepsTexts (caller : Caller) : KeepsTexts lib none manager (manager.returnTo caller) := by
  cases caller <;> exact .of_same rfl rfl

theorem closeDocument_keepsTexts (documentId : DocumentId) (caller : Caller) :
    KeepsTexts lib none manager (manager.closeDocument documentId caller) := by
  unfold closeDocument
  split
  next => exact manager.returnTo_keepsTexts caller
  next => split <;> exact .of_same rfl rfl

theorem closeNext_keepsTexts (ids : List DocumentId) :
    KeepsTexts lib none manager (manager.closeNext ids) := by
  cases ids with
  | nil => exact .of_same rfl rfl
  | cons documentId remaining => exact manager.closeDocument_keepsTexts documentId _

theorem installRuntime_keepsTexts (request : InitializeRequest) :
    KeepsTexts lib (some request) manager (manager.installRuntime lib request) := by
  unfold installRuntime
  dsimp only
  split <;> exact .of_installed rfl rfl

theorem startRuntime_keepsTexts (request : InitializeRequest) (id : RuntimeId) :
    KeepsTexts lib none manager (manager.startRuntime request id) := by
  unfold startRuntime
  split
  next => exact .of_same rfl rfl
  next runtime hruntime => exact manager.setRuntime_keepsTexts hruntime rfl rfl

theorem resume_keepsTexts (resolved : Bool) (frame : Frame) :
    KeepsTexts lib frame.installs manager (manager.resume lib resolved frame) := by
  cases frame with
  | initializeShutdown request existing =>
      exact (manager.erase_keepsTexts request.documentId).trans
        (installRuntime_keepsTexts _ request)
  | initializeSubscribe request id =>
      dsimp only [resume]
      split <;> exact .of_same rfl rfl
  | initializeStart request id => exact manager.startRuntime_keepsTexts request id
  | handleApplied documentId id =>
      dsimp only [resume]
      split
      next => exact manager.closeDocument_keepsTexts documentId .direct
      next => exact .of_same rfl rfl
  | closeUnsubscribe documentId id caller =>
      dsimp only [resume]
      split
      next => exact .of_same rfl rfl
      next => exact manager.returnTo_keepsTexts caller
  | closeUnsubscribed documentId id caller =>
      exact (manager.shutdownRuntime_keepsTexts id).trans (.of_same rfl rfl)
  | closeShutdown documentId id caller =>
      exact (manager.erase_keepsTexts documentId).trans (returnTo_keepsTexts _ caller)
  | shutdownAll remaining => exact manager.closeNext_keepsTexts remaining

/-- No event but a message of Redis changes a text. -/
theorem step_keepsTexts {manager next : Manager Doc} {event : Event Raw}
    (hevent : ∀ channel rawMessage, event ≠ .handleRedisMessage channel rawMessage)
    (hstep : manager.step lib event = some next) :
    KeepsTexts lib (manager.installs event) manager next := by
  cases step_cases hstep with
  | initializeDocument request =>
      cases hexisting : manager.documents.lookup request.documentId with
      | some existing =>
          simp only [initializeDocument, installs, hexisting]
          exact (manager.shutdownRuntime_keepsTexts existing).trans (.of_same rfl rfl)
      | none =>
          simp only [initializeDocument, installs, hexisting]
          exact manager.installRuntime_keepsTexts request
  | handleRedisMessage channel rawMessage => exact absurd rfl (hevent channel rawMessage)
  | closeDocument documentId =>
      exact manager.closeDocument_keepsTexts documentId .direct
  | shutdownAll ids hkeys => exact manager.closeNext_keepsTexts ids
  | resume call resolved frame hframe =>
      have hinstalls : manager.installs (.resume call resolved : Event Raw) = frame.installs := by
        simp [installs, hframe]
      have hremoved : KeepsTexts lib none manager (manager.withoutCall call) := .of_same rfl rfl
      rw [hinstalls]
      exact hremoved.trans ((manager.withoutCall call).resume_keepsTexts resolved frame)
  | tick id runtime hruntime htimer => exact .of_same rfl rfl

/-- A message of Redis changes the text of the runtime that applies its edit. -/
theorem handleRedisMessage_text (lib : Libraries Doc Raw) (channel : String) (rawMessage : Raw) :
    (manager.editOf lib channel rawMessage = none ∧
      KeepsTexts lib none manager (manager.handleRedisMessage lib channel rawMessage)) ∨
      ∃ id update runtime next, manager.editOf lib channel rawMessage = some (id, update) ∧
        manager.runtimes[id]? = some runtime ∧ runtime.edited lib update = some next ∧
        (manager.handleRedisMessage lib channel rawMessage).runtimes =
          manager.runtimes.set id next ∧
        (manager.handleRedisMessage lib channel rawMessage).documents = manager.documents := by
  cases hedit : manager.editOf lib channel rawMessage with
  | some edit =>
      right
      simp only [editOf, Option.bind_eq_bind, Option.bind_eq_some_iff, Option.pure_def,
        Option.some.injEq] at hedit
      obtain ⟨documentId, hdocument, id, hid, runtime, hruntime, envelope, henvelope, update,
        hupdate, doc, hdoc, rfl⟩ := hedit
      have hnext : runtime.edited lib update =
          some { runtime with doc := doc, content := lib.toText doc } := by
        simp [DocumentRuntime.edited, hdoc]
      have happly : runtime.applyEnvelope lib envelope = runtime.edited lib update :=
        DocumentRuntime.applyEnvelope_of_update hupdate
      refine ⟨id, update, runtime, _, rfl, hruntime, hnext, ?_, ?_⟩
      all_goals
        simp [handleRedisMessage, hdocument, hid, hruntime, henvelope, happly, hnext, setRuntime,
          suspend]
  | none =>
      refine .inl ⟨rfl, ?_⟩
      rcases handleRedisMessage_cases lib manager channel rawMessage with
        hdropped | ⟨documentId, id, runtime, envelope, applied, hdocument, hid, hruntime,
          henvelope, happly, hhandled⟩
      · rw [hdropped]
        exact .of_same rfl rfl
      · rw [hhandled]
        -- an update in the envelope would have been applied, and `editOf` would give it
        have hupdate : updateOf lib envelope = none := by
          cases hupdate : updateOf lib envelope with
          | none => rfl
          | some update =>
              rw [DocumentRuntime.applyEnvelope_of_update hupdate, DocumentRuntime.edited,
                Option.map_eq_some_iff] at happly
              obtain ⟨doc, hdoc, -⟩ := happly
              simp [editOf, hdocument, hid, hruntime, henvelope, hupdate, hdoc] at hedit
        obtain ⟨hdoc, hcontent⟩ := DocumentRuntime.applyEnvelope_of_none hupdate happly
        exact (manager.setRuntime_keepsTexts hruntime hdoc hcontent).trans (.of_same rfl rfl)

/-- An edit is taken from the envelope in the message. -/
theorem editOf_spec {channel : String} {rawMessage : Raw} {id : RuntimeId}
    {update : List UInt8} (hedit : manager.editOf lib channel rawMessage = some (id, update)) :
    ∃ documentId envelope, parseDocumentIdFromChannel lib channel = some documentId ∧
      manager.documents.lookup documentId = some id ∧
      parseEnvelopeMessage lib rawMessage = some envelope ∧
      updateOf lib envelope = some update := by
  simp only [editOf, Option.bind_eq_bind, Option.bind_eq_some_iff, Option.pure_def,
    Option.some.injEq] at hedit
  obtain ⟨documentId, hdocument, found, hfound, runtime, -, envelope, henvelope, bytes, hbytes, doc,
    -, hpair⟩ := hedit
  cases hpair
  exact ⟨documentId, envelope, hdocument, hfound, henvelope, hbytes⟩

/-! ## One step -/

/-- The edit an event applies. -/
def appliedEdit (lib : Libraries Doc Raw) (manager : Manager Doc) :
    Event Raw → Option (RuntimeId × List UInt8)
  | .handleRedisMessage channel rawMessage => manager.editOf lib channel rawMessage
  | _ => none

theorem step_runtimes_length {manager next : Manager Doc} {event : Event Raw}
    (hstep : manager.step lib event = some next) :
    next.runtimes.length = manager.runtimes.length + (manager.installs event).toList.length := by
  cases event with
  | handleRedisMessage channel rawMessage =>
      cases hstep
      rcases manager.handleRedisMessage_text lib channel rawMessage with
        ⟨-, hkept⟩ | ⟨_, _, _, _, -, -, -, hruntimes, -⟩
      · exact hkept.length
      · rw [hruntimes, List.length_set]
        rfl
  | initializeDocument | closeDocument | shutdownAll | resume | tick =>
      exact (step_keepsTexts nofun hstep).length

/-- A runtime keeps its text, or applies the edit of the event, or is new. -/
theorem step_runtime {manager next : Manager Doc} {event : Event Raw}
    (hstep : manager.step lib event = some next) {id : RuntimeId} {after : DocumentRuntime Doc}
    (hafter : next.runtimes[id]? = some after) :
    (∃ before, manager.runtimes[id]? = some before ∧
      ((∀ update, manager.appliedEdit lib event ≠ some (id, update)) ∧
          after.doc = before.doc ∧ after.content = before.content ∨
        ∃ update, manager.appliedEdit lib event = some (id, update) ∧
          lib.applyUpdate before.doc update = some after.doc ∧
          after.content = lib.toText after.doc)) ∨
    id = manager.runtimes.length ∧ ∃ request, manager.installs event = some request ∧
      after = .create lib request.documentId request.clientId request.content := by
  have hlength := step_runtimes_length hstep
  have hbound := (List.getElem?_eq_some_iff.mp hafter).1
  have hkeeps (hkept : KeepsTexts lib (manager.installs event) manager next)
      (hedit : manager.appliedEdit lib event = none) :
      (∃ before, manager.runtimes[id]? = some before ∧
        (∀ update, manager.appliedEdit lib event ≠ some (id, update)) ∧
          after.doc = before.doc ∧ after.content = before.content) ∨
      id = manager.runtimes.length ∧ ∃ request, manager.installs event = some request ∧
        after = .create lib request.documentId request.clientId request.content := by
    rcases Nat.lt_or_ge id manager.runtimes.length with hold | hnew
    · obtain ⟨same, hsame, hdoc, hcontent⟩ := hkept.text id _ (List.getElem?_eq_getElem hold)
      cases hsame.symm.trans hafter
      exact .inl ⟨_, List.getElem?_eq_getElem hold, by simp [hedit], hdoc, hcontent⟩
    · cases hinstalls : manager.installs event with
      | none =>
          rw [hinstalls, Option.toList_none, List.length_nil, Nat.add_zero] at hlength
          exact absurd (hlength ▸ hbound) (not_lt.mpr hnew)
      | some request =>
          rw [hinstalls] at hlength
          have hid : id = manager.runtimes.length := by
            simp only [Option.toList_some, List.length_singleton] at hlength
            lia
          subst hid
          exact .inr ⟨rfl, request, rfl,
            Option.some.inj (hafter.symm.trans (hkept.created request hinstalls))⟩
  cases event with
  | handleRedisMessage channel rawMessage =>
      cases hstep
      rcases manager.handleRedisMessage_text lib channel rawMessage with
        ⟨hedit, hkept⟩ | ⟨edited, update, before, new, hedit, hbefore, hnew, hruntimes, -⟩
      · exact (hkeeps hkept hedit).imp_left fun ⟨before, hbefore, h⟩ => ⟨before, hbefore, .inl h⟩
      · left
        by_cases heq : edited = id
        · subst heq
          have hold := (List.getElem?_eq_some_iff.mp hbefore).1
          rw [hruntimes, List.getElem?_set_self hold, Option.some.injEq] at hafter
          subst hafter
          obtain ⟨doc, hdoc, rfl⟩ := Option.map_eq_some_iff.mp hnew
          exact ⟨before, hbefore, .inr ⟨update, hedit, hdoc, rfl⟩⟩
        · rw [hruntimes, List.getElem?_set_ne heq] at hafter
          refine ⟨after, hafter, .inl ⟨fun other hother => ?_, rfl, rfl⟩⟩
          cases hedit.symm.trans hother
          exact heq rfl
  | initializeDocument | closeDocument | shutdownAll | resume | tick =>
      exact (hkeeps (step_keepsTexts nofun hstep) rfl).imp_left
        fun ⟨before, hbefore, h⟩ => ⟨before, hbefore, .inl h⟩

end Manager

end CollabEditor.Worker
