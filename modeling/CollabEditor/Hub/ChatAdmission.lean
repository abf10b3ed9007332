import Mathlib.Data.String.Basic
import CollabEditor.Hub.Cluster

/-! # Which frames the hub accepts

The documentation limits a chat message to 2000 characters. The length of a Go string is its
number of bytes, so the two agree on ASCII texts only.
-/

namespace CollabEditor.Hub

open Foundation
open Backend (Instant)

section Admission

variable {Bytes : Type} (codec : Codec Bytes) (incoming : Envelope)

/-- A chat message with a payload that decodes, and its text after trimming. -/
def TrimmedChat (text : String) : Prop :=
  incoming.type = .chat ∧ ∃ payload raw, incoming.payload = some payload ∧
    codec.unmarshalChat payload = some raw ∧ text = trimSpace raw

/-- The documented rule for a chat message. -/
def AdmitsChat (text : String) : Prop :=
  TrimmedChat codec incoming text ∧ text ≠ "" ∧ text.length ≤ 2000

/-- The documented rule. -/
def Admits : Prop := incoming.type = .docChange ∨ ∃ text, AdmitsChat codec incoming text

variable {codec incoming}

/-- The texts of a chat message are one. -/
theorem TrimmedChat.unique {first second : String} (hfirst : TrimmedChat codec incoming first)
    (hsecond : TrimmedChat codec incoming second) : first = second := by
  obtain ⟨-, payload, raw, hpayload, hraw, rfl⟩ := hfirst
  obtain ⟨-, payload', raw', hpayload', hraw', rfl⟩ := hsecond
  rw [hpayload] at hpayload'
  cases hpayload'
  rw [hraw] at hraw'
  cases hraw'
  rfl

/-- Every character takes at least one byte. -/
theorem length_le_utf8ByteSize (text : String) : text.length ≤ text.utf8ByteSize := by
  rw [← String.utf8Len_toList, ← String.length_toList]
  induction text.toList with
  | nil => rfl
  | cons char rest ih =>
      have hchar := char.utf8Size_pos
      simp only [List.length_cons, String.utf8Len_cons]
      omega

end Admission

namespace Cluster

variable {Bytes : Type} (codec : Codec Bytes) (cluster : Cluster Bytes)

/-- Rooms, channels and the other connections are as before, and at most one error envelope
has been put into the sender's own queue. -/
structure OnlyReports (id : ConnId) (connection : Connection Bytes) (after : Cluster Bytes) :
    Prop where
  rooms : after.rooms = cluster.rooms
  channels : after.channels = cluster.channels
  subscriptions : after.subscriptions = cluster.subscriptions
  others : ∀ other, other ≠ id → after.connections other = cluster.connections other
  sender : ∃ code message, ∃ errors : List (Hub.Message Bytes), errors.length ≤ 1 ∧
    (∀ error ∈ errors, codec.marshal (Client.errorEnvelope code message) = some error.bytes) ∧
    after.connections id = some { connection with
      send := connection.send ++ errors
      received := connection.received ++ errors }

/-- What the documentation promises for a frame that decodes as `incoming`. -/
structure AdmissionLaw (id : ConnId) (connection : Connection Bytes) (frame : Bytes)
    (now : Instant) (incoming : Envelope) : Prop where
  /-- `HandleClientEnvelope` is called for the admitted frames. -/
  forwarded_iff : (∃ envelope, readPump codec connection.client frame now = .handle envelope) ↔
    Admits codec incoming
  /-- A chat message carries the trimmed text. -/
  chat : ∀ envelope, readPump codec connection.client frame now = .handle envelope →
    incoming.type = .chat → ∃ text, TrimmedChat codec incoming text ∧ envelope.type = .chat ∧
      envelope.payload = some (.object [("content", .string text)])
  reports : ¬Admits codec incoming →
    cluster.OnlyReports codec id connection (cluster.readFrame codec id connection frame now)

variable {codec cluster} {id : ConnId} {connection : Connection Bytes} {frame : Bytes}
  {now : Instant} {incoming : Envelope}

/-- The two outcomes of a text or binary frame that decodes. -/
theorem readPump_cases (client : Client) (now : Instant)
    (hdecode : codec.unmarshal frame = some incoming) :
    (incoming.type = .docChange ∧ readPump codec client frame now = .handle incoming) ∨
      (∃ text, AdmitsChat codec incoming text ∧ text.utf8ByteSize ≤ 2000 ∧
        readPump codec client frame now = .handle
          { type := .chat
            documentId := client.documentId
            messageId := ""
            senderId := client.userId
            sentAt := now
            payload := some (.object [("content", .string text)]) }) ∨
      (incoming.type ≠ .docChange ∧
        (∀ text, AdmitsChat codec incoming text → 2000 < text.utf8ByteSize) ∧
        ∃ code message, readPump codec client frame now = .sendError code message) := by
  unfold readPump
  simp only [hdecode]
  split
  next htype =>
    have hother : incoming.type ≠ .docChange := by
      rw [htype]
      nofun
    cases hpayload : incoming.payload with
    | none =>
        refine .inr (.inr ⟨hother, ?_, _, _, rfl⟩)
        rintro text ⟨⟨-, payload, raw, hsome, -⟩, -⟩
        rw [hpayload] at hsome
        cases hsome
    | some payload =>
        dsimp only
        cases hraw : codec.unmarshalChat payload with
        | none =>
            refine .inr (.inr ⟨hother, ?_, _, _, rfl⟩)
            rintro text ⟨⟨-, payload', raw, hsome, hdecoded, -⟩, -⟩
            rw [hpayload] at hsome
            cases hsome
            rw [hraw] at hdecoded
            cases hdecoded
        | some raw =>
            have htrimmed : TrimmedChat codec incoming (trimSpace raw) :=
              ⟨htype, payload, raw, hpayload, hraw, rfl⟩
            dsimp only
            split
            next hempty =>
              refine .inr (.inr ⟨hother, fun text hadmits => ?_, _, _, rfl⟩)
              exact absurd (hadmits.1.unique htrimmed ▸ hempty) hadmits.2.1
            next hnonempty =>
              split
              next hlong =>
                refine .inr (.inr ⟨hother, fun text hadmits => ?_, _, _, rfl⟩)
                exact hadmits.1.unique htrimmed ▸ hlong
              next hshort =>
                have hbytes := Nat.le_of_not_lt hshort
                have hlength := (length_le_utf8ByteSize (trimSpace raw)).trans hbytes
                exact .inr (.inl ⟨trimSpace raw, ⟨htrimmed, hnonempty, hlength⟩, hbytes, rfl⟩)
  next htype => exact .inl ⟨htype, rfl⟩
  next hchat hchange =>
    refine .inr (.inr ⟨hchange, ?_, _, _, rfl⟩)
    exact fun text hadmits => absurd hadmits.1.1 hchat

theorem sendError_onlyReports (code message : String) :
    cluster.OnlyReports codec id connection
      (cluster.setConnection id (connection.sendError codec code message)) where
  rooms := rfl
  channels := rfl
  subscriptions := rfl
  others other hother := Function.update_of_ne hother _ _
  sender := by
    unfold Connection.sendError Connection.sendEnvelope
    split
    next => exact ⟨code, message, [], Nat.zero_le _, nofun, by simp [setConnection]⟩
    next bytes hbytes =>
      unfold Connection.offer
      split
      next =>
        refine ⟨code, message, [⟨bytes, none⟩], Nat.le_refl _, ?_, by simp [setConnection]⟩
        intro error hmem
        cases List.mem_singleton.mp hmem
        exact hbytes
      next => exact ⟨code, message, [], Nat.zero_le _, nofun, by simp [setConnection]⟩

/-- A frame is treated as documented if and only if its text is not too long in bytes without
being too long in characters. -/
theorem admissionLaw_iff (hdecode : codec.unmarshal frame = some incoming) :
    cluster.AdmissionLaw codec id connection frame now incoming ↔
      ∀ text, AdmitsChat codec incoming text → text.utf8ByteSize ≤ 2000 := by
  constructor
  · intro hlaw text hadmits
    obtain ⟨envelope, hhandle⟩ := hlaw.forwarded_iff.mpr (.inr ⟨text, hadmits⟩)
    obtain ⟨htype, -⟩ | ⟨other, hother, hbytes, -⟩ | ⟨-, -, code, message, herror⟩ :=
      readPump_cases connection.client now hdecode
    · rw [hadmits.1.1] at htype
      cases htype
    · rwa [hadmits.1.unique hother.1]
    · rw [hhandle] at herror
      cases herror
  · intro hshort
    obtain ⟨htype, hhandle⟩ | ⟨text, hadmits, -, hhandle⟩ | ⟨htype, hlong, code, message, herror⟩ :=
      readPump_cases connection.client now hdecode
    · refine ⟨⟨fun _ => .inl htype, fun _ => ⟨_, hhandle⟩⟩, fun _ _ hchat => ?_, fun hnot => ?_⟩
      · rw [htype] at hchat
        cases hchat
      · exact absurd (.inl htype) hnot
    · refine ⟨⟨fun _ => .inr ⟨text, hadmits⟩, fun _ => ⟨_, hhandle⟩⟩, fun envelope hcall _ => ?_,
        fun hnot => absurd (.inr ⟨text, hadmits⟩) hnot⟩
      rw [hhandle] at hcall
      cases hcall
      exact ⟨text, hadmits.1, rfl, rfl⟩
    · have hnot : ¬Admits codec incoming := by
        rintro (hchange | ⟨text, hadmits⟩)
        · exact htype hchange
        · exact absurd (hshort text hadmits) (Nat.not_le_of_lt (hlong text hadmits))
      refine ⟨⟨fun ⟨envelope, hcall⟩ => ?_, fun hadmits => absurd hadmits hnot⟩,
        fun envelope hcall => ?_, fun _ => ?_⟩
      · rw [herror] at hcall
        cases hcall
      · rw [herror] at hcall
        cases hcall
      · simp only [readFrame, herror]
        exact sendError_onlyReports code message

/-- A reader of document 1, connected to node "a". -/
def guestConnection : Connection (Envelope ⊕ EnvelopeMessage) :=
  .fresh "a" (.new 2 "guest" 1 "VIEW" 64)

/-- A message that contains a text. -/
def chatEnvelope (text : String) : Envelope where
  type := .chat
  documentId := 1
  messageId := ""
  senderId := 2
  sentAt := 0
  payload := some (.object [("content", .string text)])

theorem trimmedChat_chatEnvelope (text : String) :
    TrimmedChat plainCodec (chatEnvelope text) (trimSpace text) :=
  ⟨rfl, _, text, rfl, rfl, rfl⟩

/-- A short greeting, with blanks around it. -/
theorem admissionLaw_iff_greeting : (∀ text, AdmitsChat plainCodec (chatEnvelope " hi ") text →
      text.utf8ByteSize ≤ 2000) ∧
    empty.AdmissionLaw plainCodec 0 guestConnection (.inl (chatEnvelope " hi ")) 0
      (chatEnvelope " hi ") := by
  have hshort : ∀ text, AdmitsChat plainCodec (chatEnvelope " hi ") text →
      text.utf8ByteSize ≤ 2000 := by
    intro text hadmits
    rw [hadmits.1.unique (trimmedChat_chatEnvelope " hi ")]
    decide +kernel
  exact ⟨hshort, (admissionLaw_iff rfl).mpr hshort⟩

theorem trimSpace_replicate (count : Nat) {char : Char} (hchar : isSpace char = false) :
    trimSpace (String.ofList (List.replicate count char)) =
      String.ofList (List.replicate count char) := by
  simp [trimSpace, hchar]

theorem length_replicate (count : Nat) (char : Char) :
    (String.ofList (List.replicate count char)).length = count := by
  rw [String.length_ofList, List.length_replicate]

theorem utf8ByteSize_replicate (count : Nat) (char : Char) :
    (String.ofList (List.replicate count char)).utf8ByteSize = count * char.utf8Size := by
  rw [String.utf8ByteSize_ofList]
  induction count with
  | zero => simp
  | succ count ih => rw [List.replicate_succ, String.utf8Len_cons, ih, Nat.succ_mul]

/-- 700 euro signs take 2100 bytes. -/
def euroSigns : String := String.ofList (List.replicate 700 '€')

/-- They are refused as too long. -/
theorem euro_signs_refused :
    ¬ ∀ (cluster : Cluster (Envelope ⊕ EnvelopeMessage)) (id : ConnId)
      (connection : Connection (Envelope ⊕ EnvelopeMessage)) (frame : Envelope ⊕ EnvelopeMessage)
      (now : Instant) (incoming : Envelope), plainCodec.unmarshal frame = some incoming →
        cluster.AdmissionLaw plainCodec id connection frame now incoming := by
  intro hclaim
  have hrefused : ∀ text, trimSpace text = text → text ≠ "" → text.length ≤ 2000 →
      ¬2000 < text.utf8ByteSize := by
    intro text htrim hnonempty hlength hbytes
    have htext := htrim ▸ trimmedChat_chatEnvelope text
    have hlaw := hclaim empty 0 guestConnection (.inl (chatEnvelope text)) 0 (chatEnvelope text) rfl
    obtain ⟨envelope, hhandle⟩ := hlaw.forwarded_iff.mpr
      (.inr ⟨text, htext, hnonempty, hlength⟩)
    simp [readPump, plainCodec, chatEnvelope, Json.stringField, Json.field, htrim, hnonempty,
      hbytes] at hhandle
  have hlength : euroSigns.length = 700 := length_replicate 700 '€'
  have hbytes : euroSigns.utf8ByteSize = 700 * '€'.utf8Size := utf8ByteSize_replicate 700 '€'
  have hsize : '€'.utf8Size = 3 := by decide
  have hspace : isSpace '€' = false := by decide
  refine hrefused euroSigns (trimSpace_replicate 700 hspace) (fun hempty => ?_) (by omega)
    (by omega)
  rw [hempty] at hlength
  cases hlength

end Cluster

end CollabEditor.Hub
