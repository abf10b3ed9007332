import CollabEditor.Foundation.Base64
import CollabEditor.Platform.CatchUp

/-! # Edits on their way through JSON

An update of Yjs is bytes. A page sends it as base64 in a JSON payload, the nodes pass the payload
on unread, and the worker and the other pages decode it.
-/

namespace CollabEditor.Platform

open Foundation
open Frontend Hub Worker
open Backend (DocumentId)

variable {Bytes Doc : Type}

/-! ## The conversions -/

/-- `encodeUint8ToBase64`, and the `yjsStateBase64` of a snapshot. -/
def encodeUint8ToBase64 (bytes : List UInt8) : String :=
  String.ofList (Base64.encode bytes)

/-- `decodeBase64ToUint8` of the page and `parseYjsUpdate` of the worker, which both call `atob`;
`none` when it throws. -/
def decodeBase64ToUint8 (base64 : String) : Option (List UInt8) :=
  Base64.decode base64.toList

theorem decodeBase64ToUint8_encode (bytes : List UInt8) :
    decodeBase64ToUint8 (encodeUint8ToBase64 bytes) = some bytes := by
  rw [decodeBase64ToUint8, encodeUint8ToBase64, String.toList_ofList, Base64.decode_encode]

/-! ## The way of an edit -/

/-- The payload of `onYjsUpdate`. -/
def yjsPayload (update : List UInt8) : Json :=
  .object [("update", .string (encodeUint8ToBase64 update))]

/-- `atob` is that of a browser. -/
def UsesBase64 {Raw : Type} (lib : Libraries Doc Raw) : Prop :=
  ∀ text, lib.atob text = decodeBase64ToUint8 text

/-- A raw payload is passed on as it is. -/
def CarriesPayload (json : Envelope → Json) : Prop :=
  ∀ envelope, (json envelope).field "payload" = envelope.payload

/-- The tag is that of a change whose update is these bytes. -/
def Cluster.SentUpdate (cluster : Cluster Bytes) (tag : Tag) (update : List UInt8) : Prop :=
  ∃ connection envelope, cluster.connections tag.sender = some connection ∧
    connection.sent[tag.number]? = some envelope ∧ envelope.type = .docChange ∧
      envelope.payload = some (yjsPayload update)

theorem Cluster.SentUpdate.envelope {cluster : Cluster Bytes} {tag : Tag} {update : List UInt8}
    (hsent : Cluster.SentUpdate cluster tag update) {connection : Connection Bytes}
    {envelope : Envelope} (hconnection : cluster.connections tag.sender = some connection)
    (henvelope : connection.sent[tag.number]? = some envelope) :
    envelope.type = .docChange ∧ envelope.payload = some (yjsPayload update) := by
  obtain ⟨other, found, hother, hfound, htype, hpayload⟩ := hsent
  cases hconnection.symm.trans hother
  cases henvelope.symm.trans hfound
  exact ⟨htype, hpayload⟩

/-- The sender and the reader of a payload agree on the update. -/
theorem updateOf_yjsPayload {codec : Codec Bytes} {lib : Libraries Doc Bytes}
    {json : Envelope → Json} (hread : Readable codec lib json) (hbase64 : UsesBase64 lib)
    (hcarries : CarriesPayload json) {envelope : Envelope} {update : List UInt8}
    (htype : envelope.type = .docChange) (hpayload : envelope.payload = some (yjsPayload update)) :
    updateOf lib (json envelope) = some update := by
  have hkind : (json envelope).stringField "type" = some "doc.change" := by
    rw [hread.type, htype]
    rfl
  have htext : (yjsPayload update).stringField "update" = some (encodeUint8ToBase64 update) := rfl
  rw [updateOf, if_pos hkind, hcarries, hpayload, Option.bind_some, htext, Option.bind_some,
    hbase64, decodeBase64ToUint8_encode]

namespace Relay

variable (codec : Codec Bytes) (lib : Libraries Doc Bytes)

/-- The nodes and the worker, from the start. -/
def system : TransitionSystem (Relay Bytes Doc) (Event Bytes) where
  init relay := relay = empty
  step relay event := relay.step codec lib event

/-- An update arrives everywhere as the bytes that were sent, whichever way it takes. -/
structure EditsIntact (relay : Relay Bytes Doc) : Prop where
  /-- At the worker, which applies it to the document. -/
  worker : ∀ runtime, ∀ edit ∈ relay.edits runtime, ∀ update,
    Cluster.SentUpdate relay.cluster edit.1 update → edit.2 = update
  /-- In the page of every client that receives it. -/
  pages : ∀ client connection, relay.cluster.connections client = some connection →
    ∀ message ∈ connection.received, ∀ tag, message.tag = some tag → ∀ update,
      Cluster.SentUpdate relay.cluster tag update →
      ∃ envelope, parseEnvelope lib message.bytes = some envelope ∧
        routeDocChange lib envelope = some update
  /-- The document of a runtime is its first text with these updates applied. -/
  text : ∀ id runtime, relay.manager.runtimes[id]? = some runtime →
    ∃ request, relay.origins[id]? = some request ∧
      replay lib (lib.newDoc request.clientId request.content) ((relay.edits id).map Prod.snd) =
        some runtime.doc

variable {codec lib} {json : Envelope → Json} {relay : Relay Bytes Doc}

theorem Sound.editsIntact (h : relay.Sound codec lib json) (hread : Readable codec lib json)
    (hbase64 : UsesBase64 lib) (hcarries : CarriesPayload json) : relay.EditsIntact lib where
  worker runtime edit hedit update hsent := by
    obtain ⟨connection, envelope, hconnection, henvelope, hupdate⟩ := h.edits runtime edit hedit
    obtain ⟨htype, hpayload⟩ := hsent.envelope hconnection henvelope
    rw [updateOf_yjsPayload hread hbase64 hcarries htype hpayload, Option.some.injEq] at hupdate
    exact hupdate.symm
  pages client connection hconnection message hmessage tag htag update hsent := by
    obtain ⟨v, envelope, hv, henvelope, hrenders⟩ :=
      h.ordered.faithful client connection hconnection message hmessage tag htag
    obtain ⟨sender, hsender, rfl⟩ := Option.map_eq_some_iff.mp hv
    obtain ⟨htype, hpayload⟩ := hsent.envelope hsender henvelope
    have hupdate := updateOf_yjsPayload hread hbase64 hcarries htype hpayload
    have hparse := hread.renders hrenders
    exact ⟨json envelope, CatchUp.parseEnvelope_of_update hparse hupdate⟩
  text id runtime hruntime := by
    obtain ⟨request, hrequest, hreplay, -⟩ := h.texts id runtime hruntime
    exact ⟨request, hrequest, hreplay⟩

/-- In every run of the nodes and the worker the updates stay what they were. -/
theorem reachable_editsIntact (hread : Readable codec lib json) (hbase64 : UsesBase64 lib)
    (hcarries : CarriesPayload json) (hreach : (system codec lib).Reachable relay) :
    relay.EditsIntact lib := by
  have hsound : relay.Sound codec lib json := by
    refine hreach.invariant (system codec lib) (fun relay => relay.Sound codec lib json) ?_ ?_
    · rintro start rfl
      exact empty_sound
    · exact fun _ _ _ _ h _ hstep => h.step hread hstep
  exact hsound.editsIntact hread hbase64 hcarries

end Relay

/-- The libraries with the conversions of a browser. -/
def base64Libraries : Libraries String (Envelope ⊕ EnvelopeMessage) :=
  { plainLibraries with atob := decodeBase64ToUint8 }

theorem base64_readable : Readable plainCodec base64Libraries plainJson where
  type := plain_readable.type
  marshal := plain_readable.marshal
  marshalMessage := plain_readable.marshalMessage
  unmarshalMessage := plain_readable.unmarshalMessage

theorem plain_carriesPayload : CarriesPayload plainJson := by
  rintro ⟨type, documentId, messageId, senderId, sentAt, payload⟩
  cases payload <;> rfl

/-- The events of the nodes and the worker. -/
def relayEvents (events : List (CatchUp.Event (Envelope ⊕ EnvelopeMessage))) :
    List (Relay.Event (Envelope ⊕ EnvelopeMessage)) :=
  events.filterMap fun
    | .relay event => some event
    | .connect id node client _ => some (.hub (.connect id node client) true)
    | _ => none

/-- The owner sends an update. -/
def sendsUpdate (update : List UInt8) : List (CatchUp.Event (Envelope ⊕ EnvelopeMessage)) :=
  CatchUp.hubEvents
    [.frame 0 (.inl ⟨.docChange, 1, "", 1, 0, some (yjsPayload update)⟩) 0, .run 0 0 true 0,
      .run 0 0 true 0, .run 0 1 true 0, .run 0 0 true 0, .run 0 0 true 0]

/-- Two bytes reach the worker and an editor in the room. -/
theorem reachable_editsIntact_room : ∃ relay : Relay (Envelope ⊕ EnvelopeMessage) String,
    (Relay.system plainCodec base64Libraries).Reachable relay ∧
      (relay.edits 0).map Prod.snd = [[33, 255]] ∧
      (relay.cluster.connections 1).any (fun connection =>
        connection.received.any fun message => message.tag == some ⟨0, 1⟩) = true ∧
      relay.EditsIntact base64Libraries := by
  obtain ⟨relay, hreach, hcheck⟩ :=
    (Relay.system plainCodec base64Libraries).exists_reachable_of_exec
      (.init rfl : (Relay.system plainCodec base64Libraries).Reachable Relay.empty)
      (relayEvents (CatchUp.opens ++ CatchUp.joins ++ sendsUpdate [33, 255] ++
        [.relay .handle, .relay .handle] ++ CatchUp.drains))
      (fun relay => (relay.edits 0).map Prod.snd = [[33, 255]] ∧
        (relay.cluster.connections 1).any (fun connection =>
          connection.received.any fun message => message.tag == some ⟨0, 1⟩) = true)
      (by decide +kernel)
  obtain ⟨hedits, hreceived⟩ := of_decide_eq_true hcheck
  exact ⟨relay, hreach, hedits, hreceived,
    Relay.reachable_editsIntact base64_readable (fun _ => rfl) plain_carriesPayload hreach⟩

end CollabEditor.Platform
