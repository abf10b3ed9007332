import CollabEditor.Foundation.Json
import CollabEditor.Backend.Database

/-! # The protocol of the websocket service

Envelopes as Go values. The JSON encoding of the standard library is a
parameter; a raw payload is kept as the value its text denotes.
-/

namespace CollabEditor.Hub

open Foundation
open Backend (DocumentId UserId Instant)

abbrev NodeId := String

/-- `MessageType`: a frame may name any type. -/
inductive MessageType
  | chat
  | docChange
  | connection
  | participantJoined
  | participantLeft
  | error
  | other (name : String)
deriving DecidableEq, Repr

/-- The name of a type on the wire. -/
def MessageType.text : MessageType → String
  | .chat => "chat.message"
  | .docChange => "doc.change"
  | .connection => "connection.ack"
  | .participantJoined => "room.participant.joined"
  | .participantLeft => "room.participant.left"
  | .error => "error"
  | .other name => name

/-- The zero `time.Time`, the first instant of year 1. -/
def zeroTime : Instant := -62135596800 * 1000000000

/-- `Envelope`. -/
structure Envelope where
  type : MessageType
  documentId : DocumentId
  messageId : String
  senderId : UserId
  sentAt : Instant
  payload : Option Json

/-- `EnvelopeMessage`: what is published. -/
structure EnvelopeMessage where
  originNodeId : NodeId
  envelope : Envelope

/-- `encoding/json` at the types of the protocol; `none` is an error. -/
structure Codec (Bytes : Type) where
  marshal : Envelope → Option Bytes
  unmarshal : Bytes → Option Envelope
  marshalMessage : EnvelopeMessage → Option Bytes
  unmarshalMessage : Bytes → Option EnvelopeMessage
  /-- `Unmarshal` into a `ChatPayload`: its text. -/
  unmarshalChat : Json → Option String

namespace Codec

variable {Bytes : Type} (codec : Codec Bytes)

/-- The origin of a published message can be read back. -/
def KeepsOrigin : Prop :=
  ∀ message payload, codec.marshalMessage message = some payload →
    ∃ decoded, codec.unmarshalMessage payload = some decoded ∧
      decoded.originNodeId = message.originNodeId

/-- What a node publishes for an envelope it has broadcast. -/
def Publishes (node : NodeId) (envelope : Envelope) (payload : Bytes) : Prop :=
  (codec.marshal envelope).isSome ∧ codec.marshalMessage ⟨node, envelope⟩ = some payload

/-- The bytes other clients can get for an envelope: those of its own node, or
what another node makes of the payload. -/
def Renders (node : NodeId) (envelope : Envelope) (bytes : Bytes) : Prop :=
  codec.marshal envelope = some bytes ∨ ∃ payload decoded, codec.Publishes node envelope payload ∧
    codec.unmarshalMessage payload = some decoded ∧ codec.marshal decoded.envelope = some bytes

end Codec

/-- Bytes that are the values they encode. -/
def plainCodec : Codec (Envelope ⊕ EnvelopeMessage) where
  marshal envelope := some (.inl envelope)
  unmarshal
    | .inl envelope => some envelope
    | .inr _ => none
  marshalMessage message := some (.inr message)
  unmarshalMessage
    | .inl _ => none
    | .inr message => some message
  unmarshalChat := Json.stringField "content"

theorem plainCodec_keepsOrigin : plainCodec.KeepsOrigin := by
  intro message payload hmarshal
  cases hmarshal
  exact ⟨message, rfl, rfl⟩

/-- The fields of `Client` that never change. -/
structure Client where
  userId : UserId
  username : String
  documentId : DocumentId
  permissionLevel : String
  /-- The capacity of `Send`. -/
  sendBuffer : Nat
deriving DecidableEq, Repr

/-- `NewClient`: a buffer of 64 messages when none is configured. -/
def Client.new (userId : UserId) (username : String) (documentId : DocumentId)
    (permissionLevel : String) (sendBuffer : Int) : Client where
  userId := userId
  username := username
  documentId := documentId
  permissionLevel := permissionLevel
  sendBuffer := if sendBuffer ≤ 0 then 64 else sendBuffer.toNat

namespace Client

variable (client : Client)

/-- The envelope of `notifyParticipantEvent`. -/
def participantEnvelope (type : MessageType) (message : String) (now : Instant) : Envelope where
  type := type
  documentId := client.documentId
  messageId := ""
  senderId := 0
  sentAt := now
  payload := some <| .object
    [("documentId", .number client.documentId), ("userId", .number client.userId),
      ("username", .string client.username), ("permissionLevel", .string client.permissionLevel),
      ("message", .string message)]

/-- The acknowledgment `ServeHTTP` sends. -/
def ackEnvelope : Envelope where
  type := .connection
  documentId := 0
  messageId := ""
  senderId := 0
  sentAt := zeroTime
  payload := some <| .object
    [("documentId", .number client.documentId), ("userId", .number client.userId),
      ("permissionLevel", .string client.permissionLevel), ("message", .string "connected")]

/-- The envelope of `SendError`. -/
def errorEnvelope (code message : String) : Envelope where
  type := .error
  documentId := 0
  messageId := ""
  senderId := 0
  sentAt := zeroTime
  payload := some <| .object [("code", .string code), ("message", .string message)]

/-- The fields `HandleClientEnvelope` overwrites. -/
def stamp (envelope : Envelope) (now : Instant) : Envelope :=
  { envelope with
    documentId := client.documentId
    senderId := client.userId
    sentAt := now
    messageId := if envelope.messageId = "" then toString now ++ "-" ++ toString client.userId
      else envelope.messageId }

end Client

/-! ## Reading a frame -/

/-- `unicode.IsSpace`. -/
def isSpace (c : Char) : Bool :=
  c ∈ ['\t', '\n', '\x0b', '\x0c', '\r', ' ', '\u0085', '\u00a0', '\u1680', '\u2028', '\u2029',
    '\u202f', '\u205f', '\u3000'] || ('\u2000' ≤ c && c ≤ '\u200a')

/-- `strings.TrimSpace`. -/
def trimSpace (text : String) : String :=
  String.ofList ((text.toList.dropWhile isSpace).reverse.dropWhile isSpace).reverse

/-- What `ReadPump` does with a text or binary frame. -/
inductive FrameAction
  | handle (envelope : Envelope)
  | sendError (code message : String)

/-- The dispatch of `ReadPump`. A chat message is rebuilt from its text, an edit
is handed on as it came; the permission level of the client plays no part. -/
def readPump {Bytes : Type} (codec : Codec Bytes) (client : Client) (frame : Bytes)
    (now : Instant) : FrameAction :=
  match codec.unmarshal frame with
  | none => .sendError "invalid_json" "message must be valid JSON"
  | some incoming =>
      match incoming.type with
      | .chat =>
          match incoming.payload with
          | none => .sendError "invalid_payload" "chat payload is required"
          | some payload =>
              match codec.unmarshalChat payload with
              | none => .sendError "invalid_payload" "chat payload is malformed"
              | some text =>
                  if trimSpace text = "" then
                    .sendError "invalid_payload" "chat message cannot be empty"
                  else if 2000 < (trimSpace text).utf8ByteSize then
                    .sendError "invalid_payload" "chat message is too long"
                  else .handle
                    { type := .chat
                      documentId := client.documentId
                      messageId := ""
                      senderId := client.userId
                      sentAt := now
                      payload := some (.object [("content", .string (trimSpace text))]) }
      | .docChange => .handle incoming
      | _ => .sendError "unsupported_type" "message type is not supported"

end CollabEditor.Hub
