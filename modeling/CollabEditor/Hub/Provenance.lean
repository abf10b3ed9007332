import CollabEditor.Hub.CrossNode
import CollabEditor.Hub.Reception

/-! # Whose envelopes reach a room

What a client sends is passed on with the identity of its ticket. The envelopes a
frame has caused are recorded beside the cluster, with the frame.
-/

namespace CollabEditor.Hub

open Foundation
open Backend (Instant)

variable {Bytes : Type}

/-- A subscriber reads the message that was published. -/
def Codec.Preserves (codec : Codec Bytes) : Prop :=
  ∀ message payload, codec.marshalMessage message = some payload →
    codec.unmarshalMessage payload = some message

theorem plainCodec_preserves : plainCodec.Preserves := by
  intro message payload hmarshal
  cases hmarshal
  rfl

namespace Codec.Preserves

variable {codec : Codec Bytes}

theorem keepsOrigin (h : codec.Preserves) : codec.KeepsOrigin := by
  intro message payload hmarshal
  exact ⟨message, h message payload hmarshal, rfl⟩

/-- Another node sends its clients the bytes the envelope's own node sends. -/
theorem marshal_of_renders (h : codec.Preserves) {node : NodeId} {envelope : Envelope}
    {bytes : Bytes} (hrenders : codec.Renders node envelope bytes) :
    codec.marshal envelope = some bytes := by
  rcases hrenders with hlocal | ⟨payload, decoded, ⟨-, hpayload⟩, hdecoded, hbytes⟩
  · exact hlocal
  · have hread : codec.unmarshalMessage payload = some ⟨node, envelope⟩ := h _ payload hpayload
    cases hread.symm.trans hdecoded
    exact hbytes

end Codec.Preserves

namespace Client

variable (client : Client)

/-- A message or an edit with the identity of the client's ticket. -/
structure Owns (envelope : Envelope) : Prop where
  documentId : envelope.documentId = client.documentId
  senderId : envelope.senderId = client.userId
  type : envelope.type = .chat ∨ envelope.type = .docChange

/-- The hub itself tells the room about the client. -/
def Announces (envelope : Envelope) : Prop :=
  ∃ now, envelope = client.participantEnvelope .participantJoined "participant joined" now ∨
    envelope = client.participantEnvelope .participantLeft "participant left" now

/-- What a client is told besides the envelopes of its room. -/
def IsReply (codec : Codec Bytes) (bytes : Bytes) : Prop :=
  codec.marshal client.ackEnvelope = some bytes ∨
    ∃ code message, codec.marshal (errorEnvelope code message) = some bytes

/-- Whatever the frame says, the envelope made of it is the client's. -/
theorem stamp_owns {codec : Codec Bytes} {frame : Bytes} {read now : Instant}
    {envelope : Envelope} (hread : readPump codec client frame read = .handle envelope) :
    client.Owns (client.stamp envelope now) := by
  refine ⟨rfl, rfl, ?_⟩
  change envelope.type = .chat ∨ envelope.type = .docChange
  unfold readPump at hread
  split at hread
  next => cases hread
  next incoming hincoming =>
    split at hread
    next =>
      left
      repeat' split at hread
      all_goals cases hread
      rfl
    next htype =>
      right
      cases hread
      exact htype
    next => cases hread

end Client

/-- What there is of a connection on the wire: the envelopes it has started to
publish, and the messages that are for the client alone. -/
structure Footprint (Bytes : Type) where
  sent : List Envelope
  replies : List Bytes

/-- The messages without a tag. -/
def untagged (messages : List (Message Bytes)) : List Bytes :=
  (messages.filter fun message => message.tag.isNone).map Message.bytes

namespace Connection

variable {codec : Codec Bytes}

def footprint (connection : Connection Bytes) : Footprint Bytes where
  sent := connection.sent
  replies := untagged connection.received

/-- The client is told something at most. -/
def Answered (codec : Codec Bytes) (old new : Connection Bytes) : Prop :=
  new.footprint = old.footprint ∨ ∃ bytes, old.client.IsReply codec bytes ∧
    new.footprint = { old.footprint with replies := old.footprint.replies ++ [bytes] }

theorem offer_footprint (connection : Connection Bytes) (bytes : Bytes) (tag : Tag) :
    (connection.offer ⟨bytes, some tag⟩).footprint = connection.footprint := by
  unfold offer
  split
  · simp [footprint, untagged]
  · rfl

theorem sendEnvelope_answered (connection : Connection Bytes) {envelope : Envelope}
    (hreply : ∀ bytes, codec.marshal envelope = some bytes →
      connection.client.IsReply codec bytes) :
    connection.Answered codec (connection.sendEnvelope codec envelope) := by
  unfold sendEnvelope
  split
  next => exact .inl rfl
  next bytes hbytes =>
    unfold offer
    split
    · exact .inr ⟨bytes, hreply bytes hbytes, by simp [footprint, untagged]⟩
    · exact .inl rfl

theorem sendError_answered (connection : Connection Bytes) (code message : String) :
    connection.Answered codec (connection.sendError codec code message) := by
  apply sendEnvelope_answered
  exact fun bytes hbytes => .inr ⟨code, message, hbytes⟩

theorem proceed_answered (connection : Connection Bytes) (failed : Bool) (next : Continuation) :
    connection.Answered codec (connection.proceed codec failed next) := by
  cases next with
  | acknowledge => exact .inl rfl
  | close subscription => exact .inl rfl
  | read =>
      cases failed with
      | false => exact .inl rfl
      | true => exact connection.sendError_answered _ _

theorem afterBroadcast_answered (connection : Connection Bytes)
    (publication : Publication Bytes) (next : Continuation) (progress : Option Progress) :
    connection.Answered codec (connection.afterBroadcast codec publication next progress) := by
  cases progress with
  | some progress => exact .inl rfl
  | none =>
      unfold afterBroadcast
      dsimp only
      split
      next => exact .inl rfl
      next => exact connection.proceed_answered true next

/-- An envelope that cannot be marshalled is not published. -/
theorem publish_footprint (connection : Connection Bytes) (id : ConnId) (envelope : Envelope)
    (next : Continuation) :
    connection.Answered codec (connection.publish codec id envelope next) ∨
      (connection.publish codec id envelope next).footprint =
        { connection.footprint with sent := connection.footprint.sent ++ [envelope] } := by
  unfold publish
  split
  next => exact .inl (connection.proceed_answered true next)
  next => exact .inr rfl

end Connection

namespace Cluster

variable {codec : Codec Bytes} {cluster : Cluster Bytes} {event : Event Bytes}

/-- The connection whose goroutine moves. -/
def Event.actor : Event Bytes → Option ConnId
  | .register id _ _ | .frame id _ _ | .run id _ _ _ => some id
  | _ => none

/-- Why a connection starts to publish an envelope. -/
inductive Starts (codec : Codec Bytes) (cluster : Cluster Bytes) :
    Event Bytes → ConnId → Envelope → Prop
  | frame (id : ConnId) (connection : Connection Bytes) (frame : Bytes) (now : Instant)
      (envelope : Envelope) (hconnection : cluster.connections id = some connection)
      (hread : readPump codec connection.client frame now = .handle envelope) :
      Starts codec cluster (.frame id frame now) id (connection.client.stamp envelope now)
  | join (id : ConnId) (connection : Connection Bytes) (subscribed : Bool) (now : Instant)
      (hconnection : cluster.connections id = some connection) :
      Starts codec cluster (.register id subscribed now) id
        (connection.client.participantEnvelope .participantJoined "participant joined" now)
  | leave (id : ConnId) (connection : Connection Bytes) (choice : ConnId) (accepted : Bool)
      (now : Instant) (hconnection : cluster.connections id = some connection) :
      Starts codec cluster (.run id choice accepted now) id
        (connection.client.participantEnvelope .participantLeft "participant left" now)

def footprint (cluster : Cluster Bytes) (id : ConnId) : Footprint Bytes :=
  (cluster.connections id).elim ⟨[], []⟩ Connection.footprint

theorem footprint_eq {id : ConnId} {connection : Connection Bytes}
    (hconnection : cluster.connections id = some connection) :
    cluster.footprint id = connection.footprint := by
  simp [footprint, hconnection]

/-- What one step leaves on the wire: an envelope, or a reply to a client whose
own goroutine moves. -/
inductive Leaves (codec : Codec Bytes) (cluster : Cluster Bytes) (event : Event Bytes)
    (id : ConnId) : Footprint Bytes → Prop
  | envelope (envelope : Envelope) (hstart : Starts codec cluster event id envelope) :
      Leaves codec cluster event id
        { cluster.footprint id with sent := (cluster.footprint id).sent ++ [envelope] }
  | reply (connection : Connection Bytes) (bytes : Bytes) (hactor : event.actor = some id)
      (hconnection : cluster.connections id = some connection)
      (hreply : connection.client.IsReply codec bytes) :
      Leaves codec cluster event id
        { cluster.footprint id with replies := (cluster.footprint id).replies ++ [bytes] }

/-- One connection at most leaves something. -/
def Marks (codec : Codec Bytes) (cluster : Cluster Bytes) (event : Event Bytes)
    (after : ConnId → Footprint Bytes) : Prop :=
  after = cluster.footprint ∨ ∃ id footprint, cluster.Leaves codec event id footprint ∧
    after = Function.update cluster.footprint id footprint

theorem Marks.of_connections {after : Cluster Bytes}
    (hsame : after.connections = cluster.connections) :
    cluster.Marks codec event after.footprint := by
  left
  unfold footprint
  rw [hsame]

/-- Rooms, subscriptions and channels may have changed as well. -/
theorem footprint_setConnection {between : Cluster Bytes} {id : ConnId}
    {connection : Connection Bytes} (hsame : between.footprint = cluster.footprint) :
    (between.setConnection id connection).footprint =
      Function.update cluster.footprint id connection.footprint := by
  ext other : 1
  by_cases heq : other = id
  · subst heq
    simp [footprint, Cluster.setConnection]
  · rw [Function.update_of_ne heq, ← hsame]
    simp [footprint, Cluster.setConnection, heq]

theorem Marks.setSame {between : Cluster Bytes} {id : ConnId} {old new : Connection Bytes}
    (hold : cluster.connections id = some old) (hfootprint : new.footprint = old.footprint)
    (hsame : between.footprint = cluster.footprint) :
    cluster.Marks codec event (between.setConnection id new).footprint := by
  left
  rw [footprint_setConnection hsame, hfootprint, ← footprint_eq hold, Function.update_eq_self]

theorem Marks.setAnswered {between : Cluster Bytes} {id : ConnId} {old new : Connection Bytes}
    (hold : cluster.connections id = some old) (hactor : event.actor = some id)
    (hanswered : old.Answered codec new) (hsame : between.footprint = cluster.footprint) :
    cluster.Marks codec event (between.setConnection id new).footprint := by
  rcases hanswered with hkept | ⟨bytes, hreply, hnew⟩
  · exact .setSame hold hkept hsame
  · refine .inr ⟨id, _, .reply old bytes hactor hold hreply, ?_⟩
    rw [footprint_setConnection hsame, hnew, footprint_eq hold]

/-- A connection starts a publication. -/
theorem Marks.publish {between : Cluster Bytes} {id : ConnId}
    {old seated : Connection Bytes} {envelope : Envelope} {next : Continuation}
    (hold : cluster.connections id = some old) (hfootprint : seated.footprint = old.footprint)
    (hclient : seated.client = old.client) (hstart : Starts codec cluster event id envelope)
    (hactor : event.actor = some id) (hsame : between.footprint = cluster.footprint) :
    cluster.Marks codec event
      (between.setConnection id (seated.publish codec id envelope next)).footprint := by
  rcases seated.publish_footprint id envelope next with hanswered | hsent
  · refine .setAnswered hold hactor ?_ hsame
    unfold Connection.Answered at hanswered ⊢
    rwa [hfootprint, hclient] at hanswered
  · refine .inr ⟨id, _, .envelope envelope hstart, ?_⟩
    rw [footprint_setConnection hsame, hsent, hfootprint, footprint_eq hold]

/-! ## One step -/

theorem modifyConnection_footprint (id : ConnId) {change : Connection Bytes → Connection Bytes}
    (hchange : ∀ connection, (change connection).footprint = connection.footprint) :
    (cluster.modifyConnection id change).footprint = cluster.footprint := by
  unfold Cluster.modifyConnection
  split
  next => rfl
  next connection hconnection =>
    have hsame : cluster.footprint = cluster.footprint := rfl
    rw [footprint_setConnection hsame, hchange, ← footprint_eq hconnection,
      Function.update_eq_self]

/-- A broadcast puts tagged messages into queues. -/
theorem advanceBroadcast_footprint {node : NodeId} {documentId : Backend.DocumentId}
    {bytes : Bytes} {tag : Tag} {choice : ConnId} {progress : Progress} {after : Cluster Bytes}
    {result : Option Progress}
    (hadvance : cluster.advanceBroadcast node documentId ⟨bytes, some tag⟩ choice progress =
      some (after, result)) : after.footprint = cluster.footprint := by
  cases advanceBroadcast_cases cluster hadvance with
  | absent | found | done => rfl
  | offer =>
      apply modifyConnection_footprint
      exact fun connection => connection.offer_footprint bytes tag
  | drop =>
      apply modifyConnection_footprint
      exact fun connection => rfl

theorem Marks.register {id : ConnId} {connection : Connection Bytes}
    (hconnection : cluster.connections id = some connection) (subscribed : Bool) (now : Instant) :
    cluster.Marks codec (.register id subscribed now)
      (cluster.register codec id connection subscribed now).footprint := by
  have hstart : Starts codec cluster (.register id subscribed now) id _ :=
    .join id connection subscribed now hconnection
  unfold Cluster.register
  dsimp only
  split
  next => exact .publish hconnection rfl rfl hstart rfl rfl
  next =>
    split
    next => exact .publish hconnection rfl rfl hstart rfl rfl
    next => exact .setSame hconnection rfl rfl

theorem Marks.leave {id : ConnId} {connection : Connection Bytes}
    (hconnection : cluster.connections id = some connection) (choice : ConnId)
    (accepted : Bool) (now : Instant) :
    cluster.Marks codec (.run id choice accepted now)
      (cluster.leave codec id connection now).footprint := by
  have hstart : Starts codec cluster (.run id choice accepted now) id _ :=
    .leave id connection choice accepted now hconnection
  unfold Cluster.leave
  dsimp only
  split
  next => exact .setSame hconnection rfl rfl
  next => exact .publish hconnection rfl rfl hstart rfl rfl

theorem Marks.readFrame {id : ConnId} {connection : Connection Bytes}
    (hconnection : cluster.connections id = some connection) (frame : Bytes) (now : Instant) :
    cluster.Marks codec (.frame id frame now)
      (cluster.readFrame codec id connection frame now).footprint := by
  unfold Cluster.readFrame
  split
  next code message _ =>
    exact .setAnswered hconnection rfl (connection.sendError_answered code message) rfl
  next envelope hread =>
    exact .publish hconnection rfl rfl (.frame id connection frame now envelope hconnection hread)
      rfl rfl

theorem Marks.run {id : ConnId} {connection : Connection Bytes}
    (hconnection : cluster.connections id = some connection) {choice : ConnId} {accepted : Bool}
    {now : Instant} {after : Cluster Bytes}
    (hrun : cluster.run codec id connection choice accepted now = some after) :
    cluster.Marks codec (.run id choice accepted now) after.footprint := by
  cases run_cases codec cluster hrun with
  | broadcast publication progress next moved result _ hadvance =>
      have hsame : moved.footprint = cluster.footprint := advanceBroadcast_footprint hadvance
      -- the sender may have offered the message to itself
      have hmoves : Moves codec (.exit 0) cluster moved := .advanceBroadcast hadvance
      obtain ⟨current, hcurrent, hadvances⟩ := hmoves.advances id connection hconnection
      have hfootprint : current.footprint = connection.footprint := by
        rw [← footprint_eq hcurrent, hsame, footprint_eq hconnection]
      rw [modifyConnection_eq hcurrent]
      refine .setAnswered hconnection rfl ?_ hsame
      have hanswered : current.Answered codec
          (current.afterBroadcast codec publication next result) :=
        current.afterBroadcast_answered publication next result
      unfold Connection.Answered at hanswered ⊢
      rwa [hfootprint, hadvances.client] at hanswered
  | accept tag payload next =>
      exact .setAnswered hconnection rfl (connection.proceed_answered false next) rfl
  | refuse tag payload next =>
      exact .setAnswered hconnection rfl (connection.proceed_answered true next) rfl
  | acknowledge =>
      exact .setAnswered hconnection rfl
        (connection.sendEnvelope_answered fun bytes hbytes => .inl hbytes) rfl
  | unregister => exact .leave hconnection choice accepted now
  | close | closeEmptied => exact .setSame hconnection rfl rfl
  | closeSubscription subscription =>
      refine .setSame hconnection rfl ?_
      unfold Cluster.footprint
      rw [closeSubscription_connections]

/-- One step leaves at most one envelope, or one reply to a client whose own
goroutine moves. -/
theorem step_marks (hlayout : cluster.Layout codec) {after : Cluster Bytes}
    (hstep : step codec cluster event = some after) :
    cluster.Marks codec event after.footprint := by
  cases step_cases codec cluster hstep with
  | connect id node client hnone =>
      left
      have hsame : cluster.footprint = cluster.footprint := rfl
      rw [footprint_setConnection hsame]
      apply Function.update_eq_self_iff.mpr
      simp [footprint, hnone, Connection.footprint, Connection.fresh, untagged]
  | register id subscribed now connection hconnection =>
      exact .register hconnection subscribed now
  | frame id frame now connection hconnection => exact .readFrame hconnection frame now
  | disconnect id connection hconnection =>
      refine .setSame hconnection ?_ rfl
      split <;> rfl
  | run id choice accepted now connection _ hconnection hrun => exact .run hconnection hrun
  | write id connection message rest hconnection => exact .setSame hconnection rfl rfl
  | stopWriting id connection hconnection => exact .setSame hconnection rfl rfl
  | deliver id choice subscription message progress moved result hsubscription hdelivery
      hadvance =>
      -- what another node publishes has a tag
      obtain ⟨entry, -, -, htag, -⟩ :=
        hlayout.delivery id subscription hsubscription message progress hdelivery
      obtain ⟨bytes, tag⟩ := message
      cases htag
      have hsame : moved.footprint = cluster.footprint := advanceBroadcast_footprint hadvance
      exact .inl hsame
  | forward | stop | receive | exit => exact .of_connections rfl

/-! ## Over a run -/

/-- The envelopes that a step starts to publish because of a frame. -/
def causedBy (before after : Cluster Bytes) : Event Bytes → List (Tag × Bytes)
  | .frame id frame _ =>
      let old := (before.footprint id).sent.length
      (List.range' old ((after.footprint id).sent.length - old)).map fun number =>
        (⟨id, number⟩, frame)
  | _ => []

/-- The envelope that a tag stands for, and the connection that published it. -/
def Sent (cluster : Cluster Bytes) (tag : Tag) (sender : Connection Bytes)
    (envelope : Envelope) : Prop :=
  cluster.connections tag.sender = some sender ∧ sender.sent[tag.number]? = some envelope

end Cluster

/-- The cluster with the envelopes that frames have caused. -/
structure Audit (Bytes : Type) where
  cluster : Cluster Bytes
  caused : List (Tag × Bytes)

namespace Audit

variable (codec : Codec Bytes) (audit : Audit Bytes)

def step (event : Cluster.Event Bytes) : Option (Audit Bytes) := do
  let after ← audit.cluster.step codec event
  return { cluster := after, caused := audit.caused ++ audit.cluster.causedBy after event }

/-- A cluster without connections. -/
def system : TransitionSystem (Audit Bytes) (Cluster.Event Bytes) where
  init audit := audit = ⟨.empty, []⟩
  step := step codec

/-- Frames bring messages and edits of their senders into a room, and nothing
else; all else that is published is an announcement of the hub. -/
structure Unspoofed : Prop where
  caused : ∀ tag frame, (tag, frame) ∈ audit.caused → ∃ sender envelope,
    audit.cluster.Sent tag sender envelope ∧ sender.client.Owns envelope
  announced : ∀ tag sender envelope, audit.cluster.Sent tag sender envelope →
    (∃ frame, (tag, frame) ∈ audit.caused) ∨ sender.client.Announces envelope
  /-- What the broker has is the sender's envelope, on the channel of its document. -/
  published : ∀ name, ∀ entry ∈ audit.cluster.channels name, ∃ sender envelope,
    audit.cluster.Sent entry.tag sender envelope ∧ name = channel sender.client.documentId ∧
      codec.marshalMessage ⟨sender.node, envelope⟩ = some entry.payload
  /-- What other clients have is the sender's envelope too. -/
  received : ∀ id connection, audit.cluster.connections id = some connection →
    ∀ message ∈ connection.received, ∀ tag, message.tag = some tag → ∃ sender envelope,
      audit.cluster.Sent tag sender envelope ∧ codec.marshal envelope = some message.bytes
  /-- All other messages answer the client. -/
  replies : ∀ id connection, audit.cluster.connections id = some connection →
    ∀ bytes ∈ untagged connection.received, connection.client.IsReply codec bytes
  /-- Its own goroutine has sent them. -/
  own : ∀ event after, audit.step codec event = some after → ∀ id, event.actor ≠ some id →
    (after.cluster.footprint id).replies = (audit.cluster.footprint id).replies

variable {codec : Codec Bytes} {audit : Audit Bytes}

/-- The invariant, with those of the cluster it rests on. -/
structure Sound (codec : Codec Bytes) (audit : Audit Bytes) : Prop where
  ordered : audit.cluster.Ordered codec False
  addressed : audit.cluster.Addressed
  caused : ∀ tag frame, (tag, frame) ∈ audit.caused → ∃ sender envelope,
    audit.cluster.Sent tag sender envelope ∧ sender.client.Owns envelope
  announced : ∀ tag sender envelope, audit.cluster.Sent tag sender envelope →
    (∃ frame, (tag, frame) ∈ audit.caused) ∨ sender.client.Announces envelope
  replies : ∀ id connection, audit.cluster.connections id = some connection →
    ∀ bytes ∈ untagged connection.received, connection.client.IsReply codec bytes

theorem empty_sound : Sound codec ⟨.empty, []⟩ where
  ordered := Cluster.empty_ordered
  addressed := by simp [Cluster.Addressed, Cluster.empty]
  caused := by simp
  announced := by simp [Cluster.Sent, Cluster.empty]
  replies := by simp [Cluster.empty]

end Audit

namespace Cluster

variable {codec : Codec Bytes} {cluster after : Cluster Bytes} {event : Event Bytes}

theorem Sent.step {tag : Tag} {sender : Connection Bytes} {envelope : Envelope}
    (h : cluster.Sent tag sender envelope) (hlayout : cluster.Layout codec)
    (hstep : Cluster.step codec cluster event = some after) :
    ∃ new, after.Sent tag new envelope ∧ new.client = sender.client := by
  obtain ⟨new, hnew, hclient, hsent⟩ := step_sent hlayout hstep tag.sender sender h.1
  exact ⟨new, ⟨hnew, Foundation.List.getElem?_of_prefix hsent h.2⟩, hclient⟩

/-- An envelope was there before the step, or is the one the step starts to publish. -/
theorem Sent.before {tag : Tag} {sender : Connection Bytes} {envelope : Envelope}
    (h : after.Sent tag sender envelope) (hlayout : cluster.Layout codec)
    (hstep : Cluster.step codec cluster event = some after) :
    (∃ old, cluster.Sent tag old envelope ∧ sender.client = old.client) ∨
      Starts codec cluster event tag.sender envelope ∧
        tag.number = (cluster.footprint tag.sender).sent.length ∧
        (after.footprint tag.sender).sent.length = tag.number + 1 := by
  obtain ⟨hsender, henvelope⟩ := h
  have hafter : after.footprint tag.sender = sender.footprint := footprint_eq hsender
  have hold : (cluster.footprint tag.sender).sent[tag.number]? = some envelope →
      ∃ old, cluster.Sent tag old envelope ∧ sender.client = old.client := by
    intro hfound
    cases hconnection : cluster.connections tag.sender with
    | none => simp [footprint, hconnection] at hfound
    | some old =>
        obtain ⟨new, hnew, hclient, -⟩ := step_sent hlayout hstep tag.sender old hconnection
        cases hnew.symm.trans hsender
        rw [footprint_eq hconnection] at hfound
        exact ⟨old, ⟨hconnection, hfound⟩, hclient⟩
  have hsent : (after.footprint tag.sender).sent[tag.number]? = some envelope := by
    rw [hafter]
    exact henvelope
  rcases step_marks hlayout hstep with hsame | ⟨id, footprint, hleaves, hnew⟩
  · rw [hsame] at hsent
    exact .inl (hold hsent)
  · by_cases heq : tag.sender = id
    · subst heq
      rw [hnew, Function.update_self] at hsent ⊢
      cases hleaves with
      | reply connection bytes hactor hconnection hreply => exact .inl (hold hsent)
      | envelope started hstart =>
          by_cases hlast : tag.number < (cluster.footprint tag.sender).sent.length
          · rw [List.getElem?_append_left hlast] at hsent
            exact .inl (hold hsent)
          · right
            rw [List.getElem?_append_right (not_lt.mp hlast),
              List.getElem?_singleton] at hsent
            split at hsent
            next hzero =>
              cases hsent
              have hnumber : tag.number = (cluster.footprint tag.sender).sent.length := by omega
              exact ⟨hstart, hnumber, by simp [hnumber]⟩
            next => cases hsent
    · rw [hnew, Function.update_of_ne heq] at hsent
      exact .inl (hold hsent)

/-- What a step starts to publish because of a frame was made of that frame. -/
theorem mem_causedBy (hlayout : cluster.Layout codec)
    (hstep : Cluster.step codec cluster event = some after) {tag : Tag} {bytes : Bytes}
    (hmem : (tag, bytes) ∈ cluster.causedBy after event) : ∃ sender envelope,
      after.Sent tag sender envelope ∧ sender.client.Owns envelope := by
  cases event with
  | frame id frame now =>
      simp only [causedBy, List.mem_map, List.mem_range'_1, Prod.mk.injEq] at hmem
      obtain ⟨number, hnumber, rfl, rfl⟩ := hmem
      rcases step_marks hlayout hstep with hsame | ⟨other, footprint, hleaves, hnew⟩
      · rw [hsame] at hnumber
        omega
      · cases hleaves with
        | reply connection reply hactor hconnection hreply =>
            cases hactor
            rw [hnew, Function.update_self] at hnumber
            dsimp only at hnumber
            omega
        | envelope envelope hstart =>
            cases hstart with
            | frame _ connection _ _ handled hconnection hread =>
                obtain ⟨new, hsender, hclient, -⟩ :=
                  step_sent hlayout hstep id connection hconnection
                have hsent : new.sent =
                    connection.sent ++ [connection.client.stamp handled now] := by
                  have hfootprint : new.footprint = _ := (footprint_eq hsender).symm.trans
                    (congrFun hnew id)
                  rw [Function.update_self, footprint_eq hconnection] at hfootprint
                  exact congrArg Footprint.sent hfootprint
                rw [footprint_eq hsender, footprint_eq hconnection] at hnumber
                have hlast : number = connection.sent.length := by
                  have hlength := congrArg List.length hsent
                  simp only [Connection.footprint, List.length_append,
                    List.length_singleton] at hnumber hlength
                  omega
                subst hlast
                refine ⟨new, connection.client.stamp handled now, ⟨hsender, ?_⟩, ?_⟩
                · simp [hsent]
                · rw [hclient]
                  exact connection.client.stamp_owns hread
  | _ => cases hmem

/-- A new envelope that no frame has caused is an announcement. -/
theorem Starts.announces {id : ConnId} {envelope : Envelope}
    (h : Starts codec cluster event id envelope) (hlayout : cluster.Layout codec)
    (hstep : Cluster.step codec cluster event = some after) {sender : Connection Bytes}
    (hsender : after.connections id = some sender) :
    (∃ frame now, event = .frame id frame now) ∨ sender.client.Announces envelope := by
  have hclient : ∀ connection, cluster.connections id = some connection →
      sender.client = connection.client := by
    intro connection hconnection
    obtain ⟨new, hnew, hkept, -⟩ := step_sent hlayout hstep id connection hconnection
    cases hnew.symm.trans hsender
    exact hkept
  cases h with
  | frame _ connection frame now handled hconnection hread => exact .inl ⟨frame, now, rfl⟩
  | join _ connection subscribed now hconnection =>
      rw [hclient connection hconnection]
      exact .inr ⟨now, .inl rfl⟩
  | leave _ connection choice accepted now hconnection =>
      rw [hclient connection hconnection]
      exact .inr ⟨now, .inr rfl⟩

/-- Clients are still told nothing but acknowledgments and errors. -/
theorem replies_step (hlayout : cluster.Layout codec)
    (hstep : Cluster.step codec cluster event = some after)
    (hreplies : ∀ id connection, cluster.connections id = some connection →
      ∀ bytes ∈ untagged connection.received, connection.client.IsReply codec bytes)
    {id : ConnId} {new : Connection Bytes} (hnew : after.connections id = some new)
    {bytes : Bytes} (hmem : bytes ∈ untagged new.received) :
    new.client.IsReply codec bytes := by
  have hclient : ∀ old, cluster.connections id = some old → new.client = old.client := by
    intro old hold
    obtain ⟨found, hfound, hkept, -⟩ := step_sent hlayout hstep id old hold
    cases hfound.symm.trans hnew
    exact hkept
  have hold : bytes ∈ (cluster.footprint id).replies → new.client.IsReply codec bytes := by
    intro hbefore
    cases hconnection : cluster.connections id with
    | none => simp [footprint, hconnection] at hbefore
    | some old =>
        rw [footprint_eq hconnection] at hbefore
        rw [hclient old hconnection]
        exact hreplies id old hconnection bytes hbefore
  have hafter : bytes ∈ (after.footprint id).replies := by
    rw [footprint_eq hnew]
    exact hmem
  rcases step_marks hlayout hstep with hsame | ⟨other, footprint, hleaves, hupdate⟩
  · rw [hsame] at hafter
    exact hold hafter
  · by_cases heq : id = other
    · subst heq
      rw [hupdate, Function.update_self] at hafter
      cases hleaves with
      | envelope envelope hstart => exact hold hafter
      | reply connection reply hactor hconnection hreply =>
          rcases List.mem_append.mp hafter with hbefore | hlast
          · exact hold hbefore
          · rw [List.mem_singleton.mp hlast, hclient connection hconnection]
            exact hreply
    · rw [hupdate, Function.update_of_ne heq] at hafter
      exact hold hafter

end Cluster

namespace Audit

variable {codec : Codec Bytes} {audit : Audit Bytes}

theorem Sound.step (h : audit.Sound codec) (hcodec : codec.Preserves)
    {event : Cluster.Event Bytes} {after : Audit Bytes}
    (hstep : audit.step codec event = some after) : after.Sound codec := by
  obtain ⟨cluster, hcluster, hafter⟩ := Option.bind_eq_some_iff.mp hstep
  cases hafter
  have hlayout := h.ordered.layout
  refine ⟨h.ordered.step hcodec.keepsOrigin False.elim hcluster,
    h.addressed.step hlayout hcluster, ?_, ?_, ?_⟩
  · intro tag frame hmem
    rcases List.mem_append.mp hmem with hold | hnew
    · obtain ⟨sender, envelope, hsent, howns⟩ := h.caused tag frame hold
      obtain ⟨new, hnew, hclient⟩ := hsent.step hlayout hcluster
      exact ⟨new, envelope, hnew, hclient ▸ howns⟩
    · exact Cluster.mem_causedBy hlayout hcluster hnew
  · intro tag sender envelope hsent
    rcases hsent.before hlayout hcluster with ⟨old, hold, hclient⟩ | ⟨hstart, hnumber, hlength⟩
    · rcases h.announced tag old envelope hold with ⟨frame, hmem⟩ | hannounces
      · exact .inl ⟨frame, List.mem_append_left _ hmem⟩
      · exact .inr (hclient ▸ hannounces)
    · rcases hstart.announces hlayout hcluster hsent.1 with ⟨frame, now, hevent⟩ | hannounces
      · refine .inl ⟨frame, List.mem_append_right _ ?_⟩
        subst hevent
        have hgrown : (cluster.footprint tag.sender).sent.length = tag.number + 1 := hlength
        simp only [Cluster.causedBy, List.mem_map, List.mem_range'_1]
        exact ⟨tag.number, by omega, rfl⟩
      · exact .inr hannounces
  · intro id new hnew bytes hmem
    exact Cluster.replies_step hlayout hcluster h.replies hnew hmem

theorem Sound.unspoofed (h : audit.Sound codec) (hcodec : codec.Preserves) :
    audit.Unspoofed codec where
  caused := h.caused
  announced := h.announced
  published name entry hentry := by
    obtain ⟨sender, hsender, hname⟩ := h.addressed name entry hentry
    obtain ⟨v, hv, -, envelope, henvelope, -, hpayload⟩ :=
      h.ordered.layout.entry name entry hentry
    cases (Cluster.view_eq hsender).symm.trans hv
    exact ⟨sender, envelope, ⟨hsender, henvelope⟩, hname, hpayload⟩
  received id connection hconnection message hmessage tag htag := by
    obtain ⟨v, envelope, hv, henvelope, hrenders⟩ :=
      h.ordered.faithful id connection hconnection message hmessage tag htag
    obtain ⟨sender, hsender, rfl⟩ := Option.map_eq_some_iff.mp hv
    exact ⟨sender, envelope, ⟨hsender, henvelope⟩, hcodec.marshal_of_renders hrenders⟩
  replies := h.replies
  own event after hstep id hactor := by
    obtain ⟨cluster, hcluster, hafter⟩ := Option.bind_eq_some_iff.mp hstep
    cases hafter
    dsimp only
    rcases Cluster.step_marks h.ordered.layout hcluster with hsame | ⟨other, new, hleaves, hnew⟩
    · rw [hsame]
    · by_cases heq : id = other
      · subst heq
        rw [hnew, Function.update_self]
        cases hleaves with
        | envelope envelope hstart => rfl
        | reply connection bytes hmoves => exact absurd hmoves hactor
      · rw [hnew, Function.update_of_ne heq]

/-- Whatever frames clients send, what reaches a room because of them has the
sender's identity, and nobody but the hub announces or answers. -/
theorem reachable_unspoofed (hcodec : codec.Preserves) (hreach : (system codec).Reachable audit) :
    audit.Unspoofed codec := by
  have hsound : audit.Sound codec := by
    refine hreach.invariant (system codec) (Sound codec) ?_ ?_
    · intro state hinit
      cases hinit
      exact empty_sound
    · exact fun state event after _ h _ hstep => h.step hcodec hstep
  exact hsound.unspoofed hcodec

/-- A client claims another user, another document and another time. -/
def forgingRun : List (Cluster.Event (Envelope ⊕ EnvelopeMessage)) :=
  Cluster.enter 0 "node-a" ⟨1, "owner", 7, "OWNER", 64⟩ ++
    [.frame 0 (.inl ⟨.participantLeft, 7, "", 0, 0, none⟩) 0,
      .frame 0 (.inl ⟨.docChange, 8, "edit", 2, 0, none⟩) 5, .run 0 0 true 5, .run 0 0 true 5,
      .run 0 0 true 5, .run 0 0 true 5]

theorem reachable_unspoofed_forged :
    ∃ audit : Audit (Envelope ⊕ EnvelopeMessage), (system plainCodec).Reachable audit ∧
      audit.Unspoofed plainCodec ∧ (audit.caused.map Prod.fst = [⟨0, 1⟩] ∧
        (audit.cluster.channels (channel 7)).length = 2) := by
  obtain ⟨audit, hreach, hrun⟩ := (system plainCodec).exists_reachable_of_exec
    (.init rfl : (system plainCodec).Reachable ⟨.empty, []⟩) forgingRun
    (fun audit => audit.caused.map Prod.fst = [⟨0, 1⟩] ∧
      (audit.cluster.channels (channel 7)).length = 2) (by decide)
  exact ⟨audit, hreach, reachable_unspoofed plainCodec_preserves hreach, of_decide_eq_true hrun⟩

end Audit

end CollabEditor.Hub
