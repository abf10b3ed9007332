import CollabEditor.Hub.Provenance
import Mathlib.Algebra.Ring.Int.Defs

/-! # Who has been announced

A client is put into its room, and taken out of it, under the mutex of its node. The
announcement follows once the mutex is free, so that those of several clients overtake
each other, and messages of others come in between.
-/

namespace CollabEditor.Hub

open Foundation
open Backend (DocumentId Instant)

variable {Bytes : Type}

/-- Go writes what the hub tells a room about a client. -/
def Codec.WritesAnnouncements (codec : Codec Bytes) : Prop :=
  ∀ (client : Client) (type : MessageType) (message : String) (now : Instant) (node : NodeId),
    (codec.marshal (client.participantEnvelope type message now)).isSome = true ∧
      (codec.marshalMessage ⟨node, client.participantEnvelope type message now⟩).isSome = true

theorem plainCodec_writesAnnouncements : plainCodec.WritesAnnouncements :=
  fun _ _ _ _ _ => ⟨rfl, rfl⟩

/-- What an envelope changes about the number of clients in its room. -/
def Envelope.change (envelope : Envelope) : Int :=
  match envelope.type with
  | .participantJoined => 1
  | .participantLeft => -1
  | _ => 0

theorem Client.Owns.change {client : Client} {envelope : Envelope} (h : client.Owns envelope) :
    envelope.change = 0 := by
  unfold Envelope.change
  rcases h.type with htype | htype <;> rw [htype]

/-- What is published before the goroutine goes on in the given way. -/
def Client.Publishes (client : Client) : Continuation → Envelope → Prop
  | .acknowledge, envelope =>
      ∃ now, envelope = client.participantEnvelope .participantJoined "participant joined" now
  | .read, envelope => client.Owns envelope
  | .close _, envelope =>
      ∃ now, envelope = client.participantEnvelope .participantLeft "participant left" now

/-! ## One connection -/

/-- The client is in its room while the goroutine publishes. -/
def Continuation.seated : Continuation → Bool
  | .acknowledge | .read => true
  | .close _ => false

/-- The broker has been told that the client is there, and not that it has left. -/
def Continuation.announced : Continuation → Bool
  | .acknowledge => false
  | .read | .close _ => true

/-- What is announced: that the client has joined (`true`) or left. -/
def Continuation.joins : Continuation → Option Bool
  | .acknowledge => some true
  | .read => none
  | .close _ => some false

namespace Stage

/-- How the goroutine goes on after its publication. -/
def next : Stage Bytes → Option Continuation
  | .broadcasting _ _ next | .publishing _ _ next => some next
  | _ => none

/-- The client is in its room. -/
def seated : Stage Bytes → Bool
  | .broadcasting _ _ next | .publishing _ _ next => next.seated
  | .acknowledging | .reading | .unregistering => true
  | .connecting | .closing _ | .closingSubscription _ | .finished => false

/-- The broker has been told that the client is there, and not that it has left. -/
def announced : Stage Bytes → Bool
  | .broadcasting _ _ next | .publishing _ _ next => next.announced
  | .acknowledging | .reading | .unregistering => true
  | .connecting | .closing _ | .closingSubscription _ | .finished => false

/-- `Unregister` has been called, or there is nothing to unregister. -/
def leaving : Stage Bytes → Bool
  | .broadcasting _ _ next | .publishing _ _ next => !next.seated
  | .unregistering | .closing _ | .closingSubscription _ | .finished => true
  | .connecting | .acknowledging | .reading => false

end Stage

namespace Connection

variable {codec : Codec Bytes}

/-- What a connection has announced fits its stage. -/
structure Announces (connection : Connection Bytes) : Prop where
  sum : (connection.sent.map Envelope.change).sum = if connection.stage.seated then 1 else 0
  /-- What is being published is the last envelope. -/
  current : ∀ next, connection.stage.next = some next → ∃ before envelope,
    connection.sent = before ++ [envelope] ∧ connection.client.Publishes next envelope
  leaving : connection.unregistered = true → connection.stage.leaving = true

/-- Nothing has changed that has to do with announcements. -/
structure Stays (old new : Connection Bytes) : Prop where
  node : new.node = old.node
  client : new.client = old.client
  sent : new.sent = old.sent
  stage : new.stage = old.stage
  unregistered : new.unregistered = old.unregistered

theorem Stays.announces {old new : Connection Bytes} (hstays : old.Stays new)
    (h : old.Announces) : new.Announces where
  sum := by
    rw [hstays.sent, hstays.stage]
    exact h.sum
  current := by
    rw [hstays.sent, hstays.stage, hstays.client]
    exact h.current
  leaving := by
    rw [hstays.unregistered, hstays.stage]
    exact h.leaving

theorem offer_stays (connection : Connection Bytes) (message : Message Bytes) :
    connection.Stays (connection.offer message) := by
  unfold offer
  split <;> exact ⟨rfl, rfl, rfl, rfl, rfl⟩

theorem sendEnvelope_stays (connection : Connection Bytes) (envelope : Envelope) :
    connection.Stays (connection.sendEnvelope codec envelope) := by
  unfold sendEnvelope
  split
  next => exact ⟨rfl, rfl, rfl, rfl, rfl⟩
  next => exact connection.offer_stays _

/-- Another stage in which nothing is being published. -/
theorem Announces.rest {old new : Connection Bytes} (h : old.Announces)
    (hsent : new.sent = old.sent) (hseated : new.stage.seated = old.stage.seated)
    (hnext : new.stage.next = none)
    (hleaving : new.unregistered = true → new.stage.leaving = true) : new.Announces where
  sum := by
    rw [hsent, hseated]
    exact h.sum
  current next hfound := by
    rw [hnext] at hfound
    cases hfound
  leaving := hleaving

/-- The goroutine goes on after its publication. -/
theorem proceed_announcing (connection : Connection Bytes) (codec : Codec Bytes) (failed : Bool)
    (next : Continuation) :
    (connection.proceed codec failed next).node = connection.node ∧
      (connection.proceed codec failed next).client = connection.client ∧
      (connection.proceed codec failed next).sent = connection.sent ∧
      (connection.proceed codec failed next).unregistered = connection.unregistered ∧
      (connection.proceed codec failed next).stage.seated = next.seated ∧
      (connection.proceed codec failed next).stage.announced = next.seated ∧
      (connection.proceed codec failed next).stage.next = none ∧
      (connection.proceed codec failed next).stage.leaving = !next.seated := by
  cases next with
  | acknowledge => exact ⟨rfl, rfl, rfl, rfl, rfl, rfl, rfl, rfl⟩
  | close subscription => exact ⟨rfl, rfl, rfl, rfl, rfl, rfl, rfl, rfl⟩
  | read =>
      cases failed with
      | false => exact ⟨rfl, rfl, rfl, rfl, rfl, rfl, rfl, rfl⟩
      | true =>
          have hstays : connection.Stays (connection.sendError codec "publish_failed"
            "message could not be delivered") := connection.sendEnvelope_stays _
          exact ⟨hstays.node, hstays.client, hstays.sent, hstays.unregistered, rfl, rfl, rfl, rfl⟩

theorem Announces.proceed {connection : Connection Bytes} (h : connection.Announces)
    {next : Continuation} (hnext : connection.stage.next = some next) (failed : Bool) :
    (connection.proceed codec failed next).Announces := by
  obtain ⟨-, -, hsent, hunregistered, hseated, -, hnone, hleaving⟩ :=
    connection.proceed_announcing codec failed next
  have hstage : connection.stage.seated = next.seated ∧
      connection.stage.leaving = !next.seated := by
    cases hstage : connection.stage <;> rw [hstage] at hnext <;> cases hnext <;> exact ⟨rfl, rfl⟩
  refine h.rest hsent (hseated.trans hstage.1.symm) hnone fun hfound => ?_
  rw [hleaving, ← hstage.2]
  exact h.leaving (hunregistered ▸ hfound)

/-- The goroutine starts to publish. -/
theorem Announces.start (connection : Connection Bytes) (id : ConnId) (next : Continuation)
    {envelope : Envelope} {bytes : Bytes} (hmarshal : codec.marshal envelope = some bytes)
    (hpublishes : connection.client.Publishes next envelope)
    (hsum : (connection.sent.map Envelope.change).sum + envelope.change =
      if next.seated then 1 else 0)
    (hleaving : connection.unregistered = true → next.seated = false) :
    (connection.publish codec id envelope next).Announces ∧
      (connection.publish codec id envelope next).node = connection.node ∧
      (connection.publish codec id envelope next).client = connection.client ∧
      (connection.publish codec id envelope next).stage.seated = next.seated ∧
      (connection.publish codec id envelope next).stage.announced = next.announced := by
  have hpublish : connection.publish codec id envelope next =
      { connection with
        sent := connection.sent ++ [envelope]
        stage := .broadcasting
          { tag := ⟨id, connection.sent.length⟩
            localBytes := bytes
            payload := codec.marshalMessage ⟨connection.node, envelope⟩ } .lookup next } := by
    simp only [publish, hmarshal]
  rw [hpublish]
  refine ⟨⟨?_, ?_, ?_⟩, rfl, rfl, rfl, rfl⟩
  · rw [List.map_append, List.sum_append, List.map_singleton, List.sum_singleton]
    exact hsum
  · intro found hfound
    cases hfound
    exact ⟨connection.sent, envelope, rfl, hpublishes⟩
  · intro hunregistered
    show (!next.seated) = true
    rw [hleaving hunregistered, Bool.not_false]

end Connection

/-! ## The rooms -/

namespace Cluster

variable {codec : Codec Bytes} {cluster : Cluster Bytes}

/-- The client is in the room of the document. -/
def inRoom (cluster : Cluster Bytes) (documentId : DocumentId) (id : ConnId) : Bool :=
  (cluster.connections id).any fun connection =>
    connection.client.documentId = documentId ∧
      (cluster.rooms connection.node documentId).any fun room => id ∈ room.clients

/-- The broker has been told that the client is in the room, and not that it has left. -/
def announced (cluster : Cluster Bytes) (documentId : DocumentId) (id : ConnId) : Bool :=
  (cluster.connections id).any fun connection =>
    connection.client.documentId = documentId ∧ connection.stage.announced = true

/-- The clients of a node in a room. -/
def members (cluster : Cluster Bytes) (node : NodeId) (documentId : DocumentId) : Finset ConnId :=
  match cluster.rooms node documentId with
  | none => ∅
  | some room => room.clients

theorem members_congr {after : Cluster Bytes} (hrooms : after.rooms = cluster.rooms) :
    after.members = cluster.members := by
  unfold members
  rw [hrooms]

theorem members_setRoom (cluster : Cluster Bytes) (node otherNode : NodeId)
    (documentId other : DocumentId) (row : Option Room) :
    (cluster.setRoom node documentId row).members otherNode other =
      if otherNode = node ∧ other = documentId then row.elim ∅ Room.clients
      else cluster.members otherNode other := by
  unfold members Cluster.setRoom
  by_cases hnode : otherNode = node
  · subst hnode
    by_cases hdocument : other = documentId
    · subst hdocument
      cases row <;> simp
    · simp [hdocument]
  · simp [hnode]

theorem mem_members {node : NodeId} {documentId : DocumentId} {id : ConnId} :
    id ∈ cluster.members node documentId ↔
      ∃ room, cluster.rooms node documentId = some room ∧ id ∈ room.clients := by
  unfold members
  cases cluster.rooms node documentId <;> simp

/-- Every connection has announced what fits its stage, and is in its room if its stage
says so. -/
structure Announcing (cluster : Cluster Bytes) : Prop where
  connection : ∀ id connection, cluster.connections id = some connection → connection.Announces
  seated : ∀ id connection, cluster.connections id = some connection →
    (id ∈ cluster.members connection.node connection.client.documentId ↔
      connection.stage.seated = true)

theorem empty_announcing : (empty : Cluster Bytes).Announcing where
  connection _ _ hconnection := by cases hconnection
  seated _ _ hconnection := by cases hconnection

theorem Announcing.inRoom_iff (h : cluster.Announcing) {documentId : DocumentId} {id : ConnId} :
    cluster.inRoom documentId id = true ↔ ∃ connection, cluster.connections id = some connection ∧
      connection.client.documentId = documentId ∧ connection.stage.seated = true := by
  simp only [inRoom, Option.any_eq_true, decide_eq_true_eq]
  constructor
  · rintro ⟨connection, hconnection, rfl, hmember⟩
    exact ⟨connection, hconnection, rfl,
      (h.seated id connection hconnection).mp (mem_members.mpr hmember)⟩
  · rintro ⟨connection, hconnection, rfl, hseated⟩
    exact ⟨connection, hconnection, rfl,
      mem_members.mp ((h.seated id connection hconnection).mpr hseated)⟩

/-- Only `Register` puts a client into a room. -/
theorem inRoom_before (hlayout : cluster.Layout codec) {event : Event Bytes}
    {after : Cluster Bytes} (hstep : step codec cluster event = some after)
    {documentId : DocumentId} {id : ConnId} (hroom : after.inRoom documentId id = true) :
    cluster.inRoom documentId id = true ∨ ∃ subscribed now connection,
      event = .register id subscribed now ∧ cluster.connections id = some connection ∧
        connection.client.documentId = documentId := by
  simp only [inRoom, Option.any_eq_true, decide_eq_true_eq] at hroom ⊢
  obtain ⟨new, hnew, rfl, room, hfound, hmember⟩ := hroom
  have hclient : ∀ old, cluster.connections id = some old → new.client = old.client := by
    intro old hold
    obtain ⟨found, hfound, hsame, -⟩ := step_sent hlayout hstep id old hold
    cases hfound.symm.trans hnew
    exact hsame
  have hinside : after.InRoom id := ⟨new, room, hnew, hfound, hmember⟩
  rcases hinside.before hlayout hstep with
    ⟨old, earlier, hold, hroom, hthere⟩ | ⟨subscribed, now, rfl⟩
  · have hdocument : old.client.documentId = new.client.documentId := by rw [hclient old hold]
    exact .inl ⟨old, hold, hdocument, earlier, hdocument ▸ hroom, hthere⟩
  · obtain ⟨old, hold, -⟩ := Option.bind_eq_some_iff.mp hstep
    exact .inr ⟨subscribed, now, old, rfl, hold, by rw [hclient old hold]⟩

/-- A goroutine moves. The other clients stay in their rooms. -/
theorem Announcing.update (h : cluster.Announcing) {after : Cluster Bytes} {id : ConnId}
    {new : Connection Bytes}
    (hconnections : after.connections = Function.update cluster.connections id (some new))
    (hnew : new.Announces)
    (hself : id ∈ after.members new.node new.client.documentId ↔ new.stage.seated = true)
    (hothers : ∀ other ≠ id, ∀ node documentId, other ∈ after.members node documentId ↔
      other ∈ cluster.members node documentId) : after.Announcing := by
  have hlookup : ∀ other found, after.connections other = some found →
      other = id ∧ found = new ∨ other ≠ id ∧ cluster.connections other = some found := by
    intro other found hfound
    rw [hconnections] at hfound
    by_cases heq : other = id
    · subst heq
      exact .inl ⟨rfl, Option.some.inj (hfound.symm.trans (Function.update_self ..))⟩
    · exact .inr ⟨heq, (Function.update_of_ne heq ..).symm.trans hfound⟩
  refine ⟨fun other found hfound => ?_, fun other found hfound => ?_⟩
  · rcases hlookup other found hfound with ⟨-, rfl⟩ | ⟨-, hkept⟩
    · exact hnew
    · exact h.connection other found hkept
  · rcases hlookup other found hfound with ⟨rfl, rfl⟩ | ⟨hne, hkept⟩
    · exact hself
    · rw [hothers other hne]
      exact h.seated other found hkept

/-- A goroutine moves, and the rooms stay as they are. -/
theorem Announcing.setConnection (h : cluster.Announcing) {between : Cluster Bytes} {id : ConnId}
    {old new : Connection Bytes} (hold : cluster.connections id = some old)
    (hnew : new.Announces) (hnode : new.node = old.node) (hclient : new.client = old.client)
    (hseated : new.stage.seated = old.stage.seated)
    (hconnections : between.connections = cluster.connections)
    (hrooms : between.rooms = cluster.rooms) : (between.setConnection id new).Announcing := by
  have hmembers : (between.setConnection id new).members = cluster.members := members_congr hrooms
  refine h.update (by rw [← hconnections]; rfl) hnew ?_ fun other _ node documentId => ?_
  · rw [hmembers, hnode, hclient, hseated]
    exact h.seated id old hold
  · rw [hmembers]

theorem Announcing.modifyConnection (h : cluster.Announcing) (id : ConnId)
    {change : Connection Bytes → Connection Bytes}
    (hchange : ∀ connection : Connection Bytes, connection.Stays (change connection)) :
    (cluster.modifyConnection id change).Announcing := by
  unfold Cluster.modifyConnection
  split
  next => exact h
  next connection hconnection =>
    have hstays := hchange connection
    exact h.setConnection hconnection (hstays.announces (h.connection id connection hconnection))
      hstays.node hstays.client (congrArg Stage.seated hstays.stage) rfl rfl

/-- A broadcast announces nothing by itself. -/
theorem Announcing.advanceBroadcast (h : cluster.Announcing) {node : NodeId}
    {documentId : DocumentId} {message : Message Bytes} {choice : ConnId} {progress : Progress}
    {after : Cluster Bytes} {result : Option Progress}
    (hadvance : cluster.advanceBroadcast node documentId message choice progress =
      some (after, result)) :
    after.Announcing ∧ ∀ id old, cluster.connections id = some old → ∃ new,
      after.connections id = some new ∧ old.Stays new := by
  have hmodify : ∀ {change : Connection Bytes → Connection Bytes},
      (∀ connection : Connection Bytes, connection.Stays (change connection)) →
      (cluster.modifyConnection choice change).Announcing ∧
        ∀ id old, cluster.connections id = some old → ∃ new,
          (cluster.modifyConnection choice change).connections id = some new ∧ old.Stays new := by
    intro change hchange
    refine ⟨h.modifyConnection choice hchange, fun id old hold => ?_⟩
    by_cases heq : id = choice
    · subst heq
      exact ⟨change old, modifyConnection_self hold change, hchange old⟩
    · refine ⟨old, ?_, ⟨rfl, rfl, rfl, rfl, rfl⟩⟩
      unfold Cluster.modifyConnection
      split
      · exact hold
      · exact (Function.update_of_ne heq ..).trans hold
  cases advanceBroadcast_cases cluster hadvance with
  | absent | found | done => exact ⟨h, fun _ old hold => ⟨old, hold, ⟨rfl, rfl, rfl, rfl, rfl⟩⟩⟩
  | offer => exact hmodify fun connection => connection.offer_stays message
  | drop => exact hmodify fun connection => ⟨rfl, rfl, rfl, rfl, rfl⟩

/-! ### Coming and going -/

/-- A client is put into the room. -/
theorem Announcing.join (h : cluster.Announcing) (hcodec : codec.WritesAnnouncements)
    {between : Cluster Bytes} {id : ConnId} {connection : Connection Bytes}
    (hconnection : cluster.connections id = some connection)
    (hstage : connection.stage = .connecting)
    (hconnections : between.connections = cluster.connections) (room : Room)
    (hroom : room.clients = cluster.members connection.node connection.client.documentId)
    (hrooms : between.rooms = cluster.rooms) (now : Instant) :
    ((between.setRoom connection.node connection.client.documentId
        (some { room with clients := insert id room.clients })).setConnection id
      (({ connection with subscription := some room.sub } : Connection Bytes).publish codec id
        (connection.client.participantEnvelope .participantJoined "participant joined" now)
        .acknowledge)).Announcing := by
  have hold := h.connection id connection hconnection
  obtain ⟨bytes, hbytes⟩ := Option.isSome_iff_exists.mp
    (hcodec connection.client .participantJoined "participant joined" now connection.node).1
  have hnone : (connection.sent.map Envelope.change).sum = 0 := by
    rw [hold.sum, hstage]
    rfl
  obtain ⟨hnew, hnode, hclient, hseated, -⟩ := Connection.Announces.start
    { connection with subscription := some room.sub } id .acknowledge hbytes ⟨now, rfl⟩
    (by rw [hnone]; rfl) fun hunregistered => by
      have hleaving := hold.leaving hunregistered
      rw [hstage] at hleaving
      cases hleaving
  refine h.update (congrArg (Function.update · _ _) hconnections) hnew ?_
    fun other hne node documentId => ?_
  · rw [hnode, hclient, hseated]
    show id ∈ (between.setRoom _ _ _).members _ _ ↔ _
    rw [members_setRoom, if_pos ⟨rfl, rfl⟩]
    exact ⟨fun _ => rfl, fun _ => Finset.mem_insert_self id room.clients⟩
  · show other ∈ (between.setRoom _ _ _).members _ _ ↔ _
    rw [members_setRoom, members_congr hrooms]
    split
    next heq =>
      obtain ⟨rfl, rfl⟩ := heq
      show other ∈ insert id room.clients ↔ _
      rw [Finset.mem_insert, hroom, or_iff_right hne]
    next => rfl

/-- `Register`. -/
theorem Announcing.register (h : cluster.Announcing) (hcodec : codec.WritesAnnouncements)
    {id : ConnId} {connection : Connection Bytes}
    (hconnection : cluster.connections id = some connection)
    (hstage : connection.stage = .connecting) (subscribed : Bool) (now : Instant) :
    (cluster.register codec id connection subscribed now).Announcing := by
  unfold Cluster.register
  dsimp only
  split
  next room hroom =>
    exact h.join hcodec hconnection hstage rfl room (by simp [members, hroom]) rfl now
  next hnone =>
    split
    next =>
      have hsame : (cluster.subscribe connection.node
          connection.client.documentId).connections = cluster.connections := rfl
      exact h.join hcodec hconnection hstage hsame ⟨∅, cluster.nextSubscription⟩
        (by simp [members, hnone]) rfl now
    next =>
      refine h.setConnection hconnection ?_ rfl rfl (by rw [hstage]; rfl) rfl rfl
      exact (h.connection id connection hconnection).rest rfl (by rw [hstage]; rfl) rfl
        fun _ => rfl

/-- `Unregister` finds the room, since the client is in it. -/
theorem Announcing.room (h : cluster.Announcing) {id : ConnId} {connection : Connection Bytes}
    (hconnection : cluster.connections id = some connection)
    (hseated : connection.stage.seated = true) :
    ∃ room, cluster.rooms connection.node connection.client.documentId = some room ∧
      id ∈ room.clients :=
  mem_members.mp ((h.seated id connection hconnection).mpr hseated)

theorem Announcing.leave (h : cluster.Announcing) (hcodec : codec.WritesAnnouncements)
    {id : ConnId} {connection : Connection Bytes}
    (hconnection : cluster.connections id = some connection)
    (hstage : connection.stage = .unregistering) (now : Instant) :
    (cluster.leave codec id connection now).Announcing := by
  have hold := h.connection id connection hconnection
  obtain ⟨room, hroom, -⟩ := h.room hconnection (by rw [hstage]; rfl)
  obtain ⟨bytes, hbytes⟩ := Option.isSome_iff_exists.mp
    (hcodec connection.client .participantLeft "participant left" now connection.node).1
  have hone : (connection.sent.map Envelope.change).sum = 1 := by
    rw [hold.sum, hstage]
    rfl
  have hleft : (if room.clients.erase id = ∅ then none
      else some { room with clients := room.clients.erase id } : Option Room).elim ∅ Room.clients =
        room.clients.erase id := by
    split
    next hempty => exact hempty.symm
    next => rfl
  have hmember : cluster.members connection.node connection.client.documentId = room.clients := by
    simp [members, hroom]
  unfold Cluster.leave
  simp only [hroom]
  obtain ⟨hnew, hnode, hclient, hseated, -⟩ := Connection.Announces.start
    connection id (.close (if room.clients.erase id = ∅ then some room.sub else none)) hbytes
    ⟨now, rfl⟩ (by rw [hone]; rfl) fun _ => rfl
  refine h.update rfl hnew ?_ fun other hne node documentId => ?_
  · rw [hnode, hclient, hseated]
    show id ∈ (cluster.setRoom _ _ _).members _ _ ↔ _
    rw [members_setRoom, if_pos ⟨rfl, rfl⟩, hleft]
    exact ⟨fun hstill => absurd hstill (Finset.notMem_erase id room.clients), nofun⟩
  · show other ∈ (cluster.setRoom _ _ _).members _ _ ↔ _
    rw [members_setRoom]
    split
    next heq =>
      obtain ⟨rfl, rfl⟩ := heq
      rw [hleft, hmember, Finset.mem_erase, and_iff_right hne]
    next => rfl

/-! ### One step -/

theorem Announcing.readFrame (h : cluster.Announcing) {id : ConnId}
    {connection : Connection Bytes} (hconnection : cluster.connections id = some connection)
    (hstage : connection.stage = .reading) (frame : Bytes) (now : Instant) :
    (cluster.readFrame codec id connection frame now).Announcing := by
  have hold := h.connection id connection hconnection
  unfold Cluster.readFrame
  split
  next code message _ =>
    have hstays : connection.Stays (connection.sendError codec code message) :=
      connection.sendEnvelope_stays _
    exact h.setConnection hconnection (hstays.announces hold) hstays.node hstays.client
      (congrArg Stage.seated hstays.stage) rfl rfl
  next envelope hread =>
    have howns : connection.client.Owns (connection.client.stamp envelope now) :=
      connection.client.stamp_owns hread
    cases hmarshal : codec.marshal (connection.client.stamp envelope now) with
    | none =>
        -- the client is told, and the goroutine goes on reading
        obtain ⟨hnode, hclient, hsent, hunregistered, hseated, -, hnone, hleaving⟩ :=
          connection.proceed_announcing codec true .read
        simp only [Connection.publish, hmarshal]
        refine h.setConnection hconnection (hold.rest hsent ?_ hnone fun hfound => ?_) hnode hclient
          ?_ rfl rfl
        · rw [hseated, hstage]
          rfl
        · have hearlier := hold.leaving (hunregistered ▸ hfound)
          rw [hstage] at hearlier
          cases hearlier
        · rw [hseated, hstage]
          rfl
    | some bytes =>
        obtain ⟨hnew, hnode, hclient, hseated, -⟩ := Connection.Announces.start
          connection id .read hmarshal howns
          (by rw [hold.sum, howns.change, hstage]; rfl) fun hunregistered => by
            have hleaving := hold.leaving hunregistered
            rw [hstage] at hleaving
            cases hleaving
        exact h.setConnection hconnection hnew hnode hclient (by rw [hseated, hstage]; rfl) rfl rfl

/-- The stage of a goroutine that goes on with its broadcast. -/
theorem Announcing.afterBroadcast (h : cluster.Announcing) {id : ConnId}
    {connection : Connection Bytes} (hconnection : cluster.connections id = some connection)
    {publication : Publication Bytes} {progress : Progress} {next : Continuation}
    (hstage : connection.stage = .broadcasting publication progress next)
    (result : Option Progress) :
    (cluster.modifyConnection id (·.afterBroadcast codec publication next result)).Announcing := by
  have hold := h.connection id connection hconnection
  have hnext : connection.stage.next = some next := by rw [hstage]; rfl
  have hseated : connection.stage.seated = next.seated := by rw [hstage]; rfl
  have hleaving : connection.stage.leaving = !next.seated := by rw [hstage]; rfl
  rw [modifyConnection_eq hconnection]
  have hstill : ∀ stage : Stage Bytes, stage.next = some next → stage.seated = next.seated →
      stage.leaving = !next.seated → (cluster.setConnection id
        (connection.withStage stage)).Announcing := by
    intro stage hfound hsame hleaves
    refine h.setConnection hconnection ⟨?_, fun other hother => ?_, fun hunregistered => ?_⟩ rfl rfl
      (hsame.trans hseated.symm) rfl rfl
    · show _ = if stage.seated then (1 : Int) else 0
      rw [hsame, ← hseated]
      exact hold.sum
    · exact hold.current other (hnext.trans (hfound.symm.trans hother))
    · show stage.leaving = true
      rw [hleaves, ← hleaving]
      exact hold.leaving hunregistered
  cases result with
  | some rest => exact hstill (.broadcasting publication rest next) rfl rfl rfl
  | none =>
      unfold Connection.afterBroadcast
      dsimp only
      split
      next payload _ => exact hstill (.publishing publication.tag payload next) rfl rfl rfl
      next =>
        obtain ⟨hnode, hclient, -, -, hafter, -⟩ :=
          connection.proceed_announcing codec true next
        exact h.setConnection hconnection (hold.proceed hnext true) hnode hclient
          (hafter.trans hseated.symm) rfl rfl

theorem Announcing.run (h : cluster.Announcing) (hcodec : codec.WritesAnnouncements) {id : ConnId}
    {connection : Connection Bytes} (hconnection : cluster.connections id = some connection)
    {choice : ConnId} {accepted : Bool} {now : Instant} {after : Cluster Bytes}
    (hrun : cluster.run codec id connection choice accepted now = some after) :
    after.Announcing := by
  have hold := h.connection id connection hconnection
  -- the goroutine does not publish, and stays in its room or outside of it
  have hrest : ∀ {between : Cluster Bytes} {new : Connection Bytes}, new.node = connection.node →
      new.client = connection.client → new.sent = connection.sent →
      new.stage.seated = connection.stage.seated → new.stage.next = none →
      (new.unregistered = true → new.stage.leaving = true) →
      between.connections = cluster.connections → between.rooms = cluster.rooms →
      (between.setConnection id new).Announcing := by
    intro between new hnode hclient hsent hseated hnext hleaving hconnections hrooms
    exact h.setConnection hconnection (hold.rest hsent hseated hnext hleaving) hnode hclient hseated
      hconnections hrooms
  have hproceed : ∀ {between : Cluster Bytes} {next : Continuation} (failed : Bool),
      connection.stage.next = some next → connection.stage.seated = next.seated →
      between.connections = cluster.connections → between.rooms = cluster.rooms →
      (between.setConnection id (connection.proceed codec failed next)).Announcing := by
    intro between next failed hnext hseated hconnections hrooms
    obtain ⟨hnode, hclient, -, -, hafter, -⟩ :=
      connection.proceed_announcing codec failed next
    exact h.setConnection hconnection (hold.proceed hnext failed) hnode hclient
      (hafter.trans hseated.symm) hconnections hrooms
  cases run_cases codec cluster hrun with
  | broadcast publication progress next moved result hstage hadvance =>
      obtain ⟨hmoved, hkept⟩ := h.advanceBroadcast hadvance
      obtain ⟨new, hnew, hstays⟩ := hkept id connection hconnection
      exact hmoved.afterBroadcast hnew (hstays.stage.trans hstage) result
  | accept tag payload next hstage =>
      exact hproceed false (by rw [hstage]; rfl) (by rw [hstage]; rfl) rfl rfl
  | refuse tag payload next hstage =>
      exact hproceed true (by rw [hstage]; rfl) (by rw [hstage]; rfl) rfl rfl
  | acknowledge hstage =>
      have hstays : connection.Stays
          (connection.sendEnvelope codec connection.client.ackEnvelope) :=
        connection.sendEnvelope_stays _
      refine hrest hstays.node hstays.client hstays.sent (by rw [hstage]; rfl) rfl ?_ rfl rfl
      intro hunregistered
      have hleaving := hold.leaving (hstays.unregistered ▸ hunregistered)
      rw [hstage] at hleaving
      cases hleaving
  | unregister hstage => exact h.leave hcodec hconnection hstage now
  | close hstage =>
      exact hrest rfl rfl rfl (by rw [hstage]; rfl) rfl (fun _ => rfl) rfl rfl
  | closeEmptied subscription hstage =>
      exact hrest rfl rfl rfl (by rw [hstage]; rfl) rfl (fun _ => rfl) rfl rfl
  | closeSubscription subscription hstage =>
      refine hrest rfl rfl rfl (by rw [hstage]; rfl) rfl (fun _ => rfl)
        (cluster.closeSubscription_connections subscription) ?_
      unfold Cluster.closeSubscription
      split <;> rfl

/-- Every step keeps the announcements in step with the rooms. -/
theorem Announcing.step (h : cluster.Announcing) (hlayout : cluster.Layout codec)
    (hcodec : codec.WritesAnnouncements) {event : Event Bytes} {after : Cluster Bytes}
    (hstep : Cluster.step codec cluster event = some after) : after.Announcing := by
  cases step_cases codec cluster hstep with
  | connect id node client hnone =>
      refine h.update rfl ⟨rfl, nofun, nofun⟩ ?_ fun _ _ _ _ => Iff.rfl
      -- a room contains connections only
      refine ⟨fun hmember => ?_, nofun⟩
      obtain ⟨room, hroom, hclient⟩ := mem_members.mp hmember
      obtain ⟨v, hv, -⟩ := hlayout.room_client _ _ room hroom id hclient
      simp [view, hnone] at hv
  | register id subscribed now connection hconnection hstage =>
      exact h.register hcodec hconnection hstage subscribed now
  | frame id frame now connection hconnection hstage =>
      exact h.readFrame hconnection hstage frame now
  | disconnect id connection hconnection hstage =>
      have hold := h.connection id connection hconnection
      have hopen : connection.unregistered = false := by
        by_contra hfound
        have hleaving := hold.leaving (Bool.not_eq_false _ ▸ hfound)
        rw [hstage] at hleaving
        cases hleaving
      rw [hopen, if_neg Bool.false_ne_true]
      exact h.setConnection hconnection (hold.rest rfl (by rw [hstage]; rfl) rfl fun _ => rfl) rfl
        rfl (by rw [hstage]; rfl) rfl rfl
  | run id choice accepted now connection _ hconnection hrun => exact h.run hcodec hconnection hrun
  | write id connection message rest hconnection =>
      have hstays : connection.Stays { connection with send := rest } := ⟨rfl, rfl, rfl, rfl, rfl⟩
      exact h.setConnection hconnection (hstays.announces (h.connection id connection hconnection))
        rfl rfl rfl rfl rfl
  | stopWriting id connection hconnection =>
      have hstays : connection.Stays { connection.close with pumping := false } :=
        ⟨rfl, rfl, rfl, rfl, rfl⟩
      exact h.setConnection hconnection (hstays.announces (h.connection id connection hconnection))
        rfl rfl rfl rfl rfl
  | deliver id choice subscription message progress moved result _ _ hadvance =>
      obtain ⟨hmoved, -⟩ := h.advanceBroadcast hadvance
      exact ⟨hmoved.connection, hmoved.seated⟩
  | forward | stop | receive | exit => exact ⟨h.connection, h.seated⟩

/-! ### What the broker is told -/

/-- A goroutine has a new stage. -/
theorem announced_move {after : Cluster Bytes} {id : ConnId} {old new : Connection Bytes}
    (hold : cluster.connections id = some old)
    (hconnections : after.connections = Function.update cluster.connections id (some new))
    (hclient : new.client = old.client) (documentId : DocumentId) (other : ConnId) :
    after.announced documentId other =
      if documentId = old.client.documentId ∧ other = id then new.stage.announced
      else cluster.announced documentId other := by
  unfold announced
  by_cases heq : other = id
  · subst heq
    rw [hconnections, Function.update_self, hold]
    simp only [Option.any_some, hclient, and_true, eq_comm (a := documentId)]
    by_cases hdocument : old.client.documentId = documentId <;> simp [hdocument]
  · rw [hconnections, Function.update_of_ne heq, if_neg fun hboth => heq hboth.2]

/-- The stage says the same about announcements. -/
theorem announced_same {after : Cluster Bytes} {id : ConnId} {old new : Connection Bytes}
    (hold : cluster.connections id = some old)
    (hconnections : after.connections = Function.update cluster.connections id (some new))
    (hclient : new.client = old.client) (hsame : new.stage.announced = old.stage.announced)
    (documentId : DocumentId) (other : ConnId) :
    after.announced documentId other = cluster.announced documentId other := by
  rw [announced_move hold hconnections hclient]
  split
  next heq =>
    obtain ⟨rfl, rfl⟩ := heq
    rw [hsame, announced, hold]
    simp
  next => rfl

theorem announced_advanceBroadcast (codec : Codec Bytes) (h : cluster.Announcing) {node : NodeId}
    {documentId : DocumentId} {message : Message Bytes} {choice : ConnId} {progress : Progress}
    {after : Cluster Bytes} {result : Option Progress}
    (hadvance : cluster.advanceBroadcast node documentId message choice progress =
      some (after, result)) : after.announced = cluster.announced := by
  obtain ⟨-, hkept⟩ := h.advanceBroadcast hadvance
  have hmoves : Moves codec (.exit 0) cluster after := .advanceBroadcast hadvance
  funext document id
  unfold announced
  cases hold : cluster.connections id with
  | none => rw [hmoves.absent id hold]
  | some old =>
      obtain ⟨new, hnew, hstays⟩ := hkept id old hold
      rw [hnew, Option.any_some, Option.any_some, hstays.client, hstays.stage]

end Cluster

/-- An announcement is handed to the broker. -/
def Stage.announcing : Stage Bytes → Bool
  | .publishing _ _ next => decide (next ≠ .read)
  | _ => false

namespace Cluster

variable {codec : Codec Bytes} {cluster : Cluster Bytes}

/-- The broker accepts the announcements. -/
def AcceptsAnnouncements (cluster : Cluster Bytes) : Event Bytes → Prop
  | .run id _ accepted _ => ∀ connection ∈ cluster.connections id,
      connection.stage.announcing = true → accepted = true
  | _ => True

instance (cluster : Cluster Bytes) :
    (event : Event Bytes) → Decidable (cluster.AcceptsAnnouncements event)
  | .run id _ accepted _ => inferInstanceAs (Decidable (∀ connection ∈ cluster.connections id,
      connection.stage.announcing = true → accepted = true))
  | .connect .. | .register .. | .frame .. | .disconnect .. | .write .. | .stopWriting ..
  | .forward .. | .stop .. | .receive .. | .deliver .. | .exit .. => .isTrue trivial

/-- The envelope a connection is going to hand to the broker, with its payload. -/
theorem Announcing.publishing (h : cluster.Announcing) (hlayout : cluster.Layout codec)
    {id : ConnId} {connection : Connection Bytes}
    (hconnection : cluster.connections id = some connection) {tag : Tag} {payload : Bytes}
    {next : Continuation} (hstage : connection.stage = .publishing tag payload next) :
    ∃ envelope, connection.client.Publishes next envelope ∧
      codec.marshalMessage ⟨connection.node, envelope⟩ = some payload := by
  obtain ⟨before, envelope, hsent, hpublishes⟩ := (h.connection id connection hconnection).current
    next (by rw [hstage]; rfl)
  have hstaged : connection.view.stage = .publishing tag payload next := hstage
  obtain ⟨-, hnumber, found, hfound, -, hpayload⟩ := hstaged ▸ hlayout.tag id connection.view
    (view_eq hconnection) tag (by rw [hstaged]; rfl)
  have hlast : connection.sent[tag.number]? = some envelope := by
    have hlength : tag.number + 1 = connection.sent.length := hnumber
    rw [hsent, List.length_append, List.length_singleton, Nat.add_right_cancel_iff] at hlength
    rw [hsent, hlength, List.getElem?_concat_length]
  cases hfound.symm.trans hlast
  exact ⟨envelope, hpublishes, hpayload⟩

/-- What is left to do of an announcement after the local broadcast. -/
theorem Announcing.payload (h : cluster.Announcing) (hlayout : cluster.Layout codec)
    (hcodec : codec.WritesAnnouncements) {id : ConnId} {connection : Connection Bytes}
    (hconnection : cluster.connections id = some connection) {publication : Publication Bytes}
    {progress : Progress} {next : Continuation}
    (hstage : connection.stage = .broadcasting publication progress next)
    (hpayload : publication.payload = none) : next = .read := by
  obtain ⟨before, envelope, hsent, hpublishes⟩ := (h.connection id connection hconnection).current
    next (by rw [hstage]; rfl)
  obtain ⟨⟨-, hnumber, found, hfound, -, hmarshal⟩, -⟩ := hlayout.broadcasting hconnection hstage
  have hlast : connection.sent[publication.tag.number]? = some envelope := by
    rw [hsent, List.length_append, List.length_singleton, Nat.add_right_cancel_iff] at hnumber
    rw [hsent, hnumber, List.getElem?_concat_length]
  cases hfound.symm.trans hlast
  cases next with
  | read => rfl
  | acknowledge =>
      obtain ⟨now, rfl⟩ := hpublishes
      have hwritten := (hcodec connection.client .participantJoined "participant joined" now
        connection.node).2
      rw [hmarshal, hpayload] at hwritten
      cases hwritten
  | close subscription =>
      obtain ⟨now, rfl⟩ := hpublishes
      have hwritten := (hcodec connection.client .participantLeft "participant left" now
        connection.node).2
      rw [hmarshal, hpayload] at hwritten
      cases hwritten

/-- What a step tells the broker, and who has been announced after it. -/
inductive Tells (codec : Codec Bytes) (cluster : Cluster Bytes) (event : Event Bytes)
    (after : Cluster Bytes) : Prop
  | nothing (hpublication : cluster.publication event = none)
      (hsame : ∀ documentId id, after.announced documentId id = cluster.announced documentId id)
  | published (id : ConnId) (connection : Connection Bytes) (entry : Published Bytes)
      (next : Continuation) (envelope : Envelope)
      (hconnection : cluster.connections id = some connection)
      (hpublication : cluster.publication event =
        some (channel connection.client.documentId, entry))
      (hpublishes : connection.client.Publishes next envelope)
      (hpayload : codec.marshalMessage ⟨connection.node, envelope⟩ = some entry.payload)
      (hbefore : cluster.announced connection.client.documentId id = next.announced)
      (hafter : ∀ documentId other, after.announced documentId other =
        if documentId = connection.client.documentId ∧ other = id then next.seated
        else cluster.announced documentId other)

theorem Tells.run (h : cluster.Announcing) (hlayout : cluster.Layout codec)
    (hcodec : codec.WritesAnnouncements) {id : ConnId} {connection : Connection Bytes}
    (hconnection : cluster.connections id = some connection) {choice : ConnId} {accepted : Bool}
    {now : Instant} (haccepts : cluster.AcceptsAnnouncements (.run id choice accepted now))
    {after : Cluster Bytes}
    (hrun : cluster.run codec id connection choice accepted now = some after) :
    Tells codec cluster (.run id choice accepted now) after := by
  have hquiet : (∀ tag payload next, connection.stage ≠ .publishing tag payload next) →
      cluster.publication (.run id choice accepted now) = none := by
    intro hstage
    cases accepted with
    | false => rfl
    | true => simp only [publication, hconnection]
  -- the stage says the same as before
  have hsame : ∀ {next : Cluster Bytes} {new : Connection Bytes},
      (∀ tag payload next, connection.stage ≠ .publishing tag payload next) →
      next.connections = Function.update cluster.connections id (some new) →
      new.client = connection.client → new.stage.announced = connection.stage.announced →
      Tells codec cluster (.run id choice accepted now) next :=
    fun hstage hconnections hclient hannounced =>
      .nothing (hquiet hstage) (announced_same hconnection hconnections hclient hannounced)
  cases run_cases codec cluster hrun with
  | broadcast publication progress next moved result hstage hadvance =>
      have hbefore : moved.announced = cluster.announced :=
        announced_advanceBroadcast codec h hadvance
      obtain ⟨-, hkept⟩ := h.advanceBroadcast hadvance
      obtain ⟨new, hnew, hstays⟩ := hkept id connection hconnection
      have hstaged : new.stage = .broadcasting publication progress next :=
        hstays.stage.trans hstage
      refine .nothing (hquiet (by simp [hstage])) fun documentId other => ?_
      rw [← hbefore, modifyConnection_eq hnew]
      refine announced_same hnew rfl ?_ ?_ documentId other
      · have hadvances : new.Advances False False _ :=
          new.afterBroadcast_advances codec publication next result
        exact hadvances.client
      · cases result with
        | some rest => rw [hstaged]; rfl
        | none =>
            unfold Connection.afterBroadcast
            dsimp only
            split
            next => rw [hstaged]; rfl
            next hpayload =>
              obtain rfl := h.payload hlayout hcodec hconnection hstage hpayload
              obtain ⟨-, -, -, -, -, hannounced, -⟩ :=
                new.proceed_announcing codec true .read
              rw [hannounced, hstaged]
              rfl
  | accept tag payload next hstage haccepted =>
      subst haccepted
      obtain ⟨envelope, hpublishes, hpayload⟩ := h.publishing hlayout hconnection hstage
      obtain ⟨-, hclient, -, -, -, hannounced, -⟩ :=
        connection.proceed_announcing codec false next
      refine .published id connection ⟨payload, tag⟩ next envelope hconnection
        (by simp [publication, hconnection, hstage]) hpublishes hpayload ?_
        fun documentId other => ?_
      · simp [announced, hconnection, hstage, Stage.announced]
      · rw [announced_move hconnection rfl hclient, hannounced]
  | refuse tag payload next hstage haccepted =>
      subst haccepted
      have hread : next = .read := by
        by_contra hother
        have hfalse := haccepts connection hconnection (by simp [hstage, Stage.announcing, hother])
        cases hfalse
      subst hread
      obtain ⟨-, hclient, -, -, -, hannounced, -⟩ :=
        connection.proceed_announcing codec true .read
      refine .nothing rfl (announced_same hconnection rfl hclient ?_)
      rw [hannounced, hstage]
      rfl
  | acknowledge hstage =>
      have hstays : connection.Stays
          (connection.sendEnvelope codec connection.client.ackEnvelope) :=
        connection.sendEnvelope_stays _
      exact hsame (by simp [hstage]) rfl hstays.client (by rw [hstage]; rfl)
  | unregister hstage =>
      obtain ⟨room, hroom, -⟩ := h.room hconnection (by rw [hstage]; rfl)
      obtain ⟨bytes, hbytes⟩ := Option.isSome_iff_exists.mp
        (hcodec connection.client .participantLeft "participant left" now connection.node).1
      unfold Cluster.leave
      simp only [hroom]
      refine hsame (by simp [hstage]) rfl ?_ ?_
      · simp only [Connection.publish, hbytes]
      · simp only [Connection.publish, hbytes, hstage]
        rfl
  | close hstage => exact hsame (by simp [hstage]) rfl rfl (by rw [hstage]; rfl)
  | closeEmptied subscription hstage =>
      exact hsame (by simp [hstage]) rfl rfl (by rw [hstage]; rfl)
  | closeSubscription subscription hstage =>
      have hconnections : ((cluster.closeSubscription subscription).setConnection id
          (connection.withStage .finished)).connections = Function.update cluster.connections id
            (some (connection.withStage .finished)) := by
        rw [← cluster.closeSubscription_connections subscription]
        rfl
      exact hsame (by simp [hstage]) hconnections rfl (by rw [hstage]; rfl)

/-- A step tells the broker of one client at most. -/
theorem step_tells (h : cluster.Announcing) (hlayout : cluster.Layout codec)
    (hcodec : codec.WritesAnnouncements) {event : Event Bytes}
    (haccepts : cluster.AcceptsAnnouncements event) {after : Cluster Bytes}
    (hstep : step codec cluster event = some after) : Tells codec cluster event after := by
  cases step_cases codec cluster hstep with
  | connect id node client hnone =>
      refine .nothing rfl fun documentId other => ?_
      unfold announced
      by_cases heq : other = id
      · subst heq
        rw [hnone]
        simp [Cluster.setConnection, Connection.fresh, Stage.announced]
      · rw [show (cluster.setConnection id _).connections other = cluster.connections other from
          Function.update_of_ne heq ..]
  | register id subscribed now connection hconnection hstage =>
      obtain ⟨bytes, hbytes⟩ := Option.isSome_iff_exists.mp
        (hcodec connection.client .participantJoined "participant joined" now connection.node).1
      have hjoined : ∀ {between : Cluster Bytes} (i : SubId),
          between.connections = cluster.connections → Tells codec cluster
            (.register id subscribed now) (between.setConnection id
              (({ connection with subscription := some i } : Connection Bytes).publish codec id
                (connection.client.participantEnvelope .participantJoined "participant joined" now)
                .acknowledge)) := by
        intro between i hconnections
        refine .nothing rfl (announced_same hconnection (by rw [← hconnections]; rfl) ?_ ?_)
        · simp only [Connection.publish, hbytes]
        · simp only [Connection.publish, hbytes, hstage]
          rfl
      unfold Cluster.register
      dsimp only
      split
      next room _ => exact hjoined room.sub rfl
      next =>
        split
        next => exact hjoined cluster.nextSubscription rfl
        next =>
          exact .nothing rfl (announced_same hconnection rfl rfl (by rw [hstage]; rfl))
  | frame id frame now connection hconnection hstage =>
      unfold Cluster.readFrame
      split
      next code message _ =>
        have hstays : connection.Stays (connection.sendError codec code message) :=
          connection.sendEnvelope_stays _
        exact .nothing rfl (announced_same hconnection rfl hstays.client
          (congrArg Stage.announced hstays.stage))
      next envelope _ =>
        refine .nothing rfl (announced_same hconnection rfl ?_ ?_)
        · have hadvances : connection.Advances True True (connection.publish codec id
              (connection.client.stamp envelope now) .read) :=
            connection.publish_advances codec id _ .read (.inr trivial)
          exact hadvances.client
        · unfold Connection.publish
          split
          next =>
            obtain ⟨-, -, -, -, -, hannounced, -⟩ :=
              connection.proceed_announcing codec true .read
            rw [hannounced, hstage]
            rfl
          next => rw [hstage]; rfl
  | disconnect id connection hconnection hstage =>
      have hopen : connection.unregistered = false := by
        by_contra hfound
        have hleaving := (h.connection id connection hconnection).leaving
          (Bool.not_eq_false _ ▸ hfound)
        rw [hstage] at hleaving
        cases hleaving
      rw [hopen, if_neg Bool.false_ne_true]
      exact .nothing rfl (announced_same hconnection rfl rfl (by rw [hstage]; rfl))
  | run id choice accepted now connection _ hconnection hrun =>
      exact .run h hlayout hcodec hconnection haccepts hrun
  | write id connection message rest hconnection =>
      exact .nothing rfl (announced_same hconnection rfl rfl rfl)
  | stopWriting id connection hconnection =>
      exact .nothing rfl (announced_same hconnection rfl rfl rfl)
  | deliver id choice subscription message progress moved result _ _ hadvance =>
      have hbefore : moved.announced = cluster.announced :=
        announced_advanceBroadcast codec h hadvance
      exact .nothing rfl fun documentId other => congrFun (congrFun hbefore documentId) other
  | forward | stop | receive | exit => exact .nothing rfl fun _ _ => rfl

end Cluster

end CollabEditor.Hub
