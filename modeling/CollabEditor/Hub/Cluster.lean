import Mathlib.Data.Finset.Basic
import Std.Data.String.ToInt
import CollabEditor.Foundation.TransitionSystem
import CollabEditor.Hub.Protocol

/-! # Hub nodes around one broker

Every connection has one goroutine that registers it, reads its frames and
unregisters it, and every subscription one that consumes it. Between two of
their steps any other goroutine may run. A section under the mutex is one step,
and so is one attempt to put a message into a `Send` channel.
-/

namespace CollabEditor.Hub

open Foundation
open Backend (DocumentId UserId Instant)

/-- Connections are pointers to `Client`s. -/
abbrev ConnId := Nat

abbrev SubId := Nat

/-- The `number`-th envelope a connection publishes. Tags are no part of the
bytes, they tell envelopes apart. -/
structure Tag where
  sender : ConnId
  number : Nat
deriving DecidableEq, Repr

/-- A message in a `Send` channel; acknowledgments and errors have no tag. -/
structure Message (Bytes : Type) where
  bytes : Bytes
  tag : Option Tag

/-- How far a call of `broadcastLocal` has come. -/
inductive Progress
  /-- Before it reads the room. -/
  | lookup
  /-- The clients it has still to offer the message to, and the slow ones. -/
  | offering (targets slow : Finset ConnId)

/-- An envelope being published: the bytes for the local room and the payload
for the broker, unless marshalling failed. -/
structure Publication (Bytes : Type) where
  tag : Tag
  localBytes : Bytes
  payload : Option Bytes

/-- What follows a publication. -/
inductive Continuation
  /-- `Register` returns, and the acknowledgment is sent. -/
  | acknowledge
  /-- Back to the loop of `ReadPump`, which reports an error. -/
  | read
  /-- The rest of `Unregister`, with the subscription of a room it emptied. -/
  | close (subscription : Option SubId)
deriving DecidableEq, Repr

/-- Where the goroutine of a connection stands. -/
inductive Stage (Bytes : Type)
  /-- Before `Register`. -/
  | connecting
  | broadcasting (publication : Publication Bytes) (progress : Progress) (next : Continuation)
  | publishing (tag : Tag) (payload : Bytes) (next : Continuation)
  /-- Before `SendEnvelope(ack)`. -/
  | acknowledging
  /-- Waiting in `ReadMessage`. -/
  | reading
  /-- Before the mutex section of `Unregister`. -/
  | unregistering
  /-- Before `client.Close()` in `Unregister`. -/
  | closing (subscription : Option SubId)
  /-- Before `room.sub.Close()`. -/
  | closingSubscription (subscription : SubId)
  | finished

/-- A `Client` with its goroutine. `subscription`, `sent` and `received` only
record what happened: the subscription of the room it joined, the envelopes it
has started to publish, and every message put into `Send`. -/
structure Connection (Bytes : Type) where
  node : NodeId
  client : Client
  send : List (Message Bytes)
  done : Bool
  unregistered : Bool
  /-- `WritePump` runs. -/
  pumping : Bool
  stage : Stage Bytes
  subscription : Option SubId
  sent : List Envelope
  received : List (Message Bytes)

structure Room where
  clients : Finset ConnId
  sub : SubId

/-- An entry of a channel of the broker. -/
structure Published (Bytes : Type) where
  payload : Bytes
  tag : Tag

/-- A subscription with the goroutine that consumes it. The entries of the
channel from where it was opened up to `forwarded` have been put into its buffer,
those up to `consumed` taken out. -/
structure Subscription (Bytes : Type) where
  node : NodeId
  documentId : DocumentId
  forwarded : Nat
  consumed : Nat
  /-- The length of the channel when `Close` was called. -/
  closedAt : Option Nat
  /-- `forward` has returned. -/
  stopped : Bool
  /-- The broadcast of `consumeRoom` in progress. -/
  delivery : Option (Message Bytes × Progress)
  /-- `consumeRoom` has returned. -/
  exited : Bool

@[ext]
structure Cluster (Bytes : Type) where
  connections : ConnId → Option (Connection Bytes)
  rooms : NodeId → DocumentId → Option Room
  subscriptions : SubId → Option (Subscription Bytes)
  nextSubscription : SubId
  /-- Everything published on a channel. -/
  channels : String → List (Published Bytes)

/-- `h.channel`. -/
def channel (documentId : DocumentId) : String :=
  "ws:doc:" ++ toString documentId

theorem channel_injective : Function.Injective channel := by
  intro first second hsame
  have hrepr : Int.repr first = Int.repr second := by
    simpa [channel, String.append_right_inj] using hsame
  exact Int.repr_inj.mp hrepr

namespace Connection

variable {Bytes : Type} (connection : Connection Bytes)

/-- A client that has just connected. -/
def fresh (node : NodeId) (client : Client) : Connection Bytes where
  node := node
  client := client
  send := []
  done := false
  unregistered := false
  pumping := false
  stage := .connecting
  subscription := none
  sent := []
  received := []

/-- A non-blocking send to the `Send` channel. -/
def offer (message : Message Bytes) : Connection Bytes :=
  if connection.send.length < connection.client.sendBuffer then
    { connection with
      send := connection.send ++ [message]
      received := connection.received ++ [message] }
  else connection

/-- The `Send` channel is full. -/
def isSlow : Bool := connection.client.sendBuffer ≤ connection.send.length

/-- `Close`. -/
def close : Connection Bytes := { connection with done := true }

def withStage (stage : Stage Bytes) : Connection Bytes := { connection with stage := stage }

/-- `SendEnvelope`; an envelope that cannot be marshalled is dropped. -/
def sendEnvelope (codec : Codec Bytes) (envelope : Envelope) : Connection Bytes :=
  match codec.marshal envelope with
  | none => connection
  | some bytes => connection.offer ⟨bytes, none⟩

/-- `SendError`. -/
def sendError (codec : Codec Bytes) (code message : String) : Connection Bytes :=
  connection.sendEnvelope codec (Client.errorEnvelope code message)

/-- Go on after a publication that returned an error or none. Only `ReadPump`
tells the client. -/
def proceed (codec : Codec Bytes) (failed : Bool) : Continuation → Connection Bytes
  | .acknowledge => connection.withStage .acknowledging
  | .read =>
      (if failed then
        connection.sendError codec "publish_failed" "message could not be delivered"
      else connection).withStage .reading
  | .close subscription => connection.withStage (.closing subscription)

/-- Go on after a step of the local broadcast; `none` when it has returned. -/
def afterBroadcast (codec : Codec Bytes) (publication : Publication Bytes) (next : Continuation) :
    Option Progress → Connection Bytes
  | some progress => connection.withStage (.broadcasting publication progress next)
  | none =>
      match publication.payload with
      | some payload => connection.withStage (.publishing publication.tag payload next)
      | none => connection.proceed codec true next

/-- The common part of `HandleClientEnvelope` and `notifyParticipantEvent` up to
the local broadcast. -/
def publish (codec : Codec Bytes) (id : ConnId) (envelope : Envelope) (next : Continuation) :
    Connection Bytes :=
  match codec.marshal envelope with
  | none => connection.proceed codec true next
  | some bytes =>
      { connection with
        sent := connection.sent ++ [envelope]
        stage := .broadcasting
          { tag := ⟨id, connection.sent.length⟩
            localBytes := bytes
            payload := codec.marshalMessage ⟨connection.node, envelope⟩ } .lookup next }

end Connection

namespace Cluster

variable {Bytes : Type} (codec : Codec Bytes) (cluster : Cluster Bytes)

def empty : Cluster Bytes where
  connections := fun _ => none
  rooms := fun _ _ => none
  subscriptions := fun _ => none
  nextSubscription := 0
  channels := fun _ => []

def setConnection (id : ConnId) (connection : Connection Bytes) : Cluster Bytes :=
  { cluster with connections := Function.update cluster.connections id (some connection) }

def setSubscription (id : SubId) (subscription : Subscription Bytes) : Cluster Bytes :=
  { cluster with subscriptions := Function.update cluster.subscriptions id (some subscription) }

def setRoom (node : NodeId) (documentId : DocumentId) (room : Option Room) : Cluster Bytes :=
  { cluster with
    rooms := Function.update cluster.rooms node
      (Function.update (cluster.rooms node) documentId room) }

/-- The broker accepts a message. -/
def append (channel : String) (entry : Published Bytes) : Cluster Bytes :=
  { cluster with
    channels := Function.update cluster.channels channel (cluster.channels channel ++ [entry]) }

/-- Apply a method to a client, if there is one. -/
def modifyConnection (id : ConnId) (change : Connection Bytes → Connection Bytes) :
    Cluster Bytes :=
  match cluster.connections id with
  | none => cluster
  | some connection => cluster.setConnection id (change connection)

/-! ## `broadcastLocal` -/

/-- The next step of a `broadcastLocal` call of a node: read the room, offer the
message to the chosen client, or close a slow one. The map is iterated in any
order. `none` in the result means that the call has returned. -/
def advanceBroadcast (node : NodeId) (documentId : DocumentId) (message : Message Bytes)
    (choice : ConnId) : Progress → Option (Cluster Bytes × Option Progress)
  | .lookup =>
      match cluster.rooms node documentId with
      | none => some (cluster, none)
      | some room => some (cluster, some (.offering room.clients ∅))
  | .offering targets slow =>
      if choice ∈ targets then
        -- `select` with a `default`: a full channel makes the client a slow one
        let dropped := (cluster.connections choice).any Connection.isSlow
        some (cluster.modifyConnection choice (·.offer message),
          some (.offering (targets.erase choice) (if dropped then insert choice slow else slow)))
      else if targets.Nonempty then none
      -- the slow clients are closed once everybody has been offered the message
      else if choice ∈ slow then
        some (cluster.modifyConnection choice Connection.close,
          some (.offering targets (slow.erase choice)))
      else if slow.Nonempty then none
      else some (cluster, none)

/-- The steps of a broadcast. -/
inductive Broadcasts (node : NodeId) (documentId : DocumentId) (message : Message Bytes)
    (choice : ConnId) : Progress → Cluster Bytes → Option Progress → Prop
  | absent (hroom : cluster.rooms node documentId = none) :
      Broadcasts node documentId message choice .lookup cluster none
  | found (room : Room) (hroom : cluster.rooms node documentId = some room) :
      Broadcasts node documentId message choice .lookup cluster
        (some (.offering room.clients ∅))
  | offer (targets slow rest : Finset ConnId) (hchoice : choice ∈ targets) :
      Broadcasts node documentId message choice (.offering targets slow)
        (cluster.modifyConnection choice (·.offer message))
        (some (.offering (targets.erase choice) rest))
  | drop (slow : Finset ConnId) :
      Broadcasts node documentId message choice (.offering ∅ slow)
        (cluster.modifyConnection choice Connection.close)
        (some (.offering ∅ (slow.erase choice)))
  | done : Broadcasts node documentId message choice (.offering ∅ ∅) cluster none

theorem advanceBroadcast_cases {node : NodeId} {documentId : DocumentId} {message : Message Bytes}
    {choice : ConnId} {progress : Progress} {after : Cluster Bytes} {result : Option Progress}
    (hadvance : cluster.advanceBroadcast node documentId message choice progress =
      some (after, result)) :
    cluster.Broadcasts node documentId message choice progress after result := by
  cases progress with
  | lookup =>
      dsimp only [advanceBroadcast] at hadvance
      split at hadvance
      next hroom =>
        cases hadvance
        exact .absent hroom
      next room hroom =>
        cases hadvance
        exact .found room hroom
  | offering targets slow =>
      simp only [advanceBroadcast, Finset.nonempty_iff_ne_empty, ne_eq, ite_not] at hadvance
      split at hadvance
      next hchoice =>
        cases hadvance
        exact .offer targets slow _ hchoice
      next =>
        split at hadvance
        next hempty =>
          subst hempty
          split at hadvance
          next =>
            cases hadvance
            exact .drop slow
          next =>
            split at hadvance
            next hempty =>
              subst hempty
              cases hadvance
              exact .done
            next => cases hadvance
        next => cases hadvance

/-! ## Connections -/

/-- `broker.Subscribe`, confirmed by the broker, and the start of `consumeRoom`. -/
def subscribe (node : NodeId) (documentId : DocumentId) : Cluster Bytes :=
  let length := (cluster.channels (channel documentId)).length
  { cluster.setSubscription cluster.nextSubscription
      { node := node
        documentId := documentId
        forwarded := length
        consumed := length
        closedAt := none
        stopped := false
        delivery := none
        exited := false } with
    nextSubscription := cluster.nextSubscription + 1 }

/-- The mutex section of `Register`, up to the broadcast of the join event. -/
def register (id : ConnId) (connection : Connection Bytes) (subscribed : Bool) (now : Instant) :
    Cluster Bytes :=
  let documentId := connection.client.documentId
  let join (cluster : Cluster Bytes) (room : Room) : Cluster Bytes :=
    let joined := { connection with subscription := some room.sub }
    (cluster.setRoom connection.node documentId
        (some { room with clients := insert id room.clients })).setConnection id
      (joined.publish codec id
        (connection.client.participantEnvelope .participantJoined "participant joined" now)
        .acknowledge)
  match cluster.rooms connection.node documentId with
  | some room => join cluster room
  | none =>
      if subscribed then
        join (cluster.subscribe connection.node documentId)
          { clients := ∅, sub := cluster.nextSubscription }
      -- `Subscribe` failed, and no room was made
      else cluster.setConnection id (connection.close.withStage .finished)

/-- The mutex section of `Unregister`, up to the broadcast of the leave event. -/
def leave (id : ConnId) (connection : Connection Bytes) (now : Instant) : Cluster Bytes :=
  let documentId := connection.client.documentId
  match cluster.rooms connection.node documentId with
  | none => cluster.setConnection id (connection.close.withStage .finished)
  | some room =>
      let clients := room.clients.erase id
      -- an empty room goes at once, its subscription is closed after the leave event
      let left := if clients = ∅ then none else some { room with clients := clients }
      (cluster.setRoom connection.node documentId left).setConnection id
        (connection.publish codec id
          (connection.client.participantEnvelope .participantLeft "participant left" now)
          (.close (if clients = ∅ then some room.sub else none)))

/-- A frame `ReadMessage` returns. -/
def readFrame (id : ConnId) (connection : Connection Bytes) (frame : Bytes) (now : Instant) :
    Cluster Bytes :=
  match readPump codec connection.client frame now with
  | .sendError code message =>
      cluster.setConnection id (connection.sendError codec code message)
  | .handle envelope =>
      cluster.setConnection id
        (connection.publish codec id (connection.client.stamp envelope now) .read)

/-- `sub.Close()`. -/
def closeSubscription (id : SubId) : Cluster Bytes :=
  match cluster.subscriptions id with
  | none => cluster
  | some subscription =>
      cluster.setSubscription id
        { subscription with
          closedAt := subscription.closedAt.or
            (some (cluster.channels (channel subscription.documentId)).length) }

theorem closeSubscription_connections (id : SubId) :
    (cluster.closeSubscription id).connections = cluster.connections := by
  unfold closeSubscription
  split <;> rfl

/-- The goroutine of a connection takes its next step. `choice` is the client
`broadcastLocal` turns to, `accepted` the answer of the broker. -/
def run (id : ConnId) (connection : Connection Bytes) (choice : ConnId) (accepted : Bool)
    (now : Instant) : Option (Cluster Bytes) :=
  match connection.stage with
  | .broadcasting publication progress next => do
      let (cluster, progress) ← cluster.advanceBroadcast connection.node
        connection.client.documentId ⟨publication.localBytes, some publication.tag⟩ choice progress
      return cluster.modifyConnection id (·.afterBroadcast codec publication next progress)
  | .publishing tag payload next =>
      if accepted then
        some <| (cluster.append (channel connection.client.documentId)
          ⟨payload, tag⟩).setConnection id (connection.proceed codec false next)
      -- the local room has been served by then
      else some <| cluster.setConnection id (connection.proceed codec true next)
  | .acknowledging =>
      some <| cluster.setConnection id
        { connection.sendEnvelope codec connection.client.ackEnvelope with
          pumping := true
          stage := .reading }
  | .unregistering => some (cluster.leave codec id connection now)
  | .closing none => some <| cluster.setConnection id (connection.close.withStage .finished)
  | .closing (some subscription) =>
      some <| cluster.setConnection id
        (connection.close.withStage (.closingSubscription subscription))
  | .closingSubscription subscription =>
      some <| (cluster.closeSubscription subscription).setConnection id
        (connection.withStage .finished)
  | .connecting | .reading | .finished => none

/-- The steps of the goroutine of a connection, by what its stage is. -/
inductive Runs (id : ConnId) (connection : Connection Bytes) (choice : ConnId) (accepted : Bool)
    (now : Instant) : Cluster Bytes → Prop
  | broadcast (publication : Publication Bytes) (progress : Progress) (next : Continuation)
      (moved : Cluster Bytes) (result : Option Progress)
      (hstage : connection.stage = .broadcasting publication progress next)
      (hadvance : cluster.advanceBroadcast connection.node connection.client.documentId
        ⟨publication.localBytes, some publication.tag⟩ choice progress = some (moved, result)) :
      Runs id connection choice accepted now
        (moved.modifyConnection id (·.afterBroadcast codec publication next result))
  | accept (tag : Tag) (payload : Bytes) (next : Continuation)
      (hstage : connection.stage = .publishing tag payload next) (haccepted : accepted = true) :
      Runs id connection choice accepted now
        ((cluster.append (channel connection.client.documentId) ⟨payload, tag⟩).setConnection id
          (connection.proceed codec false next))
  | refuse (tag : Tag) (payload : Bytes) (next : Continuation)
      (hstage : connection.stage = .publishing tag payload next) (haccepted : accepted = false) :
      Runs id connection choice accepted now
        (cluster.setConnection id (connection.proceed codec true next))
  | acknowledge (hstage : connection.stage = .acknowledging) :
      Runs id connection choice accepted now (cluster.setConnection id
        { connection.sendEnvelope codec connection.client.ackEnvelope with
          pumping := true
          stage := .reading })
  | unregister (hstage : connection.stage = .unregistering) :
      Runs id connection choice accepted now (cluster.leave codec id connection now)
  | close (hstage : connection.stage = .closing none) :
      Runs id connection choice accepted now
        (cluster.setConnection id (connection.close.withStage .finished))
  | closeEmptied (subscription : SubId) (hstage : connection.stage = .closing (some subscription)) :
      Runs id connection choice accepted now (cluster.setConnection id
        (connection.close.withStage (.closingSubscription subscription)))
  | closeSubscription (subscription : SubId)
      (hstage : connection.stage = .closingSubscription subscription) :
      Runs id connection choice accepted now
        ((cluster.closeSubscription subscription).setConnection id
          (connection.withStage .finished))

theorem run_cases {id choice : ConnId} {connection : Connection Bytes} {accepted : Bool}
    {now : Instant} {after : Cluster Bytes}
    (hrun : cluster.run codec id connection choice accepted now = some after) :
    cluster.Runs codec id connection choice accepted now after := by
  unfold run at hrun
  split at hrun
  next publication progress next hstage =>
    obtain ⟨⟨moved, result⟩, hadvance, hafter⟩ := Option.bind_eq_some_iff.mp hrun
    cases hafter
    exact .broadcast publication progress next moved result hstage hadvance
  next tag payload next hstage =>
    cases accepted with
    | true =>
        cases hrun
        exact .accept tag payload next hstage rfl
    | false =>
        cases hrun
        exact .refuse tag payload next hstage rfl
  next hstage =>
    cases hrun
    exact .acknowledge hstage
  next hstage =>
    cases hrun
    exact .unregister hstage
  next hstage =>
    cases hrun
    exact .close hstage
  next subscription hstage =>
    cases hrun
    exact .closeEmptied subscription hstage
  next subscription hstage =>
    cases hrun
    exact .closeSubscription subscription hstage
  all_goals cases hrun

/-! ## Subscriptions -/

/-- The capacity of the `messages` channel of a subscription. -/
def messageBuffer : Nat := 256

/-- `forward` moves the next message of the channel into the buffer. -/
def forward (id : SubId) (subscription : Subscription Bytes) : Option (Cluster Bytes) :=
  let length := (cluster.channels (channel subscription.documentId)).length
  if subscription.stopped = false ∧
      subscription.forwarded < subscription.closedAt.getD length ∧
      subscription.forwarded < subscription.consumed + messageBuffer then
    some <| cluster.setSubscription id
      { subscription with forwarded := subscription.forwarded + 1 }
  else none

/-- What `consumeRoom` broadcasts for a payload: nothing when it cannot be
decoded or comes from the same node. -/
def decode (node : NodeId) (entry : Published Bytes) : Option (Message Bytes × Progress) := do
  let message ← codec.unmarshalMessage entry.payload
  -- the room has had it from the sender's goroutine
  if message.originNodeId = node then none
  else
    let bytes ← codec.marshal message.envelope
    return (⟨bytes, some entry.tag⟩, .lookup)

/-- `consumeRoom` takes the next message out of the buffer. -/
def receive (id : SubId) (subscription : Subscription Bytes) : Option (Cluster Bytes) :=
  if subscription.delivery.isNone ∧ subscription.exited = false ∧
      subscription.consumed < subscription.forwarded then
    match (cluster.channels (channel subscription.documentId))[subscription.consumed]? with
    | none => none
    | some entry =>
        some <| cluster.setSubscription id
          { subscription with
            consumed := subscription.consumed + 1
            delivery := decode codec subscription.node entry }
  else none

/-- `consumeRoom` goes on with its broadcast. -/
def deliver (id : SubId) (subscription : Subscription Bytes) (choice : ConnId) :
    Option (Cluster Bytes) :=
  match subscription.delivery with
  | none => none
  | some (message, progress) => do
      let (cluster, progress) ← cluster.advanceBroadcast subscription.node
        subscription.documentId message choice progress
      return cluster.setSubscription id
        { subscription with delivery := progress.map fun progress => (message, progress) }

/-- The loop of `consumeRoom` ends: the `messages` channel is closed and empty. -/
def exit (id : SubId) (subscription : Subscription Bytes) : Option (Cluster Bytes) :=
  if subscription.stopped ∧ subscription.consumed = subscription.forwarded ∧
      subscription.delivery.isNone then
    some <| cluster.setSubscription id { subscription with exited := true }
  else none

/-! ## The system -/

inductive Event (Bytes : Type)
  /-- A ticket is consumed and the connection upgraded. -/
  | connect (id : ConnId) (node : NodeId) (client : Client)
  | register (id : ConnId) (subscribed : Bool) (now : Instant)
  | frame (id : ConnId) (frame : Bytes) (now : Instant)
  /-- `ReadMessage` fails, and `Unregister` is called. -/
  | disconnect (id : ConnId)
  | run (id : ConnId) (choice : ConnId) (accepted : Bool) (now : Instant)
  /-- `WritePump` takes a message out of `Send`. -/
  | write (id : ConnId)
  /-- `WritePump` fails to write, or finds the client done, and returns. -/
  | stopWriting (id : ConnId)
  | forward (id : SubId)
  /-- `forward` sees that its subscription is closed. -/
  | stop (id : SubId)
  | receive (id : SubId)
  | deliver (id : SubId) (choice : ConnId)
  | exit (id : SubId)

def step : Event Bytes → Option (Cluster Bytes)
  | .connect id node client =>
      match cluster.connections id with
      | some _ => none
      | none => some <| cluster.setConnection id (.fresh node client)
  | .register id subscribed now => do
      let connection ← cluster.connections id
      match connection.stage with
      | .connecting => some (cluster.register codec id connection subscribed now)
      | _ => none
  | .frame id frame now => do
      let connection ← cluster.connections id
      match connection.stage with
      | .reading => some (cluster.readFrame codec id connection frame now)
      | _ => none
  | .disconnect id => do
      let connection ← cluster.connections id
      match connection.stage with
      | .reading =>
          some <| cluster.setConnection id <|
            if connection.unregistered then connection.withStage .finished
            else { connection with unregistered := true, stage := .unregistering }
      | _ => none
  | .run id choice accepted now => do
      let connection ← cluster.connections id
      cluster.run codec id connection choice accepted now
  | .write id => do
      let connection ← cluster.connections id
      if connection.pumping then
        match connection.send with
        | [] => none
        | _ :: rest => some <| cluster.setConnection id { connection with send := rest }
      else none
  | .stopWriting id => do
      let connection ← cluster.connections id
      if connection.pumping then
        some <| cluster.setConnection id { connection.close with pumping := false }
      else none
  | .forward id => do
      let subscription ← cluster.subscriptions id
      cluster.forward id subscription
  | .stop id => do
      let subscription ← cluster.subscriptions id
      if subscription.closedAt.isSome then
        some <| cluster.setSubscription id { subscription with stopped := true }
      else none
  | .receive id => do
      let subscription ← cluster.subscriptions id
      cluster.receive codec id subscription
  | .deliver id choice => do
      let subscription ← cluster.subscriptions id
      cluster.deliver id subscription choice
  | .exit id => do
      let subscription ← cluster.subscriptions id
      cluster.exit id subscription

/-- The steps of the cluster, with what each of them needs. -/
inductive Steps : Event Bytes → Cluster Bytes → Prop
  | connect (id : ConnId) (node : NodeId) (client : Client)
      (hnone : cluster.connections id = none) :
      Steps (.connect id node client) (cluster.setConnection id (.fresh node client))
  | register (id : ConnId) (subscribed : Bool) (now : Instant) (connection : Connection Bytes)
      (hconnection : cluster.connections id = some connection)
      (hstage : connection.stage = .connecting) :
      Steps (.register id subscribed now) (cluster.register codec id connection subscribed now)
  | frame (id : ConnId) (frame : Bytes) (now : Instant) (connection : Connection Bytes)
      (hconnection : cluster.connections id = some connection)
      (hstage : connection.stage = .reading) :
      Steps (.frame id frame now) (cluster.readFrame codec id connection frame now)
  | disconnect (id : ConnId) (connection : Connection Bytes)
      (hconnection : cluster.connections id = some connection)
      (hstage : connection.stage = .reading) :
      Steps (.disconnect id) (cluster.setConnection id <|
        if connection.unregistered then connection.withStage .finished
        else { connection with unregistered := true, stage := .unregistering })
  | run (id choice : ConnId) (accepted : Bool) (now : Instant) (connection : Connection Bytes)
      (after : Cluster Bytes) (hconnection : cluster.connections id = some connection)
      (hrun : cluster.run codec id connection choice accepted now = some after) :
      Steps (.run id choice accepted now) after
  | write (id : ConnId) (connection : Connection Bytes) (message : Message Bytes)
      (rest : List (Message Bytes)) (hconnection : cluster.connections id = some connection)
      (hpumping : connection.pumping = true) (hsend : connection.send = message :: rest) :
      Steps (.write id) (cluster.setConnection id { connection with send := rest })
  | stopWriting (id : ConnId) (connection : Connection Bytes)
      (hconnection : cluster.connections id = some connection)
      (hpumping : connection.pumping = true) :
      Steps (.stopWriting id) (cluster.setConnection id { connection.close with pumping := false })
  | forward (id : SubId) (subscription : Subscription Bytes)
      (hsubscription : cluster.subscriptions id = some subscription)
      (hrunning : subscription.stopped = false)
      (hmore : subscription.forwarded < subscription.closedAt.getD
        (cluster.channels (channel subscription.documentId)).length)
      (hspace : subscription.forwarded < subscription.consumed + messageBuffer) :
      Steps (.forward id) (cluster.setSubscription id
        { subscription with forwarded := subscription.forwarded + 1 })
  | stop (id : SubId) (subscription : Subscription Bytes)
      (hsubscription : cluster.subscriptions id = some subscription)
      (hclosed : subscription.closedAt.isSome) :
      Steps (.stop id) (cluster.setSubscription id { subscription with stopped := true })
  | receive (id : SubId) (subscription : Subscription Bytes) (entry : Published Bytes)
      (hsubscription : cluster.subscriptions id = some subscription)
      (hidle : subscription.delivery = none) (hlive : subscription.exited = false)
      (hmore : subscription.consumed < subscription.forwarded)
      (hentry : (cluster.channels (channel subscription.documentId))[subscription.consumed]? =
        some entry) :
      Steps (.receive id) (cluster.setSubscription id
        { subscription with
          consumed := subscription.consumed + 1
          delivery := decode codec subscription.node entry })
  | deliver (id : SubId) (choice : ConnId) (subscription : Subscription Bytes)
      (message : Message Bytes) (progress : Progress) (moved : Cluster Bytes)
      (result : Option Progress) (hsubscription : cluster.subscriptions id = some subscription)
      (hdelivery : subscription.delivery = some (message, progress))
      (hadvance : cluster.advanceBroadcast subscription.node subscription.documentId message
        choice progress = some (moved, result)) :
      Steps (.deliver id choice) (moved.setSubscription id
        { subscription with delivery := result.map fun progress => (message, progress) })
  | exit (id : SubId) (subscription : Subscription Bytes)
      (hsubscription : cluster.subscriptions id = some subscription)
      (hstopped : subscription.stopped = true)
      (hempty : subscription.consumed = subscription.forwarded)
      (hidle : subscription.delivery = none) :
      Steps (.exit id) (cluster.setSubscription id { subscription with exited := true })

theorem step_cases {event : Event Bytes} {after : Cluster Bytes}
    (hstep : step codec cluster event = some after) : cluster.Steps codec event after := by
  cases event with
  | connect id node client =>
      dsimp only [step] at hstep
      split at hstep
      next => cases hstep
      next hnone =>
        cases hstep
        exact .connect id node client hnone
  | register id subscribed now =>
      obtain ⟨connection, hconnection, hstep⟩ := Option.bind_eq_some_iff.mp hstep
      split at hstep
      next hstage =>
        cases hstep
        exact .register id subscribed now connection hconnection hstage
      next => cases hstep
  | frame id frame now =>
      obtain ⟨connection, hconnection, hstep⟩ := Option.bind_eq_some_iff.mp hstep
      split at hstep
      next hstage =>
        cases hstep
        exact .frame id frame now connection hconnection hstage
      next => cases hstep
  | disconnect id =>
      obtain ⟨connection, hconnection, hstep⟩ := Option.bind_eq_some_iff.mp hstep
      split at hstep
      next hstage =>
        cases hstep
        exact .disconnect id connection hconnection hstage
      next => cases hstep
  | run id choice accepted now =>
      obtain ⟨connection, hconnection, hrun⟩ := Option.bind_eq_some_iff.mp hstep
      exact .run id choice accepted now connection after hconnection hrun
  | write id =>
      obtain ⟨connection, hconnection, hstep⟩ := Option.bind_eq_some_iff.mp hstep
      split at hstep
      next hpumping =>
        split at hstep
        next => cases hstep
        next message rest hsend =>
          cases hstep
          exact .write id connection message rest hconnection hpumping hsend
      next => cases hstep
  | stopWriting id =>
      obtain ⟨connection, hconnection, hstep⟩ := Option.bind_eq_some_iff.mp hstep
      split at hstep
      next hpumping =>
        cases hstep
        exact .stopWriting id connection hconnection hpumping
      next => cases hstep
  | forward id =>
      obtain ⟨subscription, hsubscription, hstep⟩ := Option.bind_eq_some_iff.mp hstep
      obtain ⟨⟨hrunning, hmore, hspace⟩, hafter⟩ := Option.ite_none_right_eq_some.mp hstep
      cases hafter
      exact .forward id subscription hsubscription hrunning hmore hspace
  | stop id =>
      obtain ⟨subscription, hsubscription, hstep⟩ := Option.bind_eq_some_iff.mp hstep
      obtain ⟨hclosed, hafter⟩ := Option.ite_none_right_eq_some.mp hstep
      cases hafter
      exact .stop id subscription hsubscription hclosed
  | receive id =>
      obtain ⟨subscription, hsubscription, hstep⟩ := Option.bind_eq_some_iff.mp hstep
      obtain ⟨⟨hidle, hlive, hmore⟩, hstep⟩ := Option.ite_none_right_eq_some.mp hstep
      split at hstep
      next => cases hstep
      next entry hentry =>
        cases hstep
        exact .receive id subscription entry hsubscription (Option.isNone_iff_eq_none.mp hidle)
          hlive hmore hentry
  | deliver id choice =>
      obtain ⟨subscription, hsubscription, hstep⟩ := Option.bind_eq_some_iff.mp hstep
      unfold deliver at hstep
      split at hstep
      next => cases hstep
      next message progress hdelivery =>
        obtain ⟨⟨moved, result⟩, hadvance, hafter⟩ := Option.bind_eq_some_iff.mp hstep
        cases hafter
        exact .deliver id choice subscription message progress moved result hsubscription
          hdelivery hadvance
  | exit id =>
      obtain ⟨subscription, hsubscription, hstep⟩ := Option.bind_eq_some_iff.mp hstep
      obtain ⟨⟨hstopped, hempty, hidle⟩, hafter⟩ := Option.ite_none_right_eq_some.mp hstep
      cases hafter
      exact .exit id subscription hsubscription hstopped hempty (Option.isNone_iff_eq_none.mp hidle)

/-- A cluster without connections. -/
def system : TransitionSystem (Cluster Bytes) (Event Bytes) where
  init cluster := cluster = empty
  step := step codec

end Cluster

end CollabEditor.Hub
