import CollabEditor.Foundation.List
import CollabEditor.Hub.Cluster

/-! # How rooms, goroutines, subscriptions and channels fit together

Only part of a connection matters for this: its node, the subscription it
joined, how many envelopes it has started to publish, and its stage.
-/

namespace CollabEditor.Hub

open Foundation
open Backend (DocumentId Instant)

/-- The numbers of one sender's envelopes in a list of messages. -/
def numbersFrom {Bytes : Type} (sender : ConnId) (messages : List (Message Bytes)) : List Nat :=
  messages.filterMap fun message =>
    message.tag.bind fun tag => if tag.sender = sender then some tag.number else none

@[simp] theorem numbersFrom_append {Bytes : Type} (sender : ConnId)
    (first second : List (Message Bytes)) :
    numbersFrom sender (first ++ second) =
      numbersFrom sender first ++ numbersFrom sender second := by
  simp [numbersFrom]

theorem numbersFrom_tagged {Bytes : Type} (sender : ConnId) (bytes : Bytes) (tag : Tag) :
    numbersFrom sender [⟨bytes, some tag⟩] = if tag.sender = sender then [tag.number] else [] := by
  by_cases h : tag.sender = sender <;> simp [numbersFrom, h]

/-- The messages that are envelopes of a connection. -/
def tagged {Bytes : Type} (messages : List (Message Bytes)) : List (Message Bytes) :=
  messages.filter fun message => message.tag.isSome

theorem numbersFrom_of_tagged {Bytes : Type} {first second : List (Message Bytes)}
    (hsame : tagged first = tagged second) (sender : ConnId) :
    numbersFrom sender first = numbersFrom sender second := by
  have hfilter : ∀ messages : List (Message Bytes),
      numbersFrom sender (tagged messages) = numbersFrom sender messages := by
    intro messages
    simp only [numbersFrom, tagged, List.filterMap_filter]
    congr 1
    funext message
    cases message.tag <;> rfl
  rw [← hfilter first, ← hfilter second, hsame]

theorem mem_of_tagged {Bytes : Type} {first second : List (Message Bytes)}
    (hsame : tagged first = tagged second) {message : Message Bytes} {tag : Tag}
    (htag : message.tag = some tag) (hmem : message ∈ first) : message ∈ second := by
  have hfirst : message ∈ tagged first := List.mem_filter.mpr ⟨hmem, by simp [htag]⟩
  rw [hsame] at hfirst
  exact (List.mem_filter.mp hfirst).1

/-! ## The state as far as deliveries depend on it -/

namespace Progress

/-- The client may still be offered the message. -/
def pending (client : ConnId) : Progress → Bool
  | .lookup => true
  | .offering targets _ => client ∈ targets

/-- The client is one of those the message will be offered to. -/
def Targets (client : ConnId) : Progress → Prop
  | .lookup => False
  | .offering targets _ => client ∈ targets

/-- Once offered the message, a client is no longer waiting for it. -/
theorem pending_erase {targets slow : Finset ConnId} (choice : ConnId) (rest : Finset ConnId)
    (client : ConnId)
    (hclient : (Progress.offering (targets.erase choice) rest).pending client = true) :
    (Progress.offering targets slow).pending client = true := by
  simp only [Progress.pending, decide_eq_true_eq] at hclient ⊢
  exact Finset.mem_of_mem_erase hclient

end Progress

def Continuation.closes : Continuation → Option SubId
  | .close subscription => subscription
  | _ => none

namespace Stage

variable {Bytes : Type}

/-- The tag of the envelope being published. -/
def tag : Stage Bytes → Option Tag
  | .broadcasting publication _ _ => some publication.tag
  | .publishing tag _ _ => some tag
  | _ => none

/-- What is being published is the envelope. -/
def Publishes (codec : Codec Bytes) (node : NodeId) (envelope : Envelope) : Stage Bytes → Prop
  | .broadcasting publication _ _ => codec.marshal envelope = some publication.localBytes ∧
      codec.marshalMessage ⟨node, envelope⟩ = publication.payload
  | .publishing _ payload _ => codec.Publishes node envelope payload
  | _ => True

/-- The progress of the local broadcast. -/
def progress : Stage Bytes → Option Progress
  | .broadcasting _ progress _ => some progress
  | _ => none

/-- The subscription the goroutine is going to close. -/
def closes : Stage Bytes → Option SubId
  | .broadcasting _ _ next | .publishing _ _ next => next.closes
  | .closing subscription => subscription
  | .closingSubscription subscription => some subscription
  | _ => none

def isConnecting : Stage Bytes → Bool
  | .connecting => true
  | _ => false

/-- Nothing is being published. -/
def Inactive (stage : Stage Bytes) : Prop :=
  stage.tag = none ∧ stage.progress = none

end Stage

/-- A connection without what it has received. -/
structure View (Bytes : Type) where
  node : NodeId
  subscription : Option SubId
  sent : List Envelope
  stage : Stage Bytes

namespace View

variable {Bytes : Type} (view : View Bytes)

/-- How many envelopes are past their publication. -/
def published : Nat :=
  if view.stage.tag.isSome then view.sent.length - 1 else view.sent.length

/-- How many envelopes are past their offer to a client of the same node. -/
def offered (client : ConnId) : Nat :=
  if view.stage.progress.any (Progress.pending client) then view.sent.length - 1
  else view.sent.length

end View

theorem View.published_le {Bytes : Type} (view : View Bytes) :
    view.published ≤ view.sent.length := by
  unfold View.published
  split
  · exact Nat.sub_le _ _
  · exact le_rfl

theorem View.offered_le {Bytes : Type} (view : View Bytes) (client : ConnId) :
    view.offered client ≤ view.sent.length := by
  unfold View.offered
  split
  · exact Nat.sub_le _ _
  · exact le_rfl

/-- How many entries of its channel a subscription is past offering to a client. -/
def Subscription.offered {Bytes : Type} (subscription : Subscription Bytes) (client : ConnId) :
    Nat :=
  if subscription.delivery.any fun delivery => delivery.2.pending client then
    subscription.consumed - 1
  else subscription.consumed

def Connection.view {Bytes : Type} (connection : Connection Bytes) : View Bytes where
  node := connection.node
  subscription := connection.subscription
  sent := connection.sent
  stage := connection.stage

namespace Connection

variable {Bytes : Type} {codec : Codec Bytes}

/-- What a step of a goroutine keeps of its connection when it receives nothing. -/
structure Kept (old new : Connection Bytes) : Prop where
  node : new.node = old.node
  subscription : ∀ i, old.subscription = some i → new.subscription = some i
  received : tagged new.received = tagged old.received

theorem Kept.refl (connection : Connection Bytes) : Kept connection connection :=
  ⟨rfl, fun _ hi => hi, rfl⟩

theorem Kept.trans {first second third : Connection Bytes} (hfirst : Kept first second)
    (hsecond : Kept second third) : Kept first third :=
  ⟨hsecond.node.trans hfirst.node,
    fun i hi => hsecond.subscription i (hfirst.subscription i hi),
    hsecond.received.trans hfirst.received⟩

theorem mem_offer {connection : Connection Bytes} {message found : Message Bytes}
    (hfound : found ∈ (connection.offer message).received) :
    found ∈ connection.received ∨ found = message := by
  unfold offer at hfound
  split at hfound
  next => simpa using hfound
  next => exact .inl hfound

/-- An acknowledgment or an error is no envelope of a connection. -/
theorem sendEnvelope_kept (connection : Connection Bytes) (codec : Codec Bytes)
    (envelope : Envelope) :
    Kept connection (connection.sendEnvelope codec envelope) ∧
      (connection.sendEnvelope codec envelope).view = connection.view := by
  unfold sendEnvelope
  split
  next => exact ⟨.refl connection, rfl⟩
  next =>
    unfold offer
    split
    next => exact ⟨⟨rfl, fun _ hi => hi, by simp [tagged]⟩, rfl⟩
    next => exact ⟨.refl connection, rfl⟩

/-- The rest of a publication publishes nothing. -/
theorem proceed_spec (connection : Connection Bytes) (codec : Codec Bytes) (failed : Bool)
    (next : Continuation) :
    Kept connection (connection.proceed codec failed next) ∧
      (connection.proceed codec failed next).subscription = connection.subscription ∧
      (connection.proceed codec failed next).sent = connection.sent ∧
      (connection.proceed codec failed next).stage.Inactive ∧
      (connection.proceed codec failed next).stage.isConnecting = false ∧
      (connection.proceed codec failed next).stage.closes = next.closes := by
  cases next with
  | acknowledge =>
      exact ⟨⟨rfl, fun _ hi => hi, rfl⟩, rfl, rfl, ⟨rfl, rfl⟩, rfl, rfl⟩
  | close subscription =>
      exact ⟨⟨rfl, fun _ hi => hi, rfl⟩, rfl, rfl, ⟨rfl, rfl⟩, rfl, rfl⟩
  | read =>
      cases failed with
      | false =>
          exact ⟨⟨rfl, fun _ hi => hi, rfl⟩, rfl, rfl, ⟨rfl, rfl⟩, rfl, rfl⟩
      | true =>
          obtain ⟨⟨hnode, hsubscription, hreceived⟩, hview⟩ := connection.sendEnvelope_kept codec
            (Client.errorEnvelope "publish_failed" "message could not be delivered")
          exact ⟨⟨hnode, hsubscription, hreceived⟩, congrArg View.subscription hview,
            congrArg View.sent hview, ⟨rfl, rfl⟩, rfl, rfl⟩

/-- An offer to the broadcasting client itself and its next stage do not meet. -/
theorem offer_afterBroadcast (connection : Connection Bytes) (codec : Codec Bytes)
    (publication : Publication Bytes) (next : Continuation) (progress : Progress)
    (message : Message Bytes) :
    (connection.afterBroadcast codec publication next (some progress)).offer message =
      (connection.offer message).afterBroadcast codec publication next (some progress) := by
  dsimp only [afterBroadcast, withStage, offer]
  split <;> rfl

theorem close_afterBroadcast (connection : Connection Bytes) (codec : Codec Bytes)
    (publication : Publication Bytes) (next : Continuation) (progress : Progress) :
    (connection.afterBroadcast codec publication next (some progress)).close =
      connection.close.afterBroadcast codec publication next (some progress) := rfl

/-- Starting a publication does not touch the fixed fields. -/
theorem publish_kept (connection : Connection Bytes) (codec : Codec Bytes) (id : ConnId)
    (envelope : Envelope) (next : Continuation) :
    (connection.publish codec id envelope next).node = connection.node ∧
      (connection.publish codec id envelope next).subscription = connection.subscription ∧
      (connection.publish codec id envelope next).stage.closes = next.closes := by
  unfold publish
  split
  next =>
    obtain ⟨hkept, hsubscription, -, -, -, hcloses⟩ := connection.proceed_spec codec true next
    exact ⟨hkept.node, hsubscription, hcloses⟩
  next => exact ⟨rfl, rfl, rfl⟩

end Connection

namespace Cluster

variable {Bytes : Type} {codec : Codec Bytes} {cluster : Cluster Bytes}

def view (cluster : Cluster Bytes) (id : ConnId) : Option (View Bytes) :=
  (cluster.connections id).map Connection.view

theorem view_eq {id : ConnId} {connection : Connection Bytes}
    (hconnection : cluster.connections id = some connection) :
    cluster.view id = some connection.view := by
  simp [view, hconnection]

theorem view_setConnection (cluster : Cluster Bytes) (id : ConnId)
    (connection : Connection Bytes) :
    (cluster.setConnection id connection).view =
      Function.update cluster.view id (some connection.view) := by
  funext other
  by_cases heq : other = id
  · simp [view, setConnection, heq]
  · simp [view, setConnection, heq]

/-! ## The invariant -/

/-- The broker has an envelope that its sender is past publishing. -/
def Accepted (codec : Codec Bytes) (cluster : Cluster Bytes) (entry : Published Bytes) : Prop :=
  ∃ v, cluster.view entry.tag.sender = some v ∧ entry.tag.number < v.published ∧
    ∃ envelope, v.sent[entry.tag.number]? = some envelope ∧
      codec.Publishes v.node envelope entry.payload

/-- What rooms, goroutines, subscriptions and channels have to do with each
other. -/
structure Layout (codec : Codec Bytes) (cluster : Cluster Bytes) : Prop where
  subscription_bound : ∀ i s, cluster.subscriptions i = some s → i < cluster.nextSubscription
  subscription_life : ∀ i s, cluster.subscriptions i = some s →
    (s.stopped = true → s.closedAt.isSome = true) ∧ (s.exited = true → s.stopped = true) ∧
      (s.exited = true → s.delivery = none)
  consumed_length : ∀ i s, cluster.subscriptions i = some s →
    s.consumed ≤ (cluster.channels (channel s.documentId)).length
  room_subscription : ∀ node documentId room, cluster.rooms node documentId = some room →
    ∃ s, cluster.subscriptions room.sub = some s ∧ s.node = node ∧ s.documentId = documentId ∧
      s.closedAt = none
  room_open : ∀ node documentId room, cluster.rooms node documentId = some room →
    ∀ id v, cluster.view id = some v → v.stage.closes ≠ some room.sub
  room_client : ∀ node documentId room, cluster.rooms node documentId = some room →
    ∀ client ∈ room.clients, ∃ v, cluster.view client = some v ∧ v.node = node ∧
      v.subscription = some room.sub
  connecting : ∀ id v, cluster.view id = some v → v.stage.isConnecting = true →
    v.subscription = none
  closes_bound : ∀ id v, cluster.view id = some v → ∀ i, v.stage.closes = some i →
    i < cluster.nextSubscription
  /-- A goroutine publishes the last envelope of its connection. -/
  tag : ∀ id v, cluster.view id = some v → ∀ tag, v.stage.tag = some tag →
    tag.sender = id ∧ tag.number + 1 = v.sent.length ∧
      ∃ envelope, v.sent[tag.number]? = some envelope ∧ v.stage.Publishes codec v.node envelope
  target : ∀ id v, cluster.view id = some v → ∀ progress, v.stage.progress = some progress →
    ∀ client, progress.Targets client → ∃ w, cluster.view client = some w ∧ w.node = v.node
  /-- A subscription delivers the entry it has consumed last, and only entries of
  other nodes. -/
  delivery : ∀ i s, cluster.subscriptions i = some s → ∀ message progress,
    s.delivery = some (message, progress) → ∃ entry, 0 < s.consumed ∧
      (cluster.channels (channel s.documentId))[s.consumed - 1]? = some entry ∧
      message.tag = some entry.tag ∧
      (∃ decoded, codec.unmarshalMessage entry.payload = some decoded ∧
        codec.marshal decoded.envelope = some message.bytes) ∧
      ∀ v, cluster.view entry.tag.sender = some v → v.node ≠ s.node
  entry : ∀ name, ∀ entry ∈ cluster.channels name, cluster.Accepted codec entry
  sorted : ∀ name, (cluster.channels name).Pairwise fun first second =>
    first.tag.sender = second.tag.sender → first.tag.number < second.tag.number

/-- A client is offered messages by one subscription only. -/
structure Exclusive (cluster : Cluster Bytes) : Prop where
  /-- A node has one live subscription for a document. -/
  live_unique : ∀ i j s t, cluster.subscriptions i = some s → cluster.subscriptions j = some t →
    s.node = t.node → s.documentId = t.documentId → s.exited = false → t.exited = false → i = j
  delivery_target : ∀ i s, cluster.subscriptions i = some s → ∀ message progress,
    s.delivery = some (message, progress) → ∀ client, progress.Targets client →
      ∃ w, cluster.view client = some w ∧ w.node = s.node ∧ w.subscription = some i

theorem empty_layout : (empty : Cluster Bytes).Layout codec where
  subscription_bound := by simp [empty]
  subscription_life := by simp [empty]
  consumed_length := by simp [empty]
  room_subscription := by simp [empty]
  room_open := by simp [empty]
  room_client := by simp [empty]
  connecting := by simp [empty, view]
  closes_bound := by simp [empty, view]
  tag := by simp [empty, view]
  target := by simp [empty, view]
  delivery := by simp [empty]
  entry := by simp [empty]
  sorted := by simp [empty]

/-! ## Steps that keep the layout -/

/-- The layout does not depend on what the queues hold. -/
theorem Layout.of_view {after : Cluster Bytes} (h : cluster.Layout codec)
    (hview : after.view = cluster.view) (hrooms : after.rooms = cluster.rooms)
    (hsubscriptions : after.subscriptions = cluster.subscriptions)
    (hnext : after.nextSubscription = cluster.nextSubscription)
    (hchannels : after.channels = cluster.channels) : after.Layout codec where
  subscription_bound := hsubscriptions ▸ hnext ▸ h.subscription_bound
  subscription_life := hsubscriptions ▸ h.subscription_life
  consumed_length := hsubscriptions ▸ hchannels ▸ h.consumed_length
  room_subscription := hrooms ▸ hsubscriptions ▸ h.room_subscription
  room_open := hrooms ▸ hview ▸ h.room_open
  room_client := hrooms ▸ hview ▸ h.room_client
  connecting := hview ▸ h.connecting
  closes_bound := hview ▸ hnext ▸ h.closes_bound
  tag := hview ▸ h.tag
  target := hview ▸ h.target
  delivery := hsubscriptions ▸ hchannels ▸ hview ▸ h.delivery
  entry := by
    unfold Accepted
    rw [hchannels, hview]
    exact h.entry
  sorted := hchannels ▸ h.sorted

/-- A goroutine takes a step, or a connection is new. -/
theorem Layout.setConnection (h : cluster.Layout codec) {id : ConnId}
    {connection : Connection Bytes}
    (hnode : ∀ v, cluster.view id = some v → v.node = connection.node)
    (hsubscription : ∀ v i, cluster.view id = some v → v.subscription = some i →
      connection.subscription = some i)
    (hpublished : ∀ v, cluster.view id = some v → v.published ≤ connection.view.published)
    (hsent : ∀ v, cluster.view id = some v → v.sent <+: connection.sent)
    (hconnecting : connection.stage.isConnecting = true → connection.subscription = none)
    (hcloses : ∀ i, connection.stage.closes = some i → i < cluster.nextSubscription ∧
      ∀ node documentId room, cluster.rooms node documentId = some room → room.sub ≠ i)
    (htag : ∀ tag, connection.stage.tag = some tag →
      tag.sender = id ∧ tag.number + 1 = connection.sent.length ∧
        ∃ envelope, connection.sent[tag.number]? = some envelope ∧
          connection.stage.Publishes codec connection.node envelope)
    (htarget : ∀ progress, connection.stage.progress = some progress →
      ∀ client, progress.Targets client →
        ∃ w, cluster.view client = some w ∧ w.node = connection.node) :
    (cluster.setConnection id connection).Layout codec := by
  have hcases : ∀ other v, (cluster.setConnection id connection).view other = some v →
      other = id ∧ v = connection.view ∨ other ≠ id ∧ cluster.view other = some v := by
    intro other v hv
    rw [view_setConnection] at hv
    by_cases heq : other = id
    · rw [heq, Function.update_self, Option.some.injEq] at hv
      exact .inl ⟨heq, hv.symm⟩
    · rw [Function.update_of_ne heq] at hv
      exact .inr ⟨heq, hv⟩
  have hkept : ∀ other v, cluster.view other = some v →
      ∃ w, (cluster.setConnection id connection).view other = some w ∧ w.node = v.node ∧
        (∀ i, v.subscription = some i → w.subscription = some i) ∧
        v.published ≤ w.published ∧ v.sent <+: w.sent := by
    intro other v hv
    rw [view_setConnection]
    by_cases heq : other = id
    · subst heq
      exact ⟨connection.view, by simp, (hnode v hv).symm, fun i hi => hsubscription v i hv hi,
        hpublished v hv, hsent v hv⟩
    · exact ⟨v, by simp [heq, hv], rfl, fun _ hi => hi, le_rfl, List.prefix_rfl⟩
  refine ⟨h.subscription_bound, h.subscription_life, h.consumed_length, h.room_subscription,
    ?_, ?_, ?_, ?_, ?_, ?_, ?_, ?_, h.sorted⟩
  · intro node documentId room hroom other v hv
    rcases hcases other v hv with ⟨rfl, rfl⟩ | ⟨-, hv⟩
    · exact fun hclose => (hcloses room.sub hclose).2 node documentId room hroom rfl
    · exact h.room_open node documentId room hroom other v hv
  · intro node documentId room hroom client hclient
    obtain ⟨v, hv, hvnode, hvsubscription⟩ :=
      h.room_client node documentId room hroom client hclient
    obtain ⟨w, hw, hwnode, hwsubscription, -⟩ := hkept client v hv
    exact ⟨w, hw, hwnode.trans hvnode, hwsubscription _ hvsubscription⟩
  · intro other v hv hstage
    rcases hcases other v hv with ⟨rfl, rfl⟩ | ⟨-, hv⟩
    · exact hconnecting hstage
    · exact h.connecting other v hv hstage
  · intro other v hv i hi
    rcases hcases other v hv with ⟨rfl, rfl⟩ | ⟨-, hv⟩
    · exact (hcloses i hi).1
    · exact h.closes_bound other v hv i hi
  · intro other v hv tag hstage
    rcases hcases other v hv with ⟨rfl, rfl⟩ | ⟨-, hv⟩
    · exact htag tag hstage
    · exact h.tag other v hv tag hstage
  · intro other v hv progress hprogress client hclient
    have hbefore : ∃ w, cluster.view client = some w ∧ w.node = v.node := by
      rcases hcases other v hv with ⟨rfl, rfl⟩ | ⟨-, hv⟩
      · exact htarget progress hprogress client hclient
      · exact h.target other v hv progress hprogress client hclient
    obtain ⟨w, hw, hwnode⟩ := hbefore
    obtain ⟨x, hx, hxnode, -⟩ := hkept client w hw
    exact ⟨x, hx, hxnode.trans hwnode⟩
  · intro i s hs message progress hdelivery
    obtain ⟨entry, hpositive, hentry, hmessage, hdecoded, hforeign⟩ :=
      h.delivery i s hs message progress hdelivery
    refine ⟨entry, hpositive, hentry, hmessage, hdecoded, fun v hv => ?_⟩
    obtain ⟨w, hw, -⟩ := h.entry _ entry (List.mem_of_getElem? hentry)
    obtain ⟨x, hx, hxnode, -⟩ := hkept _ w hw
    cases hv.symm.trans hx
    exact hxnode ▸ hforeign w hw
  · intro name entry hentry
    obtain ⟨v, hv, hnumber, envelope, henvelope, hsource⟩ := h.entry name entry hentry
    obtain ⟨w, hw, hwnode, -, hwpublished, hwsent⟩ := hkept _ v hv
    exact ⟨w, hw, hnumber.trans_le hwpublished, envelope,
      Foundation.List.getElem?_of_prefix hwsent henvelope, hwnode ▸ hsource⟩

theorem setRoom_cases {node otherNode : NodeId} {documentId other : DocumentId}
    {row : Option Room} {room : Room}
    (hroom : (cluster.setRoom node documentId row).rooms otherNode other = some room) :
    otherNode = node ∧ other = documentId ∧ row = some room ∨
      ¬ (otherNode = node ∧ other = documentId) ∧ cluster.rooms otherNode other = some room := by
  unfold Cluster.setRoom at hroom
  by_cases hnode : otherNode = node
  · subst hnode
    by_cases hdocument : other = documentId
    · subst hdocument
      simp only [Function.update_self] at hroom
      exact .inl ⟨rfl, rfl, hroom⟩
    · simp only [Function.update_self, Function.update_of_ne hdocument] at hroom
      exact .inr ⟨fun h => hdocument h.2, hroom⟩
  · simp only [Function.update_of_ne hnode] at hroom
    exact .inr ⟨fun h => hnode h.1, hroom⟩

/-- A room is written or removed. -/
theorem Layout.setRoom (h : cluster.Layout codec) {node : NodeId} {documentId : DocumentId}
    {row : Option Room}
    (hrow : ∀ room, row = some room →
      (∃ s, cluster.subscriptions room.sub = some s ∧ s.node = node ∧
        s.documentId = documentId ∧ s.closedAt = none) ∧
      (∀ id v, cluster.view id = some v → v.stage.closes ≠ some room.sub) ∧
      ∀ client ∈ room.clients, ∃ v, cluster.view client = some v ∧ v.node = node ∧
        v.subscription = some room.sub) :
    (cluster.setRoom node documentId row).Layout codec := by
  refine ⟨h.subscription_bound, h.subscription_life, h.consumed_length, ?_, ?_, ?_,
    h.connecting, h.closes_bound, h.tag, h.target, h.delivery, h.entry, h.sorted⟩
  · intro otherNode other room hroom
    rcases setRoom_cases hroom with ⟨rfl, rfl, hnew⟩ | ⟨-, hold⟩
    · exact (hrow room hnew).1
    · exact h.room_subscription otherNode other room hold
  · intro otherNode other room hroom
    rcases setRoom_cases hroom with ⟨rfl, rfl, hnew⟩ | ⟨-, hold⟩
    · exact (hrow room hnew).2.1
    · exact h.room_open otherNode other room hold
  · intro otherNode other room hroom
    rcases setRoom_cases hroom with ⟨rfl, rfl, hnew⟩ | ⟨-, hold⟩
    · exact (hrow room hnew).2.2
    · exact h.room_client otherNode other room hold

theorem setSubscription_cases (cluster : Cluster Bytes) (id : SubId)
    (subscription : Subscription Bytes) (i : SubId) (s : Subscription Bytes)
    (hs : (cluster.setSubscription id subscription).subscriptions i = some s) :
    i = id ∧ s = subscription ∨ i ≠ id ∧ cluster.subscriptions i = some s := by
  unfold Cluster.setSubscription at hs
  by_cases heq : i = id
  · simp only [heq, Function.update_self, Option.some.injEq] at hs
    exact .inl ⟨heq, hs.symm⟩
  · simp only [Function.update_of_ne heq] at hs
    exact .inr ⟨heq, hs⟩

/-- A subscription takes a step, or is new. -/
theorem Layout.setSubscription (h : cluster.Layout codec) {id : SubId}
    {subscription : Subscription Bytes} (hbound : id < cluster.nextSubscription)
    (hlife : (subscription.stopped = true → subscription.closedAt.isSome = true) ∧
      (subscription.exited = true → subscription.stopped = true) ∧
        (subscription.exited = true → subscription.delivery = none))
    (hlength : subscription.consumed ≤
      (cluster.channels (channel subscription.documentId)).length)
    (hroom : ∀ node documentId room, cluster.rooms node documentId = some room → room.sub = id →
      subscription.node = node ∧ subscription.documentId = documentId ∧
        subscription.closedAt = none)
    (hdelivery : ∀ message progress, subscription.delivery = some (message, progress) →
      ∃ entry, 0 < subscription.consumed ∧
        (cluster.channels (channel subscription.documentId))[subscription.consumed - 1]? =
          some entry ∧ message.tag = some entry.tag ∧
        (∃ decoded, codec.unmarshalMessage entry.payload = some decoded ∧
          codec.marshal decoded.envelope = some message.bytes) ∧
        ∀ v, cluster.view entry.tag.sender = some v → v.node ≠ subscription.node) :
    (cluster.setSubscription id subscription).Layout codec := by
  have hcases := cluster.setSubscription_cases id subscription
  refine ⟨?_, ?_, ?_, ?_, h.room_open, h.room_client, h.connecting, h.closes_bound, h.tag,
    h.target, ?_, h.entry, h.sorted⟩
  · intro i s hs
    rcases hcases i s hs with ⟨rfl, -⟩ | ⟨-, hs⟩
    · exact hbound
    · exact h.subscription_bound i s hs
  · intro i s hs
    rcases hcases i s hs with ⟨-, rfl⟩ | ⟨-, hs⟩
    · exact hlife
    · exact h.subscription_life i s hs
  · intro i s hs
    rcases hcases i s hs with ⟨-, rfl⟩ | ⟨-, hs⟩
    · exact hlength
    · exact h.consumed_length i s hs
  · intro node documentId room hrooms
    by_cases heq : room.sub = id
    · exact ⟨subscription, by simp [Cluster.setSubscription, heq],
        hroom node documentId room hrooms heq⟩
    · obtain ⟨s, hs, hrest⟩ := h.room_subscription node documentId room hrooms
      exact ⟨s, by simp [Cluster.setSubscription, heq, hs], hrest⟩
  · intro i s hs message progress hstep
    rcases hcases i s hs with ⟨-, rfl⟩ | ⟨-, hs⟩
    · exact hdelivery message progress hstep
    · exact h.delivery i s hs message progress hstep

theorem prefix_append (cluster : Cluster Bytes) (name : String) (entry : Published Bytes)
    (other : String) : cluster.channels other <+: (cluster.append name entry).channels other := by
  unfold Cluster.append
  by_cases heq : other = name
  · subst heq
    simp
  · simp [heq]

/-- The broker accepts an envelope that is past its publication. -/
theorem Layout.append (h : cluster.Layout codec) {name : String} {entry : Published Bytes}
    (haccepted : cluster.Accepted codec entry)
    (hnew : ∀ old ∈ cluster.channels name, old.tag.sender = entry.tag.sender →
      old.tag.number < entry.tag.number) : (cluster.append name entry).Layout codec := by
  have hgrown := cluster.prefix_append name entry
  refine ⟨h.subscription_bound, h.subscription_life, fun i s hs =>
    (h.consumed_length i s hs).trans (hgrown _).length_le, h.room_subscription, h.room_open,
    h.room_client, h.connecting, h.closes_bound, h.tag, h.target, ?_, ?_, ?_⟩
  · intro i s hs message progress hdelivery
    obtain ⟨found, hpositive, hfound, hrest⟩ := h.delivery i s hs message progress hdelivery
    exact ⟨found, hpositive, Foundation.List.getElem?_of_prefix (hgrown _) hfound, hrest⟩
  · intro other found hfound
    unfold Cluster.append at hfound
    by_cases heq : other = name
    · simp only [heq, Function.update_self, List.mem_append, List.mem_singleton] at hfound
      rcases hfound with hfound | rfl
      · exact h.entry name found hfound
      · exact haccepted
    · simp only [Function.update_of_ne heq] at hfound
      exact h.entry other found hfound
  · intro other
    unfold Cluster.append
    by_cases heq : other = name
    · simp only [heq, Function.update_self]
      refine List.pairwise_append.mpr ⟨h.sorted name, List.pairwise_singleton _ _, ?_⟩
      intro old hold last hlast
      rw [List.mem_singleton.mp hlast]
      exact hnew old hold
    · simp only [Function.update_of_ne heq]
      exact h.sorted other

end Cluster

end CollabEditor.Hub
