import CollabEditor.Hub.Layout

/-! # Every envelope once and in order

A client gets the envelopes of its own node from their senders' goroutines and
all others from the subscription of the room it joined. Both sources run through
their envelopes in order, provided a room is not opened again while an earlier
subscription of its document still has messages to deliver.
-/

namespace CollabEditor.Hub

open Foundation
open Backend (DocumentId Instant)

namespace Cluster

variable {Bytes : Type} {codec : Codec Bytes} {cluster : Cluster Bytes} {drained : Prop}

/-- Why a client can have received an envelope: its sender is of the same node
and past offering it, or the client's subscription is past its entry. -/
def Evidence (cluster : Cluster Bytes) (client sender : ConnId) (number : Nat) : Prop :=
  ∃ w v, cluster.view client = some w ∧ cluster.view sender = some v ∧
    (w.node = v.node → number < v.offered client) ∧
    (w.node ≠ v.node → ∃ i s, w.subscription = some i ∧ cluster.subscriptions i = some s ∧
      ∃ index < s.offered client, ∃ entry,
        (cluster.channels (channel s.documentId))[index]? = some entry ∧
          entry.tag = ⟨sender, number⟩)

/-- Everybody has received each sender's envelopes in order, without repetition. -/
def InOrder (cluster : Cluster Bytes) : Prop :=
  ∀ client connection, cluster.connections client = some connection → ∀ sender,
    (numbersFrom sender connection.received).Pairwise (· < ·)

/-- The bytes are those of the envelope with the tag. -/
def Renders (codec : Codec Bytes) (cluster : Cluster Bytes) (tag : Tag) (bytes : Bytes) : Prop :=
  ∃ v envelope, cluster.view tag.sender = some v ∧ v.sent[tag.number]? = some envelope ∧
    codec.Renders v.node envelope bytes

/-- Everybody has received the envelopes as they were published. -/
def Faithful (codec : Codec Bytes) (cluster : Cluster Bytes) : Prop :=
  ∀ client connection, cluster.connections client = some connection →
    ∀ message ∈ connection.received, ∀ tag, message.tag = some tag →
      cluster.Renders codec tag message.bytes

/-- Nothing was received without evidence. -/
def Justified (cluster : Cluster Bytes) : Prop :=
  ∀ client connection, cluster.connections client = some connection → ∀ sender,
    ∀ number ∈ numbersFrom sender connection.received, cluster.Evidence client sender number

/-! ## Evidence is kept -/

/-- Senders and subscriptions only get ahead, channels only grow. -/
structure Grows (before after : Cluster Bytes) : Prop where
  view : ∀ id v, before.view id = some v → ∃ w, after.view id = some w ∧ w.node = v.node ∧
    (∀ i, v.subscription = some i → w.subscription = some i) ∧
      (∀ client, v.offered client ≤ w.offered client) ∧ v.sent <+: w.sent
  subscription : ∀ i s, before.subscriptions i = some s → ∃ t, after.subscriptions i = some t ∧
    t.documentId = s.documentId ∧ ∀ client, s.offered client ≤ t.offered client
  channel : ∀ name, before.channels name <+: after.channels name

theorem Evidence.grow {after : Cluster Bytes} {client sender : ConnId} {number : Nat}
    (h : cluster.Evidence client sender number) (hgrows : cluster.Grows after) :
    after.Evidence client sender number := by
  obtain ⟨w, v, hw, hv, hlocal, hremote⟩ := h
  obtain ⟨w', hw', hwnode, hwsubscription, -⟩ := hgrows.view client w hw
  obtain ⟨v', hv', hvnode, -, hvoffered, -⟩ := hgrows.view sender v hv
  refine ⟨w', v', hw', hv', fun hsame => ?_, fun hother => ?_⟩
  · rw [hwnode, hvnode] at hsame
    exact (hlocal hsame).trans_le (hvoffered client)
  · rw [hwnode, hvnode] at hother
    obtain ⟨i, s, hi, hs, index, hindex, entry, hentry, htag⟩ := hremote hother
    obtain ⟨t, ht, hdocument, hoffered⟩ := hgrows.subscription i s hs
    refine ⟨i, t, hwsubscription i hi, ht, index, hindex.trans_le (hoffered client), entry, ?_,
      htag⟩
    rw [hdocument]
    exact Foundation.List.getElem?_of_prefix (hgrows.channel _) hentry

theorem Renders.grow {after : Cluster Bytes} {tag : Tag} {bytes : Bytes}
    (h : cluster.Renders codec tag bytes) (hgrows : cluster.Grows after) :
    after.Renders codec tag bytes := by
  obtain ⟨v, envelope, hv, henvelope, hbytes⟩ := h
  obtain ⟨w, hw, hwnode, -, -, hwsent⟩ := hgrows.view tag.sender v hv
  exact ⟨w, envelope, hw, Foundation.List.getElem?_of_prefix hwsent henvelope, hwnode ▸ hbytes⟩

/-- The invariant. Its last three parts depend on whether the run drains the
subscriptions of a room before it opens the room again. -/
structure Ordered (codec : Codec Bytes) (drained : Prop) (cluster : Cluster Bytes) : Prop where
  layout : cluster.Layout codec
  faithful : cluster.Faithful codec
  exclusive : drained → cluster.Exclusive
  inOrder : drained → cluster.InOrder
  justified : drained → cluster.Justified

theorem empty_ordered : (empty : Cluster Bytes).Ordered codec drained where
  layout := empty_layout
  faithful := by simp [Faithful, empty]
  exclusive _ := ⟨by simp [empty], by simp [empty]⟩
  inOrder _ := by simp [InOrder, empty]
  justified _ := by simp [Justified, empty]

/-- A step that puts no tagged message into a queue. -/
theorem Ordered.growExclusive {after : Cluster Bytes} (h : cluster.Ordered codec drained)
    (hlayout : after.Layout codec) (hexclusive : drained → after.Exclusive)
    (hgrows : cluster.Grows after)
    (hreceived : ∀ id connection, after.connections id = some connection →
      connection.received = [] ∨ ∃ old, cluster.connections id = some old ∧
        tagged connection.received = tagged old.received) :
    after.Ordered codec drained := by
  refine ⟨hlayout, ?_, hexclusive, fun hdrained => ?_, fun hdrained => ?_⟩
  · intro client connection hconnection message hmessage tag htag
    rcases hreceived client connection hconnection with hnone | ⟨old, hold, hsame⟩
    · simp [hnone] at hmessage
    · exact (h.faithful client old hold message (mem_of_tagged hsame htag hmessage) tag htag).grow
        hgrows
  · intro client connection hconnection sender
    rcases hreceived client connection hconnection with hnone | ⟨old, hold, hsame⟩
    · simp [hnone, numbersFrom]
    · rw [numbersFrom_of_tagged hsame]
      exact h.inOrder hdrained client old hold sender
  · intro client connection hconnection sender number hnumber
    rcases hreceived client connection hconnection with hnone | ⟨old, hold, hsame⟩
    · simp [hnone, numbersFrom] at hnumber
    · rw [numbersFrom_of_tagged hsame] at hnumber
      exact (h.justified hdrained client old hold sender number hnumber).grow hgrows

theorem Exclusive.grow {after : Cluster Bytes} (h : cluster.Exclusive)
    (hgrows : cluster.Grows after) (hsame : after.subscriptions = cluster.subscriptions) :
    after.Exclusive where
  live_unique := hsame ▸ h.live_unique
  delivery_target := by
    intro i s hs message progress hdelivery client hclient
    rw [hsame] at hs
    obtain ⟨w, hw, hwnode, hwsubscription⟩ :=
      h.delivery_target i s hs message progress hdelivery client hclient
    obtain ⟨x, hx, hxnode, hxsubscription, -⟩ := hgrows.view client w hw
    exact ⟨x, hx, hxnode.trans hwnode, hxsubscription i hwsubscription⟩

/-- A subscription takes a step, or is new. -/
theorem Exclusive.setSubscription (h : cluster.Exclusive) {id : SubId}
    {subscription : Subscription Bytes}
    (hlive : ∀ j t, cluster.subscriptions j = some t → j ≠ id → t.node = subscription.node →
      t.documentId = subscription.documentId → t.exited = false → subscription.exited = true)
    (htarget : ∀ message progress, subscription.delivery = some (message, progress) →
      ∀ client, progress.Targets client → ∃ w, cluster.view client = some w ∧
        w.node = subscription.node ∧ w.subscription = some id) :
    (cluster.setSubscription id subscription).Exclusive := by
  have hcases := cluster.setSubscription_cases id subscription
  refine ⟨?_, ?_⟩
  · intro i j s t hs ht hnode hdocument hsLive htLive
    rcases hcases i s hs with ⟨rfl, rfl⟩ | ⟨hi, hs'⟩ <;>
      rcases hcases j t ht with ⟨rfl, rfl⟩ | ⟨hj, ht'⟩
    · rfl
    · rw [hlive j t ht' hj hnode.symm hdocument.symm htLive] at hsLive
      cases hsLive
    · rw [hlive i s hs' hi hnode hdocument hsLive] at htLive
      cases htLive
    · exact h.live_unique i j s t hs' ht' hnode hdocument hsLive htLive
  · intro i s hs message progress hdelivery
    rcases hcases i s hs with ⟨rfl, rfl⟩ | ⟨-, hs⟩
    · exact htarget message progress hdelivery
    · exact h.delivery_target i s hs message progress hdelivery

/-- A step that puts no tagged message into a queue, and is none of a
subscription. -/
theorem Ordered.grow {after : Cluster Bytes} (h : cluster.Ordered codec drained)
    (hlayout : after.Layout codec) (hsame : after.subscriptions = cluster.subscriptions)
    (hgrows : cluster.Grows after)
    (hreceived : ∀ id connection, after.connections id = some connection →
      connection.received = [] ∨ ∃ old, cluster.connections id = some old ∧
        tagged connection.received = tagged old.received) :
    after.Ordered codec drained :=
  h.growExclusive hlayout (fun hdrained => (h.exclusive hdrained).grow hgrows hsame) hgrows hreceived

theorem grows_setConnection {id : ConnId} {connection : Connection Bytes}
    (hnode : ∀ v, cluster.view id = some v → v.node = connection.node)
    (hsubscription : ∀ v i, cluster.view id = some v → v.subscription = some i →
      connection.subscription = some i)
    (hoffered : ∀ v, cluster.view id = some v →
      ∀ client, v.offered client ≤ connection.view.offered client)
    (hsent : ∀ v, cluster.view id = some v → v.sent <+: connection.sent) :
    cluster.Grows (cluster.setConnection id connection) where
  view := by
    intro other v hv
    rw [view_setConnection]
    by_cases heq : other = id
    · subst heq
      exact ⟨connection.view, by simp, (hnode v hv).symm, fun i hi => hsubscription v i hv hi,
        hoffered v hv, hsent v hv⟩
    · exact ⟨v, by simp [heq, hv], rfl, fun _ hi => hi, fun _ => le_rfl, List.prefix_rfl⟩
  subscription i s hs := ⟨s, hs, rfl, fun _ => le_rfl⟩
  channel _ := List.prefix_rfl

theorem received_setConnection {id : ConnId} {connection : Connection Bytes}
    (hreceived : connection.received = [] ∨ ∃ old, cluster.connections id = some old ∧
      tagged connection.received = tagged old.received)
    (other : ConnId) (found : Connection Bytes)
    (hfound : (cluster.setConnection id connection).connections other = some found) :
    found.received = [] ∨ ∃ old, cluster.connections other = some old ∧
      tagged found.received = tagged old.received := by
  unfold Cluster.setConnection at hfound
  by_cases heq : other = id
  · simp only [heq, Function.update_self, Option.some.injEq] at hfound
    subst hfound
    exact heq ▸ hreceived
  · simp only [Function.update_of_ne heq] at hfound
    exact .inr ⟨found, hfound, rfl⟩

/-! ## Steps of a connection's goroutine -/

/-- The subscription may be closed: it is that of no room. -/
def Closable (cluster : Cluster Bytes) (subscription : Option SubId) : Prop :=
  ∀ i, subscription = some i → i < cluster.nextSubscription ∧
    ∀ node documentId room, cluster.rooms node documentId = some room → room.sub ≠ i

theorem Layout.closable (h : cluster.Layout codec) {id : ConnId} {v : View Bytes}
    (hv : cluster.view id = some v) : cluster.Closable v.stage.closes := by
  intro i hi
  refine ⟨h.closes_bound id v hv i hi, ?_⟩
  rintro node documentId room hroom rfl
  exact h.room_open node documentId room hroom id v hv hi

/-- A step of a goroutine that receives no envelope. -/
theorem Ordered.setConnection (h : cluster.Ordered codec drained) {id : ConnId}
    {old new : Connection Bytes} (hold : cluster.connections id = some old)
    (hkept : Connection.Kept old new)
    (hpublished : old.view.published ≤ new.view.published)
    (hoffered : ∀ client, old.view.offered client ≤ new.view.offered client)
    (hsent : old.sent <+: new.sent) (hstarted : new.stage.isConnecting = false) (hcloses : cluster.Closable new.stage.closes)
    (htag : ∀ tag, new.stage.tag = some tag → tag.sender = id ∧
      tag.number + 1 = new.sent.length ∧ ∃ envelope, new.sent[tag.number]? = some envelope ∧
        new.stage.Publishes codec new.node envelope)
    (htarget : ∀ progress, new.stage.progress = some progress → ∀ client,
      progress.Targets client → ∃ w, cluster.view client = some w ∧ w.node = new.node) :
    (cluster.setConnection id new).Ordered codec drained := by
  have hview : ∀ v, cluster.view id = some v → v = old.view :=
    fun v hv => Option.some.inj (hv.symm.trans (view_eq hold))
  have hnode : ∀ v, cluster.view id = some v → v.node = new.node := by
    intro v hv
    rw [hview v hv]
    exact hkept.node.symm
  have hsubscription : ∀ v i, cluster.view id = some v → v.subscription = some i →
      new.subscription = some i := by
    intro v i hv hi
    rw [hview v hv] at hi
    exact hkept.subscription i hi
  refine h.grow (h.layout.setConnection hnode hsubscription (fun v hv => hview v hv ▸ hpublished)
    (fun v hv => hview v hv ▸ hsent) (by simp [hstarted]) hcloses htag htarget) rfl
    (grows_setConnection hnode hsubscription (fun v hv => hview v hv ▸ hoffered)
      fun v hv => hview v hv ▸ hsent)
    (received_setConnection (.inr ⟨old, hold, hkept.received⟩))

/-- A step after which nothing is being published. -/
theorem Ordered.rest (h : cluster.Ordered codec drained) {id : ConnId} {old new : Connection Bytes}
    (hold : cluster.connections id = some old) (hkept : Connection.Kept old new)
    (hsent : new.sent = old.sent) (hinactive : new.stage.Inactive)
    (hstarted : new.stage.isConnecting = false) (hcloses : cluster.Closable new.stage.closes) :
    (cluster.setConnection id new).Ordered codec drained := by
  obtain ⟨htag, hprogress⟩ := hinactive
  have hpublished : new.view.published = old.view.sent.length := by
    simp [View.published, Connection.view, htag, hsent]
  have hoffered : ∀ client, new.view.offered client = old.view.sent.length := by
    simp [View.offered, Connection.view, hprogress, hsent]
  exact h.setConnection hold hkept (hpublished ▸ old.view.published_le)
    (fun client => hoffered client ▸ old.view.offered_le client) (hsent ▸ List.prefix_rfl) hstarted
    hcloses (by simp [htag]) (by simp [hprogress])

/-- The end of a publication. -/
theorem Ordered.proceed (h : cluster.Ordered codec drained) {id : ConnId} {old new : Connection Bytes}
    (hold : cluster.connections id = some old) (hkept : Connection.Kept old new)
    (hsent : new.sent = old.sent) (failed : Bool) {next : Continuation}
    (hcloses : cluster.Closable next.closes) :
    (cluster.setConnection id (new.proceed codec failed next)).Ordered codec drained := by
  obtain ⟨hproceed, -, hsame, hinactive, hstarted, hclose⟩ := new.proceed_spec codec failed next
  exact h.rest hold (hkept.trans hproceed) (hsame.trans hsent) hinactive hstarted
    (hclose ▸ hcloses)

/-- A goroutine that was not publishing starts to. -/
theorem Ordered.start (h : cluster.Ordered codec drained) {id : ConnId}
    {old new : Connection Bytes} (hold : cluster.connections id = some old)
    (hkept : Connection.Kept old new) (hsent : new.sent = old.sent) (envelope : Envelope)
    {next : Continuation} (hcloses : cluster.Closable next.closes) :
    (cluster.setConnection id (new.publish codec id envelope next)).Ordered codec drained := by
  unfold Connection.publish
  split
  next => exact h.proceed hold hkept hsent true hcloses
  next bytes hbytes =>
    refine h.setConnection hold ⟨hkept.node, hkept.subscription, hkept.received⟩ ?_ ?_ ?_ rfl
      hcloses ?_ ?_
    · refine old.view.published_le.trans ?_
      simp [View.published, Connection.view, Stage.tag, hsent]
    · refine fun client => (old.view.offered_le client).trans ?_
      simp [View.offered, Connection.view, Stage.progress, Progress.pending, hsent]
    · exact hsent ▸ List.prefix_append _ _
    · rintro tag htag
      cases htag
      exact ⟨rfl, by simp, envelope, by simp, hbytes, rfl⟩
    · rintro progress hprogress client htarget
      cases hprogress
      cases htarget

/-! ## Rooms -/

theorem Ordered.setRoom (h : cluster.Ordered codec drained) {node : NodeId} {documentId : DocumentId}
    {row : Option Room}
    (hrow : ∀ room, row = some room →
      (∃ s, cluster.subscriptions room.sub = some s ∧ s.node = node ∧
        s.documentId = documentId ∧ s.closedAt = none) ∧
      (∀ id v, cluster.view id = some v → v.stage.closes ≠ some room.sub) ∧
      ∀ client ∈ room.clients, ∃ v, cluster.view client = some v ∧ v.node = node ∧
        v.subscription = some room.sub) :
    (cluster.setRoom node documentId row).Ordered codec drained :=
  h.grow (h.layout.setRoom hrow) rfl
    ⟨fun _ v hv => ⟨v, hv, rfl, fun _ hi => hi, fun _ => le_rfl, List.prefix_rfl⟩,
      fun _ s hs => ⟨s, hs, rfl, fun _ => le_rfl⟩, fun _ => List.prefix_rfl⟩
    fun _ connection hconnection => .inr ⟨connection, hconnection, rfl⟩

/-- A client enters a room whose subscription is open. -/
theorem Ordered.join (h : cluster.Ordered codec drained) {id : ConnId}
    {connection : Connection Bytes} (hconnection : cluster.connections id = some connection)
    (hconnecting : connection.stage = .connecting) (room : Room) {documentId : DocumentId}
    (hsubscription : ∃ s, cluster.subscriptions room.sub = some s ∧ s.node = connection.node ∧
      s.documentId = documentId ∧ s.closedAt = none)
    (hopen : ∀ id v, cluster.view id = some v → v.stage.closes ≠ some room.sub)
    (hclients : ∀ client ∈ room.clients, ∃ v, cluster.view client = some v ∧
      v.node = connection.node ∧ v.subscription = some room.sub) (envelope : Envelope) :
    ((cluster.setRoom connection.node documentId
        (some { room with clients := insert id room.clients })).setConnection id
      (({ connection with subscription := some room.sub } : Connection Bytes).publish codec id
        envelope .acknowledge)).Ordered codec drained := by
  have hnone : connection.subscription = none :=
    h.layout.connecting id connection.view (view_eq hconnection)
      (by simp [Connection.view, hconnecting, Stage.isConnecting])
  have hjoined := h.start hconnection
    (show Connection.Kept connection { connection with subscription := some room.sub } from
      ⟨rfl, fun i hi => by simp [hnone] at hi, rfl⟩) rfl envelope
    (show cluster.Closable Continuation.acknowledge.closes from nofun)
  obtain ⟨hnode, hjoins, hcloses⟩ := Connection.publish_kept
    ({ connection with subscription := some room.sub } : Connection Bytes) codec id envelope
    .acknowledge
  refine hjoined.setRoom fun written hwritten => ?_
  cases hwritten
  refine ⟨hsubscription, fun other v hv => ?_, fun client hclient => ?_⟩
  · rw [view_setConnection] at hv
    by_cases heq : other = id
    · subst heq
      rw [Function.update_self, Option.some.injEq] at hv
      subst hv
      exact fun hclose => nomatch hcloses.symm.trans hclose
    · rw [Function.update_of_ne heq] at hv
      exact hopen other v hv
  · rw [view_setConnection]
    by_cases heq : client = id
    · subst heq
      exact ⟨_, Function.update_self .., hnode, hjoins⟩
    · rw [Function.update_of_ne heq]
      exact hclients client ((Finset.mem_insert.mp hclient).resolve_left heq)

/-- A new subscription is opened, when no earlier one of its node and document
is alive. -/
theorem Ordered.subscribe (h : cluster.Ordered codec drained) {node : NodeId}
    {documentId : DocumentId}
    (hdrained : drained → ∀ i s, cluster.subscriptions i = some s → s.node = node →
      s.documentId = documentId → s.exited = true) :
    (cluster.subscribe node documentId).Ordered codec drained := by
  have hfresh : ∀ i s, cluster.subscriptions i = some s → i ≠ cluster.nextSubscription :=
    fun i s hs => (h.layout.subscription_bound i s hs).ne
  have hbumped : ({ cluster with nextSubscription := cluster.nextSubscription + 1 }
      : Cluster Bytes).Layout codec := by
    obtain ⟨h1, h2, h3, h4, h5, h6, h7, h8, h9, h10, h11, h12, h13⟩ := h.layout
    exact ⟨fun i s hs => (h1 i s hs).trans (Nat.lt_succ_self _), h2, h3, h4, h5, h6, h7,
      fun id v hv i hi => (h8 id v hv i hi).trans (Nat.lt_succ_self _), h9, h10, h11, h12, h13⟩
  have hunique : drained → ({ cluster with nextSubscription := cluster.nextSubscription + 1 }
      : Cluster Bytes).Exclusive :=
    fun hdrain => ⟨(h.exclusive hdrain).live_unique, (h.exclusive hdrain).delivery_target⟩
  refine h.growExclusive (hbumped.setSubscription (Nat.lt_succ_self _) ?_ le_rfl ?_ (by simp))
    (fun hdrain => (hunique hdrain).setSubscription ?_ (by simp)) ?_ ?_
  · simp
  · intro otherNode other room hroom hsub
    obtain ⟨s, hs, -⟩ := h.layout.room_subscription otherNode other room hroom
    exact absurd hsub (hfresh _ s hs)
  · intro j t ht _ htnode htdocument htlive
    rw [hdrained hdrain j t ht htnode htdocument] at htlive
    cases htlive
  · refine ⟨fun _ v hv => ⟨v, hv, rfl, fun _ hi => hi, fun _ => le_rfl, List.prefix_rfl⟩, fun i s hs => ?_,
      fun _ => List.prefix_rfl⟩
    exact ⟨s, (Function.update_of_ne (hfresh i s hs) _ _).trans hs, rfl, fun _ => le_rfl⟩
  · exact fun _ connection hconnection => .inr ⟨connection, hconnection, rfl⟩

/-- `Register`: a room is only opened when the earlier subscriptions of the
document are drained. -/
theorem Ordered.register (h : cluster.Ordered codec drained) {id : ConnId}
    {connection : Connection Bytes} (hconnection : cluster.connections id = some connection)
    (hconnecting : connection.stage = .connecting) (subscribed : Bool) (now : Instant)
    (hdrained : drained → cluster.rooms connection.node connection.client.documentId = none →
      ∀ i s, cluster.subscriptions i = some s → s.node = connection.node →
        s.documentId = connection.client.documentId → s.exited = true) :
    (cluster.register codec id connection subscribed now).Ordered codec drained := by
  unfold Cluster.register
  dsimp only
  split
  next room hroom =>
    exact h.join hconnection hconnecting room
      (h.layout.room_subscription _ _ room hroom) (h.layout.room_open _ _ room hroom)
      (h.layout.room_client _ _ room hroom) _
  next hroom =>
    split
    next =>
      have hopened := h.subscribe fun hdrain => hdrained hdrain hroom
      refine hopened.join hconnection hconnecting
        { clients := ∅, sub := cluster.nextSubscription } ?_ ?_ ?_ _
      · exact ⟨_, Function.update_self .., rfl, rfl, rfl⟩
      · exact fun other v hv hcloses =>
          (h.layout.closes_bound other v hv _ hcloses).false
      · exact fun client hclient => absurd hclient (Finset.notMem_empty client)
    next =>
      exact h.rest hconnection ⟨rfl, fun _ hi => hi, rfl⟩ rfl ⟨rfl, rfl⟩ rfl nofun

/-- `Unregister` removes the client, and the room with its last client. -/
theorem Ordered.leave (h : cluster.Ordered codec drained) {id : ConnId}
    {connection : Connection Bytes} (hconnection : cluster.connections id = some connection)
    (now : Instant) : (cluster.leave codec id connection now).Ordered codec drained := by
  unfold Cluster.leave
  dsimp only
  split
  next =>
    exact h.rest hconnection ⟨rfl, fun _ hi => hi, rfl⟩ rfl ⟨rfl, rfl⟩ rfl nofun
  next room hroom =>
    have hsubscription := h.layout.room_subscription _ _ room hroom
    have hleft := h.setRoom (show ∀ written, (if room.clients.erase id = ∅ then none
        else some { room with clients := room.clients.erase id }) = some written → _ by
      intro written hwritten
      split at hwritten
      next => cases hwritten
      next =>
        cases hwritten
        exact ⟨hsubscription, h.layout.room_open _ _ room hroom, fun client hclient =>
          h.layout.room_client _ _ room hroom client (Finset.mem_of_mem_erase hclient)⟩)
    refine hleft.start hconnection (.refl connection) rfl _ ?_
    intro i hi
    split at hi
    next hempty =>
      cases hi
      -- the emptied room is gone, and no other one uses its subscription
      obtain ⟨s, hs, hnode, hdocument, -⟩ := hsubscription
      refine ⟨h.layout.subscription_bound _ s hs, ?_⟩
      rintro node documentId other hother hsame
      rcases setRoom_cases hother with ⟨-, -, hrow⟩ | ⟨hne, hold⟩
      · simp [hempty] at hrow
      · obtain ⟨t, ht, htnode, htdocument, -⟩ :=
          h.layout.room_subscription node documentId other hold
        rw [hsame, hs, Option.some.injEq] at ht
        subst ht
        exact hne ⟨htnode.symm.trans hnode, htdocument.symm.trans hdocument⟩
    next => cases hi

/-! ## Offers -/

/-- A method that changes neither the view nor the envelopes received. -/
theorem Ordered.modifyConnection (h : cluster.Ordered codec drained) (id : ConnId)
    {change : Connection Bytes → Connection Bytes}
    (hview : ∀ connection, (change connection).view = connection.view)
    (hreceived : ∀ connection, tagged (change connection).received =
      tagged connection.received) :
    (cluster.modifyConnection id change).Ordered codec drained := by
  unfold Cluster.modifyConnection
  split
  next => exact h
  next connection hconnection =>
    have hsame : (cluster.setConnection id (change connection)).view = cluster.view := by
      rw [view_setConnection, hview, ← view_eq hconnection, Function.update_eq_self]
    refine h.grow (h.layout.of_view hsame rfl rfl rfl rfl) rfl ⟨fun other v hv => ?_,
      fun _ s hs => ⟨s, hs, rfl, fun _ => le_rfl⟩, fun _ => List.prefix_rfl⟩
      (received_setConnection (.inr ⟨connection, hconnection, hreceived connection⟩))
    exact ⟨v, hsame ▸ hv, rfl, fun _ hi => hi, fun _ => le_rfl, List.prefix_rfl⟩

/-- An envelope is offered that comes after all its sender's earlier ones and
for which there is evidence. -/
theorem Ordered.offer (h : cluster.Ordered codec drained) {id : ConnId} (bytes : Bytes) {tag : Tag}
    (hbelow : drained → ∀ connection, cluster.connections id = some connection →
      ∀ number ∈ numbersFrom tag.sender connection.received, number < tag.number)
    (hevidence : drained → cluster.Evidence id tag.sender tag.number)
    (hrenders : cluster.Renders codec tag bytes) :
    (cluster.modifyConnection id (·.offer ⟨bytes, some tag⟩)).Ordered codec drained := by
  unfold Cluster.modifyConnection
  split
  next => exact h
  next connection hconnection =>
    have hview : (connection.offer ⟨bytes, some tag⟩).view = connection.view := by
      unfold Connection.offer
      split <;> rfl
    have hsame : (cluster.setConnection id (connection.offer ⟨bytes, some tag⟩)).view =
        cluster.view := by
      rw [view_setConnection, hview, ← view_eq hconnection, Function.update_eq_self]
    have hgrows : cluster.Grows (cluster.setConnection id (connection.offer ⟨bytes, some tag⟩)) :=
      ⟨fun other v hv => ⟨v, hsame ▸ hv, rfl, fun _ hi => hi, fun _ => le_rfl, List.prefix_rfl⟩,
        fun _ s hs => ⟨s, hs, rfl, fun _ => le_rfl⟩, fun _ => List.prefix_rfl⟩
    have hreceived : ∀ sender,
        numbersFrom sender (connection.offer ⟨bytes, some tag⟩).received =
            numbersFrom sender connection.received ∨
          sender = tag.sender ∧ numbersFrom sender (connection.offer ⟨bytes, some tag⟩).received =
            numbersFrom sender connection.received ++ [tag.number] := by
      intro sender
      unfold Connection.offer
      split
      next =>
        rw [numbersFrom_append, numbersFrom_tagged]
        by_cases heq : tag.sender = sender
        · exact .inr ⟨heq.symm, by simp [heq]⟩
        · exact .inl (by simp [heq])
      next => exact .inl rfl
    refine ⟨h.layout.of_view hsame rfl rfl rfl rfl, ?_,
      fun hdrain => (h.exclusive hdrain).grow hgrows rfl, fun hdrain => ?_, fun hdrain => ?_⟩
    · intro other found hfound message hmessage messageTag htag
      unfold Cluster.setConnection at hfound
      by_cases heq : other = id
      · simp only [heq, Function.update_self, Option.some.injEq] at hfound
        subst hfound
        rcases Connection.mem_offer hmessage with hmessage | rfl
        · exact (h.faithful id connection hconnection message hmessage messageTag htag).grow hgrows
        · cases htag
          exact hrenders.grow hgrows
      · simp only [Function.update_of_ne heq] at hfound
        exact (h.faithful other found hfound message hmessage messageTag htag).grow hgrows
    · intro other found hfound sender
      unfold Cluster.setConnection at hfound
      by_cases heq : other = id
      · simp only [heq, Function.update_self, Option.some.injEq] at hfound
        subst hfound
        have hsorted := h.inOrder hdrain id connection hconnection sender
        rcases hreceived sender with hnothing | ⟨rfl, hadded⟩
        · rwa [hnothing]
        -- the envelope is added at the end, above all numbers of its sender
        · rw [hadded]
          refine List.pairwise_append.mpr ⟨hsorted, List.pairwise_singleton _ _, ?_⟩
          intro number hnumber last hlast
          rw [List.mem_singleton.mp hlast]
          exact hbelow hdrain connection hconnection number hnumber
      · simp only [Function.update_of_ne heq] at hfound
        exact h.inOrder hdrain other found hfound sender
    · intro other found hfound sender number hnumber
      unfold Cluster.setConnection at hfound
      by_cases heq : other = id
      · simp only [heq, Function.update_self, Option.some.injEq] at hfound
        subst hfound
        rw [heq]
        rcases hreceived sender with hnothing | ⟨rfl, hadded⟩
        · rw [hnothing] at hnumber
          exact (h.justified hdrain id connection hconnection sender number hnumber).grow hgrows
        · rw [hadded, List.mem_append, List.mem_singleton] at hnumber
          rcases hnumber with hnumber | rfl
          · exact (h.justified hdrain id connection hconnection _ number hnumber).grow hgrows
          · exact (hevidence hdrain).grow hgrows
      · simp only [Function.update_of_ne heq] at hfound
        exact (h.justified hdrain other found hfound sender number hnumber).grow hgrows

/-! ## The local broadcast of a goroutine -/

theorem modifyConnection_comm (cluster : Cluster Bytes) (first second : ConnId)
    {change stage : Connection Bytes → Connection Bytes}
    (hcomm : ∀ connection, change (stage connection) = stage (change connection)) :
    (cluster.modifyConnection first change).modifyConnection second stage =
      (cluster.modifyConnection second stage).modifyConnection first change := by
  unfold Cluster.modifyConnection Cluster.setConnection
  by_cases heq : first = second
  · subst heq
    cases hfirst : cluster.connections first with
    | none => simp [hfirst]
    | some connection => simp [hcomm]
  · cases hfirst : cluster.connections first with
    | none =>
        cases cluster.connections second with
        | none => simp [hfirst]
        | some connection => simp [hfirst, heq]
    | some connection =>
        cases hsecond : cluster.connections second with
        | none => simp [hfirst, hsecond, Ne.symm heq]
        | some other =>
            simp [hfirst, hsecond, heq, Ne.symm heq, Function.update_comm heq]

theorem modifyConnection_eq {id : ConnId} {connection : Connection Bytes}
    (hconnection : cluster.connections id = some connection)
    (change : Connection Bytes → Connection Bytes) :
    cluster.modifyConnection id change = cluster.setConnection id (change connection) := by
  simp [Cluster.modifyConnection, hconnection]

section Broadcast

variable {id : ConnId} {connection : Connection Bytes} {publication : Publication Bytes}
  {progress : Progress} {next : Continuation}

theorem offered_broadcasting (hstage : connection.stage = .broadcasting publication progress next)
    (client : ConnId) : connection.view.offered client =
      if progress.pending client then connection.sent.length - 1 else connection.sent.length := by
  simp [View.offered, Connection.view, hstage, Stage.progress]

/-- What the layout says of a goroutine that is broadcasting. -/
theorem Layout.broadcasting (h : cluster.Layout codec)
    (hconnection : cluster.connections id = some connection)
    (hstage : connection.stage = .broadcasting publication progress next) :
    (publication.tag.sender = id ∧ publication.tag.number + 1 = connection.sent.length ∧
        ∃ envelope, connection.sent[publication.tag.number]? = some envelope ∧
          codec.marshal envelope = some publication.localBytes ∧
          codec.marshalMessage ⟨connection.node, envelope⟩ = publication.payload) ∧
      cluster.Closable next.closes ∧
      ∀ client, progress.Targets client →
        ∃ w, cluster.view client = some w ∧ w.node = connection.node := by
  have hview := view_eq hconnection
  have hstaged : connection.view.stage = .broadcasting publication progress next := hstage
  have htag := h.tag id _ hview publication.tag (by rw [hstaged]; rfl)
  rw [hstaged] at htag
  refine ⟨htag, ?_, fun client hclient => ?_⟩
  · have hcloses := h.closable hview
    rw [hstaged] at hcloses
    exact hcloses
  · exact h.target id _ hview progress (by rw [hstaged]; rfl) client hclient

/-- The broadcast goes on with fewer clients. -/
theorem Ordered.broadcast (h : cluster.Ordered codec drained)
    (hconnection : cluster.connections id = some connection)
    (hstage : connection.stage = .broadcasting publication progress next) {rest : Progress}
    (hpending : ∀ client, rest.pending client = true → progress.pending client = true)
    (htarget : ∀ client, rest.Targets client →
      ∃ w, cluster.view client = some w ∧ w.node = connection.node) :
    (cluster.setConnection id
      (connection.withStage (.broadcasting publication rest next))).Ordered codec drained := by
  obtain ⟨htag, hcloses, -⟩ := h.layout.broadcasting hconnection hstage
  refine h.setConnection hconnection ⟨rfl, fun _ hi => hi, rfl⟩ ?_ ?_ List.prefix_rfl rfl hcloses
    ?_ ?_
  · simp [View.published, Connection.view, Connection.withStage, hstage, Stage.tag]
  · intro client
    rw [offered_broadcasting hstage, offered_broadcasting rfl]
    by_cases hrest : rest.pending client = true
    · simp [hrest, hpending client hrest, Connection.withStage]
    · simp only [hrest, Connection.withStage, Bool.false_eq_true, if_false]
      split
      · exact Nat.sub_le _ _
      · exact le_rfl
  · rintro tag heq
    cases heq
    exact htag
  · rintro found hfound client hclient
    cases hfound
    exact htarget client hclient

/-- The broadcast has returned. -/
theorem Ordered.finishBroadcast (h : cluster.Ordered codec drained)
    (hconnection : cluster.connections id = some connection)
    (hstage : connection.stage = .broadcasting publication progress next) :
    (cluster.setConnection id
      (connection.afterBroadcast codec publication next none)).Ordered codec drained := by
  obtain ⟨htag, hcloses, -⟩ := h.layout.broadcasting hconnection hstage
  unfold Connection.afterBroadcast
  dsimp only
  split
  next payload hpayload =>
    refine h.setConnection hconnection ⟨rfl, fun _ hi => hi, rfl⟩ ?_ ?_ List.prefix_rfl rfl
      hcloses ?_ ?_
    · simp [View.published, Connection.view, Connection.withStage, hstage, Stage.tag]
    · exact fun client => connection.view.offered_le client
    · rintro tag heq
      cases heq
      obtain ⟨hsender, hnumber, envelope, henvelope, hbytes, hmessage⟩ := htag
      exact ⟨hsender, hnumber, envelope, henvelope, by simp [hbytes], hmessage.trans hpayload⟩
    · nofun
  next => exact h.proceed hconnection (.refl connection) rfl true hcloses

/-- The message is offered to one of the clients. -/
theorem Ordered.offerLocal (h : cluster.Ordered codec drained)
    (hconnection : cluster.connections id = some connection) {targets slow rest : Finset ConnId}
    (hstage : connection.stage = .broadcasting publication (.offering targets slow) next)
    {choice : ConnId} (hchoice : choice ∈ targets) :
    ((cluster.setConnection id (connection.withStage
        (.broadcasting publication (.offering (targets.erase choice) rest) next))).modifyConnection
      choice (·.offer ⟨publication.localBytes, some publication.tag⟩)).Ordered codec drained := by
  obtain ⟨⟨hsender, hnumber, envelope, henvelope, hbytes, -⟩, -, htargets⟩ :=
    h.layout.broadcasting hconnection hstage
  have hstep := h.broadcast hconnection hstage (Progress.pending_erase choice rest)
    fun client hclient => htargets client (Finset.mem_of_mem_erase hclient)
  obtain ⟨w, hw, hwnode⟩ := htargets choice hchoice
  refine hstep.offer _ (fun hdrain => ?_) (fun _ => ?_) ?_
  · intro receiver hreceiver number hmember
    rw [hsender] at hmember
    have hkept : tagged (connection.withStage (.broadcasting publication
        (.offering (targets.erase choice) rest) next)).received =
          tagged connection.received := rfl
    rcases received_setConnection (.inr ⟨connection, hconnection, hkept⟩) choice receiver
      hreceiver with hnone | ⟨old, hold, hsame⟩
    · simp [hnone, numbersFrom] at hmember
    · rw [numbersFrom_of_tagged hsame] at hmember
      obtain ⟨found, v, hfound, hv, hlocal, -⟩ := h.justified hdrain choice old hold id number hmember
      cases hw.symm.trans hfound
      cases (view_eq hconnection).symm.trans hv
      have hearlier := hlocal hwnode
      rw [offered_broadcasting hstage] at hearlier
      simp only [Progress.pending, hchoice, decide_true, if_true] at hearlier
      omega
  · rw [hsender]
    have hnow : ∃ found, (cluster.setConnection id (connection.withStage (.broadcasting publication
        (.offering (targets.erase choice) rest) next))).view choice = some found ∧
        found.node = connection.node := by
      rw [view_setConnection]
      by_cases heq : choice = id
      · exact ⟨_, by rw [heq, Function.update_self], rfl⟩
      · exact ⟨w, by rw [Function.update_of_ne heq, hw], hwnode⟩
    obtain ⟨found, hfound, hnode⟩ := hnow
    refine ⟨found, _, hfound, by rw [view_setConnection, Function.update_self], fun _ => ?_,
      fun hne => absurd hnode hne⟩
    rw [offered_broadcasting rfl]
    simp only [Progress.pending, Finset.notMem_erase, decide_false, Bool.false_eq_true, if_false]
    exact Nat.lt_of_lt_of_eq (Nat.lt_succ_self _) hnumber
  · refine ⟨_, envelope, by rw [hsender, view_setConnection, Function.update_self], henvelope, ?_⟩
    exact .inl hbytes

/-- One step of the broadcast. -/
theorem Ordered.advance (h : cluster.Ordered codec drained)
    (hconnection : cluster.connections id = some connection)
    (hstage : connection.stage = .broadcasting publication progress next) {choice : ConnId}
    {after : Cluster Bytes} {result : Option Progress}
    (hadvance : cluster.Broadcasts connection.node connection.client.documentId
      ⟨publication.localBytes, some publication.tag⟩ choice progress after result) :
    (after.modifyConnection id (·.afterBroadcast codec publication next result)).Ordered codec drained := by
  cases hadvance with
  | absent => 
      rw [modifyConnection_eq hconnection]
      exact h.finishBroadcast hconnection hstage
  | found room hroom =>
      rw [modifyConnection_eq hconnection]
      refine h.broadcast hconnection hstage (fun _ _ => rfl) fun client hclient => ?_
      obtain ⟨v, hv, hnode, -⟩ := h.layout.room_client _ _ room hroom client hclient
      exact ⟨v, hv, hnode⟩
  | offer targets slow rest hchoice =>
      rw [modifyConnection_comm cluster choice id
        fun connection => connection.offer_afterBroadcast codec publication next _ _,
        modifyConnection_eq hconnection]
      exact h.offerLocal hconnection hstage hchoice
  | drop slow =>
      rw [modifyConnection_comm cluster choice id
        fun connection => connection.close_afterBroadcast codec publication next _,
        modifyConnection_eq hconnection]
      refine Ordered.modifyConnection ?_ choice (fun _ => rfl) fun _ => rfl
      refine h.broadcast hconnection hstage (fun _ hclient => hclient) fun client hclient => ?_
      exact absurd hclient (Finset.notMem_empty client)
  | done =>
      rw [modifyConnection_eq hconnection]
      exact h.finishBroadcast hconnection hstage

end Broadcast

theorem Ordered.append (h : cluster.Ordered codec drained) {name : String} {entry : Published Bytes}
    (haccepted : cluster.Accepted codec entry)
    (hnew : ∀ old ∈ cluster.channels name, old.tag.sender = entry.tag.sender →
      old.tag.number < entry.tag.number) : (cluster.append name entry).Ordered codec drained :=
  h.grow (h.layout.append haccepted hnew) rfl
    ⟨fun _ v hv => ⟨v, hv, rfl, fun _ hi => hi, fun _ => le_rfl, List.prefix_rfl⟩,
      fun _ s hs => ⟨s, hs, rfl, fun _ => le_rfl⟩, cluster.prefix_append name entry⟩
    fun _ connection hconnection => .inr ⟨connection, hconnection, rfl⟩

/-- The broker accepts the envelope of a goroutine, which goes on. -/
theorem Ordered.publish (h : cluster.Ordered codec drained) {id : ConnId} {connection : Connection Bytes}
    (hconnection : cluster.connections id = some connection) {tag : Tag} {payload : Bytes}
    {next : Continuation} (hstage : connection.stage = .publishing tag payload next)
    (name : String) :
    ((cluster.append name ⟨payload, tag⟩).setConnection id
      (connection.proceed codec false next)).Ordered codec drained := by
  have hview := view_eq hconnection
  have hstaged : connection.view.stage = .publishing tag payload next := hstage
  obtain ⟨rfl, hnumber, envelope, henvelope, hpublishes⟩ :=
    h.layout.tag id _ hview tag (by rw [hstaged]; rfl)
  rw [hstaged] at hpublishes
  have hcloses := h.layout.closable hview
  rw [hstaged] at hcloses
  obtain ⟨hkept, -, hsent, ⟨htag, -⟩, -⟩ := connection.proceed_spec codec false next
  have hdone := h.proceed hconnection (.refl connection) rfl false hcloses
  refine hdone.append ⟨_, by rw [view_setConnection, Function.update_self], ?_, envelope, ?_, ?_⟩ ?_
  · simp only [View.published, Connection.view, htag, Option.isSome_none, Bool.false_eq_true,
      if_false, hsent]
    exact Nat.lt_of_lt_of_eq (Nat.lt_succ_self _) hnumber
  · rw [show (connection.proceed codec false next).view.sent = connection.sent from hsent]
    exact henvelope
  · rw [show (connection.proceed codec false next).view.node = connection.node from hkept.node]
    exact hpublishes
  · intro old hold hsame
    obtain ⟨v, hv, hbefore, -⟩ := h.layout.entry name old hold
    rw [hsame] at hv
    cases hview.symm.trans hv
    have hpublished : connection.view.published = connection.view.sent.length - 1 := by
      simp [View.published, hstaged, Stage.tag]
    show old.tag.number < tag.number
    omega

end Cluster

end CollabEditor.Hub
