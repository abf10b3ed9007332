import CollabEditor.Hub.CrossNode
import CollabEditor.Hub.Reception

/-! # What a client is given from its registration on

An envelope that the room of a client was past offering when the client was registered
never comes later: senders and subscriptions only get ahead, and what is offered is not
behind them.
-/

namespace CollabEditor.Hub

open Foundation
open Backend (DocumentId)

variable {Bytes : Type} {codec : Codec Bytes}

namespace Cluster

variable {cluster : Cluster Bytes}

/-! ## Senders and subscriptions get ahead -/

theorem Grows.refl (cluster : Cluster Bytes) : cluster.Grows cluster :=
  ⟨fun _ v hv => ⟨v, hv, rfl, fun _ hi => hi, fun _ => le_rfl, List.prefix_rfl⟩,
    fun _ s hs => ⟨s, hs, rfl, fun _ => le_rfl⟩, fun _ => List.prefix_rfl⟩

theorem Grows.trans {first second third : Cluster Bytes} (hfirst : first.Grows second)
    (hsecond : second.Grows third) : first.Grows third where
  view id v hv := by
    obtain ⟨w, hw, hnode, hsubscription, hoffered, hsent⟩ := hfirst.view id v hv
    obtain ⟨x, hx, hxnode, hxsubscription, hxoffered, hxsent⟩ := hsecond.view id w hw
    exact ⟨x, hx, hxnode.trans hnode, fun i hi => hxsubscription i (hsubscription i hi),
      fun client => (hoffered client).trans (hxoffered client), hsent.trans hxsent⟩
  subscription i s hs := by
    obtain ⟨t, ht, hdocument, hoffered⟩ := hfirst.subscription i s hs
    obtain ⟨u, hu, hudocument, huoffered⟩ := hsecond.subscription i t ht
    exact ⟨u, hu, hudocument.trans hdocument,
      fun client => (hoffered client).trans (huoffered client)⟩
  channel name := (hfirst.channel name).trans (hsecond.channel name)

/-- The goroutines stand where they stood. -/
theorem Grows.of_view {after : Cluster Bytes} (hview : after.view = cluster.view)
    (hsubscription : ∀ i s, cluster.subscriptions i = some s → ∃ t,
      after.subscriptions i = some t ∧ t.documentId = s.documentId ∧
        ∀ client, s.offered client ≤ t.offered client)
    (hchannel : ∀ name, cluster.channels name <+: after.channels name) : cluster.Grows after :=
  ⟨fun id v hv => ⟨v, by rw [hview, hv], rfl, fun _ hi => hi, fun _ => le_rfl, List.prefix_rfl⟩,
    hsubscription, hchannel⟩

/-- Nothing but the rooms has changed, or what connections have received. -/
theorem Grows.of_same {after : Cluster Bytes} (hview : after.view = cluster.view)
    (hsubscriptions : after.subscriptions = cluster.subscriptions)
    (hchannels : after.channels = cluster.channels) : cluster.Grows after :=
  .of_view hview (fun _ s hs => ⟨s, hsubscriptions ▸ hs, rfl, fun _ => le_rfl⟩)
    fun _ => hchannels ▸ List.prefix_rfl

end Cluster

/-- A goroutine has only got ahead. -/
structure Connection.Ahead (old new : Connection Bytes) : Prop where
  node : new.node = old.node
  subscription : ∀ i, old.subscription = some i → new.subscription = some i
  offered : ∀ client, old.view.offered client ≤ new.view.offered client
  sent : old.sent <+: new.sent

namespace Connection.Ahead

theorem of_view {old new : Connection Bytes} (hview : new.view = old.view) :
    Connection.Ahead old new where
  node := congrArg View.node hview
  subscription i hi := (congrArg View.subscription hview).trans hi
  offered client := by rw [hview]
  sent := by
    have hsent : new.sent = old.sent := congrArg View.sent hview
    exact hsent ▸ List.prefix_rfl

/-- Nothing is being offered afterwards. -/
theorem rest {old new : Connection Bytes} (hnode : new.node = old.node)
    (hsubscription : ∀ i, old.subscription = some i → new.subscription = some i)
    (hsent : new.sent = old.sent) (hprogress : new.stage.progress = none) :
    Connection.Ahead old new where
  node := hnode
  subscription := hsubscription
  offered client := by
    have hall : new.view.offered client = old.view.sent.length := by
      simp [View.offered, Connection.view, hprogress, hsent]
    exact hall ▸ old.view.offered_le client
  sent := hsent ▸ List.prefix_rfl

theorem proceed (connection : Connection Bytes) (failed : Bool) (next : Continuation) :
    connection.Ahead (connection.proceed codec failed next) := by
  obtain ⟨hkept, -, hsent, ⟨-, hprogress⟩, -⟩ := connection.proceed_spec codec failed next
  exact rest hkept.node hkept.subscription hsent hprogress

/-- The goroutine starts to publish. -/
theorem publish (old current : Connection Bytes) (hnode : current.node = old.node)
    (hsubscription : ∀ i, old.subscription = some i → current.subscription = some i)
    (hsent : current.sent = old.sent) (id : ConnId) (envelope : Envelope) (next : Continuation) :
    old.Ahead (current.publish codec id envelope next) := by
  unfold Connection.publish
  split
  next =>
    obtain ⟨hkept, -, hsame, ⟨-, hprogress⟩, -⟩ := current.proceed_spec codec true next
    exact rest (hkept.node.trans hnode) (fun i hi => hkept.subscription i (hsubscription i hi))
      (hsame.trans hsent) hprogress
  next =>
    refine ⟨hnode, hsubscription, fun client => (old.view.offered_le client).trans ?_, ?_⟩
    · simp [View.offered, Connection.view, Stage.progress, Progress.pending, hsent]
    · exact hsent ▸ List.prefix_append _ _

/-- The goroutine goes on with its broadcast. -/
theorem afterBroadcast {connection : Connection Bytes} {publication : Publication Bytes}
    {progress : Progress} {next : Continuation}
    (hstage : connection.stage = .broadcasting publication progress next)
    {result : Option Progress}
    (hpending : ∀ rest, result = some rest → ∀ client, rest.pending client = true →
      progress.pending client = true) :
    connection.Ahead (connection.afterBroadcast codec publication next result) := by
  have hsubscription : (connection.afterBroadcast codec publication next result).subscription =
      connection.subscription := (Cluster.afterBroadcast_spec connection publication next result).1
  have hsent : (connection.afterBroadcast codec publication next result).sent = connection.sent :=
    (Cluster.afterBroadcast_spec connection publication next result).2.1
  have hprogress : (connection.afterBroadcast codec publication next result).stage.progress =
      result := (Cluster.afterBroadcast_spec connection publication next result).2.2.2
  have hadvances : connection.Advances True True _ :=
    connection.afterBroadcast_advances codec publication next result
  refine ⟨hadvances.node, fun i hi => hsubscription.trans hi, fun client => ?_,
    hsent ▸ List.prefix_rfl⟩
  rw [Cluster.offered_broadcasting hstage, Cluster.offered_of_progress hprogress, hsent]
  cases result with
  | none =>
      rw [Option.any_none, if_neg Bool.false_ne_true]
      split
      · exact Nat.sub_le _ _
      · exact le_rfl
  | some rest =>
      rw [Option.any_some]
      by_cases hrest : rest.pending client = true
      · rw [if_pos hrest, if_pos (hpending rest rfl client hrest)]
      · rw [if_neg hrest]
        split
        · exact Nat.sub_le _ _
        · exact le_rfl

end Connection.Ahead

namespace Cluster

variable {cluster : Cluster Bytes}

theorem Grows.setConnection {between : Cluster Bytes} (hbetween : cluster.Grows between)
    {id : ConnId} {old new : Connection Bytes} (hold : between.connections id = some old)
    (hahead : old.Ahead new) : cluster.Grows (between.setConnection id new) := by
  have hview : ∀ v, between.view id = some v → v = old.view :=
    fun v hv => Option.some.inj (hv.symm.trans (view_eq hold))
  refine hbetween.trans (grows_setConnection (fun v hv => ?_) (fun v i hv hi => ?_)
    (fun v hv client => ?_) fun v hv => ?_)
  · rw [hview v hv]
    exact hahead.node.symm
  · rw [hview v hv] at hi
    exact hahead.subscription i hi
  · rw [hview v hv]
    exact hahead.offered client
  · rw [hview v hv]
    exact hahead.sent

/-- A step of a broadcast keeps everybody where they stand, and offers to fewer clients
afterwards. -/
theorem grows_advanceBroadcast {node : NodeId} {documentId : DocumentId} {message : Message Bytes}
    {choice : ConnId} {progress : Progress} {after : Cluster Bytes} {result : Option Progress}
    (hadvance : cluster.advanceBroadcast node documentId message choice progress =
      some (after, result)) :
    cluster.Grows after ∧ after.subscriptions = cluster.subscriptions ∧
      (∀ id old, cluster.connections id = some old → ∃ new, after.connections id = some new ∧
        new.view = old.view) ∧
      ∀ rest, result = some rest → ∀ client, rest.pending client = true →
        progress.pending client = true := by
  have hmodify : ∀ {change : Connection Bytes → Connection Bytes},
      (∀ connection, (change connection).view = connection.view) →
      cluster.Grows (cluster.modifyConnection choice change) ∧
        (cluster.modifyConnection choice change).subscriptions = cluster.subscriptions ∧
        ∀ id old, cluster.connections id = some old → ∃ new,
          (cluster.modifyConnection choice change).connections id = some new ∧
            new.view = old.view := by
    intro change hview
    have hsame : ∀ id old, cluster.connections id = some old → ∃ new,
        (cluster.modifyConnection choice change).connections id = some new ∧
          new.view = old.view := by
      intro id old hold
      by_cases heq : id = choice
      · subst heq
        exact ⟨_, modifyConnection_self hold change, hview old⟩
      · refine ⟨old, ?_, rfl⟩
        unfold Cluster.modifyConnection
        split
        · exact hold
        · exact (Function.update_of_ne heq ..).trans hold
    refine ⟨⟨fun id v hv => ?_, fun i s hs => ?_, fun name => ?_⟩,
      modifyConnection_subscriptions _ _, hsame⟩
    · obtain ⟨old, hold, rfl⟩ := Option.map_eq_some_iff.mp hv
      obtain ⟨new, hnew, hkept⟩ := hsame id old hold
      exact ⟨old.view, by rw [view_eq hnew, hkept], rfl, fun _ hi => hi, fun _ => le_rfl,
        List.prefix_rfl⟩
    · exact ⟨s, (congrFun (modifyConnection_subscriptions choice change) i).trans hs, rfl,
        fun _ => le_rfl⟩
    · rw [modifyConnection_channels]
  cases advanceBroadcast_cases cluster hadvance with
  | absent | done =>
      exact ⟨.refl cluster, rfl, fun _ old hold => ⟨old, hold, rfl⟩, nofun⟩
  | found room =>
      exact ⟨.refl cluster, rfl, fun _ old hold => ⟨old, hold, rfl⟩, fun _ _ _ _ => rfl⟩
  | offer targets slow rest hchoice =>
      obtain ⟨hgrows, hsubscriptions, hsame⟩ :=
        hmodify fun connection => offer_view connection message
      refine ⟨hgrows, hsubscriptions, hsame, ?_⟩
      rintro remaining hremaining client hclient
      cases hremaining
      exact Progress.pending_erase choice rest client hclient
  | drop slow =>
      have hclose : ∀ connection : Connection Bytes, connection.close.view = connection.view :=
        fun _ => rfl
      obtain ⟨hgrows, hsubscriptions, hsame⟩ := hmodify hclose
      refine ⟨hgrows, hsubscriptions, hsame, ?_⟩
      rintro remaining hremaining client hclient
      cases hremaining
      exact hclient

theorem Grows.setSubscription {between : Cluster Bytes} (hbetween : cluster.Grows between)
    {id : SubId} {old new : Subscription Bytes} (hold : between.subscriptions id = some old)
    (hdocument : new.documentId = old.documentId)
    (hoffered : ∀ client, old.offered client ≤ new.offered client) :
    cluster.Grows (between.setSubscription id new) := by
  refine hbetween.trans (.of_view rfl (fun i s hs => ?_) fun _ => List.prefix_rfl)
  by_cases heq : i = id
  · subst heq
    cases hold.symm.trans hs
    exact ⟨new, Function.update_self .., hdocument, hoffered⟩
  · exact ⟨s, (Function.update_of_ne heq ..).trans hs, rfl, fun _ => le_rfl⟩

/-- What a subscription is past does not depend on its other fields. -/
theorem Subscription.offered_same {old new : Subscription Bytes}
    (hconsumed : new.consumed = old.consumed) (hdelivery : new.delivery = old.delivery)
    (client : ConnId) : old.offered client ≤ new.offered client := by
  simp [Subscription.offered, hconsumed, hdelivery]

theorem grows_register (hlayout : cluster.Layout codec) {id : ConnId}
    {connection : Connection Bytes} (hconnection : cluster.connections id = some connection)
    (hstage : connection.stage = .connecting) (subscribed : Bool) (now : Backend.Instant) :
    cluster.Grows (cluster.register codec id connection subscribed now) := by
  have hnone : connection.subscription = none :=
    hlayout.connecting id connection.view (view_eq hconnection)
      (by simp [Connection.view, hstage, Stage.isConnecting])
  have hjoin : ∀ (i : SubId) (envelope : Envelope), connection.Ahead
      (({ connection with subscription := some i } : Connection Bytes).publish codec id envelope
        .acknowledge) := by
    intro i envelope
    refine .publish connection { connection with subscription := some i } rfl (fun j hj => ?_) rfl
      id envelope .acknowledge
    rw [hnone] at hj
    cases hj
  unfold Cluster.register
  dsimp only
  split
  next room _ =>
    have hseated : cluster.Grows (cluster.setRoom connection.node connection.client.documentId
        (some { room with clients := insert id room.clients })) := .of_same rfl rfl rfl
    exact hseated.setConnection hconnection (hjoin _ _)
  next =>
    split
    next =>
      have hopened : cluster.Grows ((cluster.subscribe connection.node
          connection.client.documentId).setRoom connection.node connection.client.documentId
            (some { clients := insert id ∅, sub := cluster.nextSubscription })) := by
        refine .of_view rfl (fun i s hs => ⟨s, ?_, rfl, fun _ => le_rfl⟩) fun _ => List.prefix_rfl
        exact (Function.update_of_ne (hlayout.subscription_bound i s hs).ne ..).trans hs
      exact hopened.setConnection hconnection (hjoin _ _)
    next =>
      exact Grows.setConnection (.refl cluster) hconnection (.rest rfl (fun _ hi => hi) rfl rfl)

theorem grows_run {id : ConnId} {connection : Connection Bytes}
    (hconnection : cluster.connections id = some connection) {choice : ConnId} {accepted : Bool}
    {now : Backend.Instant} {after : Cluster Bytes}
    (hrun : cluster.run codec id connection choice accepted now = some after) :
    cluster.Grows after := by
  cases run_cases codec cluster hrun with
  | broadcast publication progress next moved result hstage hadvance =>
      obtain ⟨hgrows, -, hsame, hpending⟩ := grows_advanceBroadcast hadvance
      obtain ⟨new, hnew, hview⟩ := hsame id connection hconnection
      rw [modifyConnection_eq hnew]
      have hstaged : new.stage = .broadcasting publication progress next :=
        (congrArg View.stage hview).trans hstage
      exact hgrows.setConnection hnew (.afterBroadcast hstaged hpending)
  | accept tag payload next =>
      have haccepted : cluster.Grows (cluster.append (channel connection.client.documentId)
          ⟨payload, tag⟩) :=
        .of_view rfl (fun _ s hs => ⟨s, hs, rfl, fun _ => le_rfl⟩) (cluster.prefix_append _ _)
      exact haccepted.setConnection hconnection (.proceed connection false next)
  | refuse tag payload next =>
      exact Grows.setConnection (.refl cluster) hconnection (.proceed connection true next)
  | acknowledge =>
      obtain ⟨hkept, hview⟩ := connection.sendEnvelope_kept codec connection.client.ackEnvelope
      exact Grows.setConnection (.refl cluster) hconnection
        (.rest hkept.node hkept.subscription (congrArg View.sent hview) rfl)
  | unregister =>
      unfold Cluster.leave
      dsimp only
      split
      next =>
        exact Grows.setConnection (.refl cluster) hconnection (.rest rfl (fun _ hi => hi) rfl rfl)
      next room _ =>
        have hleft : cluster.Grows (cluster.setRoom connection.node connection.client.documentId
            (if room.clients.erase id = ∅ then none
              else some { room with clients := room.clients.erase id })) := .of_same rfl rfl rfl
        exact hleft.setConnection hconnection
          (.publish connection connection rfl (fun _ hi => hi) rfl id _ _)
  | close | closeEmptied =>
      exact Grows.setConnection (.refl cluster) hconnection (.rest rfl (fun _ hi => hi) rfl rfl)
  | closeSubscription subscription =>
      have hconnections : (cluster.closeSubscription subscription).connections id =
          some connection := by rw [closeSubscription_connections, hconnection]
      refine Grows.setConnection ?_ hconnections (.rest rfl (fun _ hi => hi) rfl rfl)
      unfold Cluster.closeSubscription
      split
      next => exact .refl cluster
      next found hfound =>
        exact Grows.setSubscription (.refl cluster) hfound rfl (Subscription.offered_same rfl rfl)

/-- Every step only gets ahead. -/
theorem step_grows (hlayout : cluster.Layout codec) {event : Event Bytes} {after : Cluster Bytes}
    (hstep : step codec cluster event = some after) : cluster.Grows after := by
  cases step_cases codec cluster hstep with
  | connect id node client hnone =>
      have hview : cluster.view id = none := by simp [view, hnone]
      refine grows_setConnection ?_ ?_ ?_ ?_ <;> simp [hview]
  | register id subscribed now connection hconnection hstage =>
      exact grows_register hlayout hconnection hstage subscribed now
  | frame id frame now connection hconnection =>
      unfold Cluster.readFrame
      split
      next code message _ =>
        exact Grows.setConnection (.refl cluster) hconnection
          (.of_view (connection.sendEnvelope_kept codec _).2)
      next =>
        exact Grows.setConnection (.refl cluster) hconnection
          (.publish connection connection rfl (fun _ hi => hi) rfl id _ .read)
  | disconnect id connection hconnection =>
      refine Grows.setConnection (.refl cluster) hconnection ?_
      split
      next => exact .rest rfl (fun _ hi => hi) rfl rfl
      next => exact .rest rfl (fun _ hi => hi) rfl rfl
  | run id choice accepted now connection _ hconnection hrun => exact grows_run hconnection hrun
  | write id connection message rest hconnection =>
      exact Grows.setConnection (.refl cluster) hconnection (.of_view rfl)
  | stopWriting id connection hconnection =>
      exact Grows.setConnection (.refl cluster) hconnection (.of_view rfl)
  | forward id subscription hsubscription =>
      exact Grows.setSubscription (.refl cluster) hsubscription rfl
        (Subscription.offered_same rfl rfl)
  | stop id subscription hsubscription =>
      exact Grows.setSubscription (.refl cluster) hsubscription rfl
        (Subscription.offered_same rfl rfl)
  | exit id subscription hsubscription =>
      exact Grows.setSubscription (.refl cluster) hsubscription rfl
        (Subscription.offered_same rfl rfl)
  | receive id subscription entry hsubscription hidle =>
      refine Grows.setSubscription (.refl cluster) hsubscription rfl fun client => ?_
      have hall : subscription.offered client = subscription.consumed := by
        simp [Subscription.offered, hidle]
      rw [hall]
      unfold Subscription.offered
      split
      · exact Nat.le_refl _
      · exact Nat.le_succ _
  | deliver id choice subscription message progress moved result hsubscription hdelivery hadvance =>
      obtain ⟨hgrows, hsubscriptions, -, hpending⟩ := grows_advanceBroadcast hadvance
      have hkept : moved.subscriptions id = some subscription := by
        rw [hsubscriptions, hsubscription]
      refine hgrows.setSubscription hkept rfl fun client => ?_
      rw [offered_delivering hdelivery]
      unfold Subscription.offered
      cases result with
      | none =>
          rw [Option.map_none, Option.any_none, if_neg Bool.false_ne_true]
          split
          · exact Nat.sub_le _ _
          · exact le_rfl
      | some rest =>
          rw [Option.map_some, Option.any_some]
          by_cases hrest : rest.pending client = true
          · rw [if_pos hrest, if_pos (hpending rest rfl client hrest)]
          · rw [if_neg hrest]
            split
            · exact Nat.sub_le _ _
            · exact le_rfl

/-- What the room is past offering to a client stays so. -/
theorem passed_step (hlayout : cluster.Layout codec) {event : Event Bytes}
    {after : Cluster Bytes} (hstep : step codec cluster event = some after) {client : ConnId}
    {tag : Tag} (hpassed : cluster.passed client tag = true) : after.passed client tag = true := by
  have hgrows := step_grows hlayout hstep
  obtain ⟨target, sender, htarget, hsender, hcase⟩ := passed_iff.mp hpassed
  obtain ⟨newTarget, hnewTarget, htargetClient, -⟩ := step_sent hlayout hstep client target htarget
  obtain ⟨newSender, hnewSender, hsenderClient, -⟩ :=
    step_sent hlayout hstep tag.sender sender hsender
  obtain ⟨w, hw, hnode, hsubscription, -⟩ := hgrows.view client target.view (view_eq htarget)
  cases (view_eq hnewTarget).symm.trans hw
  obtain ⟨x, hx, hxnode, -, hoffered, -⟩ := hgrows.view tag.sender sender.view (view_eq hsender)
  cases (view_eq hnewSender).symm.trans hx
  have htargetNode : newTarget.node = target.node := hnode
  have hsenderNode : newSender.node = sender.node := hxnode
  refine passed_iff.mpr ⟨newTarget, newSender, hnewTarget, hnewSender, ?_⟩
  rw [htargetNode, hsenderNode, htargetClient, hsenderClient]
  refine hcase.imp (fun ⟨hsame, hdocument, hnumber⟩ =>
    ⟨hsame, hdocument, hnumber.trans_le (hoffered client)⟩) ?_
  rintro ⟨hother, i, s, index, entry, hi, hs, hindex, hentry, htag⟩
  obtain ⟨t, ht, htdocument, hmore⟩ := hgrows.subscription i s hs
  refine ⟨hother, i, t, index, entry, hsubscription i hi, ht, hindex.trans_le (hmore client), ?_,
    htag⟩
  rw [htdocument]
  exact Foundation.List.getElem?_of_prefix (hgrows.channel _) hentry

/-! ## What is offered is new -/

/-- The client has received the message. -/
def Has (cluster : Cluster Bytes) (client : ConnId) (message : Message Bytes) : Prop :=
  ∃ connection, cluster.connections client = some connection ∧ message ∈ connection.received

/-- A step offers an envelope to a client: a goroutine to one of its own node, or a
subscription to one of the clients it broadcasts to. -/
inductive Offers (cluster : Cluster Bytes) : Event Bytes → ConnId → Message Bytes → Prop
  | sender (id choice : ConnId) (accepted : Bool) (now : Backend.Instant)
      (connection : Connection Bytes) (publication : Publication Bytes)
      (targets slow : Finset ConnId) (next : Continuation)
      (hconnection : cluster.connections id = some connection)
      (hstage : connection.stage = .broadcasting publication (.offering targets slow) next)
      (hchoice : choice ∈ targets) :
      Offers cluster (.run id choice accepted now) choice
        ⟨publication.localBytes, some publication.tag⟩
  | subscription (id : SubId) (choice : ConnId) (subscription : Subscription Bytes)
      (message : Message Bytes) (targets slow : Finset ConnId)
      (hsubscription : cluster.subscriptions id = some subscription)
      (hdelivery : subscription.delivery = some (message, .offering targets slow))
      (hchoice : choice ∈ targets) : Offers cluster (.deliver id choice) choice message

/-- Nothing tagged is received. -/
theorem has_setConnection {between : Cluster Bytes} {id : ConnId} {old new : Connection Bytes}
    {client : ConnId} {message : Message Bytes}
    (hhas : (between.setConnection id new).Has client message)
    (hold : cluster.connections id = some old) {tag : Tag} (htag : message.tag = some tag)
    (hkept : tagged new.received = tagged old.received)
    (hconnections : between.connections = cluster.connections) : cluster.Has client message := by
  obtain ⟨found, hfound, hmessage⟩ := hhas
  by_cases heq : client = id
  · subst heq
    cases (Function.update_self client _ _ : _ = some _).symm.trans hfound
    exact ⟨old, hold, mem_of_tagged hkept htag hmessage⟩
  · refine ⟨found, ?_, hmessage⟩
    rw [← hconnections]
    exact (Function.update_of_ne heq ..).symm.trans hfound

theorem has_modifyConnection {id : ConnId} {change : Connection Bytes → Connection Bytes}
    {client : ConnId} {message : Message Bytes}
    (hhas : (cluster.modifyConnection id change).Has client message) {tag : Tag}
    (htag : message.tag = some tag)
    (hkept : ∀ connection : Connection Bytes,
      tagged (change connection).received = tagged connection.received) :
    cluster.Has client message := by
  unfold Cluster.modifyConnection at hhas
  split at hhas
  next => exact hhas
  next connection hconnection =>
    exact has_setConnection hhas hconnection htag (hkept connection) rfl

/-- A step of a broadcast offers its message. -/
theorem has_advanceBroadcast {node : NodeId} {documentId : DocumentId} {offered : Message Bytes}
    {choice : ConnId} {progress : Progress} {after : Cluster Bytes} {result : Option Progress}
    (hadvance : cluster.advanceBroadcast node documentId offered choice progress =
      some (after, result)) {client : ConnId} {message : Message Bytes} {tag : Tag}
    (htag : message.tag = some tag) (hhas : after.Has client message) :
    cluster.Has client message ∨ client = choice ∧ message = offered ∧
      ∃ targets slow, progress = .offering targets slow ∧ choice ∈ targets := by
  cases advanceBroadcast_cases cluster hadvance with
  | absent | found | done => exact .inl hhas
  | drop => exact .inl (has_modifyConnection hhas htag fun _ => rfl)
  | offer targets slow rest hchoice =>
      unfold Cluster.modifyConnection at hhas
      split at hhas
      next => exact .inl hhas
      next connection hconnection =>
        obtain ⟨found, hfound, hmessage⟩ := hhas
        by_cases heq : client = choice
        · subst heq
          cases (Function.update_self client _ _ : _ = some _).symm.trans hfound
          rcases Connection.mem_offer hmessage with hold | rfl
          · exact .inl ⟨connection, hconnection, hold⟩
          · exact .inr ⟨rfl, rfl, targets, slow, rfl, hchoice⟩
        · exact .inl ⟨found, (Function.update_of_ne heq ..).symm.trans hfound, hmessage⟩

theorem afterBroadcast_tagged (connection : Connection Bytes) (publication : Publication Bytes)
    (next : Continuation) (result : Option Progress) :
    tagged (connection.afterBroadcast codec publication next result).received =
      tagged connection.received := by
  cases result with
  | some rest => rfl
  | none =>
      unfold Connection.afterBroadcast
      dsimp only
      split
      next => rfl
      next => exact (connection.proceed_spec codec true next).1.received

theorem publish_tagged (connection : Connection Bytes) (id : ConnId) (envelope : Envelope)
    (next : Continuation) :
    tagged (connection.publish codec id envelope next).received = tagged connection.received := by
  unfold Connection.publish
  split
  next => exact (connection.proceed_spec codec true next).1.received
  next => rfl

theorem has_run {id : ConnId} {connection : Connection Bytes}
    (hconnection : cluster.connections id = some connection) {choice : ConnId} {accepted : Bool}
    {now : Backend.Instant} {after : Cluster Bytes}
    (hrun : cluster.run codec id connection choice accepted now = some after) {client : ConnId}
    {message : Message Bytes} {tag : Tag} (htag : message.tag = some tag)
    (hhas : after.Has client message) :
    cluster.Has client message ∨ cluster.Offers (.run id choice accepted now) client message := by
  cases run_cases codec cluster hrun with
  | broadcast publication progress next moved result hstage hadvance =>
      have hmoved : moved.Has client message := has_modifyConnection hhas htag
        fun connection => afterBroadcast_tagged connection publication next result
      refine (has_advanceBroadcast hadvance htag hmoved).imp_right ?_
      rintro ⟨rfl, rfl, targets, slow, rfl, hchoice⟩
      exact .sender id client accepted now connection publication targets slow next hconnection
        hstage hchoice
  | accept tag payload next =>
      exact .inl (has_setConnection hhas hconnection htag
        (connection.proceed_spec codec false next).1.received rfl)
  | refuse tag payload next =>
      exact .inl (has_setConnection hhas hconnection htag
        (connection.proceed_spec codec true next).1.received rfl)
  | acknowledge =>
      exact .inl (has_setConnection hhas hconnection htag
        (connection.sendEnvelope_kept codec connection.client.ackEnvelope).1.received rfl)
  | unregister =>
      unfold Cluster.leave at hhas
      dsimp only at hhas
      split at hhas
      next => exact .inl (has_setConnection hhas hconnection htag rfl rfl)
      next =>
        exact .inl (has_setConnection hhas hconnection htag (publish_tagged connection id _ _) rfl)
  | close | closeEmptied => exact .inl (has_setConnection hhas hconnection htag rfl rfl)
  | closeSubscription subscription =>
      exact .inl (has_setConnection hhas hconnection htag rfl
        (cluster.closeSubscription_connections subscription))

/-- Whoever has an envelope had it before, or is offered it. -/
theorem step_has {event : Event Bytes} {after : Cluster Bytes}
    (hstep : step codec cluster event = some after) {client : ConnId} {message : Message Bytes}
    {tag : Tag} (htag : message.tag = some tag) (hhas : after.Has client message) :
    cluster.Has client message ∨ cluster.Offers event client message := by
  cases step_cases codec cluster hstep with
  | connect id node profile hnone =>
      obtain ⟨found, hfound, hmessage⟩ := hhas
      by_cases heq : client = id
      · subst heq
        cases (Function.update_self client _ _ : _ = some _).symm.trans hfound
        cases hmessage
      · exact .inl ⟨found, (Function.update_of_ne heq ..).symm.trans hfound, hmessage⟩
  | register id subscribed now connection hconnection =>
      unfold Cluster.register at hhas
      dsimp only at hhas
      split at hhas
      next => exact .inl (has_setConnection hhas hconnection htag (publish_tagged _ id _ _) rfl)
      next =>
        split at hhas
        next => exact .inl (has_setConnection hhas hconnection htag (publish_tagged _ id _ _) rfl)
        next => exact .inl (has_setConnection hhas hconnection htag rfl rfl)
  | frame id frame now connection hconnection =>
      unfold Cluster.readFrame at hhas
      split at hhas
      next code text _ =>
        exact .inl (has_setConnection hhas hconnection htag
          (connection.sendEnvelope_kept codec _).1.received rfl)
      next =>
        exact .inl (has_setConnection hhas hconnection htag (publish_tagged connection id _ _) rfl)
  | disconnect id connection hconnection =>
      refine .inl (has_setConnection hhas hconnection htag ?_ rfl)
      split <;> rfl
  | run id choice accepted now connection _ hconnection hrun =>
      exact has_run hconnection hrun htag hhas
  | write id connection message rest hconnection =>
      exact .inl (has_setConnection hhas hconnection htag rfl rfl)
  | stopWriting id connection hconnection =>
      exact .inl (has_setConnection hhas hconnection htag rfl rfl)
  | deliver id choice subscription offered progress moved result hsubscription hdelivery
      hadvance =>
      have hmoved : moved.Has client message := hhas
      refine (has_advanceBroadcast hadvance htag hmoved).imp_right ?_
      rintro ⟨rfl, rfl, targets, slow, rfl, hchoice⟩
      exact .subscription id client subscription message targets slow hsubscription hdelivery
        hchoice
  | forward | stop | receive | exit => exact .inl hhas

/-- Nobody is offered what the room is past offering to it. -/
theorem Offers.not_passed (h : cluster.Ordered codec True) {event : Event Bytes}
    {client : ConnId} {message : Message Bytes} (hoffers : cluster.Offers event client message)
    {tag : Tag} (htag : message.tag = some tag) : cluster.passed client tag = false := by
  by_contra hpassed
  obtain ⟨target, sender, htarget, hsender, hcase⟩ := passed_iff.mp (Bool.not_eq_false _ ▸ hpassed)
  cases hoffers with
  | sender id _ accepted now connection publication targets slow next hconnection hstage hchoice =>
      cases htag
      obtain ⟨⟨hself, hnumber, -⟩, -, htargets⟩ := h.layout.broadcasting hconnection hstage
      rw [hself] at hsender
      cases hsender.symm.trans hconnection
      obtain ⟨w, hw, hnode⟩ := htargets client hchoice
      cases (view_eq htarget).symm.trans hw
      have hnode : target.node = sender.node := hnode
      rcases hcase with ⟨-, -, hoffered⟩ | ⟨hother, -⟩
      · rw [offered_broadcasting hstage] at hoffered
        simp only [Progress.pending, hchoice, decide_true, if_true] at hoffered
        omega
      · exact hother hnode
  | subscription id _ subscription _ targets slow hsubscription hdelivery hchoice =>
      obtain ⟨entry, hpositive, hentry, hentryTag, -, hforeign⟩ :=
        h.layout.delivery id subscription hsubscription message _ hdelivery
      obtain rfl : tag = entry.tag := Option.some.inj (htag.symm.trans hentryTag)
      obtain ⟨w, hw, hnode, hjoined⟩ := (h.exclusive trivial).delivery_target id subscription
        hsubscription message _ hdelivery client hchoice
      cases (view_eq htarget).symm.trans hw
      have hnode : target.node = subscription.node := hnode
      have hjoined : target.subscription = some id := hjoined
      rcases hcase with ⟨hsame, -⟩ | ⟨-, i, s, index, earlier, hi, hs, hindex, hearlier, htagged⟩
      · exact hforeign sender.view (view_eq hsender) (hsame.symm.trans hnode)
      · cases hjoined.symm.trans hi
        cases hsubscription.symm.trans hs
        rw [offered_delivering hdelivery] at hindex
        simp only [Progress.pending, hchoice, decide_true, if_true] at hindex
        have hsorted := List.pairwise_iff_getElem.mp
          (h.layout.sorted (channel subscription.documentId)) index (subscription.consumed - 1)
          (List.getElem?_eq_some_iff.mp hearlier).1 (List.getElem?_eq_some_iff.mp hentry).1 hindex
        rw [(List.getElem?_eq_some_iff.mp hearlier).2, (List.getElem?_eq_some_iff.mp hentry).2,
          htagged] at hsorted
        exact (hsorted rfl).false

end Cluster

end CollabEditor.Hub
