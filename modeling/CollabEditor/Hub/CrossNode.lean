import CollabEditor.Hub.Delivery

/-! # Delivery across nodes

A subscription that is still open, or still being drained, delivers into the
room its node has for the document now. When that is the room it was opened for,
its clients get every envelope of another node from it alone.
-/

namespace CollabEditor.Hub

open Foundation
open Backend (DocumentId Instant)

namespace Cluster

variable {Bytes : Type} {codec : Codec Bytes} {cluster : Cluster Bytes} {drained : Prop}

/-! ## Steps of a subscription -/

/-- A step of a subscription. -/
theorem Ordered.setSubscription (h : cluster.Ordered codec drained) {id : SubId}
    {old new : Subscription Bytes} (hold : cluster.subscriptions id = some old)
    (hnode : new.node = old.node) (hdocument : new.documentId = old.documentId)
    (hexited : old.exited = true → new.exited = true)
    (hlife : (new.stopped = true → new.closedAt.isSome = true) ∧
      (new.exited = true → new.stopped = true) ∧ (new.exited = true → new.delivery = none))
    (hlength : new.consumed ≤ (cluster.channels (channel old.documentId)).length)
    (hclosed : new.closedAt = old.closedAt ∨
      ∀ node documentId room, cluster.rooms node documentId = some room → room.sub ≠ id)
    (hoffered : ∀ client, old.offered client ≤ new.offered client)
    (hdelivery : ∀ message progress, new.delivery = some (message, progress) →
      ∃ entry, 0 < new.consumed ∧
        (cluster.channels (channel old.documentId))[new.consumed - 1]? = some entry ∧
        message.tag = some entry.tag ∧
        (∃ decoded, codec.unmarshalMessage entry.payload = some decoded ∧
          codec.marshal decoded.envelope = some message.bytes) ∧
        ∀ v, cluster.view entry.tag.sender = some v → v.node ≠ old.node)
    (htarget : drained → ∀ message progress, new.delivery = some (message, progress) →
      ∀ client, progress.Targets client → ∃ w, cluster.view client = some w ∧
        w.node = old.node ∧ w.subscription = some id) :
    (cluster.setSubscription id new).Ordered codec drained := by
  refine h.growExclusive (h.layout.setSubscription (h.layout.subscription_bound id old hold) hlife
    (hdocument.symm ▸ hlength) ?_ ?_) (fun hdrain => (h.exclusive hdrain).setSubscription ?_ ?_)
    ⟨fun _ v hv => ⟨v, hv, rfl, fun _ hi => hi, fun _ => le_rfl, List.prefix_rfl⟩, ?_, fun _ => List.prefix_rfl⟩
    fun _ connection hconnection => .inr ⟨connection, hconnection, rfl⟩
  · intro node documentId room hroom hsub
    obtain ⟨s, hs, hsnode, hsdocument, hsopen⟩ :=
      h.layout.room_subscription node documentId room hroom
    rw [hsub] at hs
    cases hold.symm.trans hs
    refine ⟨hnode.trans hsnode, hdocument.trans hsdocument, ?_⟩
    rcases hclosed with hclosed | hclosed
    · rw [hclosed, hsopen]
    · exact absurd hsub (hclosed node documentId room hroom)
  · rw [hnode, hdocument]
    exact hdelivery
  -- a live one would be a second live subscription of the room
  · intro j t ht hne htnode htdocument htlive
    by_contra hlive
    have hlive : old.exited = false := by
      cases hstopped : old.exited with
      | false => rfl
      | true => exact absurd (hexited hstopped) hlive
    exact hne ((h.exclusive hdrain).live_unique j id t old ht hold (htnode.trans hnode)
      (htdocument.trans hdocument) htlive hlive)
  · rw [hnode]
    exact htarget hdrain
  · intro i s hs
    by_cases heq : i = id
    · subst heq
      cases hold.symm.trans hs
      exact ⟨new, Function.update_self .., hdocument, hoffered⟩
    · exact ⟨s, (Function.update_of_ne heq _ _).trans hs, rfl, fun _ => le_rfl⟩

/-- A step that leaves what is consumed as it is. -/
theorem Ordered.idleSubscription (h : cluster.Ordered codec drained) {id : SubId}
    {old new : Subscription Bytes} (hold : cluster.subscriptions id = some old)
    (hnode : new.node = old.node) (hdocument : new.documentId = old.documentId)
    (hconsumed : new.consumed = old.consumed) (hdelivery : new.delivery = old.delivery)
    (hexited : old.exited = true → new.exited = true)
    (hlife : (new.stopped = true → new.closedAt.isSome = true) ∧
      (new.exited = true → new.stopped = true) ∧ (new.exited = true → new.delivery = none))
    (hclosed : new.closedAt = old.closedAt ∨
      ∀ node documentId room, cluster.rooms node documentId = some room → room.sub ≠ id) :
    (cluster.setSubscription id new).Ordered codec drained := by
  refine h.setSubscription hold hnode hdocument hexited hlife
    (hconsumed.symm ▸ h.layout.consumed_length id old hold) hclosed ?_ ?_ ?_
  · intro client
    simp [Subscription.offered, hconsumed, hdelivery]
  · intro message progress hstep
    rw [hconsumed]
    exact h.layout.delivery id old hold message progress (hdelivery ▸ hstep)
  · intro hdrain message progress hstep
    exact (h.exclusive hdrain).delivery_target id old hold message progress (hdelivery ▸ hstep)

/-- `sub.Close()`. -/
theorem Ordered.closeSubscription (h : cluster.Ordered codec drained) {id : SubId}
    (hcloses : cluster.Closable (some id)) : (cluster.closeSubscription id).Ordered codec drained := by
  unfold Cluster.closeSubscription
  split
  next => exact h
  next subscription hsubscription =>
    obtain ⟨-, hstopped, hdelivery⟩ := h.layout.subscription_life id subscription hsubscription
    refine h.idleSubscription hsubscription rfl rfl rfl rfl (fun hexited => hexited)
      ⟨fun _ => ?_, hstopped, hdelivery⟩ (.inr (hcloses id rfl).2)
    cases subscription.closedAt <;> rfl

/-- `consumeRoom` decodes entries of other nodes only. -/
theorem decode_spec (hcodec : codec.KeepsOrigin) {node : NodeId} {entry : Published Bytes}
    {message : Message Bytes} {progress : Progress} (haccepted : cluster.Accepted codec entry)
    (hdecode : decode codec node entry = some (message, progress)) :
    message.tag = some entry.tag ∧ progress = .lookup ∧
      (∃ decoded, codec.unmarshalMessage entry.payload = some decoded ∧
        codec.marshal decoded.envelope = some message.bytes) ∧
      ∀ v, cluster.view entry.tag.sender = some v → v.node ≠ node := by
  obtain ⟨v, hv, -, envelope, -, -, hpayload⟩ := haccepted
  obtain ⟨found, hfound, horigin⟩ := hcodec _ _ hpayload
  simp only [decode, hfound, Option.bind_eq_bind, Option.bind_some] at hdecode
  split at hdecode
  next => cases hdecode
  next hne =>
    obtain ⟨bytes, hbytes, hdecode⟩ := Option.bind_eq_some_iff.mp hdecode
    cases hdecode
    refine ⟨rfl, rfl, ⟨found, hfound, hbytes⟩, fun w hw => ?_⟩
    cases hv.symm.trans hw
    exact fun hsame => hne (horigin.trans hsame)

/-- `consumeRoom` takes an entry out of the buffer. -/
theorem Ordered.receive (h : cluster.Ordered codec drained) (hcodec : codec.KeepsOrigin)
    {id : SubId} {subscription : Subscription Bytes} {entry : Published Bytes}
    (hsubscription : cluster.subscriptions id = some subscription)
    (hidle : subscription.delivery = none) (hlive : subscription.exited = false)
    (hentry : (cluster.channels (channel subscription.documentId))[subscription.consumed]? =
      some entry) :
    (cluster.setSubscription id
      { subscription with
        consumed := subscription.consumed + 1
        delivery := decode codec subscription.node entry }).Ordered codec drained := by
  obtain ⟨hclosed, hstopped, -⟩ := h.layout.subscription_life id subscription hsubscription
  refine h.setSubscription hsubscription rfl rfl (fun hexited => hexited)
    ⟨hclosed, hstopped, fun hexited => ?_⟩ (List.getElem?_eq_some_iff.mp hentry).1 (.inl rfl)
    ?_ ?_ fun _ => ?_
  · rw [show subscription.exited = true from hexited] at hlive
    cases hlive
  · intro client
    unfold Subscription.offered
    rw [hidle]
    simp only [Option.any_none, Bool.false_eq_true, if_false]
    split <;> omega
  · intro message progress hdecode
    obtain ⟨htag, -, hdecoded, hforeign⟩ := decode_spec hcodec
      (h.layout.entry _ entry (List.mem_of_getElem? hentry)) hdecode
    exact ⟨entry, Nat.succ_pos _, hentry, htag, hdecoded, hforeign⟩
  · intro message progress hdecode client hclient
    obtain ⟨-, rfl, -⟩ := decode_spec hcodec
      (h.layout.entry _ entry (List.mem_of_getElem? hentry)) hdecode
    cases hclient

theorem setSubscription_comm (cluster : Cluster Bytes) (choice : ConnId) (id : SubId)
    (change : Connection Bytes → Connection Bytes) (subscription : Subscription Bytes) :
    (cluster.modifyConnection choice change).setSubscription id subscription =
      (cluster.setSubscription id subscription).modifyConnection choice change := by
  unfold Cluster.modifyConnection Cluster.setSubscription
  dsimp only
  cases cluster.connections choice <;> rfl

section Deliver

variable {id : SubId} {subscription : Subscription Bytes} {message : Message Bytes}
  {progress : Progress}

theorem offered_delivering {subscription : Subscription Bytes} {message : Message Bytes}
    {progress : Progress} (hdelivery : subscription.delivery = some (message, progress))
    (client : ConnId) : subscription.offered client =
      if progress.pending client then subscription.consumed - 1 else subscription.consumed := by
  simp [Subscription.offered, hdelivery]

/-- A subscription that delivers has not ended. -/
theorem Layout.live_of_delivering (h : cluster.Layout codec)
    (hsubscription : cluster.subscriptions id = some subscription)
    (hdelivery : subscription.delivery = some (message, progress)) :
    subscription.exited = false := by
  cases hexited : subscription.exited with
  | false => rfl
  | true =>
      rw [(h.subscription_life id subscription hsubscription).2.2 hexited] at hdelivery
      cases hdelivery

/-- So has one that is open. -/
theorem Layout.live_of_open (h : cluster.Layout codec)
    (hsubscription : cluster.subscriptions id = some subscription)
    (hopen : subscription.closedAt = none) : subscription.exited = false := by
  obtain ⟨hclosed, hstopped, -⟩ := h.subscription_life id subscription hsubscription
  cases hexited : subscription.exited with
  | false => rfl
  | true =>
      have hsome := hclosed (hstopped hexited)
      rw [hopen] at hsome
      cases hsome

/-- The broadcast goes on with fewer clients, or returns. -/
theorem Ordered.setDelivery (h : cluster.Ordered codec drained)
    (hsubscription : cluster.subscriptions id = some subscription)
    (hdelivery : subscription.delivery = some (message, progress)) {result : Option Progress}
    (hpending : ∀ rest, result = some rest → ∀ client, rest.pending client = true →
      progress.pending client = true)
    (htarget : drained → ∀ rest, result = some rest → ∀ client, rest.Targets client →
      ∃ w, cluster.view client = some w ∧ w.node = subscription.node ∧
        w.subscription = some id) :
    (cluster.setSubscription id { subscription with
      delivery := result.map fun progress => (message, progress) }).Ordered codec drained := by
  obtain ⟨hclosed, hstopped, -⟩ := h.layout.subscription_life id subscription hsubscription
  have hlive := h.layout.live_of_delivering hsubscription hdelivery
  refine h.setSubscription hsubscription rfl rfl (fun hexited => hexited)
    ⟨hclosed, hstopped, fun hexited => ?_⟩
    (h.layout.consumed_length id subscription hsubscription) (.inl rfl) ?_ ?_ ?_
  · rw [show subscription.exited = true from hexited] at hlive
    cases hlive
  · intro client
    rw [offered_delivering hdelivery]
    cases result with
    | none =>
        dsimp only [Subscription.offered, Option.map_none, Option.any_none]
        split <;> simp
    | some rest =>
        rw [offered_delivering rfl]
        by_cases hrest : rest.pending client = true
        · simp [hrest, hpending rest rfl client hrest]
        · simp only [hrest, Bool.false_eq_true, if_false]
          split
          · exact Nat.sub_le _ _
          · exact le_rfl
  · intro found rest hrest
    obtain ⟨inner, hinner, hpair⟩ := Option.map_eq_some_iff.mp hrest
    cases hpair
    exact h.layout.delivery id subscription hsubscription message progress hdelivery
  · intro hdrain found rest hrest
    obtain ⟨inner, hinner, hpair⟩ := Option.map_eq_some_iff.mp hrest
    cases hpair
    exact htarget hdrain rest hinner

/-- The message is offered to one of the clients of the subscription. -/
theorem Ordered.offerRemote (h : cluster.Ordered codec drained)
    (hsubscription : cluster.subscriptions id = some subscription)
    {targets slow rest : Finset ConnId} {choice : ConnId} (hchoice : choice ∈ targets)
    (hdelivery : subscription.delivery = some (message, .offering targets slow)) :
    ((cluster.setSubscription id { subscription with
        delivery := some (message, .offering (targets.erase choice) rest) }).modifyConnection
      choice (·.offer message)).Ordered codec drained := by
  obtain ⟨entry, hpositive, hentry, htag, ⟨decoded, hdecoded, hbytes⟩, hforeign⟩ :=
    h.layout.delivery id subscription hsubscription _ _ hdelivery
  obtain ⟨v, hv, -, envelope, henvelope, hpublishes⟩ :=
    h.layout.entry _ entry (List.mem_of_getElem? hentry)
  have htargets := fun hdrain => (h.exclusive hdrain).delivery_target id subscription hsubscription
    _ _ hdelivery
  have hstep : (cluster.setSubscription id { subscription with
      delivery := (some (Progress.offering (targets.erase choice) rest)).map
        fun progress => (message, progress) }).Ordered codec drained := by
    refine h.setDelivery hsubscription hdelivery ?_ ?_
    · rintro remaining hremaining
      cases hremaining
      exact Progress.pending_erase choice rest
    · rintro hdrain remaining hremaining client hclient
      cases hremaining
      exact htargets hdrain client (Finset.mem_of_mem_erase hclient)
  obtain ⟨bytes, tag⟩ := message
  cases htag
  refine hstep.offer bytes (fun hdrain => ?_) (fun hdrain => ?_)
    ⟨v, envelope, hv, henvelope, .inr ⟨_, decoded, hpublishes, hdecoded, hbytes⟩⟩
  -- what the client has received from the sender came from earlier entries of the channel
  · obtain ⟨w, hw, hwnode, hwsubscription⟩ := htargets hdrain choice hchoice
    intro receiver hreceiver number hnumber
    obtain ⟨found, sender, hfound, hsender, -, hremote⟩ :=
      h.justified hdrain choice receiver hreceiver entry.tag.sender number hnumber
    cases hw.symm.trans hfound
    cases hv.symm.trans hsender
    obtain ⟨i, s, hi, hs, index, hindex, earlier, hearlier, hsame⟩ :=
      hremote (hwnode.symm ▸ (hforeign v hv).symm)
    cases hwsubscription.symm.trans hi
    cases hsubscription.symm.trans hs
    rw [offered_delivering hdelivery] at hindex
    simp only [Progress.pending, hchoice, decide_true, if_true] at hindex
    have hsorted := List.pairwise_iff_getElem.mp
      (h.layout.sorted (channel subscription.documentId)) index (subscription.consumed - 1)
      (List.getElem?_eq_some_iff.mp hearlier).1 (List.getElem?_eq_some_iff.mp hentry).1 hindex
    rw [(List.getElem?_eq_some_iff.mp hearlier).2, (List.getElem?_eq_some_iff.mp hentry).2,
      hsame] at hsorted
    exact hsorted rfl
  · obtain ⟨w, hw, hwnode, hwsubscription⟩ := htargets hdrain choice hchoice
    refine ⟨w, v, hw, hv, fun hlocal => absurd (hlocal.symm.trans hwnode) (hforeign v hv),
      fun _ => ⟨id, _, hwsubscription, Function.update_self .., subscription.consumed - 1, ?_,
        entry, hentry, rfl⟩⟩
    rw [offered_delivering rfl]
    simp only [Progress.pending, Finset.notMem_erase, decide_false, Bool.false_eq_true, if_false]
    exact Nat.sub_lt hpositive Nat.one_pos

/-- `consumeRoom` goes on with its broadcast: the room it finds is the one its
subscription was opened for. -/
theorem Ordered.deliver (h : cluster.Ordered codec drained)
    (hsubscription : cluster.subscriptions id = some subscription) {choice : ConnId}
    {message : Message Bytes} {progress : Progress} {moved : Cluster Bytes}
    {result : Option Progress} (hdelivery : subscription.delivery = some (message, progress))
    (hadvance : cluster.advanceBroadcast subscription.node subscription.documentId message
      choice progress = some (moved, result)) :
    (moved.setSubscription id
      { subscription with delivery := result.map fun progress => (message, progress) }).Ordered
      codec drained := by
  cases advanceBroadcast_cases cluster hadvance with
  | absent | done => exact h.setDelivery hsubscription hdelivery nofun fun _ => nofun
  | found room hroom =>
      obtain ⟨s, hs, hnode, hdocument, hopen⟩ := h.layout.room_subscription _ _ room hroom
      refine h.setDelivery hsubscription hdelivery ?_ fun hdrain => ?_
      · rintro rest hrest client -
        rfl
      · have hsame : room.sub = id := (h.exclusive hdrain).live_unique _ _ s subscription hs
          hsubscription hnode hdocument (h.layout.live_of_open hs hopen)
          (h.layout.live_of_delivering hsubscription hdelivery)
        rintro rest hrest client hclient
        cases hrest
        obtain ⟨v, hv, hvnode, hvsubscription⟩ :=
          h.layout.room_client _ _ room hroom client hclient
        exact ⟨v, hv, hvnode, hsame ▸ hvsubscription⟩
  | offer targets slow rest hchoice =>
      rw [setSubscription_comm]
      exact h.offerRemote hsubscription hchoice hdelivery
  | drop slow =>
      rw [setSubscription_comm]
      refine Ordered.modifyConnection ?_ choice (fun _ => rfl) fun _ => rfl
      refine h.setDelivery hsubscription hdelivery ?_ ?_
      · rintro rest hrest client hclient
        cases hrest
        exact hclient
      · rintro - rest hrest client hclient
        cases hrest
        exact absurd hclient (Finset.notMem_empty client)

end Deliver

/-! ## The system -/

/-- A frame is read. -/
theorem Ordered.readFrame (h : cluster.Ordered codec drained) {id : ConnId}
    {connection : Connection Bytes} (hconnection : cluster.connections id = some connection)
    (frame : Bytes) (now : Instant) :
    (cluster.readFrame codec id connection frame now).Ordered codec drained := by
  unfold Cluster.readFrame
  split
  next code message _ =>
    rw [← modifyConnection_eq hconnection fun connection => connection.sendError codec code message]
    exact h.modifyConnection id
      (fun connection => (connection.sendEnvelope_kept codec _).2)
      fun connection => (connection.sendEnvelope_kept codec _).1.received
  next =>
    exact h.start hconnection (.refl connection) rfl _ nofun

/-- A goroutine takes its next step. -/
theorem Ordered.run (h : cluster.Ordered codec drained) {id : ConnId}
    {connection : Connection Bytes} (hconnection : cluster.connections id = some connection)
    (choice : ConnId) (accepted : Bool) (now : Instant) {after : Cluster Bytes}
    (hrun : cluster.run codec id connection choice accepted now = some after) :
    after.Ordered codec drained := by
  have hcloses := h.layout.closable (view_eq hconnection)
  cases run_cases codec cluster hrun with
  | broadcast publication progress next moved result hstage hadvance =>
      exact h.advance hconnection hstage (advanceBroadcast_cases cluster hadvance)
  | accept tag payload next hstage => exact h.publish hconnection hstage _
  | refuse tag payload next hstage =>
      rw [show connection.view.stage = .publishing tag payload next from hstage] at hcloses
      exact h.proceed hconnection (.refl connection) rfl true hcloses
  | acknowledge =>
      obtain ⟨hkept, hview⟩ := connection.sendEnvelope_kept codec connection.client.ackEnvelope
      exact h.rest hconnection ⟨hkept.node, hkept.subscription, hkept.received⟩
        (congrArg View.sent hview) ⟨rfl, rfl⟩ rfl nofun
  | unregister => exact h.leave hconnection now
  | close => exact h.rest hconnection ⟨rfl, fun _ hi => hi, rfl⟩ rfl ⟨rfl, rfl⟩ rfl nofun
  | closeEmptied subscription hstage =>
      rw [show connection.view.stage = .closing (some subscription) from hstage] at hcloses
      exact h.rest hconnection ⟨rfl, fun _ hi => hi, rfl⟩ rfl ⟨rfl, rfl⟩ rfl hcloses
  | closeSubscription subscription hstage =>
      rw [show connection.view.stage = .closingSubscription subscription from hstage] at hcloses
      have hconnections : (cluster.closeSubscription subscription).connections id =
          some connection := by
        rw [closeSubscription_connections, hconnection]
      exact (h.closeSubscription hcloses).rest hconnections ⟨rfl, fun _ hi => hi, rfl⟩ rfl
        ⟨rfl, rfl⟩ rfl nofun

/-- A new connection. -/
theorem Ordered.connect (h : cluster.Ordered codec drained) {id : ConnId}
    {connection : Connection Bytes} (hnone : cluster.connections id = none)
    (hstage : connection.stage = .connecting) (hsubscription : connection.subscription = none)
    (hreceived : connection.received = []) :
    (cluster.setConnection id connection).Ordered codec drained := by
  have hview : cluster.view id = none := by simp [view, hnone]
  refine h.grow (h.layout.setConnection ?_ ?_ ?_ ?_ (fun _ => hsubscription) ?_ ?_ ?_) rfl
    (grows_setConnection ?_ ?_ ?_ ?_) (received_setConnection (.inl hreceived))
  all_goals simp [hview, hstage, Stage.closes, Stage.tag, Stage.progress]

/-- Every subscription of the node to the document has delivered all it ever
will. -/
def Drained (cluster : Cluster Bytes) (node : NodeId) (documentId : DocumentId) : Prop :=
  ∀ i < cluster.nextSubscription, ∀ s ∈ cluster.subscriptions i,
    s.node = node → s.documentId = documentId → s.exited = true

instance (cluster : Cluster Bytes) (node : NodeId) (documentId : DocumentId) :
    Decidable (cluster.Drained node documentId) :=
  inferInstanceAs (Decidable (∀ i < cluster.nextSubscription, ∀ s ∈ cluster.subscriptions i,
    s.node = node → s.documentId = documentId → s.exited = true))

/-- A client is not the first of its room while an earlier subscription of the
room is still being drained. -/
def DrainedBeforeReopen (cluster : Cluster Bytes) : Event Bytes → Prop
  | .register id _ _ => ∀ connection ∈ cluster.connections id,
      (cluster.rooms connection.node connection.client.documentId).isNone →
        cluster.Drained connection.node connection.client.documentId
  | _ => True

instance (cluster : Cluster Bytes) :
    (event : Event Bytes) → Decidable (cluster.DrainedBeforeReopen event)
  | .register id _ _ => inferInstanceAs (Decidable (∀ connection ∈ cluster.connections id,
      (cluster.rooms connection.node connection.client.documentId).isNone →
        cluster.Drained connection.node connection.client.documentId))
  | .connect .. | .frame .. | .disconnect .. | .run .. | .write .. | .stopWriting ..
  | .forward .. | .stop .. | .receive .. | .deliver .. | .exit .. => .isTrue trivial

/-- Every event keeps the invariant. -/
theorem Ordered.step (h : cluster.Ordered codec drained) (hcodec : codec.KeepsOrigin)
    {event : Event Bytes} (hguard : drained → cluster.DrainedBeforeReopen event) {after : Cluster Bytes}
    (hstep : step codec cluster event = some after) : after.Ordered codec drained := by
  cases step_cases codec cluster hstep with
  | connect id node client hnone => exact h.connect hnone rfl rfl rfl
  | register id subscribed now connection hconnection hstage =>
      refine h.register hconnection hstage subscribed now fun hdrain hroom i s hs => ?_
      exact hguard hdrain connection hconnection (by simp [hroom]) i
        (h.layout.subscription_bound i s hs) s hs
  | frame id frame now connection hconnection => exact h.readFrame hconnection frame now
  | disconnect id connection hconnection =>
      have hkept : ∀ stage unregistered, Connection.Kept connection
          { connection with unregistered := unregistered, stage := stage } :=
        fun _ _ => ⟨rfl, fun _ hi => hi, rfl⟩
      split
      next => exact h.rest hconnection (hkept _ _) rfl ⟨rfl, rfl⟩ rfl nofun
      next => exact h.rest hconnection (hkept _ _) rfl ⟨rfl, rfl⟩ rfl nofun
  | run id choice accepted now connection _ hconnection hrun =>
      exact h.run hconnection choice accepted now hrun
  | write id connection message rest hconnection =>
      rw [← modifyConnection_eq hconnection fun connection => { connection with send := rest }]
      exact h.modifyConnection id (fun _ => rfl) fun _ => rfl
  | stopWriting id connection hconnection =>
      rw [← modifyConnection_eq hconnection fun connection =>
        { connection.close with pumping := false }]
      exact h.modifyConnection id (fun _ => rfl) fun _ => rfl
  | forward id subscription hsubscription =>
      exact h.idleSubscription hsubscription rfl rfl rfl rfl (fun hexited => hexited)
        (h.layout.subscription_life id subscription hsubscription) (.inl rfl)
  | stop id subscription hsubscription hclosed =>
      obtain ⟨-, -, hidle⟩ := h.layout.subscription_life id subscription hsubscription
      exact h.idleSubscription hsubscription rfl rfl rfl rfl (fun hexited => hexited)
        ⟨fun _ => hclosed, fun _ => rfl, hidle⟩ (.inl rfl)
  | receive id subscription entry hsubscription hidle hlive _ hentry =>
      exact h.receive hcodec hsubscription hidle hlive hentry
  | deliver id choice subscription message progress moved result hsubscription hdelivery
      hadvance => exact h.deliver hsubscription hdelivery hadvance
  | exit id subscription hsubscription hstopped _ hidle =>
      exact h.idleSubscription hsubscription rfl rfl rfl rfl (fun _ => rfl)
        ⟨(h.layout.subscription_life id subscription hsubscription).1, fun _ => hstopped,
          fun _ => hidle⟩ (.inl rfl)

/-- In every run that drains the earlier subscriptions of a room before it opens
the room again, all clients receive the envelopes of each connection in the order
they were sent, and each of them once. -/
theorem received_inOrder (hcodec : codec.KeepsOrigin)
    (hreach : (system codec).ReachableUnder DrainedBeforeReopen cluster) : cluster.InOrder := by
  have hordered : cluster.Ordered codec True := by
    refine hreach.invariant (system codec) (Ordered codec True) ?_ ?_
    · rintro state rfl
      exact empty_ordered
    · exact fun state event after _ h hguard hstep => h.step hcodec (fun _ => hguard) hstep
  exact hordered.inOrder trivial

/-! ## A room opened too early -/

/-- A client enters, publishes that it has, and reads. -/
def enter (id : ConnId) (node : NodeId) (client : Client) : List (Event Bytes) :=
  [.connect id node client, .register id true 0, .run id 0 true 0, .run id id true 0,
    .run id 0 true 0, .run id 0 true 0, .run id 0 true 0]

/-- A client sends an edit to its room, in which it is alone. -/
def edit (id : ConnId) : List (Event (Envelope ⊕ EnvelopeMessage)) :=
  [.frame id (.inl ⟨.docChange, 0, "edit", 0, 0, none⟩) 0, .run id 0 true 0, .run id id true 0,
    .run id 0 true 0, .run id 0 true 0]

/-- A subscription broadcasts its next entry to a room with one client. -/
def relay (id : SubId) (client : ConnId) : List (Event Bytes) :=
  [.forward id, .receive id, .deliver id client, .deliver id client, .deliver id client]

/-- An edit crosses from one node to another. -/
def crossingRun : List (Event (Envelope ⊕ EnvelopeMessage)) :=
  enter 0 "node-b" ⟨2, "editor", 7, "EDITOR", 64⟩ ++
    enter 1 "node-a" ⟨1, "owner", 7, "OWNER", 64⟩ ++ edit 1 ++
    [.forward 0, .receive 0] ++ relay 0 0 ++ relay 0 0

theorem received_inOrder_crossing : ∃ cluster : Cluster (Envelope ⊕ EnvelopeMessage),
    (system plainCodec).ReachableUnder DrainedBeforeReopen cluster ∧ cluster.InOrder ∧
      (cluster.connections 0).any
        (fun connection => numbersFrom 1 connection.received = [0, 1]) = true := by
  obtain ⟨cluster, hreach, hreceived⟩ := (system plainCodec).exists_reachable_of_exec
    (.init rfl : (system plainCodec).ReachableUnder DrainedBeforeReopen empty) crossingRun
    (fun cluster => (cluster.connections 0).any
      fun connection => numbersFrom 1 connection.received = [0, 1]) (by decide)
  exact ⟨cluster, hreach, received_inOrder plainCodec_keepsOrigin hreach, hreceived⟩

/-- The last client of a room leaves, but its goroutine has not closed the
subscription when another client opens the room again. -/
def reopeningRun : List (Event (Envelope ⊕ EnvelopeMessage)) :=
  enter 0 "node-b" ⟨2, "editor", 7, "EDITOR", 64⟩ ++
    enter 1 "node-a" ⟨1, "owner", 7, "OWNER", 64⟩ ++
    [.disconnect 0, .run 0 0 true 0, .connect 2 "node-b" ⟨2, "editor", 7, "EDITOR", 64⟩,
      .register 2 true 0] ++ edit 1 ++
    [.forward 0, .receive 0] ++ relay 0 2 ++ relay 0 2 ++ relay 2 2

/-- Both subscriptions deliver the edit to the new client. -/
theorem reopened_room_receives_twice :
    ¬ ∀ cluster : Cluster (Envelope ⊕ EnvelopeMessage), (system plainCodec).Reachable cluster →
      ∀ client connection, cluster.connections client = some connection →
        ∀ sender ≠ client, (numbersFrom sender connection.received).Nodup := by
  intro hclaim
  obtain ⟨cluster, hreach, hreceived⟩ := (system plainCodec).exists_reachable_of_exec
    (.init rfl : (system plainCodec).Reachable empty) reopeningRun
    (fun cluster => (cluster.connections 2).any
      fun connection => numbersFrom 1 connection.received = [0, 1, 1]) (by decide)
  obtain ⟨connection, hconnection, hreceived⟩ := (Option.any_eq_true _ _).mp hreceived
  have honce := hclaim cluster hreach 2 connection hconnection 1 (by decide)
  rw [of_decide_eq_true hreceived] at honce
  exact absurd honce (by decide)

end Cluster

end CollabEditor.Hub
