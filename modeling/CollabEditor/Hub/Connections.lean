import CollabEditor.Hub.Layout

/-! # What one step does to connections and channels

Whichever goroutine moves, a connection keeps its client and its node, and it
publishes an edit only for a frame it has just read.
-/

namespace CollabEditor.Hub

open Foundation
open Backend (DocumentId Instant)

variable {Bytes : Type}

/-- The event brings a frame with an edit to the connection. -/
def Cluster.Event.Edits (codec : Codec Bytes) (id : ConnId) : Cluster.Event Bytes → Prop
  | .frame reader bytes _ =>
      reader = id ∧ ∃ envelope, codec.unmarshal bytes = some envelope ∧ envelope.type = .docChange
  | _ => False

/-- The types of the envelopes a connection publishes without being sent an edit. -/
def MessageType.IsAnnouncement (type : MessageType) : Prop :=
  type = .chat ∨ type = .participantJoined ∨ type = .participantLeft

/-- `ReadPump` hands on a chat message or an edit it was sent. -/
theorem readPump_handle {codec : Codec Bytes} {client : Client} {bytes : Bytes} {now : Instant}
    {envelope : Envelope} (hread : readPump codec client bytes now = .handle envelope) :
    envelope.type.IsAnnouncement ∨ ∃ incoming, codec.unmarshal bytes = some incoming ∧
      incoming.type = .docChange := by
  unfold readPump at hread
  split at hread
  next => cases hread
  next incoming hincoming =>
    split at hread
    next =>
      left
      repeat' split at hread
      all_goals cases hread
      exact .inl rfl
    next htype =>
      cases hread
      exact .inr ⟨_, hincoming, htype⟩
    next => cases hread

namespace Connection

/-- What a step may do to a connection: publish an edit if one was read, take a
message out of `Send` if it is `WritePump` that moves. -/
structure Advances (edits writes : Prop) (old new : Connection Bytes) : Prop where
  node : new.node = old.node
  client : new.client = old.client
  subscription : ∀ i, old.subscription = some i → new.subscription = some i
  done : old.done = true → new.done = true
  unregistered : old.unregistered = true → new.unregistered = true
  send : ¬ writes → old.send <+: new.send
  sent : ∃ more, new.sent = old.sent ++ more ∧
    ∀ envelope ∈ more, envelope.type.IsAnnouncement ∨ edits

variable {edits writes : Prop}

theorem Advances.refl (connection : Connection Bytes) :
    connection.Advances edits writes connection :=
  ⟨rfl, rfl, fun _ hi => hi, fun h => h, fun h => h, fun _ => List.prefix_rfl,
    [], by simp, by simp⟩

theorem Advances.trans {first second third : Connection Bytes}
    (hfirst : first.Advances edits writes second) (hsecond : second.Advances edits writes third) :
    first.Advances edits writes third := by
  obtain ⟨before, hbefore, hbeforeTypes⟩ := hfirst.sent
  obtain ⟨more, hmore, hmoreTypes⟩ := hsecond.sent
  refine ⟨hsecond.node.trans hfirst.node, hsecond.client.trans hfirst.client,
    fun i hi => hsecond.subscription i (hfirst.subscription i hi),
    fun h => hsecond.done (hfirst.done h), fun h => hsecond.unregistered (hfirst.unregistered h),
    fun h => (hfirst.send h).trans (hsecond.send h), before ++ more, ?_, ?_⟩
  · rw [hmore, hbefore, List.append_assoc]
  · intro envelope hmem
    rcases List.mem_append.mp hmem with hmem | hmem
    · exact hbeforeTypes envelope hmem
    · exact hmoreTypes envelope hmem

/-- Another stage, more flags, and more messages in `Send`. -/
theorem Advances.of_same {old new : Connection Bytes} (hnode : new.node = old.node)
    (hclient : new.client = old.client) (hsubscription : new.subscription = old.subscription)
    (hdone : old.done = true → new.done = true)
    (hunregistered : old.unregistered = true → new.unregistered = true)
    (hsend : old.send <+: new.send) (hsent : new.sent = old.sent) :
    old.Advances edits writes new :=
  ⟨hnode, hclient, fun _ hi => hsubscription ▸ hi, hdone, hunregistered, fun _ => hsend,
    [], by simp [hsent], by simp⟩

theorem withStage_advances (connection : Connection Bytes) (stage : Stage Bytes) :
    connection.Advances edits writes (connection.withStage stage) :=
  .of_same rfl rfl rfl (fun h => h) (fun h => h) List.prefix_rfl rfl

theorem close_advances (connection : Connection Bytes) :
    connection.Advances edits writes connection.close :=
  .of_same rfl rfl rfl (fun _ => rfl) (fun h => h) List.prefix_rfl rfl

theorem offer_advances (connection : Connection Bytes) (message : Message Bytes) :
    connection.Advances edits writes (connection.offer message) := by
  unfold offer
  split
  next =>
    exact .of_same rfl rfl rfl (fun h => h) (fun h => h) (List.prefix_append _ _) rfl
  next => exact .refl connection

theorem sendEnvelope_advances (connection : Connection Bytes) (codec : Codec Bytes)
    (envelope : Envelope) :
    connection.Advances edits writes (connection.sendEnvelope codec envelope) := by
  unfold sendEnvelope
  split
  next => exact .refl connection
  next => exact connection.offer_advances _

theorem proceed_advances (connection : Connection Bytes) (codec : Codec Bytes) (failed : Bool)
    (next : Continuation) :
    connection.Advances edits writes (connection.proceed codec failed next) := by
  cases next with
  | acknowledge => exact connection.withStage_advances _
  | close subscription => exact connection.withStage_advances _
  | read =>
      unfold proceed
      refine .trans ?_ (withStage_advances _ _)
      split
      next => exact connection.sendEnvelope_advances codec _
      next => exact .refl connection

theorem afterBroadcast_advances (connection : Connection Bytes) (codec : Codec Bytes)
    (publication : Publication Bytes) (next : Continuation) (progress : Option Progress) :
    connection.Advances edits writes
      (connection.afterBroadcast codec publication next progress) := by
  cases progress with
  | some progress => exact connection.withStage_advances _
  | none =>
      unfold afterBroadcast
      dsimp only
      split
      next => exact connection.withStage_advances _
      next => exact connection.proceed_advances codec true next

theorem publish_advances (connection : Connection Bytes) (codec : Codec Bytes) (id : ConnId)
    (envelope : Envelope) (next : Continuation)
    (htype : envelope.type.IsAnnouncement ∨ edits) :
    connection.Advances edits writes (connection.publish codec id envelope next) := by
  unfold publish
  split
  next => exact connection.proceed_advances codec true next
  next =>
    exact ⟨rfl, rfl, fun _ hi => hi, fun h => h, fun h => h, fun _ => List.prefix_rfl,
      [envelope], rfl, by simpa using htype⟩

end Connection

namespace Cluster

variable {codec : Codec Bytes} {cluster : Cluster Bytes}

/-- Every connection advances, and none is new. -/
structure Moves (codec : Codec Bytes) (event : Event Bytes) (before after : Cluster Bytes) :
    Prop where
  advances : ∀ id old, before.connections id = some old → ∃ new, after.connections id = some new ∧
    old.Advances (event.Edits codec id) (event = .write id) new
  absent : ∀ id, before.connections id = none → after.connections id = none

variable {event : Event Bytes}

theorem Moves.of_connections {after : Cluster Bytes}
    (hsame : after.connections = cluster.connections) : Moves codec event cluster after where
  advances _ old hold := ⟨old, hsame ▸ hold, .refl old⟩
  absent _ hnone := hsame ▸ hnone

theorem Moves.trans {middle after : Cluster Bytes} (hfirst : Moves codec event cluster middle)
    (hsecond : Moves codec event middle after) : Moves codec event cluster after where
  advances id old hold := by
    obtain ⟨between, hbetween, hadvances⟩ := hfirst.advances id old hold
    obtain ⟨new, hnew, hmore⟩ := hsecond.advances id between hbetween
    exact ⟨new, hnew, hadvances.trans hmore⟩
  absent id hnone := hsecond.absent id (hfirst.absent id hnone)

/-- Rooms, subscriptions and channels may have changed as well. -/
theorem Moves.setConnection {between : Cluster Bytes} {id : ConnId} {old new : Connection Bytes}
    (hold : cluster.connections id = some old)
    (hadvances : old.Advances (event.Edits codec id) (event = .write id) new)
    (hsame : between.connections = cluster.connections) :
    Moves codec event cluster (between.setConnection id new) where
  advances other found hfound := by
    by_cases heq : other = id
    · subst heq
      cases hold.symm.trans hfound
      exact ⟨new, Function.update_self .., hadvances⟩
    · exact ⟨found, (Function.update_of_ne heq _ _).trans (hsame ▸ hfound), .refl found⟩
  absent other hnone := by
    by_cases heq : other = id
    · subst heq
      cases hold.symm.trans hnone
    · exact (Function.update_of_ne heq _ _).trans (hsame ▸ hnone)

theorem Moves.modifyConnection (cluster : Cluster Bytes) (id : ConnId)
    {change : Connection Bytes → Connection Bytes}
    (hadvances : ∀ connection : Connection Bytes,
      connection.Advances (event.Edits codec id) (event = .write id) (change connection)) :
    Moves codec event cluster (cluster.modifyConnection id change) := by
  unfold Cluster.modifyConnection
  split
  next => exact .of_connections rfl
  next connection hconnection => exact .setConnection hconnection (hadvances connection) rfl

theorem Moves.advanceBroadcast {node : NodeId} {documentId : DocumentId} {message : Message Bytes}
    {choice : ConnId} {progress : Progress} {after : Cluster Bytes} {result : Option Progress}
    (hadvance : cluster.advanceBroadcast node documentId message choice progress =
      some (after, result)) : Moves codec event cluster after := by
  cases advanceBroadcast_cases cluster hadvance with
  | absent | found | done => exact .of_connections rfl
  | offer => exact .modifyConnection cluster choice fun connection => connection.offer_advances _
  | drop => exact .modifyConnection cluster choice fun connection => connection.close_advances

/-- `Register` announces the client. -/
theorem Moves.register {id : ConnId} {connection : Connection Bytes}
    (hconnection : cluster.connections id = some connection)
    (hsubscription : connection.subscription = none) (subscribed : Bool) (now : Instant) :
    Moves codec event cluster (cluster.register codec id connection subscribed now) := by
  have hjoin : ∀ i, connection.Advances (event.Edits codec id) (event = .write id)
      (({ connection with subscription := some i } : Connection Bytes).publish codec id
        (connection.client.participantEnvelope .participantJoined "participant joined" now)
        .acknowledge) := by
    intro i
    have hseated : connection.Advances (event.Edits codec id) (event = .write id)
        { connection with subscription := some i } := by
      refine ⟨rfl, rfl, fun _ hi => ?_, fun h => h, fun h => h, fun _ => List.prefix_rfl,
        [], by simp, by simp⟩
      rw [hsubscription] at hi
      cases hi
    exact hseated.trans (Connection.publish_advances _ codec id _ _ (.inl (.inr (.inl rfl))))
  have hfail : connection.Advances (event.Edits codec id) (event = .write id)
      (connection.close.withStage .finished) :=
    connection.close_advances.trans (Connection.withStage_advances _ _)
  unfold Cluster.register
  dsimp only
  split
  next => exact .setConnection hconnection (hjoin _) rfl
  next =>
    split
    next => exact .setConnection hconnection (hjoin _) rfl
    next => exact .setConnection hconnection hfail rfl

/-- `Unregister` announces that the client is gone. -/
theorem Moves.leave {id : ConnId} {connection : Connection Bytes}
    (hconnection : cluster.connections id = some connection) (now : Instant) :
    Moves codec event cluster (cluster.leave codec id connection now) := by
  unfold Cluster.leave
  dsimp only
  split
  next =>
    exact .setConnection hconnection
      (connection.close_advances.trans (Connection.withStage_advances _ _)) rfl
  next =>
    exact .setConnection hconnection
      (connection.publish_advances codec id _ _ (.inl (.inr (.inr rfl)))) rfl

/-- `ReadPump` publishes what it has read. -/
theorem Moves.readFrame {id : ConnId} {connection : Connection Bytes} {bytes : Bytes}
    {now : Instant} (hconnection : cluster.connections id = some connection) :
    Moves codec (.frame id bytes now) cluster
      (cluster.readFrame codec id connection bytes now) := by
  unfold Cluster.readFrame
  split
  next => exact .setConnection hconnection (connection.sendEnvelope_advances codec _) rfl
  next envelope hread =>
    refine .setConnection hconnection (connection.publish_advances codec id _ _ ?_) rfl
    exact (readPump_handle hread).imp_right fun hedit => ⟨rfl, hedit⟩

/-- The goroutine of a connection. -/
theorem Moves.run {id : ConnId} {connection : Connection Bytes}
    (hconnection : cluster.connections id = some connection) {choice : ConnId} {accepted : Bool}
    {now : Instant} {after : Cluster Bytes}
    (hrun : cluster.run codec id connection choice accepted now = some after) :
    Moves codec event cluster after := by
  cases run_cases codec cluster hrun with
  | broadcast publication progress next moved result _ hadvance =>
      exact (Moves.advanceBroadcast hadvance).trans (.modifyConnection moved id fun connection =>
        connection.afterBroadcast_advances codec _ _ _)
  | accept | refuse =>
      exact .setConnection hconnection (connection.proceed_advances codec _ _) rfl
  | acknowledge =>
      have hack : connection.Advances (event.Edits codec id) (event = .write id) _ :=
        connection.sendEnvelope_advances codec connection.client.ackEnvelope
      refine .setConnection hconnection (hack.trans ?_) rfl
      exact .of_same rfl rfl rfl (fun h => h) (fun h => h) List.prefix_rfl rfl
  | unregister => exact .leave hconnection now
  | close | closeEmptied =>
      exact .setConnection hconnection
        (connection.close_advances.trans (Connection.withStage_advances _ _)) rfl
  | closeSubscription subscription =>
      exact .setConnection hconnection (connection.withStage_advances _)
        (cluster.closeSubscription_connections subscription)

/-- A step opens a connection or moves those there are. -/
theorem step_moves (hlayout : cluster.Layout codec) {after : Cluster Bytes}
    (hstep : step codec cluster event = some after) :
    (∃ id node client, event = .connect id node client ∧ cluster.connections id = none ∧
      after = cluster.setConnection id (.fresh node client)) ∨ Moves codec event cluster after := by
  cases step_cases codec cluster hstep with
  | connect id node client hnone => exact .inl ⟨id, node, client, rfl, hnone, rfl⟩
  | register id subscribed now connection hconnection hstage =>
      have hsubscription := hlayout.connecting id connection.view (view_eq hconnection)
        (by simp [Connection.view, hstage, Stage.isConnecting])
      exact .inr (.register hconnection hsubscription subscribed now)
  | frame id bytes now connection hconnection => exact .inr (.readFrame hconnection)
  | disconnect id connection hconnection =>
      refine .inr (.setConnection hconnection ?_ rfl)
      split
      next => exact connection.withStage_advances _
      next => exact .of_same rfl rfl rfl (fun h => h) (fun _ => rfl) List.prefix_rfl rfl
  | run id choice accepted now connection _ hconnection hrun =>
      exact .inr (.run hconnection hrun)
  | write id connection message rest hconnection =>
      refine .inr (.setConnection hconnection ?_ rfl)
      exact ⟨rfl, rfl, fun _ hi => hi, fun h => h, fun h => h, fun h => absurd rfl h,
        [], by simp, by simp⟩
  | stopWriting id connection hconnection =>
      refine .inr (.setConnection hconnection (connection.close_advances.trans ?_) rfl)
      exact .of_same rfl rfl rfl (fun h => h) (fun h => h) List.prefix_rfl rfl
  | deliver id choice subscription message progress moved result _ _ hadvance =>
      exact .inr ((Moves.advanceBroadcast hadvance).trans (.of_connections rfl))
  | forward | stop | receive | exit => exact .inr (.of_connections rfl)

/-- A connection keeps its client and publishes more. -/
theorem step_sent (hlayout : cluster.Layout codec) {after : Cluster Bytes}
    (hstep : step codec cluster event = some after) (id : ConnId) (old : Connection Bytes)
    (hold : cluster.connections id = some old) : ∃ new, after.connections id = some new ∧
      new.client = old.client ∧ old.sent <+: new.sent := by
  rcases step_moves hlayout hstep with ⟨other, node, client, -, hnone, rfl⟩ | hmoves
  · have hne : id ≠ other := by
      rintro rfl
      cases hold.symm.trans hnone
    exact ⟨old, (Function.update_of_ne hne _ _).trans hold, rfl, List.prefix_rfl⟩
  · obtain ⟨new, hnew, hadvances⟩ := hmoves.advances id old hold
    obtain ⟨more, hmore, -⟩ := hadvances.sent
    exact ⟨new, hnew, hadvances.client, more, hmore.symm⟩

/-! ## Channels -/

/-- What the event publishes, if the broker accepts it. -/
def publication (cluster : Cluster Bytes) : Event Bytes → Option (String × Published Bytes)
  | .run id _ true _ =>
      match cluster.connections id with
      | none => none
      | some connection =>
          match connection.stage with
          | .publishing tag payload _ =>
              some (channel connection.client.documentId, ⟨payload, tag⟩)
          | _ => none
  | _ => none

theorem advanceBroadcast_channels {node : NodeId} {documentId : DocumentId}
    {message : Message Bytes} {choice : ConnId} {progress : Progress} {after : Cluster Bytes}
    {result : Option Progress}
    (hadvance : cluster.advanceBroadcast node documentId message choice progress =
      some (after, result)) : after.channels = cluster.channels := by
  cases advanceBroadcast_cases cluster hadvance with
  | absent | found | done => rfl
  | offer | drop =>
      unfold Cluster.modifyConnection
      split <;> rfl

theorem modifyConnection_channels (cluster : Cluster Bytes) (id : ConnId)
    (change : Connection Bytes → Connection Bytes) :
    (cluster.modifyConnection id change).channels = cluster.channels := by
  unfold Cluster.modifyConnection
  split <;> rfl

theorem closeSubscription_channels (cluster : Cluster Bytes) (id : SubId) :
    (cluster.closeSubscription id).channels = cluster.channels := by
  unfold Cluster.closeSubscription
  split <;> rfl

/-- A goroutine publishes in one of its stages only. -/
theorem run_channels {id : ConnId} {connection : Connection Bytes}
    (hconnection : cluster.connections id = some connection) {choice : ConnId} {accepted : Bool}
    {now : Instant} {after : Cluster Bytes}
    (hrun : cluster.run codec id connection choice accepted now = some after) :
    after.channels = match cluster.publication (.run id choice accepted now) with
      | none => cluster.channels
      | some (name, entry) => (cluster.append name entry).channels := by
  have hquiet : (∀ tag payload next, connection.stage ≠ .publishing tag payload next) →
      cluster.publication (.run id choice accepted now) = none := by
    intro hstage
    cases accepted with
    | false => rfl
    | true =>
        simp only [publication, hconnection]
  cases run_cases codec cluster hrun with
  | broadcast publication progress next moved result hstage hadvance =>
      rw [hquiet (by simp [hstage]), modifyConnection_channels,
        advanceBroadcast_channels hadvance]
  | accept tag payload next hstage haccepted =>
      subst haccepted
      simp [publication, hconnection, hstage, setConnection]
  | refuse tag payload next hstage haccepted =>
      subst haccepted
      rfl
  | unregister hstage =>
      rw [hquiet (by simp [hstage])]
      unfold Cluster.leave
      dsimp only
      split <;> rfl
  | acknowledge hstage | close hstage | closeEmptied subscription hstage =>
      rw [hquiet (by simp [hstage])]
      rfl
  | closeSubscription subscription hstage =>
      rw [hquiet (by simp [hstage])]
      exact cluster.closeSubscription_channels subscription

/-- The channels of the broker change by publications only. -/
theorem step_channels {after : Cluster Bytes} (hstep : step codec cluster event = some after) :
    after.channels = match cluster.publication event with
      | none => cluster.channels
      | some (name, entry) => (cluster.append name entry).channels := by
  cases step_cases codec cluster hstep with
  | register id subscribed now connection =>
      unfold Cluster.register
      dsimp only [publication]
      split
      next => rfl
      next => split <;> rfl
  | frame id bytes now connection =>
      unfold Cluster.readFrame
      dsimp only [publication]
      split <;> rfl
  | run id choice accepted now connection _ hconnection hrun =>
      exact run_channels hconnection hrun
  | deliver id choice subscription message progress moved result _ _ hadvance =>
      have hsame : moved.channels = cluster.channels := advanceBroadcast_channels hadvance
      exact hsame
  -- nothing is published
  | connect | disconnect | write | stopWriting | forward | stop | receive | exit => rfl

end Cluster

end CollabEditor.Hub
