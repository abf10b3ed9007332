import CollabEditor.Hub.Rooms
import Mathlib.Data.Set.Function

/-! # The rooms of a node

A node of the cluster does to its rooms what a hub does, with one call of `Unregister`
for each connection. Subscriptions are counted for all nodes here, and for one hub there.
-/

namespace CollabEditor.Hub

open Foundation
open Backend (DocumentId Instant)

/-! ## What the rooms depend on -/

/-- Where a goroutine stands, as far as the rooms depend on it. -/
inductive Position
  | connecting
  | serving
  /-- In `Unregister`, or done. -/
  | leaving (stage : UnregisterStage)

structure Standing where
  client : Client
  position : Position
  unregistered : Bool

def Position.holds : Position → Option SubId
  | .connecting | .serving => none
  | .leaving stage => stage.holds

def Continuation.position : Continuation → Position
  | .acknowledge | .read => .serving
  | .close subscription => .leaving (.notifying subscription)

def Stage.position {Bytes : Type} : Stage Bytes → Position
  | .connecting => .connecting
  | .broadcasting _ _ next | .publishing _ _ next => next.position
  | .acknowledging | .reading => .serving
  | .unregistering => .leaving .removing
  | .closing subscription => .leaving (.closing subscription)
  | .closingSubscription subscription => .leaving (.closingSubscription subscription)
  | .finished => .leaving .finished

def Connection.standing {Bytes : Type} (connection : Connection Bytes) : Standing where
  client := connection.client
  position := connection.stage.position
  unregistered := connection.unregistered

/-- The connections of a node. -/
def Cluster.standing {Bytes : Type} (cluster : Cluster Bytes) (node : NodeId) (id : ConnId) :
    Option Standing :=
  (cluster.connections id).bind fun connection =>
    if connection.node = node then some connection.standing else none

/-- A room or a goroutine has the subscription. -/
def Uses (standing : ConnId → Option Standing) (rooms : DocumentId → Option Room) : Set SubId :=
  { subscription |
    (∃ documentId room, rooms documentId = some room ∧ room.sub = subscription) ∨
      ∃ id found, standing id = some found ∧ found.position.holds = some subscription }

/-! ## What one step does -/

/-- A call of `Unregister` goes on after its section under the mutex. -/
inductive Continues : UnregisterStage → UnregisterStage → Prop
  | notified (subscription : Option SubId) :
      Continues (.notifying subscription) (.closing subscription)
  | closed : Continues (.closing none) .finished
  | closedEmptied (subscription : SubId) :
      Continues (.closing (some subscription)) (.closingSubscription subscription)
  | closedSubscription (subscription : SubId) :
      Continues (.closingSubscription subscription) .finished

variable (standing : ConnId → Option Standing) (rooms : DocumentId → Option Room) (next : SubId)

/-- What a step of the cluster does to the clients and rooms of a node. -/
inductive NodeSteps :
    (ConnId → Option Standing) → (DocumentId → Option Room) → SubId → Prop
  | other (later : SubId) (hlater : next ≤ later) : NodeSteps standing rooms later
  | connect (id : ConnId) (client : Client) (hnone : standing id = none) :
      NodeSteps (Function.update standing id (some ⟨client, .connecting, false⟩)) rooms next
  | join (id : ConnId) (old : Standing) (hold : standing id = some old)
      (hposition : old.position = .connecting) (room : Room)
      (hroom : rooms old.client.documentId = some room) :
      NodeSteps (Function.update standing id (some { old with position := .serving }))
        (Function.update rooms old.client.documentId
          (some { room with clients := insert id room.clients })) next
  | create (id : ConnId) (old : Standing) (hold : standing id = some old)
      (hposition : old.position = .connecting) (hroom : rooms old.client.documentId = none) :
      NodeSteps (Function.update standing id (some { old with position := .serving }))
        (Function.update rooms old.client.documentId (some { clients := {id}, sub := next }))
        (next + 1)
  | refuse (id : ConnId) (old : Standing) (hold : standing id = some old)
      (hposition : old.position = .connecting) (hroom : rooms old.client.documentId = none) :
      NodeSteps (Function.update standing id (some { old with position := .leaving .finished }))
        rooms next
  | disconnect (id : ConnId) (old : Standing) (hold : standing id = some old)
      (hposition : old.position = .serving) :
      NodeSteps (Function.update standing id (some { old with
        position := .leaving (if old.unregistered then .finished else .removing)
        unregistered := true })) rooms next
  | missing (id : ConnId) (old : Standing) (hold : standing id = some old)
      (hposition : old.position = .leaving .removing)
      (hroom : rooms old.client.documentId = none) :
      NodeSteps (Function.update standing id (some { old with position := .leaving .finished }))
        rooms next
  /-- The leave event may be dropped at once. -/
  | leave (id : ConnId) (old : Standing) (hold : standing id = some old)
      (hposition : old.position = .leaving .removing) (room : Room)
      (hroom : rooms old.client.documentId = some room) (stage : UnregisterStage)
      (hstage : stage = .notifying (if room.clients.erase id = ∅ then some room.sub else none) ∨
        stage = .closing (if room.clients.erase id = ∅ then some room.sub else none)) :
      NodeSteps (Function.update standing id (some { old with position := .leaving stage }))
        (Function.update rooms old.client.documentId (if room.clients.erase id = ∅ then none
          else some { room with clients := room.clients.erase id })) next
  | proceed (id : ConnId) (old : Standing) (hold : standing id = some old)
      (before after : UnregisterStage) (hposition : old.position = .leaving before)
      (hcontinues : Continues before after) :
      NodeSteps (Function.update standing id (some { old with position := .leaving after }))
        rooms next

namespace Cluster

variable {Bytes : Type} {codec : Codec Bytes} {cluster : Cluster Bytes} {node : NodeId}

/-- A goroutine of some node moves. -/
theorem standing_setConnection {between : Cluster Bytes} {id : ConnId} {old new : Connection Bytes}
    (hold : cluster.connections id = some old)
    (hconnections : between.connections = cluster.connections) (hnode : new.node = old.node) :
    (between.setConnection id new).standing node =
      if old.node = node then Function.update (cluster.standing node) id (some new.standing)
      else cluster.standing node := by
  funext other
  by_cases heq : other = id
  · subst heq
    by_cases hhere : old.node = node
    · simp [standing, setConnection, hnode, hhere]
    · simp [standing, setConnection, hnode, hhere, hold]
  · by_cases hhere : old.node = node
    · simp [standing, setConnection, hconnections, heq, hhere]
    · simp [standing, setConnection, hconnections, heq, hhere]

theorem standing_here {id : ConnId} {old : Connection Bytes}
    (hold : cluster.connections id = some old) (hhere : old.node = node) :
    cluster.standing node id = some old.standing := by
  simp [standing, hold, hhere]

/-- The rooms depend on nothing that has changed. -/
theorem standing_same {between : Cluster Bytes} {id : ConnId} {old new : Connection Bytes}
    (hold : cluster.connections id = some old)
    (hconnections : between.connections = cluster.connections) (hnode : new.node = old.node)
    (hsame : new.standing = old.standing) :
    (between.setConnection id new).standing node = cluster.standing node := by
  rw [standing_setConnection hold hconnections hnode, hsame]
  split
  next hhere => rw [← standing_here hold hhere, Function.update_eq_self]
  next => rfl

end Cluster

namespace Connection

variable {Bytes : Type} (codec : Codec Bytes)

theorem offer_standing (connection : Connection Bytes) (message : Message Bytes) :
    (connection.offer message).node = connection.node ∧
      (connection.offer message).standing = connection.standing := by
  unfold offer
  split <;> exact ⟨rfl, rfl⟩

theorem sendEnvelope_standing (connection : Connection Bytes) (envelope : Envelope) :
    (connection.sendEnvelope codec envelope).node = connection.node ∧
      (connection.sendEnvelope codec envelope).standing = connection.standing := by
  unfold sendEnvelope
  split
  next => exact ⟨rfl, rfl⟩
  next => exact connection.offer_standing _

end Connection

/-- What a goroutine does after its publication. -/
def Continuation.proceeds : Continuation → Position
  | .acknowledge | .read => .serving
  | .close subscription => .leaving (.closing subscription)

namespace Connection

variable {Bytes : Type} (codec : Codec Bytes)

theorem proceed_standing (connection : Connection Bytes) (failed : Bool) (next : Continuation) :
    (connection.proceed codec failed next).node = connection.node ∧
      (connection.proceed codec failed next).standing =
        { connection.standing with position := next.proceeds } := by
  cases next with
  | acknowledge => exact ⟨rfl, rfl⟩
  | close subscription => exact ⟨rfl, rfl⟩
  | read =>
      cases failed with
      | false => exact ⟨rfl, rfl⟩
      | true =>
          obtain ⟨hnode, hsame⟩ := connection.sendEnvelope_standing codec
            (Client.errorEnvelope "publish_failed" "message could not be delivered")
          exact ⟨hnode,
            congrArg (fun found : Standing => { found with position := .serving }) hsame⟩

/-- The goroutine broadcasts, or has found that it cannot write the envelope. -/
theorem publish_standing (connection : Connection Bytes) (id : ConnId) (envelope : Envelope)
    (next : Continuation) :
    (connection.publish codec id envelope next).node = connection.node ∧
      ((connection.publish codec id envelope next).standing =
          { connection.standing with position := next.position } ∨
        (connection.publish codec id envelope next).standing =
          { connection.standing with position := next.proceeds }) := by
  unfold publish
  split
  next =>
    obtain ⟨hnode, hstanding⟩ := connection.proceed_standing codec true next
    exact ⟨hnode, .inr hstanding⟩
  next => exact ⟨rfl, .inl rfl⟩

end Connection

namespace Cluster

variable {Bytes : Type} {codec : Codec Bytes} {cluster : Cluster Bytes} {node : NodeId}

/-- What the step does to the rooms of a node. -/
abbrev StepsTo (node : NodeId) (before after : Cluster Bytes) : Prop :=
  NodeSteps (before.standing node) (before.rooms node) before.nextSubscription
    (after.standing node) (after.rooms node) after.nextSubscription

theorem StepsTo.of_same {after : Cluster Bytes}
    (hstanding : after.standing node = cluster.standing node)
    (hrooms : after.rooms node = cluster.rooms node)
    (hnext : cluster.nextSubscription ≤ after.nextSubscription) : cluster.StepsTo node after := by
  unfold StepsTo
  rw [hstanding, hrooms]
  exact .other _ hnext

/-- A goroutine that is not under the mutex moves. -/
theorem StepsTo.move {between : Cluster Bytes} {id : ConnId} {old new : Connection Bytes}
    (hold : cluster.connections id = some old)
    (hconnections : between.connections = cluster.connections)
    (hrooms : between.rooms = cluster.rooms)
    (hnext : between.nextSubscription = cluster.nextSubscription) (hnode : new.node = old.node)
    (hmove : new.standing = old.standing ∨ ∃ before after,
      old.stage.position = .leaving before ∧ Continues before after ∧
        new.standing = { old.standing with position := .leaving after }) :
    cluster.StepsTo node (between.setConnection id new) := by
  have hkept : (between.setConnection id new).rooms node = cluster.rooms node := by
    rw [← hrooms]
    rfl
  rcases hmove with hsame | ⟨before, after, hposition, hcontinues, hafter⟩
  · exact .of_same (standing_same hold hconnections hnode hsame) hkept hnext.ge
  · by_cases hhere : old.node = node
    · unfold StepsTo
      rw [standing_setConnection hold hconnections hnode, if_pos hhere, hkept, hafter]
      change NodeSteps _ _ _ _ _ between.nextSubscription
      rw [hnext]
      exact .proceed id old.standing (standing_here hold hhere) before after hposition hcontinues
    · refine .of_same ?_ hkept hnext.ge
      rw [standing_setConnection hold hconnections hnode, if_neg hhere]

/-- A publication ends, after a leave event in `Unregister`. -/
theorem StepsTo.proceed {between : Cluster Bytes} {id : ConnId} {old : Connection Bytes}
    (hold : cluster.connections id = some old)
    (hconnections : between.connections = cluster.connections)
    (hrooms : between.rooms = cluster.rooms)
    (hnext : between.nextSubscription = cluster.nextSubscription) {next : Continuation}
    (hposition : old.stage.position = next.position) (failed : Bool) :
    cluster.StepsTo node (between.setConnection id (old.proceed codec failed next)) := by
  obtain ⟨hnode, hafter⟩ := old.proceed_standing codec failed next
  refine .move hold hconnections hrooms hnext hnode ?_
  cases next with
  | acknowledge | read =>
      refine .inl (hafter.trans ?_)
      change ({ old.standing with position := Position.serving } : Standing) = _
      rw [← show old.stage.position = .serving from hposition]
      rfl
  | close subscription =>
      exact .inr ⟨_, _, hposition, .notified subscription, hafter⟩

theorem rooms_setRoom (cluster : Cluster Bytes) (place : NodeId) (documentId : DocumentId)
    (row : Option Room) :
    (cluster.setRoom place documentId row).rooms node =
      if place = node then Function.update (cluster.rooms node) documentId row
      else cluster.rooms node := by
  by_cases hhere : place = node
  · simp [setRoom, hhere]
  · simp [setRoom, hhere, Ne.symm hhere]

variable (codec) in
/-- A goroutine changes its room and publishes that. -/
theorem standing_publish (between : Cluster Bytes) {id : ConnId} {old : Connection Bytes}
    (start : Connection Bytes) (hold : cluster.connections id = some old)
    (hconnections : between.connections = cluster.connections) (hnode : start.node = old.node)
    (hstart : start.standing = old.standing) (envelope : Envelope) (next : Continuation) :
    ∃ position, (position = next.position ∨ position = next.proceeds) ∧ ∀ node,
      (between.setConnection id (start.publish codec id envelope next)).standing node =
        if old.node = node then
          Function.update (cluster.standing node) id
            (some { old.standing with position := position })
        else cluster.standing node := by
  obtain ⟨hkept, hafter⟩ := start.publish_standing codec id envelope next
  rw [hstart] at hafter
  rcases hafter with hafter | hafter
  · exact ⟨_, .inl rfl, fun _ => hafter ▸
      standing_setConnection hold hconnections (hkept.trans hnode)⟩
  · exact ⟨_, .inr rfl, fun _ => hafter ▸
      standing_setConnection hold hconnections (hkept.trans hnode)⟩

/-- A goroutine gives up. -/
theorem standing_finish {id : ConnId} {connection : Connection Bytes}
    (hconnection : cluster.connections id = some connection) :
    (cluster.setConnection id (connection.close.withStage .finished)).standing node =
      if connection.node = node then Function.update (cluster.standing node) id
        (some { connection.standing with position := .leaving .finished })
      else cluster.standing node := by
  have hnode : (connection.close.withStage .finished).node = connection.node := rfl
  exact standing_setConnection hconnection rfl hnode

theorem register_stepsTo {id : ConnId} {connection : Connection Bytes}
    (hconnection : cluster.connections id = some connection)
    (hstage : connection.stage = .connecting) (subscribed : Bool) (now : Instant) :
    cluster.StepsTo node (cluster.register codec id connection subscribed now) := by
  have hposition : connection.standing.position = .connecting := by
    rw [Connection.standing, hstage]
    rfl
  -- both publish that the client is there
  have hserving : ∀ position : Position, position = Continuation.acknowledge.position ∨
      position = Continuation.acknowledge.proceeds → position = .serving := by
    rintro position (rfl | rfl) <;> rfl
  unfold register
  dsimp only
  split
  next room hroom =>
    obtain ⟨position, hfound, hstanding⟩ := standing_publish codec
      (cluster.setRoom connection.node connection.client.documentId
        (some { room with clients := insert id room.clients }))
      { connection with subscription := some room.sub } hconnection rfl rfl rfl
      (connection.client.participantEnvelope .participantJoined "participant joined" now)
      .acknowledge
    rw [hserving position hfound] at hstanding
    unfold StepsTo
    rw [hstanding]
    change NodeSteps _ _ _ _ ((cluster.setRoom _ _ _).rooms node) _
    rw [rooms_setRoom]
    split
    next hhere =>
      subst hhere
      exact .join id connection.standing (standing_here hconnection rfl) hposition room hroom
    next => exact .other _ le_rfl
  next hnone =>
    split
    next =>
      obtain ⟨position, hfound, hstanding⟩ := standing_publish codec
        ((cluster.subscribe connection.node connection.client.documentId).setRoom
          connection.node connection.client.documentId
          (some { clients := insert id ∅, sub := cluster.nextSubscription }))
        { connection with subscription := some cluster.nextSubscription } hconnection rfl rfl rfl
        (connection.client.participantEnvelope .participantJoined "participant joined" now)
        .acknowledge
      rw [hserving position hfound] at hstanding
      unfold StepsTo
      rw [hstanding]
      change NodeSteps _ _ _ _ (((cluster.subscribe _ _).setRoom _ _ _).rooms node) _
      rw [rooms_setRoom]
      split
      next hhere =>
        subst hhere
        exact .create id connection.standing (standing_here hconnection rfl) hposition hnone
      next => exact .other _ (Nat.le_succ _)
    next =>
      by_cases hhere : connection.node = node
      · subst hhere
        unfold StepsTo
        rw [standing_finish hconnection, if_pos rfl]
        exact .refuse id connection.standing (standing_here hconnection rfl) hposition hnone
      · refine .of_same ?_ rfl le_rfl
        rw [standing_finish hconnection, if_neg hhere]

theorem leave_stepsTo {id : ConnId} {connection : Connection Bytes}
    (hconnection : cluster.connections id = some connection)
    (hstage : connection.stage = .unregistering) (now : Instant) :
    cluster.StepsTo node (cluster.leave codec id connection now) := by
  have hposition : connection.standing.position = .leaving .removing := by
    rw [Connection.standing, hstage]
    rfl
  unfold leave
  dsimp only
  split
  next hnone =>
    by_cases hhere : connection.node = node
    · subst hhere
      unfold StepsTo
      rw [standing_finish hconnection, if_pos rfl]
      exact .missing id connection.standing (standing_here hconnection rfl) hposition hnone
    · refine .of_same ?_ rfl le_rfl
      rw [standing_finish hconnection, if_neg hhere]
  next room hroom =>
    let subscription := if room.clients.erase id = ∅ then some room.sub else none
    obtain ⟨position, hfound, hstanding⟩ := standing_publish codec
      (cluster.setRoom connection.node connection.client.documentId
        (if room.clients.erase id = ∅ then none
          else some { room with clients := room.clients.erase id }))
      connection hconnection rfl rfl rfl
      (connection.client.participantEnvelope .participantLeft "participant left" now)
      (.close subscription)
    unfold StepsTo
    rw [hstanding]
    change NodeSteps _ _ _ _ ((cluster.setRoom _ _ _).rooms node) _
    rw [rooms_setRoom]
    split
    next hhere =>
      subst hhere
      have hstage : ∃ stage, position = .leaving stage ∧
          (stage = .notifying subscription ∨ stage = .closing subscription) := by
        rcases hfound with rfl | rfl
        · exact ⟨_, rfl, .inl rfl⟩
        · exact ⟨_, rfl, .inr rfl⟩
      obtain ⟨stage, rfl, hstage⟩ := hstage
      exact .leave id connection.standing (standing_here hconnection rfl) hposition room hroom stage
        hstage
    next => exact .other _ le_rfl

/-- The rooms depend on nothing that the step has changed. -/
structure Keeps (node : NodeId) (before after : Cluster Bytes) : Prop where
  standing : after.standing node = before.standing node
  rooms : after.rooms = before.rooms
  nextSubscription : after.nextSubscription = before.nextSubscription
  connection : ∀ id old, before.connections id = some old → ∃ new,
    after.connections id = some new ∧ new.node = old.node ∧ new.standing = old.standing

theorem Keeps.refl (cluster : Cluster Bytes) : cluster.Keeps node cluster :=
  ⟨rfl, rfl, rfl, fun _ old hold => ⟨old, hold, rfl, rfl⟩⟩

theorem Keeps.modifyConnection {id : ConnId} {change : Connection Bytes → Connection Bytes}
    (hsame : ∀ connection, (change connection).node = connection.node ∧
      (change connection).standing = connection.standing) :
    cluster.Keeps node (cluster.modifyConnection id change) := by
  unfold Cluster.modifyConnection
  split
  next => exact .refl cluster
  next connection hconnection =>
    obtain ⟨hnode, hstanding⟩ := hsame connection
    refine ⟨standing_same hconnection rfl hnode hstanding, rfl, rfl, fun other old hold => ?_⟩
    by_cases heq : other = id
    · subst heq
      cases hconnection.symm.trans hold
      exact ⟨change connection, Function.update_self .., hnode, hstanding⟩
    · exact ⟨old, (Function.update_of_ne heq ..).trans hold, rfl, rfl⟩

theorem Keeps.stepsTo {between after : Cluster Bytes} (hkeeps : cluster.Keeps node between)
    (hstep : between.StepsTo node after) : cluster.StepsTo node after := by
  unfold StepsTo at hstep ⊢
  rwa [hkeeps.standing, hkeeps.rooms, hkeeps.nextSubscription] at hstep

theorem keeps_advanceBroadcast {place : NodeId} {documentId : DocumentId}
    {message : Message Bytes} {choice : ConnId} {progress : Progress} {after : Cluster Bytes}
    {result : Option Progress}
    (hadvance : cluster.advanceBroadcast place documentId message choice progress =
      some (after, result)) : cluster.Keeps node after := by
  cases advanceBroadcast_cases cluster hadvance with
  | absent | found | done => exact .refl cluster
  | offer => exact .modifyConnection fun connection => connection.offer_standing message
  | drop => exact .modifyConnection fun connection => ⟨rfl, rfl⟩

/-- A broadcast goes on, or its publication does. -/
theorem afterBroadcast_stepsTo {id : ConnId} {connection : Connection Bytes}
    (hconnection : cluster.connections id = some connection) {publication : Publication Bytes}
    {next : Continuation} (hposition : connection.stage.position = next.position)
    (result : Option Progress) :
    cluster.StepsTo node
      (cluster.modifyConnection id (·.afterBroadcast codec publication next result)) := by
  have hstill : ∀ stage : Stage Bytes, stage.position = next.position →
      cluster.StepsTo node (cluster.setConnection id (connection.withStage stage)) := by
    intro stage hstage
    refine .move hconnection rfl rfl rfl rfl (.inl ?_)
    change ({ connection.standing with position := stage.position } : Standing) = _
    rw [hstage, ← hposition]
    rfl
  unfold Cluster.modifyConnection
  rw [hconnection]
  dsimp only
  cases result with
  | some progress => exact hstill (.broadcasting publication progress next) rfl
  | none =>
      unfold Connection.afterBroadcast
      dsimp only
      split
      next payload _ => exact hstill (.publishing publication.tag payload next) rfl
      next => exact .proceed hconnection rfl rfl rfl hposition true

theorem run_stepsTo {id : ConnId} {connection : Connection Bytes}
    (hconnection : cluster.connections id = some connection) {choice : ConnId} {accepted : Bool}
    {now : Instant} {after : Cluster Bytes}
    (hrun : cluster.run codec id connection choice accepted now = some after) :
    cluster.StepsTo node after := by
  -- after the section under the mutex
  have hcontinue : ∀ {between : Cluster Bytes} {new : Connection Bytes} {before later},
      between.connections = cluster.connections → between.rooms = cluster.rooms →
      between.nextSubscription = cluster.nextSubscription → new.node = connection.node →
      connection.stage.position = .leaving before → Continues before later →
      new.standing = { connection.standing with position := .leaving later } →
      cluster.StepsTo node (between.setConnection id new) :=
    fun hconnections hrooms hnext hnode hposition hcontinues hstanding =>
      .move hconnection hconnections hrooms hnext hnode
        (.inr ⟨_, _, hposition, hcontinues, hstanding⟩)
  cases run_cases codec cluster hrun with
  | broadcast publication progress next moved result hstage hadvance =>
      have hkeeps : cluster.Keeps node moved := keeps_advanceBroadcast hadvance
      obtain ⟨new, hnew, -, hstanding⟩ := hkeeps.connection id connection hconnection
      refine hkeeps.stepsTo (afterBroadcast_stepsTo hnew ?_ result)
      have hposition : new.stage.position = connection.stage.position :=
        congrArg Standing.position hstanding
      rw [hposition, hstage]
      rfl
  | accept tag payload next hstage =>
      exact .proceed hconnection rfl rfl rfl (by rw [hstage]; rfl) false
  | refuse tag payload next hstage =>
      exact .proceed hconnection rfl rfl rfl (by rw [hstage]; rfl) true
  | acknowledge hstage =>
      obtain ⟨hnode, hstanding⟩ :=
        connection.sendEnvelope_standing codec connection.client.ackEnvelope
      refine .move hconnection rfl rfl rfl hnode (.inl ?_)
      have hserving : connection.stage.position = .serving := by rw [hstage]; rfl
      rw [← hstanding]
      change ({ (connection.sendEnvelope codec connection.client.ackEnvelope).standing with
        position := Position.serving } : Standing) = _
      rw [hstanding, ← hserving]
      rfl
  | unregister hstage => exact leave_stepsTo hconnection hstage now
  | close hstage =>
      exact hcontinue rfl rfl rfl rfl (by rw [hstage]; rfl) .closed rfl
  | closeEmptied subscription hstage =>
      exact hcontinue rfl rfl rfl rfl (by rw [hstage]; rfl) (.closedEmptied subscription) rfl
  | closeSubscription subscription hstage =>
      refine hcontinue (cluster.closeSubscription_connections subscription) ?_ ?_ rfl
        (by rw [hstage]; rfl) (.closedSubscription subscription) rfl
      · unfold Cluster.closeSubscription
        split <;> rfl
      · unfold Cluster.closeSubscription
        split <;> rfl

theorem connect_stepsTo {id : ConnId} (hnone : cluster.connections id = none) (place : NodeId)
    (client : Client) : cluster.StepsTo node (cluster.setConnection id (.fresh place client)) := by
  have hnobody : cluster.standing node id = none := by simp [standing, hnone]
  have hstanding : (cluster.setConnection id (.fresh place client)).standing node =
      if place = node then
        Function.update (cluster.standing node) id (some ⟨client, .connecting, false⟩)
      else cluster.standing node := by
    funext other
    by_cases heq : other = id
    · subst heq
      by_cases hhere : place = node
      · simp [standing, setConnection, Connection.fresh, Connection.standing, Stage.position, hhere]
      · simp [standing, setConnection, Connection.fresh, hnone, hhere]
    · by_cases hhere : place = node
      · simp [standing, setConnection, heq, hhere]
      · simp [standing, setConnection, heq, hhere]
  by_cases hhere : place = node
  · unfold StepsTo
    rw [hstanding, if_pos hhere]
    exact .connect id client hnobody
  · refine .of_same ?_ rfl le_rfl
    rw [hstanding, if_neg hhere]

theorem readFrame_stepsTo {id : ConnId} {connection : Connection Bytes}
    (hconnection : cluster.connections id = some connection)
    (hstage : connection.stage = .reading) (frame : Bytes) (now : Instant) :
    cluster.StepsTo node (cluster.readFrame codec id connection frame now) := by
  unfold readFrame
  split
  next code message _ =>
    obtain ⟨hnode, hstanding⟩ :=
      connection.sendEnvelope_standing codec (Client.errorEnvelope code message)
    exact .move hconnection rfl rfl rfl hnode (.inl hstanding)
  next envelope _ =>
    have hserving : connection.standing =
        { connection.standing with position := Position.serving } := by
      have hposition : connection.stage.position = .serving := by rw [hstage]; rfl
      rw [← hposition]
      rfl
    obtain ⟨hnode, hstanding | hstanding⟩ :=
      connection.publish_standing codec id (connection.client.stamp envelope now) .read
    · exact .move hconnection rfl rfl rfl hnode (.inl (hstanding.trans hserving.symm))
    · exact .move hconnection rfl rfl rfl hnode (.inl (hstanding.trans hserving.symm))

theorem disconnect_stepsTo {id : ConnId} {connection : Connection Bytes}
    (hconnection : cluster.connections id = some connection)
    (hstage : connection.stage = .reading) :
    cluster.StepsTo node (cluster.setConnection id <|
      if connection.unregistered then connection.withStage .finished
      else { connection with unregistered := true, stage := .unregistering }) := by
  have hposition : connection.standing.position = .serving := by
    rw [Connection.standing, hstage]
    rfl
  have hnode : (if connection.unregistered then connection.withStage .finished
      else { connection with unregistered := true, stage := .unregistering }).node =
        connection.node := by
    split <;> rfl
  have hstanding : (if connection.unregistered then connection.withStage .finished
      else { connection with unregistered := true, stage := .unregistering }).standing =
        { connection.standing with
          position := .leaving (if connection.unregistered then .finished else .removing)
          unregistered := true } := by
    cases hfound : connection.unregistered with
    | true => simp [Connection.standing, Connection.withStage, Stage.position, hfound]
    | false => simp [Connection.standing, Stage.position]
  by_cases hhere : connection.node = node
  · unfold StepsTo
    rw [standing_setConnection hconnection rfl hnode, if_pos hhere, hstanding]
    exact .disconnect id connection.standing (standing_here hconnection hhere) hposition
  · refine .of_same ?_ rfl le_rfl
    rw [standing_setConnection hconnection rfl hnode, if_neg hhere]

/-- Every step of the cluster is a step of the rooms of each node. -/
theorem step_stepsTo {event : Event Bytes} {after : Cluster Bytes}
    (hstep : step codec cluster event = some after) (node : NodeId) :
    cluster.StepsTo node after := by
  cases step_cases codec cluster hstep with
  | connect id place client hnone => exact connect_stepsTo hnone place client
  | register id subscribed now connection hconnection hstage =>
      exact register_stepsTo hconnection hstage subscribed now
  | frame id bytes now connection hconnection hstage =>
      exact readFrame_stepsTo hconnection hstage bytes now
  | disconnect id connection hconnection hstage => exact disconnect_stepsTo hconnection hstage
  | run id choice accepted now connection _ hconnection hrun => exact run_stepsTo hconnection hrun
  | write id connection message rest hconnection =>
      exact .move hconnection rfl rfl rfl rfl (.inl rfl)
  | stopWriting id connection hconnection =>
      exact .move hconnection rfl rfl rfl rfl (.inl rfl)
  | deliver id choice subscription message progress moved result _ _ hadvance =>
      have hkeeps : cluster.Keeps node moved := keeps_advanceBroadcast hadvance
      exact .of_same hkeeps.standing (congrFun hkeeps.rooms node) hkeeps.nextSubscription.ge
  | forward | stop | receive | exit => exact .of_same rfl rfl le_rfl

end Cluster

/-! ## The hub of the node -/

/-- The stage of the call, by the numbers of the hub. -/
def UnregisterStage.rename (number : SubId → SubId) : UnregisterStage → UnregisterStage
  | .marking => .marking
  | .removing => .removing
  | .missing => .missing
  | .notifying subscription => .notifying (subscription.map number)
  | .closing subscription => .closing (subscription.map number)
  | .closingSubscription subscription => .closingSubscription (number subscription)
  | .finished => .finished

theorem UnregisterStage.holds_rename (number : SubId → SubId) (stage : UnregisterStage) :
    (stage.rename number).holds = stage.holds.map number := by
  cases stage <;> rfl

theorem UnregisterStage.rename_congr {first second : SubId → SubId} {stage : UnregisterStage}
    (hsame : ∀ subscription, stage.holds = some subscription →
      first subscription = second subscription) : stage.rename first = stage.rename second := by
  cases stage with
  | notifying subscription | closing subscription =>
      cases subscription with
      | none => rfl
      | some subscription => simp only [rename, Option.map_some, hsame subscription rfl]
  | closingSubscription subscription => simp only [rename, hsame subscription rfl]
  | marking | removing | missing | finished => rfl

def Room.rename (number : SubId → SubId) (room : Room) : Room :=
  { room with sub := number room.sub }

/-- A client of the hub with its call of `Unregister`, and a goroutine of the node. -/
inductive Stands (number : SubId → SubId) (id : ConnId) (standing : Standing) (member : Member) :
    Option UnregisterCall → Prop
  | connecting (hposition : standing.position = .connecting)
      (hopen : standing.unregistered = false) (hcreated : member.registration = .created)
      (hmarked : member.marked = none) : Stands number id standing member none
  | refused (hposition : standing.position = .leaving .finished)
      (hfailed : member.registration = .failed) : Stands number id standing member none
  | serving (hposition : standing.position = .serving) (hopen : standing.unregistered = false)
      (hregistered : member.registration = .registered) (hmarked : member.marked = none) :
      Stands number id standing member none
  | leaving (stage : UnregisterStage) (hposition : standing.position = .leaving stage)
      (hregistered : member.registration = .registered) :
      Stands number id standing member (some ⟨id, stage.rename number⟩)

/-- The hub has the clients and the rooms of the node, and a call of `Unregister` for each
connection. Only the subscriptions have other numbers. -/
structure Mirrors (number : SubId → SubId) (hub : RoomHub) : Prop where
  absent : ∀ id, standing id = none → hub.members id = none ∧ hub.calls id = none
  client : ∀ id found, standing id = some found → ∃ member, hub.members id = some member ∧
    member.client = found.client ∧ Stands number id found member (hub.calls id)
  room : ∀ documentId, hub.rooms documentId = (rooms documentId).map (Room.rename number)
  bound : ∀ subscription ∈ Uses standing rooms, subscription < next
  distinct : Set.InjOn number (Uses standing rooms)

variable {standing rooms next} {number : SubId → SubId} {hub : RoomHub}

theorem Stands.rename {id : ConnId} {found : Standing} {member : Member}
    {call : Option UnregisterCall} (h : Stands number id found member call)
    {other : SubId → SubId} (hsame : ∀ subscription, found.position.holds = some subscription →
      number subscription = other subscription) : Stands other id found member call := by
  cases h with
  | connecting hposition hopen hcreated hmarked =>
      exact .connecting hposition hopen hcreated hmarked
  | refused hposition hfailed => exact .refused hposition hfailed
  | serving hposition hopen hregistered hmarked =>
      exact .serving hposition hopen hregistered hmarked
  | leaving stage hposition hregistered =>
      rw [hposition] at hsame
      rw [UnregisterStage.rename_congr hsame]
      exact .leaving stage hposition hregistered

/-- The call of the hub has the subscription that the goroutine has. -/
theorem Mirrors.call_holds (h : Mirrors standing rooms next number hub) {id : ConnId}
    {found : Standing} (hfound : standing id = some found) {subscription : SubId}
    (hholds : found.position.holds = some subscription) :
    ∃ state, hub.calls id = some state ∧ state.stage.holds = some (number subscription) := by
  obtain ⟨member, -, -, hstands⟩ := h.client id found hfound
  generalize hub.calls id = call at hstands ⊢
  cases hstands with
  | connecting hposition | refused hposition | serving hposition =>
      rw [hposition] at hholds
      cases hholds
  | leaving stage hposition =>
      rw [hposition] at hholds
      refine ⟨_, rfl, ?_⟩
      rw [UnregisterStage.holds_rename]
      exact congrArg (Option.map number) hholds

/-- What a room or a goroutine of the node has, a room or a call of the hub owns. -/
theorem Mirrors.lives (h : Mirrors standing rooms next number hub) (hsound : hub.Sound)
    {subscription : SubId} (huses : subscription ∈ Uses standing rooms) :
    number subscription ∈ hub.subscriptions := by
  rcases huses with ⟨documentId, room, hroom, rfl⟩ | ⟨id, found, hfound, hholds⟩
  · refine hsound.owners.lives (.inl documentId) _ ⟨room.rename number, ?_, rfl⟩
    rw [h.room, hroom]
    rfl
  · exact hsound.owners.lives (.inr id) _ (h.call_holds hfound hholds)

variable (rooms) in
/-- What is used after a goroutine has moved. -/
theorem uses_update {id : ConnId} {new : Standing} {later : DocumentId → Option Room}
    {subscription : SubId}
    (huses : subscription ∈ Uses (Function.update standing id (some new)) later) :
    (∃ documentId room, later documentId = some room ∧ room.sub = subscription) ∨
      new.position.holds = some subscription ∨ subscription ∈ Uses standing rooms := by
  rcases huses with hroom | ⟨other, found, hfound, hholds⟩
  · exact .inl hroom
  · by_cases heq : other = id
    · rw [heq, Function.update_self, Option.some.injEq] at hfound
      exact .inr (.inl (hfound ▸ hholds))
    · rw [Function.update_of_ne heq] at hfound
      exact .inr (.inr (.inr ⟨other, found, hfound, hholds⟩))

/-- The hub does what the node does. -/
theorem Mirrors.update (h : Mirrors standing rooms next number hub) {id : ConnId} {new : Standing}
    {after : RoomHub} {later : DocumentId → Option Room} {renumber : SubId → SubId}
    {following : SubId}
    (hothers : ∀ other ≠ id, after.members other = hub.members other ∧
      after.calls other = hub.calls other)
    (hself : ∃ member, after.members id = some member ∧ member.client = new.client ∧
      Stands renumber id new member (after.calls id))
    (hrooms : ∀ documentId, after.rooms documentId =
      (later documentId).map (Room.rename renumber))
    (hsame : ∀ subscription ∈ Uses standing rooms, number subscription = renumber subscription)
    (hbound : ∀ subscription ∈ Uses (Function.update standing id (some new)) later,
      subscription < following)
    (hdistinct : Set.InjOn renumber (Uses (Function.update standing id (some new)) later)) :
    Mirrors (Function.update standing id (some new)) later following renumber after where
  absent other hnone := by
    by_cases heq : other = id
    · rw [heq, Function.update_self] at hnone
      cases hnone
    · rw [Function.update_of_ne heq] at hnone
      obtain ⟨hmember, hcall⟩ := h.absent other hnone
      exact ⟨(hothers other heq).1.trans hmember, (hothers other heq).2.trans hcall⟩
  client other found hfound := by
    by_cases heq : other = id
    · rw [heq, Function.update_self, Option.some.injEq] at hfound
      rw [heq, ← hfound]
      exact hself
    · rw [Function.update_of_ne heq] at hfound
      obtain ⟨member, hmember, hclient, hstands⟩ := h.client other found hfound
      refine ⟨member, (hothers other heq).1.trans hmember, hclient, ?_⟩
      rw [(hothers other heq).2]
      exact hstands.rename fun subscription hholds =>
        hsame subscription (.inr ⟨other, found, hfound, hholds⟩)
  room := hrooms
  bound := hbound
  distinct := hdistinct

/-- No subscription is new. -/
theorem Mirrors.move (h : Mirrors standing rooms next number hub) {id : ConnId} {new : Standing}
    {after : RoomHub} {later : DocumentId → Option Room}
    (hothers : ∀ other ≠ id, after.members other = hub.members other ∧
      after.calls other = hub.calls other)
    (hself : ∃ member, after.members id = some member ∧ member.client = new.client ∧
      Stands number id new member (after.calls id))
    (hrooms : ∀ documentId, after.rooms documentId = (later documentId).map (Room.rename number))
    (hkept : ∀ documentId room, later documentId = some room →
      room.sub ∈ Uses standing rooms)
    (hholds : ∀ subscription, new.position.holds = some subscription →
      subscription ∈ Uses standing rooms) :
    Mirrors (Function.update standing id (some new)) later next number after := by
  have hsubset : Uses (Function.update standing id (some new)) later ⊆ Uses standing rooms := by
    intro subscription huses
    rcases uses_update rooms huses with ⟨documentId, room, hroom, rfl⟩ | hnew | hold
    · exact hkept documentId room hroom
    · exact hholds subscription hnew
    · exact hold
  exact h.update hothers hself hrooms (fun _ _ => rfl)
    (fun subscription huses => h.bound subscription (hsubset huses)) (h.distinct.mono hsubset)

theorem Mirrors.uses_room (documentId : DocumentId) (room : Room)
    (hroom : rooms documentId = some room) : room.sub ∈ Uses standing rooms :=
  .inl ⟨documentId, room, hroom, rfl⟩

theorem Mirrors.uses_row {target : DocumentId} {row : Option Room}
    (hrow : ∀ room, row = some room → room.sub ∈ Uses standing rooms) (documentId : DocumentId)
    (room : Room) (hroom : Function.update rooms target row documentId = some room) :
    room.sub ∈ Uses standing rooms := by
  by_cases heq : documentId = target
  · rw [heq, Function.update_self] at hroom
    exact hrow room hroom
  · rw [Function.update_of_ne heq] at hroom
    exact uses_room documentId room hroom

/-- Both sides write or delete the room. -/
theorem rename_update {hubRooms : DocumentId → Option Room}
    (hsame : ∀ documentId, hubRooms documentId = (rooms documentId).map (Room.rename number))
    (target : DocumentId) (row : Option Room) (documentId : DocumentId) :
    Function.update hubRooms target (row.map (Room.rename number)) documentId =
      (Function.update rooms target row documentId).map (Room.rename number) := by
  by_cases heq : documentId = target
  · rw [heq, Function.update_self, Function.update_self]
  · rw [Function.update_of_ne heq, Function.update_of_ne heq]
    exact hsame documentId

/-! ### Each step -/

namespace Mirrors

open RoomHub

theorem connect (h : Mirrors standing rooms next number hub)
    (hreach : RoomHub.system.Reachable hub) {id : ConnId} (hnone : standing id = none)
    (client : Client) : ∃ after, RoomHub.system.Reachable after ∧
      Mirrors (Function.update standing id (some ⟨client, .connecting, false⟩)) rooms next number
        after := by
  obtain ⟨hnobody, hidle⟩ := h.absent id hnone
  let member : Member :=
    { client := client, registration := .created, marked := none, removed := false
      done := false, left := 0 }
  have hstep : RoomHub.system.step hub (.create id client) = some (hub.setMember id member) := by
    simp [RoomHub.system, RoomHub.step, hnobody, member]
  refine ⟨hub.setMember id member, hreach.step trivial hstep, ?_⟩
  refine h.move (fun other hne => ⟨setMember_members_of_ne hne member, rfl⟩)
    ⟨member, setMember_members_self .., rfl, ?_⟩ h.room uses_room fun _ hholds => by cases hholds
  change Stands number id _ member (hub.calls id)
  rw [hidle]
  exact .connecting rfl rfl rfl rfl

/-- A client that has not been registered. -/
theorem created (h : Mirrors standing rooms next number hub) {id : ConnId} {old : Standing}
    (hold : standing id = some old) (hposition : old.position = .connecting) :
    ∃ member, hub.members id = some member ∧ member.client = old.client ∧
      member.registration = .created ∧ member.marked = none ∧ hub.calls id = none ∧
        old.unregistered = false := by
  obtain ⟨member, hmember, hclient, hstands⟩ := h.client id old hold
  refine ⟨member, hmember, hclient, ?_⟩
  generalize hub.calls id = call at hstands ⊢
  cases hstands with
  | connecting _ hopen hcreated hmarked => exact ⟨hcreated, hmarked, rfl, hopen⟩
  | refused hother | serving hother | leaving stage hother =>
      rw [hposition] at hother
      cases hother

theorem step_register {id : ConnId} {member : Member} (hmember : hub.members id = some member)
    (hcreated : member.registration = .created) (subscribed : Bool) :
    RoomHub.system.step hub (.register id subscribed) =
      some (hub.register id member subscribed) := by
  simp [RoomHub.system, RoomHub.step, hmember, hcreated]

theorem join (h : Mirrors standing rooms next number hub)
    (hreach : RoomHub.system.Reachable hub) {id : ConnId} {old : Standing}
    (hold : standing id = some old) (hposition : old.position = .connecting) {room : Room}
    (hroom : rooms old.client.documentId = some room) : ∃ after, RoomHub.system.Reachable after ∧
      Mirrors (Function.update standing id (some { old with position := .serving }))
        (Function.update rooms old.client.documentId
          (some { room with clients := insert id room.clients })) next number after := by
  obtain ⟨member, hmember, hclient, hcreated, hmarked, hidle, hopen⟩ := h.created hold hposition
  have hfound : hub.rooms member.client.documentId = some (room.rename number) := by
    rw [h.room, hclient, hroom]
    rfl
  refine ⟨_, hreach.step trivial (step_register hmember hcreated true), ?_⟩
  simp only [RoomHub.register, hfound]
  refine h.move (fun other hne => ⟨setMember_members_of_ne hne _, rfl⟩)
    ⟨_, setMember_members_self .., hclient, ?_⟩ ?_ (uses_row fun found hwritten => ?_)
    fun _ hholds => by cases hholds
  · change Stands number id _ _ (hub.calls id)
    rw [hidle]
    exact .serving rfl hopen rfl hmarked
  · rw [← hclient]
    exact rename_update h.room _ (some { room with clients := insert id room.clients })
  · cases hwritten
    exact uses_room _ room hroom

theorem refuse (h : Mirrors standing rooms next number hub)
    (hreach : RoomHub.system.Reachable hub) {id : ConnId} {old : Standing}
    (hold : standing id = some old) (hposition : old.position = .connecting)
    (hroom : rooms old.client.documentId = none) : ∃ after, RoomHub.system.Reachable after ∧
      Mirrors (Function.update standing id (some { old with position := .leaving .finished }))
        rooms next number after := by
  obtain ⟨member, hmember, hclient, hcreated, -, hidle, -⟩ := h.created hold hposition
  have hfound : hub.rooms member.client.documentId = none := by
    rw [h.room, hclient, hroom]
    rfl
  refine ⟨_, hreach.step trivial (step_register hmember hcreated false), ?_⟩
  simp only [RoomHub.register, hfound, Bool.false_eq_true, if_false]
  refine h.move (fun other hne => ⟨setMember_members_of_ne hne _, rfl⟩)
    ⟨_, setMember_members_self .., hclient, ?_⟩ h.room uses_room fun _ hholds => by cases hholds
  change Stands number id _ _ (hub.calls id)
  rw [hidle]
  exact .refused rfl rfl

/-- A subscription is opened on both sides. -/
theorem create (h : Mirrors standing rooms next number hub)
    (hreach : RoomHub.system.Reachable hub) {id : ConnId} {old : Standing}
    (hold : standing id = some old) (hposition : old.position = .connecting)
    (hroom : rooms old.client.documentId = none) :
    ∃ renumber after, RoomHub.system.Reachable after ∧
      Mirrors (Function.update standing id (some { old with position := .serving }))
        (Function.update rooms old.client.documentId (some { clients := {id}, sub := next }))
        (next + 1) renumber after := by
  obtain ⟨member, hmember, hclient, hcreated, hmarked, hidle, hopen⟩ := h.created hold hposition
  have hfound : hub.rooms member.client.documentId = none := by
    rw [h.room, hclient, hroom]
    rfl
  let renumber := Function.update number next hub.nextSubscription
  have hrenumber : ∀ subscription ∈ Uses standing rooms,
      number subscription = renumber subscription := fun subscription huses =>
    (Function.update_of_ne (h.bound subscription huses).ne _ _).symm
  have huses : ∀ subscription ∈ Uses
      (Function.update standing id (some { old with position := .serving }))
      (Function.update rooms old.client.documentId (some { clients := {id}, sub := next })),
      subscription = next ∨ subscription ∈ Uses standing rooms := by
    intro subscription huses
    rcases uses_update rooms huses with ⟨documentId, room, hfound, rfl⟩ | hnew | hold
    · by_cases heq : documentId = old.client.documentId
      · rw [heq, Function.update_self] at hfound
        cases hfound
        exact .inl rfl
      · rw [Function.update_of_ne heq] at hfound
        exact .inr (uses_room documentId room hfound)
    · cases hnew
    · exact .inr hold
  have hfresh : ∀ subscription ∈ Uses standing rooms,
      renumber subscription ≠ hub.nextSubscription := by
    intro subscription huses
    rw [← hrenumber subscription huses]
    exact ((reachable_sound hreach).bound _ (h.lives (reachable_sound hreach) huses)).ne
  have hnext : renumber next = hub.nextSubscription := Function.update_self ..
  refine ⟨renumber, _, hreach.step trivial (step_register hmember hcreated true), ?_⟩
  simp only [RoomHub.register, hfound, if_true]
  refine h.update (fun other hne => ⟨setMember_members_of_ne hne _, rfl⟩)
    ⟨_, setMember_members_self .., hclient, ?_⟩ (fun documentId => ?_) hrenumber
    (fun subscription hlater => ?_) fun first hfirst second hsecond hsame => ?_
  · change Stands renumber id _ _ (hub.calls id)
    rw [hidle]
    exact .serving rfl hopen rfl hmarked
  · have hsame : ∀ documentId,
        hub.rooms documentId = (rooms documentId).map (Room.rename renumber) := by
      intro documentId
      rw [h.room]
      refine Option.map_congr fun room hroom => ?_
      rw [Room.rename, Room.rename, hrenumber _ (uses_room documentId room hroom)]
    rw [← hclient, ← hnext]
    exact rename_update hsame _ (some { clients := {id}, sub := next }) documentId
  · rcases huses subscription hlater with rfl | hold
    · exact Nat.lt_succ_self _
    · exact (h.bound subscription hold).trans (Nat.lt_succ_self _)
  · rcases huses first hfirst with hnew | hkept
    · rcases huses second hsecond with hother | hother
      · exact hnew.trans hother.symm
      · rw [hnew] at hsame
        exact absurd (hsame.symm.trans hnext) (hfresh second hother)
    · rcases huses second hsecond with hother | hother
      · rw [hother] at hsame
        exact absurd (hsame.trans hnext) (hfresh first hkept)
      · rw [← hrenumber first hkept, ← hrenumber second hother] at hsame
        exact h.distinct hkept hother hsame

/-- `Unregister` is called, and its client marked. -/
theorem disconnect (h : Mirrors standing rooms next number hub)
    (hreach : RoomHub.system.Reachable hub) {id : ConnId} {old : Standing}
    (hold : standing id = some old) (hposition : old.position = .serving) :
    ∃ after, RoomHub.system.Reachable after ∧
      Mirrors (Function.update standing id (some { old with
        position := .leaving (if old.unregistered then .finished else .removing)
        unregistered := true })) rooms next number after := by
  obtain ⟨member, hmember, hclient, hstands⟩ := h.client id old hold
  generalize hidle : hub.calls id = call at hstands
  cases hstands with
  | connecting hother | refused hother | leaving stage hother =>
      rw [hposition] at hother
      cases hother
  | serving _ hopen hregistered hmarked =>
      let called := hub.setCall id ⟨id, .marking⟩
      let marked := (called.setMember id { member with marked := some id }).setCall id
        ⟨id, .removing⟩
      have hcalled : RoomHub.system.step hub (.unregister id id) = some called := by
        simp [RoomHub.system, RoomHub.step, hmember, hregistered, hidle, called]
      have hmarks : RoomHub.system.step called (.run id) = some marked := by
        simp [RoomHub.system, RoomHub.step, RoomHub.run, called, marked, RoomHub.setCall, hmember,
          hmarked]
      refine ⟨marked, (hreach.step trivial hcalled).step trivial hmarks, ?_⟩
      rw [hopen, if_neg Bool.false_ne_true]
      refine h.move (fun other hne => ⟨?_, ?_⟩)
        ⟨{ member with marked := some id }, ?_, hclient, ?_⟩ h.room uses_room
        fun _ hholds => by cases hholds
      · exact setMember_members_of_ne hne _
      · simp [marked, called, RoomHub.setCall, RoomHub.setMember, hne]
      · exact setMember_members_self ..
      · have hcall : marked.calls id = some ⟨id, .removing⟩ := by simp [marked, RoomHub.setCall]
        rw [hcall]
        exact .leaving .removing rfl hregistered

/-- A client whose call of `Unregister` is under way. -/
theorem leaver (h : Mirrors standing rooms next number hub) {id : ConnId} {old : Standing}
    (hold : standing id = some old) {stage : UnregisterStage}
    (hposition : old.position = .leaving stage) (hstage : stage ≠ .finished) :
    ∃ member, hub.members id = some member ∧ member.client = old.client ∧
      member.registration = .registered ∧ hub.calls id = some ⟨id, stage.rename number⟩ := by
  obtain ⟨member, hmember, hclient, hstands⟩ := h.client id old hold
  refine ⟨member, hmember, hclient, ?_⟩
  generalize hub.calls id = call at hstands ⊢
  cases hstands with
  | connecting hother | serving hother =>
      rw [hposition] at hother
      cases hother
  | refused hother =>
      rw [hposition, Position.leaving.injEq] at hother
      exact absurd hother hstage
  | leaving found hother hregistered =>
      rw [hposition, Position.leaving.injEq] at hother
      rw [hother]
      exact ⟨hregistered, rfl⟩

theorem step_run {id : ConnId} {member : Member} {stage : UnregisterStage}
    (hmember : hub.members id = some member) (hcall : hub.calls id = some ⟨id, stage⟩) :
    RoomHub.system.step hub (.run id) = hub.run id id member stage := by
  simp [RoomHub.system, RoomHub.step, hmember, hcall]

/-- The call goes on, which the rooms do not notice. -/
theorem proceed (h : Mirrors standing rooms next number hub)
    (hreach : RoomHub.system.Reachable hub) {id : ConnId} {old : Standing}
    (hold : standing id = some old) {before after : UnregisterStage}
    (hposition : old.position = .leaving before) (hcontinues : Continues before after) :
    ∃ later, RoomHub.system.Reachable later ∧
      Mirrors (Function.update standing id (some { old with position := .leaving after })) rooms
        next number later := by
  have hstage : before ≠ .finished := by cases hcontinues <;> exact UnregisterStage.noConfusion
  obtain ⟨member, hmember, hclient, hregistered, hcall⟩ := h.leaver hold hposition hstage
  have hstep := step_run hmember hcall
  -- what the call does to its client and to the subscriptions is not compared
  have hmoved : ∀ (moved : Member) (live : Finset SubId), moved.client = member.client →
      moved.registration = member.registration →
      (∀ subscription, after.holds = some subscription → before.holds = some subscription) →
      Mirrors (Function.update standing id (some { old with position := .leaving after })) rooms
        next number (({ hub with subscriptions := live }.setMember id moved).setCall id
          ⟨id, after.rename number⟩) := by
    intro moved live hmovedClient hmovedRegistration hholds
    refine h.move (fun other hne => ⟨setMember_members_of_ne hne moved, ?_⟩)
      ⟨moved, setMember_members_self .., hmovedClient.trans hclient, ?_⟩ h.room uses_room
      fun subscription hlater => .inr ⟨id, old, hold, ?_⟩
    · simp [RoomHub.setCall, RoomHub.setMember, hne]
    · have hfound : (({ hub with subscriptions := live }.setMember id moved).setCall id
          ⟨id, after.rename number⟩).calls id = some ⟨id, after.rename number⟩ := by
        simp [RoomHub.setCall]
      rw [hfound]
      exact .leaving after rfl (hmovedRegistration.trans hregistered)
    · rw [hposition]
      exact hholds subscription hlater
  cases hcontinues with
  | notified subscription =>
      exact ⟨_, hreach.step trivial hstep,
        hmoved { member with left := member.left + 1 } hub.subscriptions rfl rfl fun _ h => h⟩
  | closed =>
      exact ⟨_, hreach.step trivial hstep,
        hmoved { member with done := true } hub.subscriptions rfl rfl fun _ h => by cases h⟩
  | closedEmptied subscription =>
      exact ⟨_, hreach.step trivial hstep,
        hmoved { member with done := true } hub.subscriptions rfl rfl fun _ h => h⟩
  | closedSubscription subscription =>
      have hlater := hmoved member (hub.subscriptions.erase (number subscription)) rfl rfl
        fun _ h => by cases h
      have hsame : RoomHub.setMember { hub with
          subscriptions := hub.subscriptions.erase (number subscription) } id member = _ :=
        setMember_self hmember
      rw [hsame] at hlater
      exact ⟨_, hreach.step trivial hstep, hlater⟩

/-- The client is still in its room. -/
theorem not_missing (h : Mirrors standing rooms next number hub)
    (hreach : RoomHub.system.Reachable hub) {id : ConnId} {old : Standing}
    (hold : standing id = some old) (hposition : old.position = .leaving .removing) :
    rooms old.client.documentId ≠ none := by
  intro hnone
  obtain ⟨member, hmember, hclient, hregistered, hcall⟩ :=
    h.leaver hold hposition UnregisterStage.noConfusion
  have hsound := reachable_sound hreach
  obtain ⟨-, -, hpresent⟩ := hsound.caller hmember hcall
  obtain ⟨room, hroom, -⟩ := (hsound.present id old.client.documentId).mpr
    ⟨member, hmember, congrArg Client.documentId hclient, hregistered, hpresent⟩
  rw [h.room, hnone] at hroom
  cases hroom

/-- The client is out of its room, which may be gone. -/
theorem left (h : Mirrors standing rooms next number hub) {id : ConnId} {old : Standing}
    {member : Member} (hclient : member.client = old.client)
    (hregistered : member.registration = .registered) {room : Room}
    (hroom : rooms old.client.documentId = some room) {row : Option Room}
    {subscription : Option SubId} (hrow : ∀ found, row = some found → found.sub = room.sub)
    (hsubscription : ∀ found, subscription = some found → found = room.sub) :
    Mirrors (Function.update standing id (some { old with
        position := .leaving (.notifying subscription) }))
      (Function.update rooms old.client.documentId row) next number
      (((hub.setMember id { member with removed := true }).setRoom member.client.documentId
        (row.map (Room.rename number))).setCall id ⟨id, .notifying (subscription.map number)⟩) := by
  refine h.move (fun other hne => ⟨setMember_members_of_ne hne _, ?_⟩)
    ⟨_, setMember_members_self .., hclient, ?_⟩ ?_ (uses_row fun found hwritten => ?_)
    fun found hholds => ?_
  · simp [RoomHub.setCall, RoomHub.setRoom, RoomHub.setMember, hne]
  · simp only [RoomHub.setCall, Function.update_self]
    exact .leaving (.notifying subscription) rfl hregistered
  · rw [← hclient]
    exact rename_update h.room _ row
  · rw [hrow found hwritten]
    exact uses_room _ room hroom
  · rw [hsubscription found hholds]
    exact uses_room _ room hroom

theorem leave (h : Mirrors standing rooms next number hub)
    (hreach : RoomHub.system.Reachable hub) {id : ConnId} {old : Standing}
    (hold : standing id = some old) (hposition : old.position = .leaving .removing) {room : Room}
    (hroom : rooms old.client.documentId = some room) :
    ∃ after, RoomHub.system.Reachable after ∧
      Mirrors (Function.update standing id (some { old with
          position := .leaving
            (.notifying (if room.clients.erase id = ∅ then some room.sub else none)) }))
        (Function.update rooms old.client.documentId (if room.clients.erase id = ∅ then none
          else some { room with clients := room.clients.erase id })) next number after := by
  obtain ⟨member, hmember, hclient, hregistered, hcall⟩ :=
    h.leaver hold hposition UnregisterStage.noConfusion
  have hfound : hub.rooms member.client.documentId = some (room.rename number) := by
    rw [h.room, hclient, hroom]
    rfl
  have hstep := step_run hmember hcall
  change _ = some (hub.remove id id member) at hstep
  refine ⟨_, hreach.step trivial hstep, ?_⟩
  have hclients : (room.rename number).clients = room.clients := rfl
  simp only [RoomHub.remove, hfound, hclients]
  -- the room goes on both sides or on none
  split
  next =>
    exact h.left hclient hregistered hroom (fun _ hnone => by cases hnone)
      fun _ hsub => (Option.some.inj hsub).symm
  next =>
    exact h.left hclient hregistered hroom (fun _ hsome => by cases hsome; rfl)
      fun _ hnone => by cases hnone

/-- The hub follows every step of the node. -/
theorem step (h : Mirrors standing rooms next number hub)
    (hreach : RoomHub.system.Reachable hub) {moved : ConnId → Option Standing}
    {later : DocumentId → Option Room} {following : SubId}
    (hstep : NodeSteps standing rooms next moved later following) :
    ∃ renumber after, RoomHub.system.Reachable after ∧
      Mirrors moved later following renumber after := by
  cases hstep with
  | other later hlater =>
      exact ⟨number, hub, hreach, h.absent, h.client, h.room,
        fun subscription huses => (h.bound subscription huses).trans_le hlater, h.distinct⟩
  | connect id client hnone => exact ⟨number, h.connect hreach hnone client⟩
  | join id old hold hposition room hroom => exact ⟨number, h.join hreach hold hposition hroom⟩
  | create id old hold hposition hroom => exact h.create hreach hold hposition hroom
  | refuse id old hold hposition hroom => exact ⟨number, h.refuse hreach hold hposition hroom⟩
  | disconnect id old hold hposition => exact ⟨number, h.disconnect hreach hold hposition⟩
  | missing id old hold hposition hroom =>
      exact absurd hroom (h.not_missing hreach hold hposition)
  | leave id old hold hposition room hroom stage hstage =>
      obtain ⟨left, hleft, hmirrors⟩ := h.leave hreach hold hposition hroom
      rcases hstage with rfl | rfl
      · exact ⟨number, left, hleft, hmirrors⟩
      · obtain ⟨after, hafter, hlater⟩ := hmirrors.proceed hleft (Function.update_self ..) rfl
          (.notified _)
        rw [Function.update_idem] at hlater
        exact ⟨number, after, hafter, hlater⟩
  | proceed id old hold before after hposition hcontinues =>
      exact ⟨number, h.proceed hreach hold hposition hcontinues⟩

end Mirrors

/-- Whatever the cluster has done, every node has the rooms of a hub that has done the same. -/
theorem Cluster.reachable_mirrors {Bytes : Type} {codec : Codec Bytes} {cluster : Cluster Bytes}
    (hreach : (system codec).Reachable cluster) (node : NodeId) :
    ∃ number hub, RoomHub.system.Reachable hub ∧
      Mirrors (cluster.standing node) (cluster.rooms node) cluster.nextSubscription number hub := by
  refine hreach.invariant (system codec) (fun cluster => ∃ number hub,
    RoomHub.system.Reachable hub ∧ Mirrors (cluster.standing node) (cluster.rooms node)
      cluster.nextSubscription number hub) ?_ ?_
  · rintro state rfl
    refine ⟨id, RoomHub.empty, .init rfl, fun _ _ => ⟨rfl, rfl⟩, ?_, fun _ => rfl, ?_, ?_⟩
    · rintro id found hfound
      cases hfound
    · rintro subscription (⟨documentId, room, hroom, -⟩ | ⟨id, found, hfound, -⟩)
      · cases hroom
      · cases hfound
    · exact Function.injective_id.injOn
  · rintro state event after - ⟨number, hub, hhub, hmirrors⟩ - hstep
    exact hmirrors.step hhub (step_stepsTo hstep node)

/-- A room of a node has clients, and nobody else has its subscription. -/
theorem Cluster.reachable_room {Bytes : Type} {codec : Codec Bytes} {cluster : Cluster Bytes}
    (hreach : (system codec).Reachable cluster) {node : NodeId} {documentId : DocumentId}
    {room : Room} (hroom : cluster.rooms node documentId = some room) :
    room.clients.Nonempty ∧
      (∀ other found, cluster.rooms node other = some found → found.sub = room.sub →
        other = documentId) ∧
      ∀ id connection, cluster.connections id = some connection → connection.node = node →
        connection.stage.position.holds ≠ some room.sub := by
  obtain ⟨number, hub, hhub, hmirrors⟩ := reachable_mirrors hreach node
  have hsound := RoomHub.reachable_sound hhub
  have hrow : ∀ other found, cluster.rooms node other = some found →
      hub.rooms other = some (found.rename number) := by
    intro other found hfound
    rw [hmirrors.room, hfound]
    rfl
  have howns : hub.Owns (.inl documentId) (number room.sub) :=
    ⟨room.rename number, hrow documentId room hroom, rfl⟩
  refine ⟨hsound.nonempty documentId (room.rename number) (hrow documentId room hroom), ?_, ?_⟩
  · intro other found hfound hsame
    have hother : hub.Owns (.inl other) (number room.sub) :=
      ⟨found.rename number, hrow other found hfound, congrArg number hsame⟩
    exact Sum.inl.inj (hsound.owners.unique _ _ _ hother howns)
  · intro id connection hconnection hhere hholds
    obtain ⟨state, hcall, hstage⟩ := hmirrors.call_holds (standing_here hconnection hhere) hholds
    cases hsound.owners.unique (.inr id) (.inl documentId) _ ⟨state, hcall, hstage⟩ howns

end CollabEditor.Hub
