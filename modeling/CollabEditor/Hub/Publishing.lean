import CollabEditor.Hub.Cluster
import Mathlib.Logic.Relation

/-! # When an error means that nobody has the envelope

`HandleClientEnvelope` fans out locally before it publishes. Here one call runs
without other goroutines in between; such a call is a run of its goroutine.
-/

namespace CollabEditor.Hub

open Foundation
open Backend (DocumentId Instant)

/-- The clients of a local room. -/
def Cluster.roomClients {Bytes : Type} (cluster : Cluster Bytes) (node : NodeId)
    (documentId : DocumentId) : Finset ConnId :=
  (cluster.rooms node documentId).elim ∅ Room.clients

/-- What `broadcastLocal` does with one client. -/
def Connection.accept {Bytes : Type} (connection : Connection Bytes) (message : Message Bytes) :
    Connection Bytes :=
  if connection.isSlow then connection.close else connection.offer message

inductive HandleError
  | marshal
  | marshalMessage
  | publish
deriving DecidableEq, Repr

namespace Cluster

variable {Bytes : Type} (codec : Codec Bytes) (cluster : Cluster Bytes)

/-- `broadcastLocal` as a whole. -/
def broadcastLocal (node : NodeId) (documentId : DocumentId) (message : Message Bytes) :
    Cluster Bytes :=
  { cluster with
    connections := fun id =>
      if id ∈ cluster.roomClients node documentId then
        (cluster.connections id).map (·.accept message)
      else cluster.connections id }

/-- `HandleClientEnvelope`; `accepted` is the answer of the broker. -/
def handleClientEnvelope (id : ConnId) (sender : Connection Bytes) (envelope : Envelope)
    (now : Instant) (accepted : Bool) : Cluster Bytes × Except HandleError Unit :=
  let envelope := sender.client.stamp envelope now
  let documentId := sender.client.documentId
  match codec.marshal envelope with
  | none => (cluster, .error .marshal)
  | some localBytes =>
      let cluster := cluster.broadcastLocal sender.node documentId
        ⟨localBytes, some ⟨id, sender.sent.length⟩⟩
      match codec.marshalMessage ⟨sender.node, envelope⟩ with
      | none => (cluster, .error .marshalMessage)
      | some payload =>
          if accepted then
            (cluster.append (channel documentId) ⟨payload, ⟨id, sender.sent.length⟩⟩, .ok ())
          else (cluster, .error .publish)

/-- An error leaves every client of the room without the envelope; otherwise it
was offered to all of them and the broker has it. -/
def AllOrNothing (id : ConnId) (sender : Connection Bytes) (envelope : Envelope) :
    Cluster Bytes × Except HandleError Unit → Prop
  | (after, .error _) =>
      ∀ client ∈ cluster.roomClients sender.node sender.client.documentId,
        (after.connections client).map Connection.received =
          (cluster.connections client).map Connection.received
  | (after, .ok _) =>
      (∃ bytes, codec.marshal envelope = some bytes ∧
        ∀ client ∈ cluster.roomClients sender.node sender.client.documentId,
          after.connections client =
            (cluster.connections client).map (·.accept ⟨bytes, some ⟨id, sender.sent.length⟩⟩)) ∧
      ∃ payload, codec.marshalMessage ⟨sender.node, envelope⟩ = some payload ∧
        after.channels (channel sender.client.documentId) =
          cluster.channels (channel sender.client.documentId) ++
            [⟨payload, ⟨id, sender.sent.length⟩⟩]

/-- The message got into the `Send` channel exactly when that had space. -/
theorem accept_received_iff (connection : Connection Bytes) (message : Message Bytes) :
    (connection.accept message).received = connection.received ↔ connection.isSlow = true := by
  unfold Connection.accept
  cases hslow : connection.isSlow with
  | true => simp [Connection.close]
  | false =>
      have hspace : connection.send.length < connection.client.sendBuffer := by
        simpa [Connection.isSlow] using hslow
      simp [Connection.offer, hspace]

/-- After a broadcast no client of the room has received the message exactly
when all of them were slow. -/
theorem broadcastLocal_received_iff (node : NodeId) (documentId : DocumentId)
    (message : Message Bytes) :
    (∀ client ∈ cluster.roomClients node documentId,
      ((cluster.broadcastLocal node documentId message).connections client).map
          Connection.received = (cluster.connections client).map Connection.received) ↔
      ¬ ∃ client ∈ cluster.roomClients node documentId,
        (cluster.connections client).any fun connection => !connection.isSlow := by
  simp only [not_exists, not_and]
  refine forall₂_congr fun client hclient => ?_
  simp only [broadcastLocal, hclient, if_true]
  cases cluster.connections client with
  | none => simp
  | some connection =>
      simp only [Option.map_some, Option.some.injEq, Option.any_some]
      rw [accept_received_iff]
      simp

/-- The call is all-or-nothing exactly when it does not fail after a local
broadcast that some client of the room had space for. -/
theorem handleClientEnvelope_allOrNothing_iff (id : ConnId) (sender : Connection Bytes)
    (envelope : Envelope) (now : Instant) (accepted : Bool) :
    cluster.AllOrNothing codec id sender (sender.client.stamp envelope now)
        (cluster.handleClientEnvelope codec id sender envelope now accepted) ↔
      ¬ ((codec.marshal (sender.client.stamp envelope now)).isSome ∧
        (codec.marshalMessage ⟨sender.node, sender.client.stamp envelope now⟩ = none ∨
          accepted = false) ∧
        ∃ client ∈ cluster.roomClients sender.node sender.client.documentId,
          (cluster.connections client).any fun connection => !connection.isSlow) := by
  cases hlocal : codec.marshal (sender.client.stamp envelope now) with
  | none => simp [handleClientEnvelope, hlocal, AllOrNothing]
  | some bytes =>
      cases hpayload : codec.marshalMessage ⟨sender.node, sender.client.stamp envelope now⟩ with
      | none =>
          simp only [handleClientEnvelope, hlocal, hpayload, AllOrNothing, Option.isSome_some,
            true_or, true_and]
          exact cluster.broadcastLocal_received_iff _ _ _
      | some payload =>
          cases accepted with
          | false =>
              simp only [handleClientEnvelope, hlocal, hpayload, AllOrNothing, Option.isSome_some,
                or_true, true_and, Bool.false_eq_true, if_false]
              exact cluster.broadcastLocal_received_iff _ _ _
          | true =>
              simp only [handleClientEnvelope, hlocal, hpayload, AllOrNothing, if_true,
                reduceCtorEq, or_self, false_and, and_false, not_false_eq_true, iff_true]
              refine ⟨⟨bytes, rfl, fun client hclient => ?_⟩, payload, rfl, ?_⟩
              · simp [append, broadcastLocal, hclient]
              · simp [append, broadcastLocal]

/-- Two clients of one room that have both reached their read loop. -/
def pairRun : List (Event (Envelope ⊕ EnvelopeMessage)) :=
  [.connect 0 "node-a" ⟨1, "owner", 7, "OWNER", 64⟩, .register 0 true 0, .run 0 0 true 0,
    .run 0 0 true 0, .run 0 0 true 0, .run 0 0 true 0, .run 0 0 true 0,
    .connect 1 "node-a" ⟨2, "editor", 7, "EDITOR", 64⟩, .register 1 true 0, .run 1 0 true 0,
    .run 1 0 true 0, .run 1 1 true 0, .run 1 0 true 0, .run 1 0 true 0, .run 1 0 true 0]

/-- The broker refuses an edit that the other client of the room already has. -/
theorem failed_publish_reaches_room :
    ¬ ∀ cluster : Cluster (Envelope ⊕ EnvelopeMessage), (system plainCodec).Reachable cluster →
      ∀ id sender, cluster.connections id = some sender →
      ∀ (envelope : Envelope) (now : Instant) (accepted : Bool),
        cluster.AllOrNothing plainCodec id sender (sender.client.stamp envelope now)
          (cluster.handleClientEnvelope plainCodec id sender envelope now accepted) := by
  intro hclaim
  obtain ⟨cluster, hreach, hcheck⟩ := (system plainCodec).exists_reachable_of_exec
    (.init rfl : (system plainCodec).Reachable empty) pairRun
    (fun cluster => (cluster.connections 0).any fun sender =>
      1 ∈ cluster.roomClients sender.node sender.client.documentId ∧
      (cluster.connections 1).any fun client => !client.isSlow) (by decide)
  obtain ⟨sender, hsender, hcheck⟩ := (Option.any_eq_true _ _).mp hcheck
  obtain ⟨hmember, hspace⟩ := of_decide_eq_true hcheck
  have hall := hclaim cluster hreach 0 sender hsender ⟨.docChange, 0, "", 0, 0, none⟩ 0 false
  rw [handleClientEnvelope_allOrNothing_iff] at hall
  exact hall ⟨rfl, .inr rfl, 1, hmember, hspace⟩

/-! ## The call among the goroutines -/

/-- Every client changes in its own way. -/
def mapConnections (change : ConnId → Connection Bytes → Connection Bytes) : Cluster Bytes :=
  { cluster with connections := fun id => (cluster.connections id).map (change id) }

theorem mapConnections_mapConnections
    (first second : ConnId → Connection Bytes → Connection Bytes) :
    (cluster.mapConnections first).mapConnections second =
      cluster.mapConnections fun id connection => second id (first id connection) := by
  simp [mapConnections, Function.comp_def]

theorem mapConnections_congr {first second : ConnId → Connection Bytes → Connection Bytes}
    (hsame : ∀ id connection, cluster.connections id = some connection →
      first id connection = second id connection) :
    cluster.mapConnections first = cluster.mapConnections second := by
  refine Cluster.ext ?_ rfl rfl rfl rfl
  funext id
  exact Option.map_congr fun connection hconnection => hsame id connection hconnection

theorem modifyConnection_eq_map (id : ConnId) (change : Connection Bytes → Connection Bytes) :
    cluster.modifyConnection id change =
      cluster.mapConnections fun other connection =>
        if other = id then change connection else connection := by
  unfold modifyConnection mapConnections setConnection
  split
  next hnone =>
    refine Cluster.ext ?_ rfl rfl rfl rfl
    funext other
    by_cases heq : other = id
    · simp [heq, hnone]
    · simp [heq]
  next connection hconnection =>
    refine Cluster.ext ?_ rfl rfl rfl rfl
    funext other
    by_cases heq : other = id
    · simp [heq, hconnection]
    · simp [heq]

/-- The goroutine of a connection goes on, and no other one in between. -/
abbrev GoesOn (id : ConnId) (accepted : Bool) (now : Instant) :
    Cluster Bytes → Cluster Bytes → Prop :=
  Relation.ReflTransGen fun cluster next =>
    ∃ choice, step codec cluster (.run id choice accepted now) = some next

variable {codec cluster}

theorem step_broadcasting {id choice : ConnId} {connection : Connection Bytes}
    {publication : Publication Bytes} {progress : Progress} {next : Continuation}
    (hconnection : cluster.connections id = some connection)
    (hstage : connection.stage = .broadcasting publication progress next)
    {moved : Cluster Bytes} {result : Option Progress}
    (hadvance : cluster.advanceBroadcast connection.node connection.client.documentId
      ⟨publication.localBytes, some publication.tag⟩ choice progress = some (moved, result))
    (accepted : Bool) (now : Instant) :
    step codec cluster (.run id choice accepted now) =
      some (moved.modifyConnection id (·.afterBroadcast codec publication next result)) := by
  simp [step, hconnection, run, hstage, hadvance]

end Cluster

/-! ## The steps of the broadcast -/

namespace Connection

variable {Bytes : Type}

/-- What the rest of a broadcast does with a client. -/
def served (message : Message Bytes) (targets slow : Finset ConnId) (id : ConnId)
    (connection : Connection Bytes) : Connection Bytes :=
  if id ∈ targets then connection.accept message
  else if id ∈ slow then connection.close
  else connection

theorem offer_withStage (connection : Connection Bytes) (stage : Stage Bytes)
    (message : Message Bytes) :
    (connection.withStage stage).offer message = (connection.offer message).withStage stage := by
  unfold offer withStage
  split <;> rfl

theorem served_withStage (connection : Connection Bytes) (stage : Stage Bytes)
    (message : Message Bytes) (targets slow : Finset ConnId) (id : ConnId) :
    (connection.withStage stage).served message targets slow id =
      (connection.served message targets slow id).withStage stage := by
  unfold served accept
  rw [offer_withStage]
  split
  next =>
    change (if connection.isSlow then _ else _) = _
    split <;> rfl
  next => split <;> rfl

theorem sendEnvelope_withStage (codec : Codec Bytes) (connection : Connection Bytes)
    (stage : Stage Bytes) (envelope : Envelope) :
    (connection.withStage stage).sendEnvelope codec envelope =
      (connection.sendEnvelope codec envelope).withStage stage := by
  unfold sendEnvelope
  split
  next => rfl
  next => exact offer_withStage _ _ _

theorem proceed_withStage (codec : Codec Bytes) (connection : Connection Bytes)
    (stage : Stage Bytes) (failed : Bool) (next : Continuation) :
    (connection.withStage stage).proceed codec failed next =
      connection.proceed codec failed next := by
  cases next with
  | acknowledge => rfl
  | close subscription => rfl
  | read =>
      unfold proceed sendError
      rw [sendEnvelope_withStage]
      cases failed <;> rfl

/-- Where the goroutine stands during a broadcast is forgotten after it. -/
theorem afterBroadcast_withStage (codec : Codec Bytes) (connection : Connection Bytes)
    (stage : Stage Bytes) (publication : Publication Bytes) (next : Continuation)
    (result : Option Progress) :
    (connection.withStage stage).afterBroadcast codec publication next result =
      connection.afterBroadcast codec publication next result := by
  unfold afterBroadcast
  rw [proceed_withStage]
  rfl

/-- A client that has been offered the message is slow if its channel was full. -/
theorem served_offer {choice : ConnId} {targets slow : Finset ConnId} (hnew : choice ∉ targets)
    (hslow : choice ∉ slow) (message : Message Bytes) (id : ConnId) (connection : Connection Bytes)
    (dropped : Bool) (hdropped : id = choice → dropped = connection.isSlow) :
    (if id = choice then connection.offer message else connection).served message targets
        (if dropped then insert choice slow else slow) id =
      connection.served message (insert choice targets) slow id := by
  by_cases heq : id = choice
  · subst heq
    rw [hdropped rfl]
    cases hfull : connection.isSlow with
    | true =>
        have hspace : ¬ connection.send.length < connection.client.sendBuffer := by
          simpa [isSlow] using hfull
        simp [served, accept, offer, hnew, hfull, hspace]
    | false => simp [served, accept, hnew, hslow, hfull]
  · cases dropped <;> simp [served, heq]

theorem served_close (message : Message Bytes) (choice : ConnId) (slow : Finset ConnId)
    (id : ConnId) (connection : Connection Bytes) :
    (if id = choice then connection.close else connection).served message ∅ slow id =
      connection.served message ∅ (insert choice slow) id := by
  by_cases heq : id = choice
  · simp only [served, close, heq, Finset.notMem_empty, Finset.mem_insert_self, if_true, if_false]
    split <;> rfl
  · simp [served, heq]

end Connection

namespace Cluster

variable {Bytes : Type} {codec : Codec Bytes} {cluster : Cluster Bytes}

section Broadcast

variable {id : ConnId} {publication : Publication Bytes} {next : Continuation}

theorem mapConnections_served_nobody (message : Message Bytes) :
    cluster.mapConnections (Connection.served message ∅ ∅) = cluster := by
  refine Cluster.ext ?_ rfl rfl rfl rfl
  funext other
  change (cluster.connections other).map (fun connection => connection) = _
  exact Option.map_id'

/-- Where the goroutine stands in between makes no difference. -/
theorem served_resumed (message : Message Bytes) (targets slow : Finset ConnId)
    (progress : Progress) :
    ((cluster.modifyConnection id
        (·.afterBroadcast codec publication next (some progress))).mapConnections
          (Connection.served message targets slow)).modifyConnection id
            (·.afterBroadcast codec publication next none) =
      (cluster.mapConnections (Connection.served message targets slow)).modifyConnection id
        (·.afterBroadcast codec publication next none) := by
  simp only [modifyConnection_eq_map, mapConnections_mapConnections]
  refine mapConnections_congr _ fun other connection _ => ?_
  by_cases heq : other = id
  · have hstage : ∀ served : Connection Bytes,
        served.afterBroadcast codec publication next (some progress) =
          served.withStage (.broadcasting publication progress next) := fun _ => rfl
    simp only [heq, if_true, hstage, Connection.served_withStage,
      Connection.afterBroadcast_withStage]
  · simp only [heq, if_false]

/-- One client is served before the others. -/
theorem served_first {choice : ConnId} {change : Connection Bytes → Connection Bytes}
    {message : Message Bytes} {targets slow rest left : Finset ConnId}
    (hserved : ∀ other connection, cluster.connections other = some connection →
      (if other = choice then change connection else connection).served message rest left other =
        connection.served message targets slow other) :
    (cluster.modifyConnection choice change).mapConnections
        (Connection.served message rest left) =
      cluster.mapConnections (Connection.served message targets slow) := by
  rw [modifyConnection_eq_map, mapConnections_mapConnections]
  exact mapConnections_congr _ hserved

variable {connection : Connection Bytes}

/-- The goroutine stands where its last step has left it. -/
theorem broadcasting_after (hconnection : cluster.connections id = some connection)
    (choice : ConnId) (change : Connection Bytes → Connection Bytes) (progress : Progress) :
    ∃ served, ((cluster.modifyConnection choice change).modifyConnection id
        (·.afterBroadcast codec publication next (some progress))).connections id = some served ∧
      served.stage = .broadcasting publication progress next := by
  refine ⟨(if id = choice then change connection else connection).withStage
    (.broadcasting publication progress next), ?_, rfl⟩
  simp [modifyConnection_eq_map, mapConnections, hconnection, Connection.afterBroadcast]

/-- The clients that were found slow are closed one by one. -/
theorem goesOn_closing (accepted : Bool) (now : Instant) (slow : Finset ConnId)
    (hconnection : cluster.connections id = some connection)
    (hstage : connection.stage = .broadcasting publication (.offering ∅ slow) next) :
    GoesOn codec id accepted now cluster
      ((cluster.mapConnections (Connection.served
        ⟨publication.localBytes, some publication.tag⟩ ∅ slow)).modifyConnection id
          (·.afterBroadcast codec publication next none)) := by
  induction slow using Finset.induction_on generalizing cluster connection with
  | empty =>
      rw [mapConnections_served_nobody]
      exact .single ⟨id, step_broadcasting hconnection hstage
        (by simp [advanceBroadcast]) accepted now⟩
  | insert choice rest hnew ih =>
      have hadvance : cluster.advanceBroadcast connection.node connection.client.documentId
          ⟨publication.localBytes, some publication.tag⟩ choice (.offering ∅ (insert choice rest)) =
            some (cluster.modifyConnection choice Connection.close, some (.offering ∅ rest)) := by
        simp [advanceBroadcast, Finset.erase_insert hnew]
      obtain ⟨served, hserved, hserving⟩ := broadcasting_after hconnection choice
        Connection.close (.offering ∅ rest)
      have hrest := ih hserved hserving
      rw [served_resumed, served_first fun other connection _ =>
        Connection.served_close _ choice rest other connection] at hrest
      exact .head ⟨choice, step_broadcasting hconnection hstage hadvance accepted now⟩ hrest

/-- Without other goroutines in between, everybody who has still to be served is. -/
theorem goesOn_offering (accepted : Bool) (now : Instant) (targets slow : Finset ConnId)
    (hdisjoint : Disjoint targets slow) (hconnection : cluster.connections id = some connection)
    (hstage : connection.stage = .broadcasting publication (.offering targets slow) next) :
    GoesOn codec id accepted now cluster
      ((cluster.mapConnections (Connection.served
        ⟨publication.localBytes, some publication.tag⟩ targets slow)).modifyConnection id
          (·.afterBroadcast codec publication next none)) := by
  induction targets using Finset.induction_on generalizing cluster connection slow with
  | empty => exact goesOn_closing accepted now slow hconnection hstage
  | insert choice rest hnew ih =>
      let dropped := (cluster.connections choice).any Connection.isSlow
      have hadvance : cluster.advanceBroadcast connection.node connection.client.documentId
          ⟨publication.localBytes, some publication.tag⟩ choice
            (.offering (insert choice rest) slow) =
          some (cluster.modifyConnection choice
              (·.offer ⟨publication.localBytes, some publication.tag⟩),
            some (.offering rest (if dropped then insert choice slow else slow))) := by
        simp [advanceBroadcast, Finset.erase_insert hnew, dropped]
      obtain ⟨hslow, hrest⟩ := Finset.disjoint_insert_left.mp hdisjoint
      obtain ⟨served, hserved, hserving⟩ := broadcasting_after hconnection choice
        (·.offer ⟨publication.localBytes, some publication.tag⟩)
        (.offering rest (if dropped then insert choice slow else slow))
      have hlater := ih _ (by
        split
        next => exact Finset.disjoint_insert_right.mpr ⟨hnew, hrest⟩
        next => exact hrest) hserved hserving
      rw [served_resumed, served_first fun other client hclient =>
        Connection.served_offer hnew hslow _ other client dropped fun hother => by
          simp only [dropped, ← hother, hclient, Option.any_some]] at hlater
      exact .head ⟨choice, step_broadcasting hconnection hstage hadvance accepted now⟩ hlater

theorem broadcastLocal_eq_map (node : NodeId) (documentId : DocumentId) (message : Message Bytes) :
    cluster.broadcastLocal node documentId message =
      cluster.mapConnections
        (Connection.served message (cluster.roomClients node documentId) ∅) := by
  refine Cluster.ext ?_ rfl rfl rfl rfl
  funext other
  change _ = (cluster.connections other).map fun connection =>
    connection.served message (cluster.roomClients node documentId) ∅ other
  by_cases hclient : other ∈ cluster.roomClients node documentId
  · simp [broadcastLocal, Connection.served, hclient]
  · simp [broadcastLocal, Connection.served, hclient]

/-- The loop over the room, from the lookup on. -/
theorem goesOn_broadcastLocal (accepted : Bool) (now : Instant)
    (hconnection : cluster.connections id = some connection)
    (hstage : connection.stage = .broadcasting publication .lookup next) :
    GoesOn codec id accepted now cluster
      ((cluster.broadcastLocal connection.node connection.client.documentId
        ⟨publication.localBytes, some publication.tag⟩).modifyConnection id
          (·.afterBroadcast codec publication next none)) := by
  rw [broadcastLocal_eq_map]
  cases hroom : cluster.rooms connection.node connection.client.documentId with
  | none =>
      have hnobody : cluster.roomClients connection.node connection.client.documentId = ∅ := by
        rw [roomClients, hroom]
        rfl
      rw [hnobody, mapConnections_served_nobody]
      exact .single ⟨id, step_broadcasting hconnection hstage
        (by simp only [advanceBroadcast, hroom]) accepted now⟩
  | some room =>
      have hclients : cluster.roomClients connection.node connection.client.documentId =
          room.clients := by
        rw [roomClients, hroom]
        rfl
      have hadvance : cluster.advanceBroadcast connection.node connection.client.documentId
          ⟨publication.localBytes, some publication.tag⟩ id .lookup =
            some (cluster, some (.offering room.clients ∅)) := by
        simp only [advanceBroadcast, hroom]
      have hstarted : (cluster.modifyConnection id (·.afterBroadcast codec publication next
          (some (.offering room.clients ∅)))).connections id =
            some (connection.withStage
              (.broadcasting publication (.offering room.clients ∅) next)) := by
        simp [modifyConnection_eq_map, mapConnections, hconnection, Connection.afterBroadcast]
      have hrest : GoesOn codec id accepted now _ _ :=
        goesOn_offering accepted now room.clients ∅ (Finset.disjoint_empty_right _)
          hstarted rfl
      rw [served_resumed] at hrest
      rw [hclients]
      exact .head ⟨id, step_broadcasting hconnection hstage hadvance accepted now⟩ hrest

end Broadcast

end Cluster

/-! ## The steps of the call -/

namespace Connection

variable {Bytes : Type}

/-- What has been sent is a record. -/
def recordSent (connection : Connection Bytes) (envelope : Envelope) : Connection Bytes :=
  { connection with sent := connection.sent ++ [envelope] }

/-- Back to the loop of `ReadPump` after a call. -/
def afterCall (codec : Codec Bytes) (connection : Connection Bytes) (envelope : Envelope) :
    Except HandleError Unit → Connection Bytes
  | .error .marshal => connection.proceed codec true .read
  | .error _ => (connection.recordSent envelope).proceed codec true .read
  | .ok _ => (connection.recordSent envelope).proceed codec false .read

theorem served_recordSent (connection : Connection Bytes) (envelope : Envelope)
    (message : Message Bytes) (targets slow : Finset ConnId) (id : ConnId) :
    (connection.recordSent envelope).served message targets slow id =
      (connection.served message targets slow id).recordSent envelope := by
  have hoffer : (connection.recordSent envelope).offer message =
      (connection.offer message).recordSent envelope := by
    unfold offer recordSent
    split <;> rfl
  unfold served accept
  rw [hoffer]
  split
  next =>
    change (if connection.isSlow then _ else _) = _
    split <;> rfl
  next => split <;> rfl

theorem served_client (connection : Connection Bytes) (message : Message Bytes)
    (targets slow : Finset ConnId) (id : ConnId) :
    (connection.served message targets slow id).client = connection.client := by
  unfold served accept offer close
  split
  next =>
    split
    next => rfl
    next => split <;> rfl
  next => split <;> rfl

end Connection

namespace Cluster

variable {Bytes : Type} {codec : Codec Bytes} {cluster : Cluster Bytes}

theorem step_publishing {id : ConnId} {connection : Connection Bytes} {tag : Tag} {payload : Bytes}
    {next : Continuation} (hconnection : cluster.connections id = some connection)
    (hstage : connection.stage = .publishing tag payload next) (accepted : Bool) (now : Instant) :
    step codec cluster (.run id id accepted now) =
      some (if accepted then
        (cluster.append (channel connection.client.documentId) ⟨payload, tag⟩).setConnection id
          (connection.proceed codec false next)
      else cluster.setConnection id (connection.proceed codec true next)) := by
  cases accepted <;> simp [step, hconnection, run, hstage]

/-- The broker answers, and the goroutine is back in its loop. -/
theorem step_answered {id : ConnId} {connection : Connection Bytes}
    (hconnection : cluster.connections id = some connection) (envelope : Envelope) (tag : Tag)
    (payload : Bytes) (accepted : Bool) (now : Instant) :
    step codec (cluster.modifyConnection id fun connection =>
        (connection.recordSent envelope).withStage (.publishing tag payload .read))
        (.run id id accepted now) =
      some (if accepted then
        (cluster.append (channel connection.client.documentId) ⟨payload, tag⟩).modifyConnection id
          (·.afterCall codec envelope (.ok ()))
      else cluster.modifyConnection id (·.afterCall codec envelope (.error .publish))) := by
  let waiting := (connection.recordSent envelope).withStage (.publishing tag payload .read)
  have hwaiting : (cluster.modifyConnection id fun connection =>
      (connection.recordSent envelope).withStage (.publishing tag payload .read)) =
        cluster.setConnection id waiting := by
    rw [modifyConnection, hconnection]
  have hfound : (cluster.setConnection id waiting).connections id = some waiting := by
    simp [setConnection]
  have hresumes : ∀ failed, waiting.proceed codec failed .read =
      (connection.recordSent envelope).proceed codec failed .read :=
    fun failed => Connection.proceed_withStage _ _ _ _ _
  have hclient : waiting.client = connection.client := rfl
  rw [hwaiting, step_publishing hfound rfl, hclient, hresumes, hresumes]
  cases accepted <;>
    simp [modifyConnection, append, setConnection, hconnection, Connection.afterCall]

/-- The start of a publication does not bear on who is served. -/
theorem broadcastLocal_started (id : ConnId) (envelope : Envelope) (stage : Stage Bytes)
    (node : NodeId) (documentId : DocumentId) (message : Message Bytes)
    (publication : Publication Bytes) (next : Continuation) :
    ((cluster.modifyConnection id fun connection =>
        (connection.recordSent envelope).withStage stage).broadcastLocal node documentId
          message).modifyConnection id (·.afterBroadcast codec publication next none) =
      (cluster.broadcastLocal node documentId message).modifyConnection id fun connection =>
        (connection.recordSent envelope).afterBroadcast codec publication next none := by
  have hclients : (cluster.modifyConnection id fun connection =>
      (connection.recordSent envelope).withStage stage).roomClients node documentId =
        cluster.roomClients node documentId := by
    rw [modifyConnection_eq_map]
    rfl
  rw [broadcastLocal_eq_map, broadcastLocal_eq_map, hclients]
  simp only [modifyConnection_eq_map, mapConnections_mapConnections]
  refine mapConnections_congr _ fun other connection _ => ?_
  by_cases heq : other = id
  · simp only [heq, if_true, Connection.served_withStage, Connection.served_recordSent,
      Connection.afterBroadcast_withStage]
  · simp only [heq, if_false]

/-- The call as a whole is what the goroutine of the sender does with the frame when no other
one comes in between. -/
theorem goesOn_handleClientEnvelope {id : ConnId} {sender : Connection Bytes}
    (hsender : cluster.connections id = some sender) (hstage : sender.stage = .reading)
    {frame : Bytes} {envelope : Envelope} {now : Instant}
    (hread : readPump codec sender.client frame now = .handle envelope) (accepted : Bool) :
    ∃ started, step codec cluster (.frame id frame now) = some started ∧
      GoesOn codec id accepted now started
        ((cluster.handleClientEnvelope codec id sender envelope now accepted).1.modifyConnection id
          (·.afterCall codec (sender.client.stamp envelope now)
            (cluster.handleClientEnvelope codec id sender envelope now accepted).2)) := by
  refine ⟨cluster.setConnection id
    (sender.publish codec id (sender.client.stamp envelope now) .read), ?_, ?_⟩
  · simp [step, hsender, hstage, readFrame, hread]
  simp only [handleClientEnvelope]
  generalize sender.client.stamp envelope now = envelope
  cases hlocal : codec.marshal envelope with
  | none =>
      have hsame : sender.publish codec id envelope .read =
          sender.afterCall codec envelope (.error .marshal) := by
        simp only [Connection.publish, hlocal, Connection.afterCall]
      rw [hsame]
      simp only [modifyConnection, hsender]
      exact .refl
  | some bytes =>
      let publication : Publication Bytes :=
        { tag := ⟨id, sender.sent.length⟩
          localBytes := bytes
          payload := codec.marshalMessage ⟨sender.node, envelope⟩ }
      let after := cluster.broadcastLocal sender.node sender.client.documentId
        ⟨bytes, some publication.tag⟩
      have hstart : cluster.setConnection id (sender.publish codec id envelope .read) =
          cluster.modifyConnection id fun connection =>
            (connection.recordSent envelope).withStage
              (.broadcasting publication .lookup .read) := by
        rw [modifyConnection, hsender]
        simp only [Connection.publish, hlocal]
        rfl
      have hstarted : (cluster.modifyConnection id fun connection =>
          (connection.recordSent envelope).withStage
            (.broadcasting publication .lookup .read)).connections id =
          some ((sender.recordSent envelope).withStage
            (.broadcasting publication .lookup .read)) := by
        simp [modifyConnection_eq_map, mapConnections, hsender]
      have hserved : GoesOn codec id accepted now _ _ :=
        goesOn_broadcastLocal accepted now hstarted rfl
      rw [broadcastLocal_started, ← hstart] at hserved
      change GoesOn codec id accepted now _ (after.modifyConnection id _) at hserved
      cases hpayload : codec.marshalMessage ⟨sender.node, envelope⟩ with
      | none =>
          have hfailed : ∀ connection : Connection Bytes,
              (connection.recordSent envelope).afterBroadcast codec publication .read none =
                connection.afterCall codec envelope (.error .marshalMessage) := by
            intro connection
            simp only [Connection.afterBroadcast, publication, hpayload, Connection.afterCall]
          simp only [hfailed] at hserved
          exact hserved
      | some payload =>
          have hwaiting : ∀ connection : Connection Bytes,
              (connection.recordSent envelope).afterBroadcast codec publication .read none =
                (connection.recordSent envelope).withStage
                  (.publishing publication.tag payload .read) := by
            intro connection
            simp only [Connection.afterBroadcast, publication, hpayload]
          simp only [hwaiting] at hserved
          let served := sender.served ⟨bytes, some publication.tag⟩
            (cluster.roomClients sender.node sender.client.documentId) ∅ id
          have hserving : after.connections id = some served := by
            simp only [after, broadcastLocal_eq_map, mapConnections, hsender]
            rfl
          have hanswered : step codec _ (.run id id accepted now) = _ :=
            step_answered hserving envelope publication.tag payload accepted now
          rw [Connection.served_client] at hanswered
          refine hserved.tail ⟨id, hanswered.trans ?_⟩
          cases accepted <;> rfl

end Cluster

end CollabEditor.Hub
