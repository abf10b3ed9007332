import CollabEditor.Hub.CrossNode
import CollabEditor.Hub.Reception

/-! # What a client misses

`broadcastLocal` finds a client slow in one step and closes it in a later one. In
between `WritePump` makes room in the channel of the client again.
-/

namespace CollabEditor.Hub

open Foundation

variable {Bytes : Type}

/-- The room messages of a connection: those in its `Send` channel, and all that
were ever put into it. -/
structure Queue (Bytes : Type) where
  waiting : List (Message Bytes)
  taken : List (Message Bytes)

namespace Queue

/-- A room message is put into the channel. -/
def push (queue : Queue Bytes) (message : Message Bytes) : Queue Bytes where
  waiting := queue.waiting ++ [message]
  taken := queue.taken ++ [message]

/-- A message is taken out of the channel. -/
def pop (queue : Queue Bytes) (message : Message Bytes) : Queue Bytes :=
  { queue with waiting := if message.tag.isSome then queue.waiting.tail else queue.waiting }

end Queue

namespace Connection

variable {codec : Codec Bytes}

def queue (connection : Connection Bytes) : Queue Bytes where
  waiting := tagged connection.send
  taken := tagged connection.received

theorem offer_queue (connection : Connection Bytes) {message : Message Bytes}
    (htag : message.tag.isSome = true) :
    (connection.offer message).queue =
      if connection.isSlow then connection.queue else connection.queue.push message := by
  by_cases hspace : connection.send.length < connection.client.sendBuffer
  · have hfast : connection.isSlow = false := by
      simp [isSlow, hspace]
    simp [offer, hspace, hfast, queue, tagged, htag, Queue.push]
  · have hslow : connection.isSlow = true := by
      simp [isSlow, not_lt.mp hspace]
    simp [offer, hspace, hslow]

/-- Acknowledgments and errors are no room messages. -/
theorem sendEnvelope_queue (connection : Connection Bytes) (envelope : Envelope) :
    (connection.sendEnvelope codec envelope).queue = connection.queue := by
  unfold sendEnvelope
  split
  next => rfl
  next =>
    unfold offer
    split
    · simp [queue, tagged]
    · rfl

theorem proceed_queue (connection : Connection Bytes) (failed : Bool) (next : Continuation) :
    (connection.proceed codec failed next).queue = connection.queue := by
  cases next with
  | acknowledge => rfl
  | close subscription => rfl
  | read =>
      cases failed with
      | false => rfl
      | true => exact connection.sendEnvelope_queue _

theorem afterBroadcast_queue (connection : Connection Bytes) (publication : Publication Bytes)
    (next : Continuation) (progress : Option Progress) :
    (connection.afterBroadcast codec publication next progress).queue = connection.queue := by
  cases progress with
  | some progress => rfl
  | none =>
      unfold afterBroadcast
      dsimp only
      split
      next => rfl
      next => exact connection.proceed_queue true next

theorem publish_queue (connection : Connection Bytes) (id : ConnId) (envelope : Envelope)
    (next : Continuation) :
    (connection.publish codec id envelope next).queue = connection.queue := by
  unfold publish
  split
  next => exact connection.proceed_queue true next
  next => rfl

end Connection

namespace Cluster

variable {codec : Codec Bytes} {cluster after : Cluster Bytes} {event : Event Bytes}

def queues (cluster : Cluster Bytes) (id : ConnId) : Queue Bytes :=
  (cluster.connections id).elim ⟨[], []⟩ Connection.queue

/-- The client that the next step of a broadcast offers its message to. -/
def offers (cluster : Cluster Bytes) (choice : ConnId) (message : Message Bytes) :
    Progress → Option (ConnId × Message Bytes)
  | .lookup => none
  | .offering targets _ =>
      if choice ∈ targets ∧ (cluster.connections choice).isSome then some (choice, message)
      else none

/-- The room message that the event offers to a client. -/
def offering (cluster : Cluster Bytes) : Event Bytes → Option (ConnId × Message Bytes)
  | .run id choice _ _ =>
      match (cluster.connections id).map Connection.stage with
      | some (.broadcasting publication progress _) =>
          cluster.offers choice ⟨publication.localBytes, some publication.tag⟩ progress
      | _ => none
  | .deliver id choice =>
      match (cluster.subscriptions id).bind Subscription.delivery with
      | some (message, progress) => cluster.offers choice message progress
      | none => none
  | _ => none

/-- The message that `WritePump` writes. -/
def writing (cluster : Cluster Bytes) : Event Bytes → Option (ConnId × Message Bytes)
  | .write id => (cluster.connections id).bind fun connection =>
      connection.send.head?.map fun message => (id, message)
  | _ => none

/-- The queues after an offer, which a slow client does not take. -/
def pushed (cluster : Cluster Bytes) : Option (ConnId × Message Bytes) → ConnId → Queue Bytes
  | none => cluster.queues
  | some (client, message) =>
      if (cluster.connections client).any Connection.isSlow then cluster.queues
      else Function.update cluster.queues client ((cluster.queues client).push message)

theorem queues_eq {id : ConnId} {connection : Connection Bytes}
    (hconnection : cluster.connections id = some connection) :
    cluster.queues id = connection.queue := by
  simp [queues, hconnection]

theorem queues_setConnection {between : Cluster Bytes} {id : ConnId}
    {connection : Connection Bytes} :
    (between.setConnection id connection).queues =
      Function.update between.queues id connection.queue := by
  ext other : 1
  by_cases heq : other = id
  · subst heq
    simp [queues, Cluster.setConnection]
  · rw [Function.update_of_ne heq]
    simp [queues, Cluster.setConnection, heq]

/-- Rooms, subscriptions and channels may have changed as well. -/
theorem queues_setSame {between : Cluster Bytes} {id : ConnId} {old new : Connection Bytes}
    (hold : cluster.connections id = some old) (hqueue : new.queue = old.queue)
    (hsame : between.queues = cluster.queues) :
    (between.setConnection id new).queues = cluster.queues := by
  rw [queues_setConnection, hsame, hqueue, ← queues_eq hold, Function.update_eq_self]

theorem queues_modifyConnection (id : ConnId) {change : Connection Bytes → Connection Bytes}
    (hchange : ∀ connection, (change connection).queue = connection.queue) :
    (cluster.modifyConnection id change).queues = cluster.queues := by
  unfold Cluster.modifyConnection
  split
  next => rfl
  next connection hconnection => exact queues_setSame hconnection (hchange connection) rfl

/-! ## One step -/

theorem advanceBroadcast_queues {node : NodeId} {documentId : Backend.DocumentId}
    {message : Message Bytes} (htag : message.tag.isSome = true) {choice : ConnId}
    {progress : Progress} {result : Option Progress}
    (hadvance : cluster.advanceBroadcast node documentId message choice progress =
      some (after, result)) :
    after.queues = cluster.pushed (cluster.offers choice message progress) := by
  cases advanceBroadcast_cases cluster hadvance with
  | absent | found => rfl
  | done => simp [offers, pushed]
  | offer targets slow rest hchoice =>
      unfold Cluster.modifyConnection
      split
      next hnone => simp [offers, hnone, pushed]
      next connection hconnection =>
        rw [queues_setConnection, connection.offer_queue htag]
        cases hslow : connection.isSlow with
        | true =>
            simp [offers, hchoice, hconnection, pushed, hslow, ← queues_eq hconnection]
        | false =>
            simp [offers, hchoice, hconnection, pushed, hslow, ← queues_eq hconnection]
  | drop slow =>
      have hnone : cluster.offers choice message (.offering ∅ slow) = none := by
        simp [offers]
      rw [hnone]
      exact queues_modifyConnection choice fun connection => rfl

theorem register_queues {id : ConnId} {connection : Connection Bytes}
    (hconnection : cluster.connections id = some connection) (subscribed : Bool)
    (now : Backend.Instant) :
    (cluster.register codec id connection subscribed now).queues = cluster.queues := by
  unfold Cluster.register
  dsimp only
  split
  next => exact queues_setSame hconnection (Connection.publish_queue _ _ _ _) rfl
  next =>
    split
    next => exact queues_setSame hconnection (Connection.publish_queue _ _ _ _) rfl
    next => exact queues_setSame hconnection rfl rfl

theorem leave_queues {id : ConnId} {connection : Connection Bytes}
    (hconnection : cluster.connections id = some connection) (now : Backend.Instant) :
    (cluster.leave codec id connection now).queues = cluster.queues := by
  unfold Cluster.leave
  dsimp only
  split
  next => exact queues_setSame hconnection rfl rfl
  next => exact queues_setSame hconnection (connection.publish_queue _ _ _) rfl

/-- A goroutine changes the queues by the offers of its broadcast only. -/
theorem run_queues {id : ConnId} {connection : Connection Bytes}
    (hconnection : cluster.connections id = some connection) {choice : ConnId} {accepted : Bool}
    {now : Backend.Instant}
    (hrun : cluster.run codec id connection choice accepted now = some after) :
    after.queues = cluster.pushed (cluster.offering (.run id choice accepted now)) := by
  have hquiet : (∀ publication progress next,
      connection.stage ≠ .broadcasting publication progress next) →
      cluster.offering (.run id choice accepted now) = none := by
    intro hstage
    cases hcase : connection.stage with
    | broadcasting publication progress next => exact absurd hcase (hstage _ _ _)
    | _ => simp [offering, hconnection, hcase]
  cases run_cases codec cluster hrun with
  | broadcast publication progress next moved result hstage hadvance =>
      have hmoved := advanceBroadcast_queues rfl hadvance
      have hoffering : cluster.offering (.run id choice accepted now) =
          cluster.offers choice ⟨publication.localBytes, some publication.tag⟩ progress := by
        simp [offering, hconnection, hstage]
      rw [hoffering, ← hmoved]
      apply queues_modifyConnection
      exact fun current => current.afterBroadcast_queue publication next result
  | accept tag payload next hstage =>
      rw [hquiet (by simp [hstage])]
      exact queues_setSame hconnection (connection.proceed_queue false next) rfl
  | refuse tag payload next hstage =>
      rw [hquiet (by simp [hstage])]
      exact queues_setSame hconnection (connection.proceed_queue true next) rfl
  | acknowledge hstage =>
      rw [hquiet (by simp [hstage])]
      exact queues_setSame hconnection (connection.sendEnvelope_queue _) rfl
  | unregister hstage =>
      rw [hquiet (by simp [hstage])]
      exact leave_queues hconnection now
  | close hstage | closeEmptied subscription hstage =>
      rw [hquiet (by simp [hstage])]
      exact queues_setSame hconnection rfl rfl
  | closeSubscription subscription hstage =>
      rw [hquiet (by simp [hstage])]
      refine queues_setSame hconnection rfl ?_
      unfold Cluster.queues
      rw [closeSubscription_connections]

/-- Subscriptions deliver room messages only. -/
def DeliversTagged (cluster : Cluster Bytes) : Prop :=
  ∀ id subscription, cluster.subscriptions id = some subscription →
    ∀ message progress, subscription.delivery = some (message, progress) →
      message.tag.isSome = true

theorem DeliversTagged.of_subscriptions (h : cluster.DeliversTagged)
    (hsame : after.subscriptions = cluster.subscriptions) : after.DeliversTagged := by
  unfold DeliversTagged
  rw [hsame]
  exact h

theorem DeliversTagged.setSubscription (h : cluster.DeliversTagged) {id : SubId}
    {subscription : Subscription Bytes}
    (hdelivery : ∀ message progress, subscription.delivery = some (message, progress) →
      message.tag.isSome = true) :
    (cluster.setSubscription id subscription).DeliversTagged := by
  intro other found hfound
  rcases setSubscription_cases cluster id subscription other found hfound with
    ⟨-, rfl⟩ | ⟨-, hold⟩
  · exact hdelivery
  · exact h other found hold

theorem DeliversTagged.register (h : cluster.DeliversTagged) (id : ConnId)
    (connection : Connection Bytes) (subscribed : Bool) (now : Backend.Instant) :
    (cluster.register codec id connection subscribed now).DeliversTagged := by
  unfold Cluster.register
  dsimp only
  split
  next => exact h.of_subscriptions rfl
  next =>
    split
    next =>
      have hnew : (cluster.subscribe connection.node
          connection.client.documentId).DeliversTagged := by
        refine DeliversTagged.of_subscriptions (h.setSubscription ?_) rfl
        simp
      exact hnew.of_subscriptions rfl
    next => exact h.of_subscriptions rfl

theorem DeliversTagged.run (h : cluster.DeliversTagged) {id : ConnId}
    {connection : Connection Bytes} {choice : ConnId} {accepted : Bool} {now : Backend.Instant}
    (hrun : cluster.run codec id connection choice accepted now = some after) :
    after.DeliversTagged := by
  cases run_cases codec cluster hrun with
  | broadcast publication progress next moved result _ hadvance =>
      refine h.of_subscriptions ?_
      rw [modifyConnection_subscriptions]
      exact advanceBroadcast_subscriptions hadvance
  | unregister =>
      unfold Cluster.leave
      dsimp only
      split
      all_goals exact h.of_subscriptions rfl
  | closeSubscription subscription =>
      have hclosed : (cluster.closeSubscription subscription).DeliversTagged := by
        unfold Cluster.closeSubscription
        split
        next => exact h
        next found hfound => exact h.setSubscription (h subscription found hfound)
      exact hclosed.of_subscriptions rfl
  | accept | refuse | acknowledge | close | closeEmptied => exact h.of_subscriptions rfl

theorem DeliversTagged.step (h : cluster.DeliversTagged)
    (hstep : Cluster.step codec cluster event = some after) : after.DeliversTagged := by
  cases step_cases codec cluster hstep with
  | connect | disconnect | write | stopWriting => exact h.of_subscriptions rfl
  | register id subscribed now connection => exact h.register id connection subscribed now
  | frame id frame now connection =>
      unfold Cluster.readFrame
      split
      all_goals exact h.of_subscriptions rfl
  | run id choice accepted now connection _ _ hrun => exact h.run hrun
  | receive id subscription entry =>
      apply h.setSubscription
      intro message progress hdecode
      obtain ⟨decoded, -, hdecode⟩ := Option.bind_eq_some_iff.mp hdecode
      split at hdecode
      next => cases hdecode
      next =>
        obtain ⟨bytes, -, hmessage⟩ := Option.bind_eq_some_iff.mp hdecode
        cases hmessage
        rfl
  | deliver id choice subscription message progress moved result hsubscription hdelivery
      hadvance =>
      have hmoved : moved.DeliversTagged :=
        h.of_subscriptions (advanceBroadcast_subscriptions hadvance)
      apply hmoved.setSubscription
      intro found rest hfound
      obtain ⟨next, -, hpair⟩ := Option.map_eq_some_iff.mp hfound
      cases hpair
      exact h id subscription hsubscription message progress hdelivery
  | forward id subscription hsubscription | stop id subscription hsubscription
  | exit id subscription hsubscription => exact h.setSubscription (h id subscription hsubscription)

/-- What one step does to the queues of the clients. -/
theorem step_queues (htagged : cluster.DeliversTagged)
    (hstep : Cluster.step codec cluster event = some after) :
    after.queues = match cluster.writing event with
      | none => cluster.pushed (cluster.offering event)
      | some (id, message) => Function.update cluster.queues id ((cluster.queues id).pop message)
    := by
  cases step_cases codec cluster hstep with
  | connect id node client hnone =>
      rw [queues_setConnection]
      apply Function.update_eq_self_iff.mpr
      simp [queues, hnone, Connection.queue, Connection.fresh, tagged]
  | register id subscribed now connection hconnection =>
      exact register_queues hconnection subscribed now
  | frame id frame now connection hconnection =>
      unfold Cluster.readFrame
      split
      next => exact queues_setSame hconnection (connection.sendEnvelope_queue _) rfl
      next => exact queues_setSame hconnection (connection.publish_queue _ _ _) rfl
  | disconnect id connection hconnection =>
      refine queues_setSame hconnection ?_ rfl
      split <;> rfl
  | run id choice accepted now connection _ hconnection hrun => exact run_queues hconnection hrun
  | write id connection message rest hconnection _ hsend =>
      have hwriting : cluster.writing (.write id) = some (id, message) := by
        simp [writing, hconnection, hsend]
      rw [hwriting, queues_setConnection]
      dsimp only
      rw [queues_eq hconnection]
      congr 1
      cases htag : message.tag with
      | none => simp [Connection.queue, Queue.pop, tagged, hsend, htag]
      | some tag => simp [Connection.queue, Queue.pop, tagged, hsend, htag]
  | stopWriting id connection hconnection => exact queues_setSame hconnection rfl rfl
  | deliver id choice subscription message progress moved result hsubscription hdelivery
      hadvance =>
      have hoffering : cluster.offering (.deliver id choice) =
          cluster.offers choice message progress := by
        simp [offering, hsubscription, hdelivery]
      have hmoved := advanceBroadcast_queues
        (htagged id subscription hsubscription message progress hdelivery) hadvance
      dsimp only [writing]
      rw [hoffering, ← hmoved]
      rfl
  | forward | stop | receive | exit => rfl

/-- `WritePump` takes the oldest room message out of the channel, or another message. -/
theorem waiting_of_writing {id : ConnId} {message : Message Bytes}
    (hwriting : cluster.writing event = some (id, message)) (htag : message.tag.isSome = true) :
    (cluster.queues id).waiting = message :: (cluster.queues id).waiting.tail := by
  cases event with
  | write writer =>
      obtain ⟨connection, hconnection, hwriting⟩ := Option.bind_eq_some_iff.mp hwriting
      obtain ⟨found, hhead, hpair⟩ := Option.map_eq_some_iff.mp hwriting
      cases hpair
      rw [queues_eq hconnection]
      obtain ⟨rest, hsend⟩ := List.head?_eq_some_iff.mp hhead
      simp [Connection.queue, tagged, hsend, htag]
  | _ => cases hwriting

end Cluster

/-! ## The socket -/

/-- What happens on the socket of one client. -/
structure Socket (Bytes : Type) where
  /-- The room messages that broadcasts have offered to the client. -/
  offered : List (Message Bytes)
  /-- The room messages that `WritePump` has written. -/
  written : List (Message Bytes)
  /-- A broadcast has found the `Send` channel full. -/
  missed : Bool
  /-- `Conn.Close()` has been called. -/
  closed : Bool

namespace Socket

def fresh : Socket Bytes where
  offered := []
  written := []
  missed := false
  closed := false

def offer (socket : Socket Bytes) (message : Message Bytes) (slow : Bool) : Socket Bytes :=
  { socket with
    offered := socket.offered ++ [message]
    missed := socket.missed || slow }

/-- Nothing gets onto a connection that is closed. -/
def write (socket : Socket Bytes) (message : Message Bytes) : Socket Bytes :=
  if socket.closed = false ∧ message.tag.isSome then
    { socket with written := socket.written ++ [message] }
  else socket

/-- The client has had the oldest of the messages it was offered, in their order. -/
structure Sound (socket : Socket Bytes) (queue : Queue Bytes) : Prop where
  written : socket.written <+: socket.offered
  waiting : socket.closed = false → socket.written ++ queue.waiting = queue.taken
  taken : socket.closed = false → queue.taken <+: socket.offered
  all : socket.closed = false → socket.missed = false → queue.taken = socket.offered

theorem fresh_sound : (fresh : Socket Bytes).Sound ⟨[], []⟩ where
  written := List.prefix_rfl
  waiting _ := rfl
  taken _ := List.prefix_rfl
  all _ _ := rfl

variable {socket : Socket Bytes} {queue : Queue Bytes}

/-- A full channel makes the client miss the message. -/
theorem Sound.offerSlow (h : socket.Sound queue) (message : Message Bytes) :
    (socket.offer message true).Sound queue where
  written := h.written.trans (List.prefix_append _ _)
  waiting hopen := h.waiting hopen
  taken hopen := (h.taken hopen).trans (List.prefix_append _ _)
  all hopen hmissed := by simp [offer] at hmissed

/-- A client that has missed nothing takes the message. -/
theorem Sound.offerFast (h : socket.Sound queue) (message : Message Bytes)
    (hguard : socket.missed = true → socket.closed = true) :
    (socket.offer message false).Sound (queue.push message) := by
  have hall : socket.closed = false → queue.taken = socket.offered := by
    intro hopen
    refine h.all hopen ?_
    by_contra hmissed
    rw [hguard (Bool.eq_true_of_not_eq_false hmissed)] at hopen
    cases hopen
  refine ⟨h.written.trans (List.prefix_append _ _), ?_, ?_, ?_⟩
  · intro hopen
    have hwaiting := h.waiting hopen
    simp [offer, Queue.push, ← hwaiting]
  · intro hopen
    simp [offer, Queue.push, hall hopen]
  · intro hopen hmissed
    simp [offer, Queue.push, hall hopen]

theorem Sound.write (h : socket.Sound queue) {message : Message Bytes}
    (hwaiting : message.tag.isSome = true → queue.waiting = message :: queue.waiting.tail) :
    (socket.write message).Sound (queue.pop message) := by
  unfold Socket.write Queue.pop
  split
  next hwrite =>
    obtain ⟨hopen, htag⟩ := hwrite
    have hqueue : socket.written ++ [message] ++ queue.waiting.tail = queue.taken := by
      rw [List.append_assoc, List.singleton_append, ← hwaiting htag, h.waiting hopen]
    refine ⟨?_, fun _ => ?_, fun _ => h.taken hopen, h.all⟩
    · exact (List.prefix_append _ _).trans (hqueue ▸ h.taken hopen)
    · simpa [htag] using hqueue
  next hskip =>
    refine ⟨h.written, fun hopen => ?_, h.taken, h.all⟩
    have htag : ¬ message.tag.isSome = true := fun htag => hskip ⟨hopen, htag⟩
    simpa [htag] using h.waiting hopen

theorem Sound.close (h : socket.Sound queue) : { socket with closed := true }.Sound queue where
  written := h.written
  waiting hopen := by cases hopen
  taken hopen := by cases hopen
  all hopen := by cases hopen

end Socket

/-- The cluster with the sockets of its clients. -/
structure Sockets (Bytes : Type) where
  cluster : Cluster Bytes
  socket : ConnId → Socket Bytes

namespace Sockets

inductive Event (Bytes : Type)
  | cluster (event : Cluster.Event Bytes)
  /-- `Close` has closed `Done` and now closes the connection. -/
  | closeConn (id : ConnId)

variable (codec : Codec Bytes) (sockets : Sockets Bytes)

/-- The sockets after an event of the cluster. -/
def record (event : Cluster.Event Bytes) : ConnId → Socket Bytes :=
  match sockets.cluster.writing event, sockets.cluster.offering event with
  | some (id, message), _ =>
      Function.update sockets.socket id ((sockets.socket id).write message)
  | none, some (client, message) =>
      let slow := (sockets.cluster.connections client).any Connection.isSlow
      Function.update sockets.socket client ((sockets.socket client).offer message slow)
  | none, none => sockets.socket

def step : Event Bytes → Option (Sockets Bytes)
  | .cluster event =>
      (sockets.cluster.step codec event).map fun after => ⟨after, sockets.record event⟩
  | .closeConn id =>
      if (sockets.cluster.connections id).any Connection.done then
        some { sockets with
          socket := Function.update sockets.socket id { sockets.socket id with closed := true } }
      else none

/-- A cluster without connections. -/
def system : TransitionSystem (Sockets Bytes) (Event Bytes) where
  init sockets := sockets = ⟨.empty, fun _ => .fresh⟩
  step := step codec

/-- An offer to a client that has missed a message finds its channel full, or its
connection closed. -/
def NoneAfterMiss : Event Bytes → Prop
  | .cluster event =>
      match sockets.cluster.offering event with
      | none => True
      | some (client, _) => (sockets.socket client).missed = true →
          (sockets.cluster.connections client).any Connection.isSlow = true ∨
            (sockets.socket client).closed = true
  | .closeConn _ => True

instance (sockets : Sockets Bytes) (event : Event Bytes) :
    Decidable (sockets.NoneAfterMiss event) := by
  cases event with
  | closeConn id => exact .isTrue trivial
  | cluster event =>
      unfold NoneAfterMiss
      dsimp only
      split
      · exact .isTrue trivial
      · infer_instance

variable {codec : Codec Bytes} {sockets : Sockets Bytes}

structure Sound (sockets : Sockets Bytes) : Prop where
  tagged : sockets.cluster.DeliversTagged
  socket : ∀ id, (sockets.socket id).Sound (sockets.cluster.queues id)

theorem Sound.update (h : sockets.Sound) {id : ConnId} {socket : Socket Bytes}
    {queue : Queue Bytes} (hsound : socket.Sound queue) (other : ConnId) :
    (Function.update sockets.socket id socket other).Sound
      (Function.update sockets.cluster.queues id queue other) := by
  by_cases heq : other = id
  · subst heq
    rw [Function.update_self, Function.update_self]
    exact hsound
  · rw [Function.update_of_ne heq, Function.update_of_ne heq]
    exact h.socket other

/-- Only the socket changes. -/
theorem Sound.updateSocket (h : sockets.Sound) {id : ConnId} {socket : Socket Bytes}
    (hsound : socket.Sound (sockets.cluster.queues id)) (other : ConnId) :
    (Function.update sockets.socket id socket other).Sound (sockets.cluster.queues other) := by
  have hupdate : (Function.update sockets.socket id socket other).Sound
      (Function.update sockets.cluster.queues id (sockets.cluster.queues id) other) :=
    h.update hsound other
  rwa [Function.update_eq_self] at hupdate

theorem Sound.step (h : sockets.Sound) {event : Event Bytes} {after : Sockets Bytes}
    (hguard : sockets.NoneAfterMiss event) (hstep : sockets.step codec event = some after) :
    after.Sound := by
  cases event with
  | closeConn id =>
      simp only [Sockets.step, Option.ite_none_right_eq_some, Option.some.injEq] at hstep
      obtain ⟨-, rfl⟩ := hstep
      exact ⟨h.tagged, h.updateSocket (h.socket id).close⟩
  | cluster event =>
      obtain ⟨cluster, hcluster, hafter⟩ := Option.map_eq_some_iff.mp hstep
      cases hafter
      refine ⟨h.tagged.step hcluster, fun id => ?_⟩
      dsimp only
      rw [Cluster.step_queues h.tagged hcluster]
      unfold record
      dsimp only [NoneAfterMiss] at hguard
      cases hwriting : sockets.cluster.writing event with
      | some written =>
          obtain ⟨writer, message⟩ := written
          exact h.update ((h.socket writer).write (Cluster.waiting_of_writing hwriting)) id
      | none =>
          cases hoffering : sockets.cluster.offering event with
          | none => exact h.socket id
          | some offered =>
              obtain ⟨client, message⟩ := offered
              rw [hoffering] at hguard
              dsimp only [Cluster.pushed]
              cases hslow : (sockets.cluster.connections client).any Connection.isSlow with
              | true => exact h.updateSocket ((h.socket client).offerSlow message) id
              | false =>
                  refine h.update ((h.socket client).offerFast message ?_) id
                  intro hmissed
                  simpa [hslow] using hguard hmissed

/-- In every run in which a client that has missed a message takes no other before its
connection is closed, what is written to it has no gap. -/
theorem written_without_gap (hreach : (system codec).ReachableUnder NoneAfterMiss sockets)
    (id : ConnId) : (sockets.socket id).written <+: (sockets.socket id).offered := by
  have hsound : sockets.Sound := by
    refine hreach.invariant (system codec) Sound ?_ ?_
    · intro state hinit
      cases hinit
      exact ⟨by simp [Cluster.DeliversTagged, Cluster.empty], fun id => Socket.fresh_sound⟩
    · exact fun state event after _ h hguard hstep => h.step hguard hstep
  exact (hsound.socket id).written

/-- Two clients of one room, one with a channel for a single message, which its own
join event fills. An edit of the other client finds it full. -/
def slowRun : List (Cluster.Event (Envelope ⊕ EnvelopeMessage)) :=
  Cluster.enter 0 "node-a" ⟨1, "owner", 7, "OWNER", 64⟩ ++
    [.connect 1 "node-a" ⟨2, "editor", 7, "EDITOR", 1⟩, .register 1 true 0, .run 1 0 true 0,
      .run 1 0 true 0, .run 1 1 true 0, .run 1 0 true 0, .run 1 0 true 0, .run 1 0 true 0,
      .frame 0 (.inl ⟨.docChange, 0, "missed", 0, 0, none⟩) 0, .run 0 0 true 0, .run 0 0 true 0,
      .run 0 1 true 0, .write 1]

theorem written_without_gap_slow : ∃ sockets : Sockets (Envelope ⊕ EnvelopeMessage),
    (system plainCodec).ReachableUnder NoneAfterMiss sockets ∧
      (sockets.socket 1).written <+: (sockets.socket 1).offered ∧
      ((sockets.socket 1).missed = true ∧ (sockets.socket 1).written.length = 1) := by
  obtain ⟨sockets, hreach, hmissed⟩ := (system plainCodec).exists_reachable_of_exec
    (.init rfl : (system plainCodec).ReachableUnder NoneAfterMiss ⟨.empty, fun _ => .fresh⟩)
    (slowRun.map .cluster) (fun sockets => (sockets.socket 1).missed = true ∧
      (sockets.socket 1).written.length = 1) (by decide +kernel)
  exact ⟨sockets, hreach, written_without_gap hreach 1, of_decide_eq_true hmissed⟩

/-- Before the sender of the missed edit closes the slow client, `WritePump` has made
room for the next edit, here the client's own. -/
def gapRun : List (Cluster.Event (Envelope ⊕ EnvelopeMessage)) :=
  slowRun ++ [.frame 1 (.inl ⟨.docChange, 0, "next", 0, 0, none⟩) 0, .run 1 0 true 0,
    .run 1 1 true 0, .write 1]

theorem missed_edit_leaves_gap :
    ¬ ∀ sockets : Sockets (Envelope ⊕ EnvelopeMessage), (system plainCodec).Reachable sockets →
      ∀ id, (sockets.socket id).written <+: (sockets.socket id).offered := by
  intro hclaim
  obtain ⟨sockets, hreach, hgap⟩ := (system plainCodec).exists_reachable_of_exec
    (.init rfl : (system plainCodec).Reachable ⟨.empty, fun _ => .fresh⟩)
    (gapRun.map .cluster)
    (fun sockets => (sockets.socket 1).written.map Message.tag = [some ⟨1, 0⟩, some ⟨1, 1⟩] ∧
      (sockets.socket 1).offered.map Message.tag = [some ⟨1, 0⟩, some ⟨0, 1⟩, some ⟨1, 1⟩])
    (by decide +kernel)
  obtain ⟨hwritten, hoffered⟩ := of_decide_eq_true hgap
  have htags := (hclaim sockets hreach 1).map Message.tag
  rw [hwritten, hoffered] at htags
  exact absurd htags (by decide)

end Sockets

end CollabEditor.Hub
