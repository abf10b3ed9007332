import CollabEditor.Hub.Connections

/-! # What a client in a room receives

A step gets past offering an envelope to a client of the room only by putting it into
the client's queue, or by starting to drop the client. Who registers later was not in
the room when the broadcast looked.
-/

namespace CollabEditor.Hub

open Foundation
open Backend (DocumentId Instant)

variable {Bytes : Type}

/-- A subscriber can pass on what was published. -/
def Codec.Forwards (codec : Codec Bytes) : Prop :=
  ∀ message payload, codec.marshalMessage message = some payload →
    ∃ decoded bytes, codec.unmarshalMessage payload = some decoded ∧
      decoded.originNodeId = message.originNodeId ∧ codec.marshal decoded.envelope = some bytes

theorem plainCodec_forwards : plainCodec.Forwards := by
  intro message payload hmarshal
  cases hmarshal
  exact ⟨message, _, rfl, rfl, rfl⟩

/-- The client is going to be dropped as a slow one. -/
def Progress.drops (client : ConnId) : Progress → Bool
  | .lookup => false
  | .offering _ slow => client ∈ slow

theorem Subscription.offered_le (subscription : Subscription Bytes) (client : ConnId) :
    subscription.offered client ≤ subscription.consumed := by
  unfold Subscription.offered
  split
  · exact Nat.sub_le _ _
  · exact le_rfl

namespace Cluster

variable {codec : Codec Bytes} {cluster : Cluster Bytes} {client : ConnId}

/-- The room of the client contains it. -/
def InRoom (cluster : Cluster Bytes) (client : ConnId) : Prop :=
  ∃ target room, cluster.connections client = some target ∧
    cluster.rooms target.node target.client.documentId = some room ∧ client ∈ room.clients

/-- The room is done with offering the envelope to the client: its sender is, or, if that
is a connection of another node, the client's subscription. -/
def passed (cluster : Cluster Bytes) (client : ConnId) (tag : Tag) : Bool :=
  match cluster.connections client, cluster.connections tag.sender with
  | some target, some sender =>
      if target.node = sender.node then
        target.client.documentId = sender.client.documentId ∧
          tag.number < sender.view.offered client
      else
        match target.subscription.bind cluster.subscriptions with
        | some s =>
            ((cluster.channels (channel s.documentId)).take (s.offered client)).any (·.tag = tag)
        | none => false
  | _, _ => false

/-- The envelope is in the client's queue, or has been. -/
def Received (cluster : Cluster Bytes) (client : ConnId) (tag : Tag) : Prop :=
  ∃ target, cluster.connections client = some target ∧
    ∃ message ∈ target.received, message.tag = some tag

/-- The client is closed, or a broadcast is going to close it. -/
def Dropped (cluster : Cluster Bytes) (client : ConnId) : Prop :=
  (∃ target, cluster.connections client = some target ∧ target.done = true) ∨
    (∃ id connection progress, cluster.connections id = some connection ∧
      connection.stage.progress = some progress ∧ progress.drops client = true) ∨
    ∃ i s message progress, cluster.subscriptions i = some s ∧
      s.delivery = some (message, progress) ∧ progress.drops client = true

/-- What a step does for a client in its room. -/
structure Serves (client : ConnId) (before after : Cluster Bytes) : Prop where
  passed : ∀ tag, after.passed client tag = true →
    before.passed client tag = true ∨ after.Received client tag ∨ after.Dropped client
  queue : ∀ target, before.connections client = some target → ∃ new,
    after.connections client = some new ∧ target.received <+: new.received
  dropped : before.Dropped client → after.Dropped client

theorem any_take_iff {α : Type} {list : List α} {count : Nat} {check : α → Bool} :
    (list.take count).any check = true ↔
      ∃ index value, index < count ∧ list[index]? = some value ∧ check value = true := by
  rw [List.any_eq_true]
  constructor
  · rintro ⟨value, hvalue, hcheck⟩
    obtain ⟨index, hindex⟩ := List.mem_iff_getElem?.mp hvalue
    rw [List.getElem?_take, Option.ite_none_right_eq_some] at hindex
    exact ⟨index, value, hindex.1, hindex.2, hcheck⟩
  · rintro ⟨index, value, hindex, hvalue, hcheck⟩
    refine ⟨value, List.mem_iff_getElem?.mpr ⟨index, ?_⟩, hcheck⟩
    rw [List.getElem?_take, if_pos hindex, hvalue]

theorem passed_iff {tag : Tag} : cluster.passed client tag = true ↔
    ∃ target sender, cluster.connections client = some target ∧
      cluster.connections tag.sender = some sender ∧
      (target.node = sender.node ∧ target.client.documentId = sender.client.documentId ∧
          tag.number < sender.view.offered client ∨
        target.node ≠ sender.node ∧ ∃ i s index entry, target.subscription = some i ∧
          cluster.subscriptions i = some s ∧ index < s.offered client ∧
          (cluster.channels (channel s.documentId))[index]? = some entry ∧ entry.tag = tag) := by
  constructor
  · intro hpassed
    unfold Cluster.passed at hpassed
    split at hpassed
    next target sender htarget hsender =>
      refine ⟨target, sender, htarget, hsender, ?_⟩
      split at hpassed
      next hnode => exact .inl ⟨hnode, of_decide_eq_true hpassed⟩
      next hnode =>
        split at hpassed
        next s hs =>
          obtain ⟨i, hi, hs⟩ := Option.bind_eq_some_iff.mp hs
          obtain ⟨index, entry, hindex, hentry, htag⟩ := any_take_iff.mp hpassed
          exact .inr ⟨hnode, i, s, index, entry, hi, hs, hindex, hentry, of_decide_eq_true htag⟩
        next => cases hpassed
    next => cases hpassed
  · rintro ⟨target, sender, htarget, hsender, ⟨hnode, hlocal⟩ |
      ⟨hnode, i, s, index, entry, hi, hs, hindex, hentry, htag⟩⟩
    · simp only [Cluster.passed, htarget, hsender, if_pos hnode]
      exact decide_eq_true hlocal
    · simp only [Cluster.passed, htarget, hsender, if_neg hnode, hi, Option.bind_some, hs]
      exact any_take_iff.mpr ⟨index, entry, hindex, hentry, decide_eq_true htag⟩

/-- What a client has in its queue stays there when a goroutine takes a step. -/
theorem received_step {id : ConnId} {old new : Connection Bytes}
    (hold : cluster.connections id = some old) (hreceived : old.received <+: new.received)
    {message : Message Bytes}
    (h : ∃ target, cluster.connections client = some target ∧ message ∈ target.received) :
    ∃ target, (cluster.setConnection id new).connections client = some target ∧
      message ∈ target.received := by
  obtain ⟨target, htarget, hmessage⟩ := h
  by_cases heq : client = id
  · subst heq
    cases hold.symm.trans htarget
    exact ⟨new, Function.update_self .., hreceived.subset hmessage⟩
  · exact ⟨target, (Function.update_of_ne heq ..).trans htarget, hmessage⟩

/-- A closed client stays closed. -/
theorem done_step {id : ConnId} {old new : Connection Bytes}
    (hold : cluster.connections id = some old) (hdone : old.done = true → new.done = true)
    (h : ∃ target, cluster.connections client = some target ∧ target.done = true) :
    ∃ target, (cluster.setConnection id new).connections client = some target ∧
      target.done = true := by
  obtain ⟨target, htarget, htargetDone⟩ := h
  by_cases heq : client = id
  · subst heq
    cases hold.symm.trans htarget
    exact ⟨new, Function.update_self .., hdone htargetDone⟩
  · exact ⟨target, (Function.update_of_ne heq ..).trans htarget, htargetDone⟩

namespace Serves

theorem refl (client : ConnId) (cluster : Cluster Bytes) : Serves client cluster cluster :=
  ⟨fun _ h => .inl h, fun target htarget => ⟨target, htarget, List.prefix_rfl⟩, fun h => h⟩

theorem received {before after : Cluster Bytes} (h : Serves client before after) {tag : Tag}
    (hreceived : before.Received client tag) : after.Received client tag := by
  obtain ⟨target, htarget, message, hmessage, htag⟩ := hreceived
  obtain ⟨new, hnew, hprefix⟩ := h.queue target htarget
  exact ⟨new, hnew, message, hprefix.subset hmessage, htag⟩

theorem trans {first second third : Cluster Bytes} (hfirst : Serves client first second)
    (hsecond : Serves client second third) : Serves client first third where
  passed tag h := by
    rcases hsecond.passed tag h with h | h
    · rcases hfirst.passed tag h with h | h | h
      · exact .inl h
      · exact .inr (.inl (hsecond.received h))
      · exact .inr (.inr (hsecond.dropped h))
    · exact .inr h
  queue target htarget := by
    obtain ⟨middle, hmiddle, hprefix⟩ := hfirst.queue target htarget
    obtain ⟨new, hnew, hmore⟩ := hsecond.queue middle hmiddle
    exact ⟨new, hnew, hprefix.trans hmore⟩
  dropped h := hsecond.dropped (hfirst.dropped h)

/-- Rooms may have changed, and channels grown. -/
theorem of_same {after : Cluster Bytes} (hlayout : cluster.Layout codec)
    (hconnections : after.connections = cluster.connections)
    (hsubscriptions : after.subscriptions = cluster.subscriptions)
    (hchannels : ∀ name, cluster.channels name <+: after.channels name) :
    Serves client cluster after where
  passed tag h := by
    obtain ⟨target, sender, htarget, hsender, hcase⟩ := passed_iff.mp h
    rw [hconnections] at htarget hsender
    refine .inl (passed_iff.mpr ⟨target, sender, htarget, hsender, hcase.imp_right ?_⟩)
    rintro ⟨hnode, i, s, index, entry, hi, hs, hindex, hentry, htag⟩
    rw [hsubscriptions] at hs
    refine ⟨hnode, i, s, index, entry, hi, hs, hindex, ?_, htag⟩
    -- what has been consumed was in the channel before
    have hbound : index < (cluster.channels (channel s.documentId)).length :=
      Nat.lt_of_lt_of_le hindex ((s.offered_le client).trans (hlayout.consumed_length i s hs))
    obtain ⟨more, hmore⟩ := hchannels (channel s.documentId)
    rw [← hmore, List.getElem?_append_left hbound] at hentry
    exact hentry
  queue target htarget := ⟨target, hconnections ▸ htarget, List.prefix_rfl⟩
  dropped h := by
    rcases h with ⟨target, htarget, hdone⟩ | ⟨id, connection, progress, hconnection, hdrops⟩ |
      ⟨i, s, message, progress, hs, hdrops⟩
    · exact .inl ⟨target, hconnections ▸ htarget, hdone⟩
    · exact .inr (.inl ⟨id, connection, progress, hconnections ▸ hconnection, hdrops⟩)
    · exact .inr (.inr ⟨i, s, message, progress, hsubscriptions ▸ hs, hdrops⟩)

/-- A goroutine takes a step. Past offering an envelope it has put it into the client's
queue, if the client is in its room. -/
theorem setConnection {id : ConnId} {old new : Connection Bytes}
    (hold : cluster.connections id = some old) (hnode : new.node = old.node)
    (hclient : new.client = old.client)
    (hsubscription : id = client → new.subscription = old.subscription)
    (hreceived : old.received <+: new.received) (hdone : old.done = true → new.done = true)
    (hdrops : ∀ progress, old.stage.progress = some progress → progress.drops client = true →
      (cluster.setConnection id new).Dropped client)
    (hoffered : ∀ target, cluster.connections client = some target → target.node = old.node →
      target.client.documentId = old.client.documentId → ∀ number,
      old.view.offered client ≤ number → number < new.view.offered client →
        (cluster.setConnection id new).Received client ⟨id, number⟩ ∨
          (cluster.setConnection id new).Dropped client) :
    Serves client cluster (cluster.setConnection id new) := by
  have hself : (cluster.setConnection id new).connections id = some new :=
    Function.update_self ..
  have hother : ∀ other, other ≠ id →
      (cluster.setConnection id new).connections other = cluster.connections other :=
    fun other hne => Function.update_of_ne hne ..
  have hback : ∀ other found, (cluster.setConnection id new).connections other = some found →
      ∃ before, cluster.connections other = some before ∧ found.node = before.node ∧
        found.client = before.client ∧
        (other = client → found.subscription = before.subscription) := by
    intro other found hfound
    by_cases heq : other = id
    · subst heq
      cases hself.symm.trans hfound
      exact ⟨old, hold, hnode, hclient, hsubscription⟩
    · exact ⟨found, (hother other heq).symm.trans hfound, rfl, rfl, fun _ => rfl⟩
  refine ⟨fun tag h => ?_, fun target htarget => ?_, fun h => ?_⟩
  · obtain ⟨after, sent, hafter, hsent, hcase⟩ := passed_iff.mp h
    obtain ⟨target, htarget, htargetNode, htargetClient, htargetSubscription⟩ :=
      hback client after hafter
    obtain ⟨sender, hsender, hsenderNode, hsenderClient, -⟩ := hback tag.sender sent hsent
    rw [htargetNode, hsenderNode, htargetClient, hsenderClient, htargetSubscription rfl] at hcase
    rcases hcase with ⟨hsame, hdocument, hnumber⟩ | hremote
    · by_cases hbefore : tag.number < sender.view.offered client
      · exact .inl (passed_iff.mpr ⟨target, sender, htarget, hsender,
          .inl ⟨hsame, hdocument, hbefore⟩⟩)
      · have hid : tag.sender = id := by
          by_contra hne
          rw [hother tag.sender hne, hsender] at hsent
          cases hsent
          exact hbefore hnumber
        subst hid
        cases hself.symm.trans hsent
        cases hold.symm.trans hsender
        exact .inr (hoffered target htarget hsame hdocument tag.number (Nat.le_of_not_lt hbefore)
          hnumber)
    · exact .inl (passed_iff.mpr ⟨target, sender, htarget, hsender, .inr hremote⟩)
  · by_cases heq : client = id
    · subst heq
      cases hold.symm.trans htarget
      exact ⟨new, hself, hreceived⟩
    · exact ⟨target, (hother client heq).trans htarget, List.prefix_rfl⟩
  · rcases h with hclosed | ⟨other, connection, progress, hconnection, hprogress, hprogressDrops⟩ |
      hdelivery
    · exact .inl (done_step hold hdone hclosed)
    · by_cases heq : other = id
      · subst heq
        cases hold.symm.trans hconnection
        exact hdrops progress hprogress hprogressDrops
      · exact .inr (.inl ⟨other, connection, progress, (hother other heq).trans hconnection,
          hprogress, hprogressDrops⟩)
    · exact .inr (.inr hdelivery)

/-- A goroutine that is not broadcasting takes a step. -/
theorem setIdle {id : ConnId} {old new : Connection Bytes}
    (hold : cluster.connections id = some old) (hidle : old.stage.progress = none)
    (hnode : new.node = old.node) (hclient : new.client = old.client)
    (hsubscription : id = client → new.subscription = old.subscription)
    (hreceived : old.received <+: new.received) (hdone : old.done = true → new.done = true)
    (hoffered : new.view.offered client ≤ old.sent.length) :
    Serves client cluster (cluster.setConnection id new) := by
  apply setConnection hold hnode hclient hsubscription hreceived hdone
  · intro progress hprogress
    cases hidle.symm.trans hprogress
  · intro target _ _ _ number hle hlt
    have hall : old.view.offered client = old.sent.length := by
      simp [View.offered, Connection.view, hidle]
    omega

/-- The goroutine stays where it is. -/
theorem setSame {id : ConnId} {old new : Connection Bytes}
    (hold : cluster.connections id = some old) (hview : new.view = old.view)
    (hclient : new.client = old.client) (hreceived : old.received <+: new.received)
    (hdone : old.done = true → new.done = true) :
    Serves client cluster (cluster.setConnection id new) := by
  have hstage : new.stage = old.stage := congrArg View.stage hview
  apply setConnection hold (congrArg View.node hview) hclient
    (fun _ => congrArg View.subscription hview) hreceived hdone
  · intro progress hprogress hdrops
    exact .inr (.inl ⟨id, new, progress, Function.update_self .., hstage ▸ hprogress, hdrops⟩)
  · intro target _ _ _ number hle hlt
    rw [hview] at hlt
    omega

theorem modifyConnection (cluster : Cluster Bytes) (id : ConnId)
    {change : Connection Bytes → Connection Bytes}
    (hview : ∀ connection, (change connection).view = connection.view)
    (hclient : ∀ connection, (change connection).client = connection.client)
    (hreceived : ∀ connection, connection.received <+: (change connection).received)
    (hdone : ∀ connection, connection.done = true → (change connection).done = true) :
    Serves client cluster (cluster.modifyConnection id change) := by
  unfold Cluster.modifyConnection
  split
  next => exact refl client cluster
  next connection hconnection =>
    exact setSame hconnection (hview connection) (hclient connection) (hreceived connection)
      (hdone connection)

/-- A subscription takes a step. -/
theorem setSubscription {id : SubId} {old new : Subscription Bytes}
    (hold : cluster.subscriptions id = some old) (hdocument : new.documentId = old.documentId)
    (hdrops : ∀ message progress, old.delivery = some (message, progress) →
      progress.drops client = true → (cluster.setSubscription id new).Dropped client)
    (hoffered : ∀ target, cluster.connections client = some target →
      target.subscription = some id → ∀ index entry, old.offered client ≤ index →
      index < new.offered client →
      (cluster.channels (channel old.documentId))[index]? = some entry →
      (∀ sender, cluster.connections entry.tag.sender = some sender →
        target.node ≠ sender.node) →
        (cluster.setSubscription id new).Received client entry.tag ∨
          (cluster.setSubscription id new).Dropped client) :
    Serves client cluster (cluster.setSubscription id new) := by
  have hself : (cluster.setSubscription id new).subscriptions id = some new :=
    Function.update_self ..
  have hother : ∀ other, other ≠ id →
      (cluster.setSubscription id new).subscriptions other = cluster.subscriptions other :=
    fun other hne => Function.update_of_ne hne ..
  refine ⟨fun tag h => ?_, fun target htarget => ⟨target, htarget, List.prefix_rfl⟩, fun h => ?_⟩
  · obtain ⟨target, sender, htarget, hsender, hcase⟩ := passed_iff.mp h
    rcases hcase with hlocal | ⟨hnode, i, s, index, entry, hi, hs, hindex, hentry, htag⟩
    · exact .inl (passed_iff.mpr ⟨target, sender, htarget, hsender, .inl hlocal⟩)
    · by_cases heq : i = id
      · subst heq
        cases hself.symm.trans hs
        rw [hdocument] at hentry
        by_cases hbefore : index < old.offered client
        · exact .inl (passed_iff.mpr ⟨target, sender, htarget, hsender,
            .inr ⟨hnode, i, old, index, entry, hi, hold, hbefore, hentry, htag⟩⟩)
        · subst htag
          refine .inr (hoffered target htarget hi index entry (Nat.le_of_not_lt hbefore) hindex
            hentry ?_)
          intro found hfound
          cases hsender.symm.trans hfound
          exact hnode
      · exact .inl (passed_iff.mpr ⟨target, sender, htarget, hsender,
          .inr ⟨hnode, i, s, index, entry, hi, (hother i heq).symm.trans hs, hindex, hentry,
            htag⟩⟩)
  · rcases h with hdone | hbroadcast | ⟨i, s, message, progress, hs, hdelivery, hprogress⟩
    · exact .inl hdone
    · exact .inr (.inl hbroadcast)
    · by_cases heq : i = id
      · subst heq
        cases hold.symm.trans hs
        exact hdrops message progress hdelivery hprogress
      · exact .inr (.inr ⟨i, s, message, progress, (hother i heq).trans hs, hdelivery, hprogress⟩)

/-- The subscription delivers what it did. -/
theorem setIdleSubscription {id : SubId} {old new : Subscription Bytes}
    (hold : cluster.subscriptions id = some old) (hdocument : new.documentId = old.documentId)
    (hdelivery : new.delivery = old.delivery) (hconsumed : new.consumed = old.consumed) :
    Serves client cluster (cluster.setSubscription id new) := by
  apply setSubscription hold hdocument
  · intro message progress hprogress hdrops
    exact .inr (.inr ⟨id, new, message, progress, Function.update_self .., hdelivery ▸ hprogress,
      hdrops⟩)
  · intro target _ _ index entry hle hlt
    have hsame : new.offered client = old.offered client := by
      simp only [Subscription.offered, hdelivery, hconsumed]
    omega

/-- A subscription is opened, and it is not the client's. -/
theorem subscribe (hlayout : cluster.Layout codec) {node : NodeId} {documentId : DocumentId}
    (hother : ∀ target, cluster.connections client = some target →
      target.subscription ≠ some cluster.nextSubscription) :
    Serves client cluster (cluster.subscribe node documentId) where
  passed tag h := by
    obtain ⟨target, sender, htarget, hsender, hcase⟩ := passed_iff.mp h
    refine .inl (passed_iff.mpr ⟨target, sender, htarget, hsender, hcase.imp_right ?_⟩)
    rintro ⟨hnode, i, s, index, entry, hi, hs, hindex, hentry, htag⟩
    have hne : i ≠ cluster.nextSubscription := by
      rintro rfl
      exact hother target htarget hi
    exact ⟨hnode, i, s, index, entry, hi, (Function.update_of_ne hne ..).symm.trans hs, hindex,
      hentry, htag⟩
  queue target htarget := ⟨target, htarget, List.prefix_rfl⟩
  dropped h := by
    rcases h with hdone | hbroadcast | ⟨i, s, message, progress, hs, hdelivery⟩
    · exact .inl hdone
    · exact .inr (.inl hbroadcast)
    · have hne : i ≠ cluster.nextSubscription := Nat.ne_of_lt (hlayout.subscription_bound i s hs)
      exact .inr (.inr ⟨i, s, message, progress, (Function.update_of_ne hne ..).trans hs,
        hdelivery⟩)

/-- A connection is opened, and it is not the client's. -/
theorem connect (hlayout : cluster.Layout codec) {id : ConnId}
    (hnone : cluster.connections id = none) (hid : client ≠ id) (node : NodeId) (profile : Client) :
    Serves client cluster (cluster.setConnection id (.fresh node profile)) := by
  have hself : (cluster.setConnection id (.fresh node profile)).connections id =
      some (.fresh node profile) := Function.update_self ..
  have hother : ∀ other, other ≠ id →
      (cluster.setConnection id (.fresh node profile)).connections other =
        cluster.connections other :=
    fun other hne => Function.update_of_ne hne ..
  refine ⟨fun tag h => ?_, fun target htarget => ?_, fun h => ?_⟩
  · obtain ⟨target, sender, htarget, hsender, hcase⟩ := passed_iff.mp h
    rw [hother client hid] at htarget
    by_cases heq : tag.sender = id
    · subst heq
      cases hself.symm.trans hsender
      rcases hcase with ⟨-, -, hnumber⟩ | ⟨-, i, s, index, entry, -, -, -, hentry, htag⟩
      · cases hnumber
      · obtain ⟨v, hv, -⟩ := hlayout.entry _ entry (List.mem_of_getElem? hentry)
        obtain ⟨found, hfound, -⟩ := Option.map_eq_some_iff.mp hv
        rw [htag, hnone] at hfound
        cases hfound
    · rw [hother tag.sender heq] at hsender
      exact .inl (passed_iff.mpr ⟨target, sender, htarget, hsender, hcase⟩)
  · exact ⟨target, (hother client hid).trans htarget, List.prefix_rfl⟩
  · rcases h with ⟨target, htarget, hdone⟩ | ⟨other, connection, progress, hconnection, hdrops⟩ |
      hdelivery
    · exact .inl ⟨target, (hother client hid).trans htarget, hdone⟩
    · have hne : other ≠ id := by
        rintro rfl
        cases hnone.symm.trans hconnection
      exact .inr (.inl ⟨other, connection, progress, (hother other hne).trans hconnection, hdrops⟩)
    · exact .inr (.inr hdelivery)

end Serves

/-! ## A step of a broadcast -/

theorem offer_view (connection : Connection Bytes) (message : Message Bytes) :
    (connection.offer message).view = connection.view := by
  unfold Connection.offer
  split <;> rfl

theorem offer_client (connection : Connection Bytes) (message : Message Bytes) :
    (connection.offer message).client = connection.client := by
  unfold Connection.offer
  split <;> rfl

theorem prefix_offer (connection : Connection Bytes) (message : Message Bytes) :
    connection.received <+: (connection.offer message).received := by
  unfold Connection.offer
  split
  · exact List.prefix_append _ _
  · exact List.prefix_rfl

theorem offer_done (connection : Connection Bytes) (message : Message Bytes) :
    (connection.offer message).done = connection.done := by
  unfold Connection.offer
  split <;> rfl

/-- What a step of a broadcast leaves, as far as the client is concerned. A client that
was to be offered the message still is, has it in its queue, or is a slow one. -/
structure Broadcast (client : ConnId) (member : Prop) (message : Message Bytes)
    (progress : Progress) (before after : Cluster Bytes) (result : Option Progress) : Prop where
  serves : Serves client before after
  connections : ∀ id old, before.connections id = some old → ∃ new,
    after.connections id = some new ∧ new.view = old.view ∧ new.client = old.client
  subscriptions : after.subscriptions = before.subscriptions
  channels : after.channels = before.channels
  drops : progress.drops client = true →
    (∃ target, after.connections client = some target ∧ target.done = true) ∨
      ∃ rest, result = some rest ∧ rest.drops client = true
  pending : (progress = .lookup → member) → progress.pending client = true →
    (∃ rest, result = some rest ∧ (rest.pending client = true ∨ rest.drops client = true)) ∨
      ∃ target, after.connections client = some target ∧ message ∈ target.received

theorem broadcast_modifyConnection {id : ConnId} {change : Connection Bytes → Connection Bytes}
    (hview : ∀ connection, (change connection).view = connection.view)
    (hclient : ∀ connection, (change connection).client = connection.client)
    (other : ConnId) (old : Connection Bytes) (hold : cluster.connections other = some old) :
    ∃ new, (cluster.modifyConnection id change).connections other = some new ∧
      new.view = old.view ∧ new.client = old.client := by
  unfold Cluster.modifyConnection
  split
  next => exact ⟨old, hold, rfl, rfl⟩
  next connection hconnection =>
    by_cases heq : other = id
    · subst heq
      cases hconnection.symm.trans hold
      exact ⟨_, Function.update_self .., hview _, hclient _⟩
    · exact ⟨old, (Function.update_of_ne heq ..).trans hold, rfl, rfl⟩

theorem modifyConnection_self {id : ConnId} {connection : Connection Bytes}
    (hconnection : cluster.connections id = some connection)
    (change : Connection Bytes → Connection Bytes) :
    (cluster.modifyConnection id change).connections id = some (change connection) := by
  unfold Cluster.modifyConnection
  rw [hconnection]
  exact Function.update_self ..

theorem modifyConnection_subscriptions (id : ConnId)
    (change : Connection Bytes → Connection Bytes) :
    (cluster.modifyConnection id change).subscriptions = cluster.subscriptions := by
  unfold Cluster.modifyConnection
  split <;> rfl

theorem advanceBroadcast_subscriptions {node : NodeId} {documentId : DocumentId}
    {message : Message Bytes} {choice : ConnId} {progress : Progress} {after : Cluster Bytes}
    {result : Option Progress}
    (hadvance : cluster.advanceBroadcast node documentId message choice progress =
      some (after, result)) : after.subscriptions = cluster.subscriptions := by
  cases advanceBroadcast_cases cluster hadvance with
  | absent | found | done => rfl
  | offer | drop => exact modifyConnection_subscriptions _ _

theorem advanceBroadcast_broadcast {node : NodeId} {documentId : DocumentId}
    {message : Message Bytes} {choice : ConnId} {progress : Progress} {after : Cluster Bytes}
    {result : Option Progress} {target : Connection Bytes}
    (htarget : cluster.connections client = some target)
    (hadvance : cluster.advanceBroadcast node documentId message choice progress =
      some (after, result)) :
    Broadcast client (∃ room, cluster.rooms node documentId = some room ∧ client ∈ room.clients)
      message progress cluster after result := by
  cases progress with
  | lookup =>
      simp only [Cluster.advanceBroadcast] at hadvance
      split at hadvance
      next hnone =>
        cases hadvance
        refine ⟨.refl client cluster, fun _ old hold => ⟨old, hold, rfl, rfl⟩, rfl, rfl,
          fun hdrops => absurd hdrops Bool.false_ne_true, ?_⟩
        intro hmember
        obtain ⟨room, hroom, -⟩ := hmember rfl
        cases hnone.symm.trans hroom
      next room hroom =>
        cases hadvance
        refine ⟨.refl client cluster, fun _ old hold => ⟨old, hold, rfl, rfl⟩, rfl, rfl,
          fun hdrops => absurd hdrops Bool.false_ne_true, ?_⟩
        intro hmember _
        obtain ⟨found, hfound, hclient⟩ := hmember rfl
        cases hroom.symm.trans hfound
        exact .inl ⟨_, rfl, .inl (decide_eq_true hclient)⟩
  | offering targets slow =>
      simp only [Cluster.advanceBroadcast] at hadvance
      split at hadvance
      next hchoice =>
        cases hadvance
        refine ⟨.modifyConnection cluster choice (fun c => offer_view c message)
          (fun c => offer_client c message) (fun c => prefix_offer c message)
          fun c hdone => (offer_done c message).trans hdone,
          broadcast_modifyConnection (fun c => offer_view c message)
            fun c => offer_client c message,
          modifyConnection_subscriptions _ _, modifyConnection_channels _ _ _, fun hdrops => ?_,
          fun _ hpending => ?_⟩
        · refine .inr ⟨_, rfl, ?_⟩
          have hslow : client ∈ slow := of_decide_eq_true hdrops
          simp only [Progress.drops, decide_eq_true_eq]
          split
          · exact Finset.mem_insert_of_mem hslow
          · exact hslow
        · have hmember : client ∈ targets := of_decide_eq_true hpending
          by_cases heq : client = choice
          · subst heq
            by_cases hslow : target.isSlow = true
            · -- a full queue: the client is noted as a slow one
              refine .inl ⟨_, rfl, .inr ?_⟩
              simp [Progress.drops, htarget, hslow]
            · refine .inr ⟨_, modifyConnection_self htarget _, ?_⟩
              have hspace : target.send.length < target.client.sendBuffer := by
                simpa [Connection.isSlow] using hslow
              simp [Connection.offer, hspace]
          · refine .inl ⟨_, rfl, .inl ?_⟩
            exact decide_eq_true (Finset.mem_erase.mpr ⟨heq, hmember⟩)
      next hchoice =>
        split at hadvance
        next => cases hadvance
        next hempty =>
          have hnotPending : (Progress.offering targets slow).pending client ≠ true := by
            rw [Finset.not_nonempty_iff_eq_empty.mp hempty]
            simp [Progress.pending]
          split at hadvance
          next hslow =>
            cases hadvance
            refine ⟨.modifyConnection cluster choice (fun _ => rfl) (fun _ => rfl)
              (fun _ => List.prefix_rfl) fun _ _ => rfl,
              broadcast_modifyConnection (fun _ => rfl) fun _ => rfl,
              modifyConnection_subscriptions _ _, modifyConnection_channels _ _ _,
              fun hdrops => ?_, fun _ hpending => absurd hpending hnotPending⟩
            by_cases heq : client = choice
            · subst heq
              exact .inl ⟨_, modifyConnection_self htarget _, rfl⟩
            · have hmember : client ∈ slow := of_decide_eq_true hdrops
              exact .inr ⟨_, rfl, decide_eq_true (Finset.mem_erase.mpr ⟨heq, hmember⟩)⟩
          next =>
            split at hadvance
            next => cases hadvance
            next hnone =>
              cases hadvance
              refine ⟨.refl client cluster, fun _ old hold => ⟨old, hold, rfl, rfl⟩, rfl, rfl,
                fun hdrops => ?_, fun _ hpending => absurd hpending hnotPending⟩
              rw [Finset.not_nonempty_iff_eq_empty.mp hnone] at hdrops
              simp [Progress.drops] at hdrops

/-! ## The goroutine of a connection -/

theorem sendEnvelope_received (connection : Connection Bytes) (envelope : Envelope) :
    connection.received <+: (connection.sendEnvelope codec envelope).received := by
  unfold Connection.sendEnvelope
  split
  · exact List.prefix_rfl
  · exact prefix_offer connection _

theorem proceed_received (connection : Connection Bytes) (failed : Bool) (next : Continuation) :
    connection.received <+: (connection.proceed codec failed next).received := by
  cases next with
  | acknowledge => exact List.prefix_rfl
  | close subscription => exact List.prefix_rfl
  | read =>
      cases failed with
      | false => exact List.prefix_rfl
      | true => exact sendEnvelope_received connection _

theorem offered_of_progress {connection : Connection Bytes} {result : Option Progress}
    (hprogress : connection.stage.progress = result) (client : ConnId) :
    connection.view.offered client =
      if result.any (Progress.pending client) then connection.sent.length - 1
      else connection.sent.length := by
  subst hprogress
  rfl

/-- What a goroutine that takes a step of its broadcast keeps. -/
theorem afterBroadcast_spec (connection : Connection Bytes) (publication : Publication Bytes)
    (next : Continuation) (result : Option Progress) :
    (connection.afterBroadcast codec publication next result).subscription =
        connection.subscription ∧
      (connection.afterBroadcast codec publication next result).sent = connection.sent ∧
      connection.received <+: (connection.afterBroadcast codec publication next result).received ∧
      (connection.afterBroadcast codec publication next result).stage.progress = result := by
  cases result with
  | some progress => exact ⟨rfl, rfl, List.prefix_rfl, rfl⟩
  | none =>
      unfold Connection.afterBroadcast
      dsimp only
      split
      next => exact ⟨rfl, rfl, List.prefix_rfl, rfl⟩
      next =>
        obtain ⟨-, hsubscription, hsent, hinactive, -, -⟩ := connection.proceed_spec codec true next
        exact ⟨hsubscription, hsent, proceed_received connection true next, hinactive.2⟩

/-- An envelope that is being published has been offered to nobody. -/
theorem publish_spec (connection : Connection Bytes) (id : ConnId) (envelope : Envelope)
    (next : Continuation) :
    (connection.publish codec id envelope next).node = connection.node ∧
      (connection.publish codec id envelope next).client = connection.client ∧
      (connection.publish codec id envelope next).subscription = connection.subscription ∧
      connection.received <+: (connection.publish codec id envelope next).received ∧
      (connection.done = true → (connection.publish codec id envelope next).done = true) ∧
      (connection.publish codec id envelope next).view.offered client ≤ connection.sent.length := by
  unfold Connection.publish
  split
  next =>
    obtain ⟨-, hsubscription, hsent, hinactive, -, -⟩ := connection.proceed_spec codec true next
    have hadvances : connection.Advances True True (connection.proceed codec true next) :=
      connection.proceed_advances codec true next
    refine ⟨hadvances.node, hadvances.client, hsubscription, proceed_received connection true next,
      hadvances.done, ?_⟩
    rw [← hsent]
    exact View.offered_le _ client
  next =>
    refine ⟨rfl, rfl, rfl, List.prefix_rfl, fun h => h, ?_⟩
    simp [View.offered, Connection.view, Stage.progress, Progress.pending]

namespace Serves

/-- The sender of an envelope goes on with its broadcast. -/
theorem afterBroadcast (hlayout : cluster.Layout codec) (hroom : cluster.InRoom client)
    {id : ConnId} {connection : Connection Bytes}
    (hconnection : cluster.connections id = some connection) {publication : Publication Bytes}
    {progress : Progress} {next : Continuation}
    (hstage : connection.stage = .broadcasting publication progress next) {choice : ConnId}
    {mid : Cluster Bytes} {result : Option Progress}
    (hadvance : cluster.advanceBroadcast connection.node connection.client.documentId
      ⟨publication.localBytes, some publication.tag⟩ choice progress = some (mid, result)) :
    Serves client cluster
      (mid.modifyConnection id (·.afterBroadcast codec publication next result)) := by
  obtain ⟨target, room, htarget, hfound, hmember⟩ := hroom
  have hbroadcast := advanceBroadcast_broadcast htarget hadvance
  refine hbroadcast.serves.trans ?_
  obtain ⟨current, hcurrent, hview, hclient⟩ := hbroadcast.connections id connection hconnection
  have hsent : current.sent = connection.sent := congrArg View.sent hview
  have hprogress : current.stage.progress = some progress := by
    have hsame : current.stage = connection.stage := congrArg View.stage hview
    rw [hsame, hstage]
    rfl
  obtain ⟨hsubscription, hafterSent, hreceived, hresult⟩ :=
    afterBroadcast_spec current publication next result
  have hadvances : current.Advances True True
      (current.afterBroadcast codec publication next result) :=
    current.afterBroadcast_advances codec publication next result
  have hafter : mid.modifyConnection id (·.afterBroadcast codec publication next result) =
      mid.setConnection id (current.afterBroadcast codec publication next result) := by
    rw [Cluster.modifyConnection, hcurrent]
  rw [hafter]
  have hrest : ∀ rest, result = some rest → rest.drops client = true →
      (mid.setConnection id (current.afterBroadcast codec publication next result)).Dropped
        client :=
    fun rest hrest hdrops => .inr (.inl ⟨id, _, rest, Function.update_self ..,
      hresult.trans hrest, hdrops⟩)
  apply setConnection hcurrent hadvances.node hadvances.client (fun _ => hsubscription) hreceived
    hadvances.done
  · intro found hfoundProgress hdrops
    cases hprogress.symm.trans hfoundProgress
    rcases hbroadcast.drops hdrops with hdone | ⟨rest, hsome, hdropsRest⟩
    · exact .inl (done_step hcurrent hadvances.done hdone)
    · exact hrest rest hsome hdropsRest
  · intro moved hmoved hnode hdocument number hle hlt
    obtain ⟨found, hfoundTarget, htargetView, htargetClient⟩ :=
      hbroadcast.connections client target htarget
    cases hmoved.symm.trans hfoundTarget
    have hmember : ∃ room, cluster.rooms connection.node connection.client.documentId =
        some room ∧ client ∈ room.clients := by
      have hsameNode : target.node = connection.node :=
        (congrArg View.node htargetView).symm.trans (hnode.trans (congrArg View.node hview))
      have hsameDocument : target.client.documentId = connection.client.documentId := by
        rw [← htargetClient, hdocument, hclient]
      exact ⟨room, by rw [← hsameNode, ← hsameDocument]; exact hfound, hmember⟩
    have hbound : number < connection.sent.length := by
      refine hlt.trans_le ((View.offered_le _ client).trans ?_)
      exact (congrArg List.length (hafterSent.trans hsent)).le
    by_cases hpending : progress.pending client = true
    · obtain ⟨hsender, hnumber, -⟩ := hlayout.tag id connection.view (view_eq hconnection)
        publication.tag (by simp [Connection.view, hstage, Stage.tag])
      have hlast : number + 1 = connection.sent.length := by
        have hoffered : current.view.offered client = connection.sent.length - 1 := by
          rw [offered_of_progress hprogress, Option.any_some, if_pos hpending, hsent]
        omega
      rcases hbroadcast.pending (fun _ => hmember) hpending with
        ⟨rest, hsome, hpendingRest | hdropsRest⟩ | hqueued
      · have hoffered : (current.afterBroadcast codec publication next result).view.offered client =
            connection.sent.length - 1 := by
          rw [offered_of_progress (hresult.trans hsome), Option.any_some, if_pos hpendingRest,
            hafterSent, hsent]
        omega
      · exact .inr (hrest rest hsome hdropsRest)
      · obtain ⟨kept, hkept, hmessage⟩ := received_step hcurrent hreceived hqueued
        refine .inl ⟨kept, hkept, _, hmessage, ?_⟩
        have hsame : publication.tag.number = number := Nat.succ.inj (hnumber.trans hlast.symm)
        show some publication.tag = some ⟨id, number⟩
        rw [← hsender, ← hsame]
    · have hoffered : current.view.offered client = connection.sent.length := by
        rw [offered_of_progress hprogress, Option.any_some, if_neg hpending, hsent]
      omega

/-- Only rooms have changed. -/
theorem of_rooms {after : Cluster Bytes} (hconnections : after.connections = cluster.connections)
    (hsubscriptions : after.subscriptions = cluster.subscriptions)
    (hchannels : after.channels = cluster.channels) : Serves client cluster after where
  passed tag h := by
    refine .inl ?_
    rw [← h]
    simp only [Cluster.passed, hconnections, hsubscriptions, hchannels]
  queue target htarget := ⟨target, hconnections ▸ htarget, List.prefix_rfl⟩
  dropped h := by
    rw [Dropped, hconnections, hsubscriptions]
    exact h

end Serves

theorem offered_le_sent {old new : Connection Bytes} (hsent : new.sent = old.sent)
    (client : ConnId) : new.view.offered client ≤ old.sent.length := by
  rw [← hsent]
  exact View.offered_le _ client

theorem InRoom.connection (hroom : cluster.InRoom client) :
    ∃ target, cluster.connections client = some target := by
  obtain ⟨target, room, htarget, -⟩ := hroom
  exact ⟨target, htarget⟩

/-- The client is served by the subscription of its room. -/
theorem InRoom.subscription (hlayout : cluster.Layout codec) (hroom : cluster.InRoom client) :
    ∃ target room s, cluster.connections client = some target ∧
      cluster.rooms target.node target.client.documentId = some room ∧ client ∈ room.clients ∧
      target.subscription = some room.sub ∧ cluster.subscriptions room.sub = some s ∧
      s.node = target.node ∧ s.documentId = target.client.documentId ∧ s.closedAt = none := by
  obtain ⟨target, room, htarget, hfound, hmember⟩ := hroom
  obtain ⟨v, hv, -, hsubscription⟩ := hlayout.room_client _ _ room hfound client hmember
  obtain ⟨s, hs, hnode, hdocument, hopen⟩ := hlayout.room_subscription _ _ room hfound
  cases (view_eq htarget).symm.trans hv
  exact ⟨target, room, s, htarget, hfound, hmember, hsubscription, hs, hnode, hdocument, hopen⟩

namespace Serves

/-- `consumeRoom` goes on with its broadcast. -/
theorem deliver (hlayout : cluster.Layout codec) (hroom : cluster.InRoom client) {id : SubId}
    {subscription : Subscription Bytes}
    (hsubscription : cluster.subscriptions id = some subscription) {message : Message Bytes}
    {progress : Progress} (hdelivery : subscription.delivery = some (message, progress))
    {choice : ConnId} {mid : Cluster Bytes} {result : Option Progress}
    (hadvance : cluster.advanceBroadcast subscription.node subscription.documentId message choice
      progress = some (mid, result)) :
    Serves client cluster (mid.setSubscription id { subscription with
      delivery := result.map fun progress => (message, progress) }) := by
  obtain ⟨target, room, s, htarget, hfound, hmember, hjoined, hs, hnode, hdocument, -⟩ :=
    hroom.subscription hlayout
  have hbroadcast := advanceBroadcast_broadcast htarget hadvance
  refine hbroadcast.serves.trans ?_
  have hold : mid.subscriptions id = some subscription := by
    rw [hbroadcast.subscriptions, hsubscription]
  have hrest : ∀ rest, result = some rest → rest.drops client = true →
      (mid.setSubscription id { subscription with
        delivery := result.map fun progress => (message, progress) }).Dropped client :=
    fun rest hrest hdrops => .inr (.inr ⟨id, _, message, rest, Function.update_self ..,
      by rw [hrest]; rfl, hdrops⟩)
  apply setSubscription hold
  · rfl
  · intro found foundProgress hfoundDelivery hdrops
    cases hdelivery.symm.trans hfoundDelivery
    rcases hbroadcast.drops hdrops with hdone | ⟨rest, hsome, hdropsRest⟩
    · exact .inl hdone
    · exact hrest rest hsome hdropsRest
  · intro moved hmoved hid index entry hle hlt hentry _
    obtain ⟨found, hfoundTarget, htargetView, -⟩ := hbroadcast.connections client target htarget
    cases hmoved.symm.trans hfoundTarget
    -- the subscription is that of the client's room
    have hsame : id = room.sub := by
      have htargetId : target.subscription = some id :=
        (congrArg View.subscription htargetView).symm.trans hid
      exact Option.some.inj (htargetId.symm.trans hjoined)
    subst hsame
    cases hsubscription.symm.trans hs
    have hmember : ∃ room, cluster.rooms subscription.node subscription.documentId =
        some room ∧ client ∈ room.clients :=
      ⟨room, by rw [hnode, hdocument]; exact hfound, hmember⟩
    have hbound : index < subscription.consumed := hlt.trans_le (Subscription.offered_le _ client)
    by_cases hpending : progress.pending client = true
    · obtain ⟨last, hpositive, hlast, htag, -⟩ :=
        hlayout.delivery room.sub subscription hsubscription message progress hdelivery
      have hindex : index = subscription.consumed - 1 := by
        have hoffered : subscription.offered client = subscription.consumed - 1 := by
          simp [Subscription.offered, hdelivery, hpending]
        omega
      rw [hbroadcast.channels, hindex, hlast, Option.some.injEq] at hentry
      subst hentry
      rcases hbroadcast.pending (fun _ => hmember) hpending with
        ⟨rest, hsome, hpendingRest | hdropsRest⟩ | ⟨kept, hkept, hmessage⟩
      · simp only [Subscription.offered, hsome, Option.map_some, Option.any_some, hpendingRest,
          if_true] at hlt
        omega
      · exact .inr (hrest rest hsome hdropsRest)
      · exact .inl ⟨kept, hkept, message, hmessage, htag⟩
    · have hoffered : subscription.offered client = subscription.consumed := by
        simp [Subscription.offered, hdelivery, hpending]
      omega

/-- `consumeRoom` takes a message: it passes over those of its own node only. -/
theorem receive (hlayout : cluster.Layout codec) (hforward : codec.Forwards)
    (hroom : cluster.InRoom client) {id : SubId} {subscription : Subscription Bytes}
    (hsubscription : cluster.subscriptions id = some subscription)
    (hidle : subscription.delivery = none) {entry : Published Bytes}
    (hentry : (cluster.channels (channel subscription.documentId))[subscription.consumed]? =
      some entry) :
    Serves client cluster (cluster.setSubscription id { subscription with
      consumed := subscription.consumed + 1
      delivery := decode codec subscription.node entry }) := by
  obtain ⟨target, room, s, htarget, hfound, hmember, hjoined, hs, hnode, hdocument, -⟩ :=
    hroom.subscription hlayout
  apply setSubscription hsubscription
  · rfl
  · intro message progress hdelivery
    cases hidle.symm.trans hdelivery
  · intro found hfoundTarget hid index other hle hlt hother hforeign
    exfalso
    cases htarget.symm.trans hfoundTarget
    cases hid.symm.trans hjoined
    cases hsubscription.symm.trans hs
    have hbefore : subscription.offered client = subscription.consumed := by
      simp [Subscription.offered, hidle]
    cases hdecode : decode codec subscription.node entry with
    | some delivery =>
        -- the message is being delivered, and nobody has been offered it
        have hlookup : delivery.2 = .lookup := by
          simp only [decode, Option.bind_eq_bind, Option.bind_eq_some_iff] at hdecode
          obtain ⟨decoded, -, hdecode⟩ := hdecode
          split at hdecode
          · cases hdecode
          · obtain ⟨bytes, -, hdelivery⟩ := Option.bind_eq_some_iff.mp hdecode
            cases hdelivery
            rfl
        simp only [Subscription.offered, hdecode, Option.any_some, hlookup, Progress.pending,
          if_true, Nat.add_sub_cancel] at hlt
        omega
    | none =>
        have hindex : index = subscription.consumed := by
          simp only [Subscription.offered, hdecode, Option.any_none, Bool.false_eq_true,
            if_false] at hlt
          omega
        rw [hindex, hentry, Option.some.injEq] at hother
        subst hother
        obtain ⟨v, hv, -, envelope, -, -, hpayload⟩ :=
          hlayout.entry _ entry (List.mem_of_getElem? hentry)
        obtain ⟨sender, hsender, rfl⟩ := Option.map_eq_some_iff.mp hv
        obtain ⟨decoded, bytes, hdecoded, horigin, hbytes⟩ := hforward _ _ hpayload
        have hlocal : decoded.originNodeId = subscription.node := by
          by_contra hne
          simp [decode, hdecoded, hne, hbytes] at hdecode
        exact hforeign sender hsender (hnode.symm.trans (hlocal.symm.trans horigin))

/-- A goroutine that is not broadcasting publishes an envelope, or fails to. -/
theorem publish {id : ConnId} {old : Connection Bytes} {between : Cluster Bytes}
    (hbetween : Serves client cluster between)
    (hsame : between.connections = cluster.connections)
    (hold : cluster.connections id = some old) (hidle : old.stage.progress = none)
    {current : Connection Bytes} (hnode : current.node = old.node)
    (hclient : current.client = old.client)
    (hsubscription : id = client → current.subscription = old.subscription)
    (hreceived : current.received = old.received) (hdone : current.done = old.done)
    (hsent : current.sent = old.sent) (envelope : Envelope) (next : Continuation) :
    Serves client cluster
      (between.setConnection id (current.publish codec id envelope next)) := by
  obtain ⟨hafterNode, hafterClient, hafterSubscription, hafterReceived, hafterDone, hoffered⟩ :=
    publish_spec current id envelope next
  refine hbetween.trans ?_
  apply setIdle (hsame ▸ hold) hidle (hafterNode.trans hnode) (hafterClient.trans hclient)
  · exact fun heq => hafterSubscription.trans (hsubscription heq)
  · exact hreceived ▸ hafterReceived
  · exact fun h => hafterDone (hdone.trans h)
  · exact hsent ▸ hoffered

/-- Another client registers. -/
theorem register (hlayout : cluster.Layout codec) (hroom : cluster.InRoom client) {id : ConnId}
    (hid : client ≠ id) {connection : Connection Bytes}
    (hconnection : cluster.connections id = some connection)
    (hstage : connection.stage = .connecting) (subscribed : Bool) (now : Instant) :
    Serves client cluster (cluster.register codec id connection subscribed now) := by
  obtain ⟨target, found, s, htarget, -, -, hjoined, hs, -⟩ := hroom.subscription hlayout
  have hidle : connection.stage.progress = none := by rw [hstage]; rfl
  unfold Cluster.register
  dsimp only
  split
  next room _ =>
    refine publish ?_ ?_ hconnection hidle ?_ ?_ ?_ ?_ ?_ ?_ _ _
    · exact of_rooms rfl rfl rfl
    on_goal 4 => exact fun heq => absurd heq.symm hid
    all_goals rfl
  next =>
    split
    next =>
      have hsubscribe : Serves client cluster
          (cluster.subscribe connection.node connection.client.documentId) := by
        apply subscribe hlayout
        intro other hother hlast
        cases htarget.symm.trans hother
        have hbound := hlayout.subscription_bound found.sub s hs
        rw [hjoined, Option.some.injEq] at hlast
        exact Nat.ne_of_lt hbound hlast
      refine publish ?_ ?_ hconnection hidle ?_ ?_ ?_ ?_ ?_ ?_ _ _
      · exact hsubscribe.trans (of_rooms rfl rfl rfl)
      on_goal 4 => exact fun heq => absurd heq.symm hid
      all_goals rfl
    next =>
      exact setIdle hconnection hidle rfl rfl (fun _ => rfl) List.prefix_rfl (fun _ => rfl)
        (offered_le_sent rfl client)

/-- A client unregisters. -/
theorem leave {id : ConnId} {connection : Connection Bytes}
    (hconnection : cluster.connections id = some connection)
    (hidle : connection.stage.progress = none) (now : Instant) :
    Serves client cluster (cluster.leave codec id connection now) := by
  unfold Cluster.leave
  dsimp only
  split
  next =>
    exact setIdle hconnection hidle rfl rfl (fun _ => rfl) List.prefix_rfl (fun _ => rfl)
      (offered_le_sent rfl client)
  next room _ =>
    refine publish ?_ ?_ hconnection hidle ?_ ?_ ?_ ?_ ?_ ?_ _ _
    · exact of_rooms rfl rfl rfl
    on_goal 4 => exact fun _ => rfl
    all_goals rfl

theorem proceed {id : ConnId} {connection : Connection Bytes} {between : Cluster Bytes}
    (hbetween : Serves client cluster between)
    (hsame : between.connections = cluster.connections)
    (hconnection : cluster.connections id = some connection)
    (hidle : connection.stage.progress = none) (failed : Bool) (next : Continuation) :
    Serves client cluster (between.setConnection id (connection.proceed codec failed next)) := by
  refine hbetween.trans ?_
  obtain ⟨-, hsubscription, hsent, -⟩ := connection.proceed_spec codec failed next
  have hadvances : connection.Advances True True (connection.proceed codec failed next) :=
    connection.proceed_advances codec failed next
  exact setIdle (hsame ▸ hconnection) hidle hadvances.node hadvances.client (fun _ => hsubscription)
    (proceed_received connection failed next) hadvances.done (offered_le_sent hsent client)

/-- The goroutine of a connection. -/
theorem run (hlayout : cluster.Layout codec) (hroom : cluster.InRoom client) {id : ConnId}
    {connection : Connection Bytes} (hconnection : cluster.connections id = some connection)
    {choice : ConnId} {accepted : Bool} {now : Instant} {after : Cluster Bytes}
    (hrun : cluster.run codec id connection choice accepted now = some after) :
    Serves client cluster after := by
  cases run_cases codec cluster hrun with
  | broadcast publication progress next moved result hstage hadvance =>
      exact afterBroadcast hlayout hroom hconnection hstage hadvance
  | accept tag payload next hstage =>
      have happend : Serves client cluster
          (cluster.append (channel connection.client.documentId) ⟨payload, tag⟩) := by
        refine of_same hlayout rfl rfl fun name => ?_
        by_cases heq : name = channel connection.client.documentId
        · subst heq
          simp only [Cluster.append, Function.update_self]
          exact List.prefix_append _ _
        · simp only [Cluster.append, Function.update_of_ne heq]
          exact List.prefix_rfl
      exact proceed happend rfl hconnection (by rw [hstage]; rfl) false next
  | refuse tag payload next hstage =>
      exact proceed (refl client cluster) rfl hconnection (by rw [hstage]; rfl) true next
  | acknowledge hstage =>
      have hadvances : connection.Advances True True
          (connection.sendEnvelope codec connection.client.ackEnvelope) :=
        connection.sendEnvelope_advances codec _
      obtain ⟨-, hview⟩ := connection.sendEnvelope_kept codec connection.client.ackEnvelope
      exact setIdle hconnection (by rw [hstage]; rfl) hadvances.node hadvances.client
        (fun _ => congrArg View.subscription hview) (sendEnvelope_received connection _)
        hadvances.done (offered_le_sent (by exact congrArg View.sent hview) client)
  | unregister hstage => exact leave hconnection (by rw [hstage]; rfl) now
  | close hstage | closeEmptied subscription hstage =>
      exact setIdle hconnection (by rw [hstage]; rfl) rfl rfl (fun _ => rfl) List.prefix_rfl
        (fun _ => rfl) (offered_le_sent rfl client)
  | closeSubscription subscription hstage =>
      have hclose : Serves client cluster (cluster.closeSubscription subscription) := by
        unfold Cluster.closeSubscription
        split
        next => exact refl client cluster
        next s hs => exact setIdleSubscription hs rfl rfl rfl
      have hkept : (cluster.closeSubscription subscription).connections id =
          some connection := by
        rw [closeSubscription_connections, hconnection]
      refine hclose.trans ?_
      exact setIdle hkept (by rw [hstage]; rfl) rfl rfl (fun _ => rfl) List.prefix_rfl
        (fun h => h) (offered_le_sent rfl client)

end Serves

/-- Who is in a room has been registered. -/
theorem InRoom.not_connecting (hlayout : cluster.Layout codec) (hroom : cluster.InRoom client)
    {connection : Connection Bytes} (hconnection : cluster.connections client = some connection) :
    connection.stage ≠ .connecting := by
  obtain ⟨target, room, s, htarget, -, -, hjoined, -⟩ := hroom.subscription hlayout
  cases htarget.symm.trans hconnection
  intro hstage
  have hnone := hlayout.connecting client connection.view (view_eq hconnection)
    (by simp [Connection.view, hstage, Stage.isConnecting])
  cases hnone.symm.trans hjoined

/-- Every step serves the clients that are in their room. -/
theorem step_serves (hlayout : cluster.Layout codec) (hforward : codec.Forwards)
    (hroom : cluster.InRoom client) {event : Event Bytes} {after : Cluster Bytes}
    (hstep : step codec cluster event = some after) : Serves client cluster after := by
  obtain ⟨target, htarget⟩ := hroom.connection
  cases step_cases codec cluster hstep with
  | connect id node profile hnone =>
      refine .connect hlayout hnone ?_ node profile
      rintro rfl
      cases hnone.symm.trans htarget
  | register id subscribed now connection hconnection hstage =>
      refine .register hlayout hroom ?_ hconnection hstage subscribed now
      rintro rfl
      exact hroom.not_connecting hlayout hconnection hstage
  | frame id bytes now connection hconnection hstage =>
      unfold Cluster.readFrame
      split
      next code message _ =>
        have hadvances : connection.Advances True True
            (connection.sendError codec code message) :=
          connection.sendEnvelope_advances codec _
        exact .setSame hconnection (connection.sendEnvelope_kept codec _).2 hadvances.client
          (sendEnvelope_received connection _) hadvances.done
      next envelope _ =>
        exact .publish (.refl client cluster) rfl hconnection (by rw [hstage]; rfl) rfl rfl
          (fun _ => rfl) rfl rfl rfl _ _
  | disconnect id connection hconnection hstage =>
      have hidle : connection.stage.progress = none := by rw [hstage]; rfl
      split
      next =>
        exact .setIdle hconnection hidle rfl rfl (fun _ => rfl) List.prefix_rfl (fun h => h)
          (offered_le_sent rfl client)
      next =>
        exact .setIdle hconnection hidle rfl rfl (fun _ => rfl) List.prefix_rfl (fun h => h)
          (offered_le_sent rfl client)
  | run id choice accepted now connection _ hconnection hrun =>
      exact .run hlayout hroom hconnection hrun
  | write id connection message rest hconnection =>
      exact .setSame hconnection rfl rfl List.prefix_rfl fun h => h
  | stopWriting id connection hconnection =>
      exact .setSame hconnection rfl rfl List.prefix_rfl fun _ => rfl
  | receive id subscription entry hsubscription hidle _ _ hentry =>
      exact .receive hlayout hforward hroom hsubscription hidle hentry
  | deliver id choice subscription message progress moved result hsubscription hdelivery
      hadvance => exact .deliver hlayout hroom hsubscription hdelivery hadvance
  | forward id subscription hsubscription | stop id subscription hsubscription
  | exit id subscription hsubscription =>
      exact .setIdleSubscription hsubscription rfl rfl rfl

/-! ## Who is in a room -/

theorem advanceBroadcast_rooms {node : NodeId} {documentId : DocumentId} {message : Message Bytes}
    {choice : ConnId} {progress : Progress} {after : Cluster Bytes} {result : Option Progress}
    (hadvance : cluster.advanceBroadcast node documentId message choice progress =
      some (after, result)) : after.rooms = cluster.rooms := by
  cases advanceBroadcast_cases cluster hadvance with
  | absent | found | done => rfl
  | offer | drop =>
      unfold Cluster.modifyConnection
      split <;> rfl

theorem register_rooms {id : ConnId} {connection : Connection Bytes} {subscribed : Bool}
    {now : Instant} {node : NodeId} {documentId : DocumentId} {room : Room}
    (hroom : (cluster.register codec id connection subscribed now).rooms node documentId =
      some room) (hmember : client ∈ room.clients) :
    (∃ old, cluster.rooms node documentId = some old ∧ client ∈ old.clients) ∨
      client = id ∧ documentId = connection.client.documentId := by
  unfold Cluster.register at hroom
  dsimp only at hroom
  split at hroom
  next found hfound =>
    rcases setRoom_cases hroom with ⟨rfl, rfl, hwritten⟩ | ⟨-, hold⟩
    · cases hwritten
      rcases Finset.mem_insert.mp hmember with heq | hold
      · exact .inr ⟨heq, rfl⟩
      · exact .inl ⟨found, hfound, hold⟩
    · exact .inl ⟨room, hold, hmember⟩
  next =>
    split at hroom
    next =>
      rcases setRoom_cases hroom with ⟨rfl, rfl, hwritten⟩ | ⟨-, hold⟩
      · cases hwritten
        rcases Finset.mem_insert.mp hmember with heq | hnone
        · exact .inr ⟨heq, rfl⟩
        · exact absurd hnone (Finset.notMem_empty client)
      · exact .inl ⟨room, hold, hmember⟩
    next => exact .inl ⟨room, hroom, hmember⟩

theorem leave_rooms {id : ConnId} {connection : Connection Bytes} {now : Instant} {node : NodeId}
    {documentId : DocumentId} {room : Room}
    (hroom : (cluster.leave codec id connection now).rooms node documentId = some room)
    (hmember : client ∈ room.clients) :
    ∃ old, cluster.rooms node documentId = some old ∧ client ∈ old.clients := by
  unfold Cluster.leave at hroom
  dsimp only at hroom
  split at hroom
  next => exact ⟨room, hroom, hmember⟩
  next found hfound =>
    rcases setRoom_cases hroom with ⟨rfl, rfl, hwritten⟩ | ⟨-, hold⟩
    · split at hwritten
      next => cases hwritten
      next =>
        cases hwritten
        exact ⟨found, hfound, Finset.mem_of_mem_erase hmember⟩
    · exact ⟨room, hold, hmember⟩

theorem run_rooms {id : ConnId} {connection : Connection Bytes} {choice : ConnId} {accepted : Bool}
    {now : Instant} {after : Cluster Bytes}
    (hrun : cluster.run codec id connection choice accepted now = some after) {node : NodeId}
    {documentId : DocumentId} {room : Room} (hroom : after.rooms node documentId = some room)
    (hmember : client ∈ room.clients) :
    ∃ old, cluster.rooms node documentId = some old ∧ client ∈ old.clients := by
  cases run_cases codec cluster hrun with
  | broadcast publication progress next moved result _ hadvance =>
      refine ⟨room, ?_, hmember⟩
      rw [← advanceBroadcast_rooms hadvance, ← hroom]
      unfold Cluster.modifyConnection
      split <;> rfl
  | unregister => exact leave_rooms hroom hmember
  | closeSubscription subscription =>
      refine ⟨room, ?_, hmember⟩
      rw [← hroom]
      simp only [Cluster.setConnection, Cluster.closeSubscription]
      split <;> rfl
  | accept | refuse | acknowledge | close | closeEmptied => exact ⟨room, hroom, hmember⟩

/-- Only `Register` puts a client into a room. -/
theorem step_rooms {event : Event Bytes} {after : Cluster Bytes}
    (hstep : step codec cluster event = some after) {node : NodeId} {documentId : DocumentId}
    {room : Room} (hroom : after.rooms node documentId = some room)
    (hmember : client ∈ room.clients) :
    (∃ old, cluster.rooms node documentId = some old ∧ client ∈ old.clients) ∨
      ∃ subscribed now connection, event = .register client subscribed now ∧
        cluster.connections client = some connection ∧
          documentId = connection.client.documentId := by
  cases step_cases codec cluster hstep with
  | register id subscribed now connection hconnection =>
      refine (register_rooms hroom hmember).imp_right ?_
      rintro ⟨rfl, hdocument⟩
      exact ⟨subscribed, now, connection, rfl, hconnection, hdocument⟩
  | frame id bytes now connection =>
      refine .inl ⟨room, ?_, hmember⟩
      rw [← hroom]
      unfold Cluster.readFrame
      split <;> rfl
  | run id choice accepted now connection _ _ hrun => exact .inl (run_rooms hrun hroom hmember)
  | deliver id choice subscription message progress moved result _ _ hadvance =>
      refine .inl ⟨room, ?_, hmember⟩
      rw [← advanceBroadcast_rooms hadvance, ← hroom]
      rfl
  | connect | disconnect | write | stopWriting | forward | stop | receive | exit =>
      exact .inl ⟨room, hroom, hmember⟩

/-- A client that is in its room was so before, or has just been registered. -/
theorem InRoom.before (hlayout : cluster.Layout codec) {event : Event Bytes}
    {after : Cluster Bytes} (hstep : step codec cluster event = some after)
    (hroom : after.InRoom client) :
    cluster.InRoom client ∨ ∃ subscribed now, event = .register client subscribed now := by
  obtain ⟨target, room, htarget, hfound, hmember⟩ := hroom
  rcases step_rooms hstep hfound hmember with ⟨old, hold, hclient⟩ | hregister
  · left
    obtain ⟨v, hv, -, -⟩ := hlayout.room_client _ _ old hold client hclient
    obtain ⟨before, hbefore, -⟩ := Option.map_eq_some_iff.mp hv
    refine ⟨before, old, hbefore, ?_, hclient⟩
    rcases step_moves hlayout hstep with ⟨id, node, profile, -, hnone, rfl⟩ | hmoves
    · have hne : client ≠ id := by
        rintro rfl
        cases hnone.symm.trans hbefore
      have hsame : cluster.connections client = some target :=
        (Function.update_of_ne hne ..).symm.trans htarget
      cases hbefore.symm.trans hsame
      exact hold
    · obtain ⟨new, hnew, hadvances⟩ := hmoves.advances client before hbefore
      cases htarget.symm.trans hnew
      rw [← hadvances.node, ← hadvances.client]
      exact hold
  · obtain ⟨subscribed, now, -, rfl, -⟩ := hregister
    exact .inr ⟨subscribed, now, rfl⟩

/-! ## What stays -/

/-- Channels only grow. -/
theorem mem_channels_step {after : Cluster Bytes} {event : Event Bytes}
    (hstep : step codec cluster event = some after) {name : String}
    {entry : Published Bytes} (hentry : entry ∈ cluster.channels name) :
    entry ∈ after.channels name := by
  rw [step_channels hstep]
  cases cluster.publication event with
  | none => exact hentry
  | some published =>
      by_cases heq : name = published.1
      · subst heq
        simp only [Cluster.append, Function.update_self]
        exact List.mem_append_left _ hentry
      · simp only [Cluster.append, Function.update_of_ne heq]
        exact hentry

/-- A connection was there before, with the same client, or is new. -/
theorem connection_before {after : Cluster Bytes} {event : Event Bytes}
    (hlayout : cluster.Layout codec) (hstep : step codec cluster event = some after)
    {id : ConnId} {new : Connection Bytes} (hnew : after.connections id = some new) :
    (∃ old, cluster.connections id = some old ∧ new.client = old.client ∧
      (old.done = true → new.done = true)) ∨
      cluster.connections id = none ∧ ∃ node, event = .connect id node new.client := by
  rcases step_moves hlayout hstep with ⟨other, node, client, hevent, hnone, rfl⟩ | hmoves
  · by_cases heq : id = other
    · subst heq
      cases (Function.update_self id _ _ : _ = some _).symm.trans hnew
      exact .inr ⟨hnone, node, hevent⟩
    · exact .inl ⟨new, (Function.update_of_ne heq ..).symm.trans hnew, rfl, fun h => h⟩
  · cases hold : cluster.connections id with
    | none => cases (hmoves.absent id hold).symm.trans hnew
    | some old =>
        obtain ⟨found, hfound, hadvances⟩ := hmoves.advances id old hold
        cases hnew.symm.trans hfound
        exact .inl ⟨old, rfl, hadvances.client, hadvances.done⟩

/-- A client that is registered keeps its subscription. -/
theorem subscription_after {after : Cluster Bytes} {event : Event Bytes}
    (hlayout : cluster.Layout codec) (hstep : step codec cluster event = some after)
    {id : ConnId} {old : Connection Bytes} (hold : cluster.connections id = some old)
    (hjoined : old.subscription.isSome = true) :
    ∃ new, after.connections id = some new ∧ new.subscription.isSome = true := by
  rcases step_moves hlayout hstep with ⟨other, node, client, -, hnone, rfl⟩ | hmoves
  · have hne : id ≠ other := by
      rintro rfl
      cases hold.symm.trans hnone
    exact ⟨old, (Function.update_of_ne hne ..).trans hold, hjoined⟩
  · obtain ⟨new, hnew, hadvances⟩ := hmoves.advances id old hold
    obtain ⟨i, hi⟩ := Option.isSome_iff_exists.mp hjoined
    exact ⟨new, hnew, by rw [hadvances.subscription i hi]; rfl⟩

/-! ## When the queues are empty -/

/-- What is on a channel was published by connections of its document. -/
def Addressed (cluster : Cluster Bytes) : Prop :=
  ∀ name, ∀ entry ∈ cluster.channels name, ∃ sender,
    cluster.connections entry.tag.sender = some sender ∧
      name = channel sender.client.documentId

theorem Addressed.step (h : cluster.Addressed) (hlayout : cluster.Layout codec)
    {event : Event Bytes} {after : Cluster Bytes}
    (hstep : Cluster.step codec cluster event = some after) : after.Addressed := by
  have hkept : ∀ name, ∀ entry ∈ cluster.channels name, ∃ sender,
      after.connections entry.tag.sender = some sender ∧
        name = channel sender.client.documentId := by
    intro name entry hentry
    obtain ⟨sender, hsender, hname⟩ := h name entry hentry
    obtain ⟨new, hnew, hclient, -⟩ := step_sent hlayout hstep entry.tag.sender sender hsender
    exact ⟨new, hnew, by rw [hclient]; exact hname⟩
  intro name entry hentry
  rw [step_channels hstep] at hentry
  cases hpublication : cluster.publication event with
  | none =>
      rw [hpublication] at hentry
      exact hkept name entry hentry
  | some published =>
      rw [hpublication] at hentry
      by_cases heq : name = published.1
      · subst heq
        simp only [Cluster.append, Function.update_self, List.mem_append,
          List.mem_singleton] at hentry
        rcases hentry with hold | rfl
        · exact hkept _ entry hold
        · -- the sender is the connection that publishes
          unfold Cluster.publication at hpublication
          split at hpublication
          next id choice now =>
            split at hpublication
            next => cases hpublication
            next connection hconnection =>
              split at hpublication
              next tag payload next hstage =>
                cases hpublication
                obtain ⟨rfl, -⟩ := hlayout.tag id connection.view (view_eq hconnection) tag
                  (by simp [Connection.view, hstage, Stage.tag])
                obtain ⟨new, hnew, hclient, -⟩ := step_sent hlayout hstep tag.sender connection
                  hconnection
                exact ⟨new, hnew, by rw [hclient]⟩
              next => cases hpublication
          next => cases hpublication
      · simp only [Cluster.append, Function.update_of_ne heq] at hentry
        exact hkept name entry hentry

/-- Once the subscription of its room is drained, a client has been passed by everything
that was published in the room. -/
theorem passed_of_drained (hlayout : cluster.Layout codec) (hroom : cluster.InRoom client)
    (hidle : ∀ id connection, cluster.connections id = some connection →
      connection.stage.progress = none)
    (hdrained : ∀ i s, cluster.subscriptions i = some s → s.delivery = none ∧
      (s.closedAt = none → s.consumed = (cluster.channels (channel s.documentId)).length))
    {target sender : Connection Bytes} (htarget : cluster.connections client = some target)
    {entry : Published Bytes} (hsender : cluster.connections entry.tag.sender = some sender)
    (hdocument : sender.client.documentId = target.client.documentId)
    (hentry : entry ∈ cluster.channels (channel target.client.documentId)) :
    cluster.passed client entry.tag = true := by
  obtain ⟨found, room, s, hfound, -, -, hjoined, hs, hnode, hsDocument, hopen⟩ :=
    hroom.subscription hlayout
  cases htarget.symm.trans hfound
  refine passed_iff.mpr ⟨target, sender, htarget, hsender, ?_⟩
  by_cases hsame : target.node = sender.node
  · obtain ⟨v, hv, hnumber, -⟩ := hlayout.entry _ entry hentry
    cases (view_eq hsender).symm.trans hv
    refine .inl ⟨hsame, hdocument.symm, hnumber.trans_le ?_⟩
    rw [offered_of_progress (hidle _ sender hsender), Option.any_none]
    exact sender.view.published_le
  · obtain ⟨hnone, hconsumed⟩ := hdrained room.sub s hs
    obtain ⟨index, hindex⟩ := List.mem_iff_getElem?.mp hentry
    rw [← hsDocument] at hindex
    refine .inr ⟨hsame, room.sub, s, index, entry, hjoined, hs, ?_, hindex, rfl⟩
    have hoffered : s.offered client = s.consumed := by
      simp [Subscription.offered, hnone]
    rw [hoffered, hconsumed hopen]
    exact (List.getElem?_eq_some_iff.mp hindex).1

/-- Without a broadcast in progress nobody is about to be dropped. -/
theorem not_dropped
    (hidle : ∀ id connection, cluster.connections id = some connection →
      connection.stage.progress = none)
    (hdrained : ∀ i s, cluster.subscriptions i = some s → s.delivery = none)
    {target : Connection Bytes} (htarget : cluster.connections client = some target)
    (hopen : target.done = false) : ¬ cluster.Dropped client := by
  rintro (⟨found, hfound, hdone⟩ | ⟨id, connection, progress, hconnection, hprogress, -⟩ |
    ⟨i, s, message, progress, hs, hdelivery, -⟩)
  · cases htarget.symm.trans hfound
    cases hopen.symm.trans hdone
  · cases (hidle id connection hconnection).symm.trans hprogress
  · cases (hdrained i s hs).symm.trans hdelivery

end Cluster

end CollabEditor.Hub
