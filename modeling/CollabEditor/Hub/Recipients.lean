import CollabEditor.Hub.Announcements
import CollabEditor.Hub.Registration

/-! # Who is offered what

A broadcast reads the room of its document, and offers its message to those who are in it
at the time. So whoever receives an envelope of a client has been registered for the
document of that client.
-/

namespace CollabEditor.Hub

open Foundation
open Backend (DocumentId Instant)

variable {Bytes : Type} {codec : Codec Bytes}

namespace Cluster

variable {cluster : Cluster Bytes}

/-- The client has been put into a room of the document. -/
def RegisteredFor (cluster : Cluster Bytes) (documentId : DocumentId) (client : ConnId) : Prop :=
  ∃ connection, cluster.connections client = some connection ∧
    connection.client.documentId = documentId ∧ connection.subscription.isSome = true

theorem RegisteredFor.step {documentId : DocumentId} {client : ConnId}
    (h : cluster.RegisteredFor documentId client) (hlayout : cluster.Layout codec)
    {event : Event Bytes} {after : Cluster Bytes}
    (hstep : step codec cluster event = some after) : after.RegisteredFor documentId client := by
  obtain ⟨old, hold, hdocument, hjoined⟩ := h
  obtain ⟨new, hnew, hclient, -⟩ := step_sent hlayout hstep client old hold
  obtain ⟨found, hfound, hkept⟩ := subscription_after hlayout hstep hold hjoined
  cases hnew.symm.trans hfound
  exact ⟨new, hnew, by rw [hclient, hdocument], hkept⟩

/-- A broadcast was to offer its message to the client before, or finds it in the room. -/
def Serving (cluster : Cluster Bytes) (node : NodeId) (documentId : DocumentId)
    (before : Option Progress) (client : ConnId) : Prop :=
  (∃ progress, before = some progress ∧ progress.Targets client) ∨
    ∃ room, cluster.rooms node documentId = some room ∧ client ∈ room.clients

theorem advanceBroadcast_targets {node : NodeId} {documentId : DocumentId}
    {message : Message Bytes} {choice : ConnId} {progress : Progress} {after : Cluster Bytes}
    {result : Option Progress}
    (hadvance : cluster.advanceBroadcast node documentId message choice progress =
      some (after, result)) {rest : Progress} (hrest : result = some rest) {client : ConnId}
    (htarget : rest.Targets client) :
    cluster.Serving node documentId (some progress) client := by
  cases advanceBroadcast_cases cluster hadvance with
  | absent | done => cases hrest
  | found room hroom =>
      cases hrest
      exact .inr ⟨room, hroom, htarget⟩
  | offer targets slow more hchoice =>
      cases hrest
      exact .inl ⟨_, rfl, Finset.mem_of_mem_erase htarget⟩
  | drop slow =>
      cases hrest
      exact absurd htarget (Finset.notMem_empty client)

/-! ## What a goroutine does about its envelopes -/

/-- A goroutine before and after a step: it stays where it is, starts to publish an
envelope, goes on with its broadcast, is past it, or is done with its envelope, which the
broker has taken if it is an announcement. -/
inductive Goes (cluster after : Cluster Bytes) (id : ConnId) (old new : Connection Bytes) : Prop
  | stays (hstage : new.stage = old.stage) (hsent : new.sent = old.sent)
  | starts (envelope : Envelope) (hidle : old.stage.tag = none)
      (hsent : new.sent = old.sent ++ [envelope])
      (htag : new.stage.tag = some ⟨id, old.sent.length⟩)
      (hprogress : new.stage.progress = some .lookup)
  | offers (rest : Progress) (hsent : new.sent = old.sent) (htag : new.stage.tag = old.stage.tag)
      (hprogress : new.stage.progress = some rest)
      (hserving : ∀ client, rest.Targets client →
        cluster.Serving old.node old.client.documentId old.stage.progress client)
  | publishes (hsent : new.sent = old.sent) (htag : new.stage.tag = old.stage.tag)
      (hprogress : new.stage.progress = none)
  | ends (hsent : new.sent = old.sent) (hinactive : new.stage.Inactive)
      (hdone : ∀ tag, old.stage.tag = some tag → old.stage.next = some .read ∨
        ∃ entry ∈ after.channels (channel old.client.documentId), entry.tag = tag)

namespace Goes

variable {between : Cluster Bytes} {id : ConnId}

/-- The goroutine of one connection moves. -/
theorem setConnection {i : ConnId} {current next old new : Connection Bytes}
    (hcurrent : cluster.connections i = some current)
    (hconnections : between.connections = cluster.connections)
    (hgoes : cluster.Goes (between.setConnection i next) i current next)
    (hold : cluster.connections id = some old)
    (hnew : (between.setConnection i next).connections id = some new) :
    cluster.Goes (between.setConnection i next) id old new := by
  by_cases heq : id = i
  · subst heq
    cases hcurrent.symm.trans hold
    cases (Function.update_self id _ _ : _ = some _).symm.trans hnew
    exact hgoes
  · have hsame : (between.setConnection i next).connections id = some old := by
      rw [← hold, ← hconnections]
      exact Function.update_of_ne heq ..
    cases hsame.symm.trans hnew
    exact .stays rfl rfl

theorem proceed {after : Cluster Bytes} {old current : Connection Bytes}
    (hsent : current.sent = old.sent) (failed : Bool) (next : Continuation)
    (hdone : ∀ tag, old.stage.tag = some tag → old.stage.next = some .read ∨
      ∃ entry ∈ after.channels (channel old.client.documentId), entry.tag = tag) :
    cluster.Goes after id old (current.proceed codec failed next) := by
  obtain ⟨-, -, hsame, hinactive, -⟩ := current.proceed_spec codec failed next
  exact .ends (hsame.trans hsent) hinactive hdone

theorem publish {after : Cluster Bytes} {old current : Connection Bytes}
    (hsent : current.sent = old.sent) (hidle : old.stage.tag = none) (envelope : Envelope)
    (next : Continuation) : cluster.Goes after id old (current.publish codec id envelope next) := by
  unfold Connection.publish
  split
  next =>
    refine .proceed hsent true next fun tag htag => ?_
    cases hidle.symm.trans htag
  next => exact .starts envelope hidle (by rw [← hsent]) (by rw [← hsent]; rfl) rfl

/-- The goroutine is not publishing, and does not start to. -/
theorem idle {after : Cluster Bytes} {old new : Connection Bytes} (hsent : new.sent = old.sent)
    (hidle : old.stage.tag = none) (hinactive : new.stage.Inactive) :
    cluster.Goes after id old new := by
  refine .ends hsent hinactive fun tag htag => ?_
  cases hidle.symm.trans htag

theorem register {subscribed : Bool} {now : Instant} {i : ConnId}
    {current old new : Connection Bytes} (hcurrent : cluster.connections i = some current)
    (hstage : current.stage = .connecting) (hold : cluster.connections id = some old)
    (hnew : (cluster.register codec i current subscribed now).connections id = some new) :
    cluster.Goes (cluster.register codec i current subscribed now) id old new := by
  have hidle : current.stage.tag = none := by rw [hstage]; rfl
  have hseated : ∀ j, ({ current with subscription := some j } : Connection Bytes).sent =
      current.sent := fun _ => rfl
  revert hnew
  unfold Cluster.register
  dsimp only
  split
  next => exact setConnection hcurrent rfl (.publish (hseated _) hidle _ _) hold
  next =>
    split
    next => exact setConnection hcurrent rfl (.publish (hseated _) hidle _ _) hold
    next => exact setConnection hcurrent rfl (.idle rfl hidle ⟨rfl, rfl⟩) hold

theorem leave {now : Instant} {i : ConnId} {current old new : Connection Bytes}
    (hcurrent : cluster.connections i = some current) (hstage : current.stage = .unregistering)
    (hold : cluster.connections id = some old)
    (hnew : (cluster.leave codec i current now).connections id = some new) :
    cluster.Goes (cluster.leave codec i current now) id old new := by
  have hidle : current.stage.tag = none := by rw [hstage]; rfl
  revert hnew
  unfold Cluster.leave
  dsimp only
  split
  next => exact setConnection hcurrent rfl (.idle rfl hidle ⟨rfl, rfl⟩) hold
  next => exact setConnection hcurrent rfl (.publish rfl hidle _ _) hold

theorem readFrame {frame : Bytes} {now : Instant} {i : ConnId} {current old new : Connection Bytes}
    (hcurrent : cluster.connections i = some current) (hstage : current.stage = .reading)
    (hold : cluster.connections id = some old)
    (hnew : (cluster.readFrame codec i current frame now).connections id = some new) :
    cluster.Goes (cluster.readFrame codec i current frame now) id old new := by
  have hidle : current.stage.tag = none := by rw [hstage]; rfl
  revert hnew
  unfold Cluster.readFrame
  split
  next code message _ =>
    have hstays : current.Stays (current.sendError codec code message) :=
      current.sendEnvelope_stays _
    exact setConnection hcurrent rfl (.stays hstays.stage hstays.sent) hold
  next => exact setConnection hcurrent rfl (.publish rfl hidle _ _) hold

/-- The local broadcast of a goroutine goes on, or is over. -/
theorem broadcast (h : cluster.Announcing) (hlayout : cluster.Layout codec)
    (hcodec : codec.WritesAnnouncements) {i choice : ConnId} {current old new : Connection Bytes}
    (hcurrent : cluster.connections i = some current) {publication : Publication Bytes}
    {progress : Progress} {next : Continuation}
    (hstage : current.stage = .broadcasting publication progress next) {moved : Cluster Bytes}
    {result : Option Progress}
    (hadvance : cluster.advanceBroadcast current.node current.client.documentId
      ⟨publication.localBytes, some publication.tag⟩ choice progress = some (moved, result))
    (hold : cluster.connections id = some old)
    (hnew : (moved.modifyConnection i (·.afterBroadcast codec publication next result)).connections
      id = some new) :
    cluster.Goes (moved.modifyConnection i (·.afterBroadcast codec publication next result)) id
      old new := by
  obtain ⟨-, hkept⟩ := h.advanceBroadcast hadvance
  obtain ⟨found, hfound, hstays⟩ := hkept id old hold
  by_cases heq : id = i
  · subst heq
    cases hcurrent.symm.trans hold
    rw [modifyConnection_self hfound] at hnew
    cases hnew
    have htag : current.stage.tag = some publication.tag := by rw [hstage]; rfl
    cases result with
    | some rest =>
        refine .offers rest hstays.sent htag.symm rfl fun client htarget => ?_
        rw [hstage]
        exact advanceBroadcast_targets hadvance rfl htarget
    | none =>
        unfold Connection.afterBroadcast
        dsimp only
        split
        next => exact .publishes hstays.sent htag.symm rfl
        next hpayload =>
          obtain rfl := h.payload hlayout hcodec hcurrent hstage hpayload
          exact .proceed hstays.sent true .read fun tag _ => .inl (by rw [hstage]; rfl)
  · have hsame : new = found := by
      unfold Cluster.modifyConnection at hnew
      split at hnew
      next => exact Option.some.inj (hnew.symm.trans hfound)
      next =>
        exact Option.some.inj (((Function.update_of_ne heq ..).symm.trans hnew).symm.trans hfound)
    subst hsame
    exact .stays hstays.stage hstays.sent

theorem run (h : cluster.Announcing) (hlayout : cluster.Layout codec)
    (hcodec : codec.WritesAnnouncements) {i choice : ConnId} {accepted : Bool} {now : Instant}
    {current old new : Connection Bytes} (hcurrent : cluster.connections i = some current)
    (haccepts : cluster.AcceptsAnnouncements (.run i choice accepted now)) {after : Cluster Bytes}
    (hrun : cluster.run codec i current choice accepted now = some after)
    (hold : cluster.connections id = some old) (hnew : after.connections id = some new) :
    cluster.Goes after id old new := by
  cases run_cases codec cluster hrun with
  | broadcast publication progress next moved result hstage hadvance =>
      exact broadcast h hlayout hcodec hcurrent hstage hadvance hold hnew
  | accept tag payload next hstage =>
      refine setConnection hcurrent rfl (.proceed rfl false next fun found hfound => ?_) hold hnew
      rw [hstage] at hfound
      cases hfound
      refine .inr ⟨⟨payload, tag⟩, ?_, rfl⟩
      simp [Cluster.setConnection, Cluster.append]
  | refuse tag payload next hstage haccepted =>
      subst haccepted
      have hread : next = .read := by
        by_contra hother
        have hfalse := haccepts current hcurrent (by simp [hstage, Stage.announcing, hother])
        cases hfalse
      subst hread
      exact setConnection hcurrent rfl
        (.proceed rfl true .read fun _ _ => .inl (by rw [hstage]; rfl)) hold hnew
  | acknowledge hstage =>
      have hstays : current.Stays (current.sendEnvelope codec current.client.ackEnvelope) :=
        current.sendEnvelope_stays _
      exact setConnection hcurrent rfl (.idle hstays.sent (by rw [hstage]; rfl) ⟨rfl, rfl⟩) hold
        hnew
  | unregister hstage => exact leave hcurrent hstage hold hnew
  | close hstage =>
      exact setConnection hcurrent rfl (.idle rfl (by rw [hstage]; rfl) ⟨rfl, rfl⟩) hold hnew
  | closeEmptied subscription hstage =>
      exact setConnection hcurrent rfl (.idle rfl (by rw [hstage]; rfl) ⟨rfl, rfl⟩) hold hnew
  | closeSubscription subscription hstage =>
      exact setConnection hcurrent (cluster.closeSubscription_connections subscription)
        (.idle rfl (by rw [hstage]; rfl) ⟨rfl, rfl⟩) hold hnew

end Goes

/-- What a step does to a goroutine. -/
theorem step_goes (h : cluster.Announcing) (hlayout : cluster.Layout codec)
    (hcodec : codec.WritesAnnouncements) {event : Event Bytes}
    (haccepts : cluster.AcceptsAnnouncements event) {after : Cluster Bytes}
    (hstep : step codec cluster event = some after) {id : ConnId} {old new : Connection Bytes}
    (hold : cluster.connections id = some old) (hnew : after.connections id = some new) :
    cluster.Goes after id old new := by
  cases step_cases codec cluster hstep with
  | connect i node client hnone =>
      have hne : id ≠ i := by
        rintro rfl
        cases hnone.symm.trans hold
      cases hold.symm.trans ((Function.update_of_ne hne ..).symm.trans hnew)
      exact .stays rfl rfl
  | register i subscribed now current hcurrent hstage =>
      exact .register hcurrent hstage hold hnew
  | frame i frame now current hcurrent hstage => exact .readFrame hcurrent hstage hold hnew
  | disconnect i current hcurrent hstage =>
      refine .setConnection hcurrent rfl (.idle ?_ (by rw [hstage]; rfl) ?_) hold hnew
      · split <;> rfl
      · split <;> exact ⟨rfl, rfl⟩
  | run i choice accepted now current _ hcurrent hrun =>
      exact .run h hlayout hcodec hcurrent haccepts hrun hold hnew
  | write i current message rest hcurrent =>
      exact .setConnection hcurrent rfl (.stays rfl rfl) hold hnew
  | stopWriting i current hcurrent =>
      exact .setConnection hcurrent rfl (.stays rfl rfl) hold hnew
  | deliver i choice subscription message progress moved result _ _ hadvance =>
      obtain ⟨-, hkept⟩ := h.advanceBroadcast hadvance
      obtain ⟨found, hfound, hstays⟩ := hkept id old hold
      cases hnew.symm.trans hfound
      exact .stays hstays.stage hstays.sent
  | forward | stop | receive | exit =>
      cases hold.symm.trans hnew
      exact .stays rfl rfl

/-! ## Announcements reach the broker -/

/-- Every announcement is being published, or the broker has it. -/
def Told (cluster : Cluster Bytes) : Prop :=
  ∀ tag sender envelope, cluster.Sent tag sender envelope → envelope.change ≠ 0 →
    sender.stage.tag = some tag ∨
      ∃ entry ∈ cluster.channels (channel sender.client.documentId), entry.tag = tag

theorem empty_told : (empty : Cluster Bytes).Told := by
  rintro tag sender envelope ⟨hsender, -⟩
  cases hsender

theorem Told.step (htold : cluster.Told) (h : cluster.Announcing) (hlayout : cluster.Layout codec)
    (hcodec : codec.WritesAnnouncements) {event : Event Bytes}
    (haccepts : cluster.AcceptsAnnouncements event) {after : Cluster Bytes}
    (hstep : Cluster.step codec cluster event = some after) : after.Told := by
  rintro tag new envelope ⟨hnew, hsent⟩ hchange
  rcases connection_before hlayout hstep hnew with ⟨old, hold, hclient, -⟩ | ⟨hnone, node, rfl⟩
  · -- what was there before is still being published, or has got to the broker
    have hbefore : old.sent[tag.number]? = some envelope → old.stage.tag = some tag ∨
        ∃ entry ∈ after.channels (channel old.client.documentId), entry.tag = tag := by
      intro hfound
      refine (htold tag old envelope ⟨hold, hfound⟩ hchange).imp_right ?_
      rintro ⟨entry, hentry, htag⟩
      exact ⟨entry, mem_channels_step hstep hentry, htag⟩
    rw [hclient]
    cases step_goes h hlayout hcodec haccepts hstep hold hnew with
    | stays hstage hsame =>
        rw [hstage]
        exact hbefore (hsame ▸ hsent)
    | starts started hidle hmore htag hprogress =>
        rw [hmore] at hsent
        by_cases hlast : tag.number < old.sent.length
        · rw [List.getElem?_append_left hlast] at hsent
          refine .inr ((hbefore hsent).resolve_left ?_)
          rw [hidle]
          exact nofun
        · have hbound := (List.getElem?_eq_some_iff.mp hsent).1
          rw [List.length_append, List.length_singleton] at hbound
          have hnumber : old.sent.length = tag.number := by omega
          rw [hnumber] at htag
          exact .inl htag
    | offers rest hsame htag hprogress hserving =>
        rw [htag]
        exact hbefore (hsame ▸ hsent)
    | publishes hsame htag hprogress =>
        rw [htag]
        exact hbefore (hsame ▸ hsent)
    | ends hsame hinactive hdone =>
        right
        rcases hbefore (hsame ▸ hsent) with hcurrent | htaken
        · rcases hdone tag hcurrent with hread | htaken
          · -- a message or an edit announces nobody
            obtain ⟨before, last, hlast, howns⟩ := (h.connection _ old hold).current .read hread
            obtain ⟨-, hnumber, -⟩ := hlayout.tag _ old.view (view_eq hold) tag hcurrent
            have hnumber : tag.number + 1 = old.sent.length := hnumber
            rw [hlast, List.length_append, List.length_singleton,
              Nat.add_right_cancel_iff] at hnumber
            rw [hsame, hlast, hnumber, List.getElem?_concat_length] at hsent
            cases hsent
            exact absurd (Client.Owns.change howns) hchange
          · exact htaken
        · exact htaken
  · cases step_cases codec cluster hstep with
    | connect =>
        rw [← Option.some.inj ((Function.update_self tag.sender _ _).symm.trans hnew)] at hsent
        cases hsent

/-! ## Messages stay in their rooms -/

/-- Whoever is in a room, is offered something there, or has received it, has been
registered for the document of the room. -/
structure Within (cluster : Cluster Bytes) : Prop where
  rooms : ∀ node documentId room, cluster.rooms node documentId = some room →
    ∀ client ∈ room.clients, cluster.RegisteredFor documentId client
  targets : ∀ id connection, cluster.connections id = some connection →
    ∀ progress, connection.stage.progress = some progress → ∀ client, progress.Targets client →
      cluster.RegisteredFor connection.client.documentId client
  deliveries : ∀ i s, cluster.subscriptions i = some s → ∀ message progress,
    s.delivery = some (message, progress) → ∀ client, progress.Targets client →
      cluster.RegisteredFor s.documentId client
  received : ∀ client message tag, cluster.Has client message → message.tag = some tag →
    ∃ sender, cluster.connections tag.sender = some sender ∧
      cluster.RegisteredFor sender.client.documentId client

theorem empty_within : (empty : Cluster Bytes).Within where
  rooms _ _ _ hroom := by cases hroom
  targets _ _ hconnection := by cases hconnection
  deliveries _ _ hs := by cases hs
  received _ _ _ hhas := by
    obtain ⟨_, hconnection, -⟩ := hhas
    cases hconnection

theorem Within.serving (h : cluster.Within) {node : NodeId} {documentId : DocumentId}
    {before : Option Progress} {client : ConnId}
    (hbefore : ∀ progress, before = some progress → progress.Targets client →
      cluster.RegisteredFor documentId client)
    (hserving : cluster.Serving node documentId before client) :
    cluster.RegisteredFor documentId client := by
  rcases hserving with ⟨progress, hprogress, htarget⟩ | ⟨room, hroom, hmember⟩
  · exact hbefore progress hprogress htarget
  · exact h.rooms node documentId room hroom client hmember

/-- A subscription delivers to nobody else afterwards. -/
theorem step_delivering {event : Event Bytes} {after : Cluster Bytes}
    (hstep : step codec cluster event = some after) {i : SubId} {new : Subscription Bytes}
    (hnew : after.subscriptions i = some new) {message : Message Bytes} {progress : Progress}
    (hdelivery : new.delivery = some (message, progress)) {client : ConnId}
    (htarget : progress.Targets client) : ∃ old, cluster.subscriptions i = some old ∧
      new.documentId = old.documentId ∧
        cluster.Serving old.node old.documentId (old.delivery.map Prod.snd) client := by
  have hsame : cluster.subscriptions i = some new → ∃ old, cluster.subscriptions i = some old ∧
      new.documentId = old.documentId ∧
        cluster.Serving old.node old.documentId (old.delivery.map Prod.snd) client :=
    fun hold => ⟨new, hold, rfl, .inl ⟨progress, by rw [hdelivery]; rfl, htarget⟩⟩
  -- one subscription is written
  have hwritten : ∀ {between : Cluster Bytes} {j : SubId} {old next : Subscription Bytes},
      (between.setSubscription j next).subscriptions i = some new →
      between.subscriptions = cluster.subscriptions → cluster.subscriptions j = some old →
      next.documentId = old.documentId →
      (next.delivery = some (message, progress) →
        cluster.Serving old.node old.documentId (old.delivery.map Prod.snd) client) →
      ∃ old, cluster.subscriptions i = some old ∧ new.documentId = old.documentId ∧
        cluster.Serving old.node old.documentId (old.delivery.map Prod.snd) client := by
    intro between j old next hfound hbetween hold hdocument hserves
    by_cases heq : i = j
    · subst heq
      cases (Function.update_self i _ _ : _ = some _).symm.trans hfound
      exact ⟨old, hold, hdocument, hserves hdelivery⟩
    · refine hsame ?_
      rw [← hbetween]
      exact (Function.update_of_ne heq ..).symm.trans hfound
  cases step_cases codec cluster hstep with
  | connect | disconnect | write | stopWriting => exact hsame hnew
  | register id subscribed now connection =>
      unfold Cluster.register at hnew
      dsimp only at hnew
      split at hnew
      next => exact hsame hnew
      next =>
        split at hnew
        next =>
          by_cases heq : i = cluster.nextSubscription
          · subst heq
            cases (Function.update_self cluster.nextSubscription _ _ : _ = some _).symm.trans hnew
            cases hdelivery
          · exact hsame ((Function.update_of_ne heq ..).symm.trans hnew)
        next => exact hsame hnew
  | frame =>
      unfold Cluster.readFrame at hnew
      split at hnew
      next => exact hsame hnew
      next => exact hsame hnew
  | run id choice accepted now connection _ _ hrun =>
      cases run_cases codec cluster hrun with
      | broadcast publication progress next moved result _ hadvance =>
          rw [modifyConnection_subscriptions, advanceBroadcast_subscriptions hadvance] at hnew
          exact hsame hnew
      | accept | refuse | acknowledge | close | closeEmptied => exact hsame hnew
      | unregister =>
          unfold Cluster.leave at hnew
          dsimp only at hnew
          split at hnew
          next => exact hsame hnew
          next => exact hsame hnew
      | closeSubscription subscription =>
          have hnew : (cluster.closeSubscription subscription).subscriptions i = some new := hnew
          unfold Cluster.closeSubscription at hnew
          split at hnew
          next => exact hsame hnew
          next found hfound =>
            refine hwritten hnew rfl hfound rfl fun hdelivers => ?_
            exact .inl ⟨progress, by rw [show found.delivery = _ from hdelivers]; rfl, htarget⟩
  | forward j s hs _ _ | stop j s hs _ | exit j s hs =>
      refine hwritten hnew rfl hs rfl fun hdelivers => ?_
      exact .inl ⟨progress, by rw [show s.delivery = _ from hdelivers]; rfl, htarget⟩
  | receive j s entry hs =>
      refine hwritten hnew rfl hs rfl fun hdelivers => ?_
      -- what has just been taken from the channel has not been offered to anybody
      unfold decode at hdelivers
      obtain ⟨decoded, -, hdelivers⟩ := Option.bind_eq_some_iff.mp hdelivers
      split at hdelivers
      next => cases hdelivers
      next =>
        obtain ⟨bytes, -, hpair⟩ := Option.bind_eq_some_iff.mp hdelivers
        cases hpair
        exact absurd htarget id
  | deliver j choice s offered before moved result hs hdelivering hadvance =>
      refine hwritten hnew (advanceBroadcast_subscriptions hadvance) hs rfl fun hdelivers => ?_
      obtain ⟨rest, hrest, hpair⟩ := Option.map_eq_some_iff.mp hdelivers
      cases hpair
      rw [hdelivering]
      exact advanceBroadcast_targets hadvance hrest htarget

/-- An envelope is offered in the room of its sender's document. -/
theorem Within.offers (h : cluster.Within) (hlayout : cluster.Layout codec)
    (haddressed : cluster.Addressed) {event : Event Bytes} {client : ConnId}
    {message : Message Bytes} (hoffers : cluster.Offers event client message) {tag : Tag}
    (htag : message.tag = some tag) : ∃ sender, cluster.connections tag.sender = some sender ∧
      cluster.RegisteredFor sender.client.documentId client := by
  cases hoffers with
  | sender id _ accepted now connection publication targets slow next hconnection hstage hchoice =>
      cases htag
      obtain ⟨⟨hself, -⟩, -⟩ := hlayout.broadcasting hconnection hstage
      refine ⟨connection, hself ▸ hconnection,
        h.targets id connection hconnection (.offering targets slow) ?_ client hchoice⟩
      rw [hstage]
      rfl
  | subscription id _ subscription _ targets slow hsubscription hdelivery hchoice =>
      obtain ⟨entry, -, hentry, hentryTag, -⟩ :=
        hlayout.delivery id subscription hsubscription message _ hdelivery
      obtain rfl : tag = entry.tag := Option.some.inj (htag.symm.trans hentryTag)
      obtain ⟨sender, hsender, hname⟩ := haddressed _ entry (List.mem_of_getElem? hentry)
      have hregistered := h.deliveries id subscription hsubscription message _ hdelivery client
        hchoice
      rw [channel_injective hname] at hregistered
      exact ⟨sender, hsender, hregistered⟩

theorem Within.step (h : cluster.Within) (hannouncing : cluster.Announcing)
    (hlayout : cluster.Layout codec) (haddressed : cluster.Addressed)
    (hcodec : codec.WritesAnnouncements) {event : Event Bytes}
    (haccepts : cluster.AcceptsAnnouncements event) {after : Cluster Bytes}
    (hafter : after.Layout codec) (hstep : Cluster.step codec cluster event = some after) :
    after.Within := by
  refine ⟨fun node documentId room hroom client hmember => ?_,
    fun id new hnew progress hprogress client htarget => ?_,
    fun i new hnew message progress hdelivery client htarget => ?_,
    fun client message tag hhas htag => ?_⟩
  · rcases step_rooms hstep hroom hmember with
      ⟨old, hold, hthere⟩ | ⟨subscribed, now, connection, rfl, hconnection, rfl⟩
    · exact (h.rooms node documentId old hold client hthere).step hlayout hstep
    · -- `Register` has recorded the subscription of the room
      obtain ⟨v, hv, -, hjoined⟩ := hafter.room_client _ _ room hroom client hmember
      obtain ⟨new, hnew, rfl⟩ := Option.map_eq_some_iff.mp hv
      obtain ⟨found, hfound, hclient, -⟩ := step_sent hlayout hstep client connection hconnection
      cases hnew.symm.trans hfound
      have hjoined : new.subscription = some room.sub := hjoined
      exact ⟨new, hnew, by rw [hclient], by rw [hjoined]; rfl⟩
  · rcases connection_before hlayout hstep hnew with ⟨old, hold, hclient, -⟩ | ⟨hnone, node, rfl⟩
    · rw [hclient]
      refine RegisteredFor.step ?_ hlayout hstep
      cases step_goes hannouncing hlayout hcodec haccepts hstep hold hnew with
      | stays hstage =>
          exact h.targets id old hold progress (hstage ▸ hprogress) client htarget
      | starts _ _ _ _ hlookup =>
          cases hlookup.symm.trans hprogress
          exact absurd htarget not_false
      | offers rest _ _ hrest hserving =>
          cases hrest.symm.trans hprogress
          exact h.serving (fun before hbefore => h.targets id old hold before hbefore client)
            (hserving client htarget)
      | publishes _ _ hnothing => cases hnothing.symm.trans hprogress
      | ends _ hinactive => cases hinactive.2.symm.trans hprogress
    · cases step_cases codec cluster hstep with
      | connect =>
          rw [← Option.some.inj ((Function.update_self id _ _).symm.trans hnew)] at hprogress
          cases hprogress
  · obtain ⟨old, hold, hdocument, hserving⟩ := step_delivering hstep hnew hdelivery htarget
    rw [hdocument]
    refine RegisteredFor.step (h.serving (fun before hbefore htargets => ?_) hserving) hlayout hstep
    obtain ⟨⟨found, _⟩, hfound, rfl⟩ := Option.map_eq_some_iff.mp hbefore
    exact h.deliveries i old hold found _ hfound client htargets
  · have hbefore : ∃ sender, cluster.connections tag.sender = some sender ∧
        cluster.RegisteredFor sender.client.documentId client := by
      rcases step_has hstep htag hhas with hold | hoffers
      · exact h.received client message tag hold htag
      · exact h.offers hlayout haddressed hoffers htag
    obtain ⟨sender, hsender, hregistered⟩ := hbefore
    obtain ⟨new, hnew, hclient, -⟩ := step_sent hlayout hstep tag.sender sender hsender
    exact ⟨new, hnew, hclient ▸ hregistered.step hlayout hstep⟩

end Cluster

end CollabEditor.Hub
