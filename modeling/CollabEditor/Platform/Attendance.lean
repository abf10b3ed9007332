import CollabEditor.Hub.Announcements
import CollabEditor.Platform.CatchUp
import CollabEditor.Worker.UserCount
import Mathlib.Data.Finset.Card

/-! # Who the worker believes is in a room

A node announces a client after it has put it into its room, or taken it out, and Redis
hands the worker, in order, what is published after its SUBSCRIBE. A runtime starts with
one user, whoever is in the room by then.
-/

namespace CollabEditor.Platform

open Foundation
open Hub Worker
open Backend (DocumentId)

variable {Bytes Doc : Type}

/-- The user count once the messages have been handled. -/
def countAfter (lib : Libraries Doc Bytes) (userCount : Nat) (messages : List Bytes) : Nat :=
  messages.foldl (fun userCount rawMessage => counted userCount (announcement lib rawMessage))
    userCount

theorem countAfter_append {lib : Libraries Doc Bytes} (userCount : Nat)
    (first second : List Bytes) :
    countAfter lib userCount (first ++ second) =
      countAfter lib (countAfter lib userCount first) second :=
  List.foldl_append

namespace CatchUp

variable (codec : Codec Bytes) (lib : Libraries Doc Bytes) (state : CatchUp Bytes Doc)

/-- The connections there have been. -/
def clients : Finset ConnId := state.tabs.keys.toFinset

/-- The number of connections in a room. -/
def present (documentId : DocumentId) : Nat :=
  (state.clients.filter fun id => state.relay.cluster.inRoom documentId id = true).card

/-- The number of connections that have been announced, and have not been announced to
have left. -/
def announced (documentId : DocumentId) : Nat :=
  (state.clients.filter fun id => state.relay.cluster.announced documentId id = true).card

/-- What Redis has still to hand to the worker from one room. -/
def undelivered (documentId : DocumentId) : List Bytes :=
  (state.relay.feed.filter (·.1 = channel documentId)).map fun item => item.2.payload

/-- No announcement of the room is on its way. -/
def Settled (documentId : DocumentId) : Prop :=
  state.undelivered documentId = [] ∧ ∀ id ∈ state.clients,
    state.relay.cluster.inRoom documentId id = state.relay.cluster.announced documentId id

/-- The broker takes every announcement, a session is initialised while somebody is in the
room, and `closeDocument` has no callers but those of the worker. Clients are of documents
whose id JavaScript reads back. -/
def Supposed : Event Bytes → Prop
  | .connect _ _ client _ => ReadsChannel lib client.documentId
  | .relay (.hub event _) => state.relay.cluster.AcceptsAnnouncements event
  | .relay (.worker (.initializeDocument request)) => 0 < state.present request.documentId
  | .relay (.worker (.closeDocument _)) => False
  | _ => True

instance (event : Event Bytes) : Decidable (state.Supposed lib event) :=
  match event with
  | .connect _ _ _ _ => inferInstanceAs (Decidable (ReadsChannel lib _))
  | .relay (.hub event _) =>
      inferInstanceAs (Decidable (state.relay.cluster.AcceptsAnnouncements event))
  | .relay (.worker (.initializeDocument request)) =>
      inferInstanceAs (Decidable (0 < state.present request.documentId))
  | .relay (.worker (.closeDocument _)) => inferInstanceAs (Decidable False)
  | .relay (.worker (.handleRedisMessage ..)) | .relay (.worker (.shutdownAll _))
  | .relay (.worker (.resume ..)) | .relay (.worker (.tick _)) | .relay .handle | .receive _
  | .initialized _ | .sync _ | .respond _ | .fail _ => inferInstanceAs (Decidable True)

/-- Nobody is about to be counted: no arrival is on its way to the worker, and whoever is
in the room has been announced. -/
def NobodyComes (documentId : DocumentId) : Prop :=
  (∀ rawMessage ∈ state.undelivered documentId, announcement lib rawMessage ≠ some true) ∧
    ∀ id ∈ state.clients, state.relay.cluster.inRoom documentId id = true →
      state.relay.cluster.announced documentId id = true

instance (documentId : DocumentId) : Decidable (state.NobodyComes lib documentId) :=
  inferInstanceAs (Decidable (_ ∧ _))

/-- While a session is there, Redis hears who is announced; nobody enters a room whose
session is being closed. -/
def Hears (event : Cluster.Event Bytes) (heard : Bool) : Prop :=
  (∀ item ∈ state.relay.cluster.publication event, announcement lib item.2.payload ≠ none →
    ∀ documentId ∈ state.relay.manager.documents.keys, item.1 = channel documentId →
      state.relay.hears item.1 heard = true) ∧
  match event with
  | .register id _ _ => ∀ connection ∈ state.relay.cluster.connections id,
      ∀ frame ∈ state.relay.manager.calls,
        Manager.closing frame ≠ some connection.client.documentId
  | _ => True

instance (event : Cluster.Event Bytes) (heard : Bool) :
    Decidable (state.Hears lib event heard) := by
  unfold Hears
  cases event <;> exact inferInstance

/-- A runtime is constructed when the announcements still to be handled lead from one user
to those announced, and the runtime that closes a session is the registered one, with
nobody about to be counted. -/
def Starts (event : Manager.Event Bytes) : Prop :=
  (∀ request ∈ state.relay.manager.installs event,
    countAfter lib 1 (state.undelivered request.documentId) = state.announced request.documentId) ∧
  ∀ target ∈ state.relay.manager.closes event,
    state.relay.manager.documents.lookup target.1 = some target.2 ∧ state.NobodyComes lib target.1

instance (event : Manager.Event Bytes) : Decidable (state.Starts lib event) :=
  inferInstanceAs (Decidable (_ ∧ _))

def Heard (event : Event Bytes) : Prop :=
  state.Supposed lib event ∧
  match event with
  | .relay (.hub event heard) => state.Hears lib event heard
  | .relay (.worker event) => state.Starts lib event
  | _ => True

instance (event : Event Bytes) : Decidable (state.Heard lib event) := by
  unfold Heard
  match event with
  | .relay (.hub event heard) => exact inferInstance
  | .relay (.worker event) => exact inferInstance
  | .connect _ _ _ _ | .relay .handle | .receive _ | .initialized _ | .sync _ | .respond _
  | .fail _ => exact inferInstance

/-! ## The invariant -/

variable {codec lib state} {json : Envelope → Json}

structure Attended (codec : Codec Bytes) (lib : Libraries Doc Bytes) (state : CatchUp Bytes Doc) :
    Prop where
  ordered : state.relay.cluster.Ordered codec False
  announcing : state.relay.cluster.Announcing
  addressed : state.relay.cluster.Addressed
  fed : ∀ item ∈ state.relay.feed, item.2 ∈ state.relay.cluster.channels item.1
  readable : ∀ id connection, state.relay.cluster.connections id = some connection →
    ReadsChannel lib connection.client.documentId
  seated : ∀ id connection, state.relay.cluster.connections id = some connection →
    id ∈ state.clients
  known : state.relay.manager.Known
  keys : ∀ documentId id, state.relay.manager.documents.lookup documentId = some id →
    ∃ runtime, state.relay.manager.runtimes[id]? = some runtime ∧ runtime.documentId = documentId
  counts : ∀ documentId id runtime,
    state.relay.manager.documents.lookup documentId = some id →
    state.relay.manager.runtimes[id]? = some runtime →
    countAfter lib runtime.userCount (state.undelivered documentId) = state.announced documentId
  closing : ∀ frame ∈ state.relay.manager.calls, ∀ documentId,
    Manager.closing frame = some documentId → state.present documentId = 0

theorem present_eq_zero {documentId : DocumentId} : state.present documentId = 0 ↔
    ∀ id ∈ state.clients, state.relay.cluster.inRoom documentId id ≠ true := by
  simp [present, Finset.card_eq_zero, Finset.filter_eq_empty_iff]

/-- Without an arrival a count of nobody stays one. -/
theorem countAfter_zero {messages : List Bytes}
    (hnone : ∀ rawMessage ∈ messages, announcement lib rawMessage ≠ some true) :
    countAfter lib 0 messages = 0 := by
  induction messages with
  | nil => rfl
  | cons first rest ih =>
      have hfirst : counted 0 (announcement lib first) = 0 := by
        cases hannounced : announcement lib first with
        | none => rfl
        | some joined =>
            cases joined with
            | false => rfl
            | true => exact absurd hannounced (hnone first List.mem_cons_self)
      show countAfter lib (counted 0 (announcement lib first)) rest = 0
      rw [hfirst]
      exact ih fun rawMessage hmember => hnone rawMessage (List.mem_cons_of_mem first hmember)

/-- Nobody is in the room whose session is closed. -/
theorem Attended.closes (h : state.Attended codec lib) {event : Manager.Event Bytes}
    (hguard : state.Starts lib event) {target : DocumentId × RuntimeId}
    (hcloses : state.relay.manager.closes event = some target) : state.present target.1 = 0 := by
  obtain ⟨hlookup, harrivals, hannounced⟩ := hguard.2 target hcloses
  obtain ⟨runtime, hruntime, hempty⟩ :=
    (Option.any_eq_true _ _).mp (Manager.shouldClose_of_closes hcloses)
  have hcount := h.counts target.1 target.2 runtime hlookup hruntime
  have hzero : runtime.userCount = 0 := by simpa [DocumentRuntime.shouldClose] using hempty
  rw [hzero, countAfter_zero harrivals, announced, eq_comm, Finset.card_eq_zero,
    Finset.filter_eq_empty_iff] at hcount
  exact present_eq_zero.mpr fun id hid hroom => hcount hid (hannounced id hid hroom)

/-! ### The nodes -/

/-- Connections that have just been opened are in no room. -/
theorem filter_clients {before after : Finset ConnId} {check : ConnId → Bool}
    (hsubset : before ⊆ after) (hnew : ∀ id ∈ after, id ∉ before → check id = false) :
    (after.filter fun id => check id = true) = before.filter fun id => check id = true := by
  ext id
  simp only [Finset.mem_filter]
  constructor
  · rintro ⟨hid, hcheck⟩
    by_contra hnot
    rw [hnew id hid fun hold => hnot ⟨hold, hcheck⟩] at hcheck
    cases hcheck
  · exact fun ⟨hid, hcheck⟩ => ⟨hsubset hid, hcheck⟩

theorem announced_card {before after : Finset ConnId} {old new : ConnId → Bool} {id : ConnId}
    {next : Continuation} (hid : id ∈ before) (hold : old id = next.announced)
    (hnew : ∀ other, new other = if other = id then next.seated else old other)
    (hsubset : before ⊆ after) (hfresh : ∀ other ∈ after, other ∉ before → old other = false) :
    (after.filter fun other => new other = true).card =
      counted (before.filter fun other => old other = true).card next.joins := by
  have hsame : (after.filter fun other => new other = true) =
      before.filter fun other => new other = true := by
    refine filter_clients hsubset fun other hother hnot => ?_
    have hne : other ≠ id := fun heq => hnot (heq ▸ hid)
    rw [hnew, if_neg hne]
    exact hfresh other hother hnot
  rw [hsame]
  cases next with
  | acknowledge =>
      have hinsert : (before.filter fun other => new other = true) =
          insert id (before.filter fun other => old other = true) := by
        ext other
        by_cases heq : other = id
        · subst heq
          simp [hid, hnew, Continuation.seated]
        · simp [heq, hnew]
      rw [hinsert, Finset.card_insert_of_notMem]
      · rfl
      · simp [hold, Continuation.announced]
  | read =>
      refine congrArg Finset.card (Finset.filter_congr fun other _ => ?_)
      by_cases heq : other = id
      · subst heq
        rw [hnew, if_pos rfl, hold]
        rfl
      · rw [hnew, if_neg heq]
  | close subscription =>
      have herase : (before.filter fun other => new other = true) =
          (before.filter fun other => old other = true).erase id := by
        ext other
        by_cases heq : other = id
        · subst heq
          simp [hnew, Continuation.seated]
        · simp [heq, hnew]
      rw [herase, Finset.card_erase_of_mem]
      · rfl
      · simp [hid, hold, Continuation.announced]

/-- The worker recognises what it is told. -/
theorem announcement_of_publishes (hread : Readable codec lib json) {client : Client}
    {next : Continuation} {envelope : Envelope} (hpublishes : client.Publishes next envelope)
    {node : NodeId} {payload : Bytes}
    (hpayload : codec.marshalMessage ⟨node, envelope⟩ = some payload) :
    announcement lib payload = next.joins := by
  have hparse : Manager.parseEnvelopeMessage lib payload = some (json envelope) :=
    hread.parseEnvelopeMessage hpayload
  unfold announcement
  rw [hparse, Option.bind_eq_bind, Option.bind_some, hread.type]
  cases next with
  | acknowledge =>
      obtain ⟨now, rfl⟩ := hpublishes
      rfl
  | close subscription =>
      obtain ⟨now, rfl⟩ := hpublishes
      rfl
  | read =>
      rcases (show client.Owns envelope from hpublishes).type with htype | htype <;>
        rw [htype] <;> rfl

/-- A node moves. -/
theorem Attended.hub (h : state.Attended codec lib) (hread : Readable codec lib json)
    (hcodec : codec.WritesAnnouncements) {event : Cluster.Event Bytes} {heard : Bool}
    {cluster : Cluster Bytes}
    (hstep : Cluster.step codec state.relay.cluster event = some cluster)
    (haccepts : state.relay.cluster.AcceptsAnnouncements event)
    (hhears : state.Hears lib event heard) {after : CatchUp Bytes Doc}
    (hrelay : after.relay = state.relay.hub event heard cluster)
    (hclients : state.clients ⊆ after.clients)
    (hfresh : ∀ id ∈ after.clients, id ∉ state.clients →
      state.relay.cluster.connections id = none)
    (hconnect : ∀ id node client, event = .connect id node client →
      ReadsChannel lib client.documentId ∧ id ∈ after.clients) :
    after.Attended codec lib := by
  have hlayout := h.ordered.layout
  have hcluster : after.relay.cluster = cluster := by rw [hrelay]; rfl
  have hmanager : after.relay.manager = state.relay.manager := by rw [hrelay]; rfl
  have hfeed : after.relay.feed = state.relay.feed ++
      (state.relay.cluster.publication event).toList.filter fun item =>
        state.relay.hears item.1 heard := by rw [hrelay]; rfl
  refine ⟨?_, ?_, ?_, ?_, ?_, ?_, ?_, ?_, ?_, ?_⟩
  · rw [hcluster]
    exact h.ordered.step hread.keepsOrigin False.elim hstep
  · rw [hcluster]
    exact h.announcing.step hlayout hcodec hstep
  · rw [hcluster]
    exact h.addressed.step hlayout hstep
  · intro item hitem
    rw [hcluster, Cluster.step_channels hstep]
    rw [hfeed] at hitem
    rcases List.mem_append.mp hitem with hold | hnew
    · have hkept := Cluster.mem_channels_step hstep (h.fed item hold)
      rwa [Cluster.step_channels hstep] at hkept
    · obtain ⟨hpublication, -⟩ := List.mem_filter.mp hnew
      rw [Option.mem_toList] at hpublication
      rw [hpublication]
      simp [Cluster.append]
  · rw [hcluster]
    intro id new hnew
    rcases Cluster.connection_before hlayout hstep hnew with
      ⟨old, hold, hclient, -⟩ | ⟨-, node, hevent⟩
    · rw [hclient]
      exact h.readable id old hold
    · exact (hconnect id node new.client hevent).1
  · rw [hcluster]
    intro id new hnew
    rcases Cluster.connection_before hlayout hstep hnew with ⟨old, hold, -⟩ | ⟨-, node, hevent⟩
    · exact hclients (h.seated id old hold)
    · exact (hconnect id node new.client hevent).2
  · rw [hmanager]
    exact h.known
  · rw [hmanager]
    exact h.keys
  · rw [hmanager]
    intro documentId id runtime hlookup hruntime
    have hcount := h.counts documentId id runtime hlookup hruntime
    have hfreshAnnounced : ∀ other ∈ after.clients, other ∉ state.clients →
        state.relay.cluster.announced documentId other = false := by
      intro other hother hnot
      simp [Cluster.announced, hfresh other hother hnot]
    cases Cluster.step_tells h.announcing hlayout hcodec haccepts hstep with
    | nothing hpublication hsame =>
        have hundelivered : after.undelivered documentId = state.undelivered documentId := by
          simp [undelivered, hfeed, hpublication]
        rw [hundelivered, hcount]
        unfold announced
        rw [hcluster, ← filter_clients hclients hfreshAnnounced]
        exact congrArg Finset.card (Finset.filter_congr fun other _ => by rw [hsame])
    | published sender connection entry next envelope hsender hpublication hpublishes hpayload
        hbefore hafter =>
        have hannouncement : announcement lib entry.payload = next.joins :=
          announcement_of_publishes hread hpublishes hpayload
        by_cases hdocument : documentId = connection.client.documentId
        · subst hdocument
          have hannounced : after.announced connection.client.documentId =
              counted (state.announced connection.client.documentId) next.joins := by
            unfold announced
            rw [hcluster]
            exact announced_card (h.seated sender connection hsender) hbefore
              (fun other => by simpa using hafter connection.client.documentId other) hclients
              hfreshAnnounced
          cases hheard : state.relay.hears (channel connection.client.documentId) heard with
          | true =>
              have hundelivered : after.undelivered connection.client.documentId =
                  state.undelivered connection.client.documentId ++ [entry.payload] := by
                simp [undelivered, hfeed, hpublication, hheard]
              rw [hundelivered, countAfter_append, hcount, hannounced, ← hannouncement]
              rfl
          | false =>
              -- what the worker does not hear of announces nobody
              have hnone : next.joins = none := by
                by_contra hannounces
                have hlistens := hhears.1 _ hpublication (hannouncement ▸ hannounces)
                  connection.client.documentId (AList.mem_keys.mp
                    (AList.lookup_isSome.mp (Option.isSome_of_mem hlookup))) rfl
                cases hheard.symm.trans hlistens
              have hundelivered : after.undelivered connection.client.documentId =
                  state.undelivered connection.client.documentId := by
                simp [undelivered, hfeed, hpublication, hheard]
              rw [hundelivered, hcount, hannounced, hnone]
              rfl
        · have hname : channel connection.client.documentId ≠ channel documentId :=
            fun heq => hdocument (channel_injective heq).symm
          have hundelivered : after.undelivered documentId = state.undelivered documentId := by
            simp [undelivered, hfeed, hpublication, List.filter_filter, hname]
          rw [hundelivered, hcount]
          unfold announced
          rw [hcluster, ← filter_clients hclients hfreshAnnounced]
          refine congrArg Finset.card (Finset.filter_congr fun other _ => ?_)
          rw [hafter, if_neg fun hboth => hdocument hboth.1]
  · rw [hmanager]
    intro frame hframe documentId hcloses
    have hnobody := present_eq_zero.mp (h.closing frame hframe documentId hcloses)
    refine present_eq_zero.mpr fun id hid hroom => ?_
    rw [hcluster] at hroom
    rcases Cluster.inRoom_before hlayout hstep hroom with
      hbefore | ⟨subscribed, now, connection, rfl, hconnection, rfl⟩
    · refine hnobody id ?_ hbefore
      by_contra hnot
      simp [Cluster.inRoom, hfresh id hid hnot] at hbefore
    · exact hhears.2 connection hconnection frame hframe hcloses

/-! ### The worker -/

theorem Attended.worked (h : state.Attended codec lib) {event : Manager.Event Bytes}
    {manager : Manager Doc} (hguard : state.Starts lib event)
    (hmessage : ∀ channel rawMessage, event ≠ .handleRedisMessage channel rawMessage)
    (hclose : ∀ documentId, event ≠ .closeDocument documentId)
    (hstep : state.relay.manager.step lib event = some manager) :
    (state.withRelay (.worker event) (state.relay.work event manager)).Attended codec lib := by
  refine ⟨h.ordered, h.announcing, h.addressed, h.fed, h.readable, h.seated, h.known.step hstep,
    Manager.step_keys h.known h.keys hstep, fun documentId id runtime hlookup hruntime => ?_,
    fun frame hframe documentId hcloses => ?_⟩
  · rcases Manager.step_keepsCounts hmessage hstep id runtime hruntime with
      ⟨before, hbefore, hcount⟩ | ⟨hid, hcount⟩
    · rcases Manager.step_registered hstep hlookup with hlookup | hnew
      · rw [hcount]
        exact h.counts documentId id before hlookup hbefore
      · exact absurd (List.getElem?_eq_some_iff.mp hbefore).1 (not_lt.mpr hnew)
    · rcases Manager.step_registered hstep hlookup with hlookup | hnew
      · exact absurd (h.known.registered documentId id hlookup) (not_lt.mpr hid.ge)
      · obtain ⟨request, hinstalls, rfl⟩ :=
          Manager.step_registered_key h.known hstep hlookup hnew
        rw [hcount]
        exact hguard.1 request hinstalls
  · rcases Manager.step_closing hclose hstep hframe hcloses with ⟨old, hold, hsame⟩ | ⟨id, hnew⟩
    · exact h.closing old hold documentId hsame
    · exact h.closes hguard hnew

/-- The next message is handled by the runtime of its room. -/
theorem Attended.handled (h : state.Attended codec lib) {item : String × Hub.Published Bytes}
    {rest : List (String × Hub.Published Bytes)} (hfeed : state.relay.feed = item :: rest) :
    (state.withRelay .handle (state.relay.handle lib item rest)).Attended codec lib := by
  let event : Manager.Event Bytes := .handleRedisMessage item.1 item.2.payload
  have hstep : state.relay.manager.step lib event =
      some (state.relay.manager.handleRedisMessage lib item.1 item.2.payload) := rfl
  -- the message was published in the room of its sender
  obtain ⟨sender, hsender, hname⟩ :=
    h.addressed item.1 item.2 (h.fed item (hfeed ▸ List.mem_cons_self))
  have hparsed : Manager.parseDocumentIdFromChannel lib item.1 =
      some sender.client.documentId := hname ▸ h.readable _ sender hsender
  refine ⟨h.ordered, h.announcing, h.addressed,
    fun other hother => h.fed other (hfeed ▸ List.mem_cons_of_mem item hother), h.readable,
    h.seated, h.known.step hstep, Manager.step_keys h.known h.keys hstep,
    fun documentId id runtime hlookup hruntime => ?_, fun frame hframe documentId hcloses => ?_⟩
  · have hlookup : state.relay.manager.documents.lookup documentId = some id :=
      state.relay.manager.handleRedisMessage_documents item.1 item.2.payload ▸ hlookup
    obtain ⟨before, hbefore, hcounted⟩ :=
      state.relay.manager.handleRedisMessage_userCount hruntime
    have hcount := h.counts documentId id before hlookup hbefore
    rw [hparsed, Option.bind_some] at hcounted
    by_cases heq : sender.client.documentId = documentId
    · subst heq
      have hnext : state.undelivered sender.client.documentId = item.2.payload ::
          (state.withRelay .handle (state.relay.handle lib item rest)).undelivered
            sender.client.documentId := by
        simp [undelivered, hfeed, hname, withRelay, Relay.handle]
      rw [hlookup, if_pos rfl] at hcounted
      rw [hnext] at hcount
      rw [hcounted]
      exact hcount
    -- two documents never share a runtime
    · have hother : state.relay.manager.documents.lookup sender.client.documentId ≠ some id := by
        intro hsame
        obtain ⟨first, hfirst, hkey⟩ := h.keys _ id hsame
        obtain ⟨second, hsecond, hdocument⟩ := h.keys documentId id hlookup
        cases hfirst.symm.trans hsecond
        exact heq (hkey.symm.trans hdocument)
      have hchannel : item.1 ≠ channel documentId :=
        fun hsame => heq (channel_injective (hname.symm.trans hsame))
      have hnext : state.undelivered documentId =
          (state.withRelay .handle (state.relay.handle lib item rest)).undelivered documentId := by
        simp [undelivered, hfeed, hchannel, withRelay, Relay.handle]
      rw [if_neg hother] at hcounted
      rw [hcounted, ← hnext]
      exact hcount
  · have hclose : ∀ documentId, (.handleRedisMessage item.1 item.2.payload : Manager.Event Bytes) ≠
        .closeDocument documentId := by
      intro documentId heq
      cases heq
    rcases Manager.step_closing hclose hstep hframe hcloses with ⟨old, hold, hsame⟩ | ⟨id, hnew⟩
    · exact h.closing old hold documentId hsame
    · cases hnew

/-! ### One step -/

theorem mem_clients {id : ConnId} :
    id ∈ state.clients ↔ ∃ tab, state.tabs.lookup id = some tab := by
  rw [clients, List.mem_toFinset, ← AList.mem_keys, ← AList.lookup_isSome,
    Option.isSome_iff_exists]

theorem clients_insert (id : ConnId) (tab : Tab) :
    (state.withTab id tab).clients = insert id state.clients := by
  ext other
  rw [mem_clients, Finset.mem_insert, mem_clients]
  by_cases heq : other = id
  · subst heq
    simp [withTab]
  · simp [withTab, heq, AList.lookup_insert_ne heq]

/-- A page moves. -/
theorem Attended.withTab (h : state.Attended codec lib) {id : ConnId} {old : Tab}
    (hold : state.tabs.lookup id = some old) (tab : Tab) :
    (state.withTab id tab).Attended codec lib := by
  have hclients : (state.withTab id tab).clients = state.clients := by
    rw [clients_insert, Finset.insert_eq_self]
    exact mem_clients.mpr ⟨old, hold⟩
  refine ⟨h.ordered, h.announcing, h.addressed, h.fed, h.readable, ?_, h.known, h.keys, ?_, ?_⟩
  · rw [hclients]
    exact h.seated
  · unfold announced
    rw [hclients]
    exact h.counts
  · unfold present
    rw [hclients]
    exact h.closing

theorem Attended.step (h : state.Attended codec lib) (hread : Readable codec lib json)
    (hcodec : codec.WritesAnnouncements) {event : Event Bytes} (hguard : state.Heard lib event)
    {after : CatchUp Bytes Doc} (hstep : state.step codec lib event = some after) :
    after.Attended codec lib := by
  cases step_cases codec lib state hstep with
  | connect id node client mode cluster hcluster =>
      have hclients : (state.withTab id (.start mode)).clients = insert id state.clients :=
        clients_insert id _
      have hnone : state.relay.cluster.connections id = none := by
        cases Cluster.step_cases codec state.relay.cluster hcluster with
        | connect _ _ _ hnone => exact hnone
      refine h.hub hread hcodec hcluster trivial ⟨nofun, trivial⟩ rfl ?_ ?_ ?_
      · exact hclients ▸ Finset.subset_insert id state.clients
      · intro other hother hnot
        have hother : other ∈ (state.withTab id (.start mode)).clients := hother
        rw [hclients, Finset.mem_insert] at hother
        rw [hother.resolve_right hnot]
        exact hnone
      · intro other _ opened hevent
        cases hevent
        exact ⟨hguard.1, hclients ▸ Finset.mem_insert_self id state.clients⟩
  | relay event relay hother hrelay =>
      cases Relay.step_cases codec lib state.relay hrelay with
      | hub event heard cluster hcluster =>
          refine h.hub hread hcodec hcluster hguard.1 hguard.2 rfl (Finset.Subset.refl _)
            (fun id hid hnot => absurd hid hnot) ?_
          rintro id node client rfl
          cases hother id node client heard rfl
      | worker event manager hnotice hmanager =>
          refine h.worked hguard.2 hnotice ?_ hmanager
          rintro documentId rfl
          exact hguard.1
      | handle item rest hfeed => exact h.handled hfeed
  | receive id tab connection message htab => exact h.withTab htab _
  | initialized id tab htab => exact h.withTab htab _
  | sync id tab documentId response snapshot htab => exact h.withTab htab _
  | refuse id tab documentId htab => exact h.withTab htab _
  | respond id tab response htab => exact h.withTab htab _
  | fail id tab htab => exact h.withTab htab _

end CatchUp

end CollabEditor.Platform
