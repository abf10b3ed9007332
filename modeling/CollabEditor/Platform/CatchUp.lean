import CollabEditor.Frontend.CollabWorkspace
import CollabEditor.Hub.Reception
import CollabEditor.Platform.Relay
import CollabEditor.Worker.Removal

/-! # Whether a page catches up with the session

A page that joins is sent the state of the Yjs document by the worker and the later
edits by its node. Nothing makes sure that the worker is as far as the node was when
the client was registered.
-/

namespace CollabEditor.Platform

open Foundation
open Frontend Hub Worker
open Backend (DocumentId)

variable {Bytes Doc Raw : Type}

/-! ## The page -/

/-- `parseEnvelope` of the websocket service. -/
def parseEnvelope (lib : Libraries Doc Raw) (data : Raw) : Option Json :=
  (lib.parse data).filter fun value => (value.stringField "type").isSome

/-- `extractYjsPayload` -/
def extractYjsPayload (lib : Libraries Doc Raw) (envelope : Json) : Option (List UInt8) := do
  let payload ← envelope.field "payload"
  let update ← payload.stringField "update"
  lib.atob update

/-- What an envelope adds to `remoteUpdates$`. -/
def routeDocChange (lib : Libraries Doc Raw) (envelope : Json) : Option (List UInt8) :=
  if envelope.stringField "type" = some "doc.change" then extractYjsPayload lib envelope else none

/-- A snapshot of the worker, a record: its runtime, the number of runtimes there were, and
how many edits each of them had applied. -/
structure Snapshot where
  state : List UInt8
  runtime : RuntimeId
  runtimes : Nat
  edits : RuntimeId → Nat

/-- A page with what it feeds to its editor. -/
structure Tab where
  page : CollabWorkspace
  /-- What has been pushed into `remoteUpdates$`. -/
  remoteUpdates : List (List UInt8)
  /-- How many messages the socket has received. -/
  read : Nat
  /-- How many of them came before the page kept any, a record. -/
  skipped : Nat
  /-- The response to the sync request. -/
  response : Option WorkerSyncResponse
  snapshot : Option Snapshot

namespace Tab

variable (lib : Libraries Doc Raw) (tab : Tab)

def start (mode : WorkspaceMode) : Tab where
  page := .start mode
  remoteUpdates := []
  read := 0
  skipped := 0
  response := none
  snapshot := none

/-- The listener for messages of the socket. -/
def receive (data : Raw) : Tab :=
  match parseEnvelope lib data with
  | none => { tab with read := tab.read + 1 }
  | some envelope =>
      let page := tab.page.receive envelope
      { tab with
        -- the flow that waits for the acknowledgement goes on
        page :=
          if tab.page.phase = .connecting ∧ envelope.stringField "type" = some "connection.ack" then
            page.acknowledged
          else page
        remoteUpdates :=
          if tab.page.routed then tab.remoteUpdates ++ (routeDocChange lib envelope).toList
          else tab.remoteUpdates
        read := tab.read + 1 }

/-- `runInitFlow` from the response to the initialisation to the second request. -/
def initialized : Tab := { tab with page := tab.page.initialized, skipped := tab.read }

/-- The worker answers the sync request. -/
def answered (response : WorkerSyncResponse) (snapshot : Snapshot) : Tab :=
  { tab with response := some response, snapshot := some snapshot }

/-- Both flows from the response to the sync request on. -/
def synced (response : WorkerSyncResponse) : Tab :=
  match tab.page.mode with
  | .join =>
      { tab with
        -- first the state of the snapshot, then what has been buffered
        page := tab.page.joined response
        remoteUpdates := tab.remoteUpdates ++ [response.yjsState] ++
          tab.page.buffer.filterMap (routeDocChange lib)
        response := none }
  | .initializer =>
      { tab with
        page := tab.page.synced response
        remoteUpdates := tab.remoteUpdates ++ [response.yjsState]
        response := none }

def failed : Tab := { tab with page := tab.page.failed }

end Tab

/-! ## The system -/

/-- The nodes, the worker and the pages. `registered` records, for each client that has
been registered, which envelopes its room was past offering by then. -/
structure CatchUp (Bytes Doc : Type) where
  relay : Relay Bytes Doc
  registered : ConnId → Option (Tag → Bool)
  tabs : AList fun _ : ConnId => Tab

namespace CatchUp

variable (codec : Codec Bytes) (lib : Libraries Doc Bytes) (state : CatchUp Bytes Doc)

def empty : CatchUp Bytes Doc where
  relay := .empty
  registered := fun _ => none
  tabs := ∅

/-- The nodes or the worker have moved. -/
def withRelay (event : Relay.Event Bytes) (relay : Relay Bytes Doc) : CatchUp Bytes Doc :=
  { state with
    relay := relay
    registered :=
      match event with
      | .hub (.register id _ _) _ =>
          if (relay.cluster.connections id).any fun connection =>
              connection.subscription.isSome then
            Function.update state.registered id (some (relay.cluster.passed id))
          else state.registered
      | _ => state.registered }

def withTab (id : ConnId) (tab : Tab) : CatchUp Bytes Doc :=
  { state with tabs := state.tabs.insert id tab }

/-- The document of a connection. -/
def documentId (id : ConnId) : Option DocumentId :=
  (state.relay.cluster.connections id).map fun connection => connection.client.documentId

/-- The worker answers the sync request of a page. -/
def snapshot (documentId : DocumentId) : Option (WorkerSyncResponse × Snapshot) := do
  let runtime ← state.relay.manager.documents.lookup documentId
  let response ← state.relay.manager.syncDocument lib documentId
  return (response,
    { state := response.yjsState
      runtime := runtime
      runtimes := state.relay.manager.runtimes.length
      edits := fun id => (state.relay.edits id).length })

inductive Event (Bytes : Type)
  /-- A page opens its connection. -/
  | connect (id : ConnId) (node : NodeId) (client : Client) (mode : WorkspaceMode)
  | relay (event : Relay.Event Bytes)
  /-- The next message reaches the page. No message is written to the socket of a client that
  has not been registered. -/
  | receive (id : ConnId)
  /-- The first request of `runInitFlow` is answered. What the worker does for it are
  events of its own. -/
  | initialized (id : ConnId)
  /-- The worker answers the sync request of the page. -/
  | sync (id : ConnId)
  | respond (id : ConnId)
  /-- A request of the page fails, or its socket is closed. -/
  | fail (id : ConnId)

def step : Event Bytes → Option (CatchUp Bytes Doc)
  | .connect id node client mode =>
      (state.relay.step codec lib (.hub (.connect id node client) true)).map fun relay =>
        { state with relay := relay, tabs := state.tabs.insert id (.start mode) }
  | .relay (.hub (.connect _ _ _) _) => none
  | .relay event => (state.relay.step codec lib event).map fun relay => state.withRelay event relay
  | .receive id => do
      let tab ← state.tabs.lookup id
      let connection ← state.relay.cluster.connections id
      let message ← connection.received[tab.read]?
      if (state.registered id).isSome then some (state.withTab id (tab.receive lib message.bytes))
      else none
  | .initialized id => do
      let tab ← state.tabs.lookup id
      if tab.page.phase = .syncing ∧ tab.page.mode = .initializer ∧ tab.page.routed = false then
        some (state.withTab id tab.initialized)
      else none
  | .sync id => do
      let tab ← state.tabs.lookup id
      let documentId ← state.documentId id
      if tab.page.phase = .syncing ∧ (tab.page.mode = .join ∨ tab.page.routed = true) ∧
          tab.response.isNone = true then
        match state.snapshot lib documentId with
        | some (response, snapshot) => some (state.withTab id (tab.answered response snapshot))
        -- the worker has no session of the document
        | none => some (state.withTab id tab.failed)
      else none
  | .respond id => do
      let tab ← state.tabs.lookup id
      let response ← tab.response
      if tab.page.phase = .syncing then some (state.withTab id (tab.synced lib response)) else none
  | .fail id => do
      let tab ← state.tabs.lookup id
      return state.withTab id tab.failed

/-- What a step can have been. -/
inductive Steps : Event Bytes → CatchUp Bytes Doc → Prop
  | connect (id : ConnId) (node : NodeId) (client : Client) (mode : WorkspaceMode)
      (cluster : Cluster Bytes)
      (hcluster : Cluster.step codec state.relay.cluster (.connect id node client) = some cluster) :
      Steps (.connect id node client mode)
        { state with
          relay := state.relay.hub (.connect id node client) true cluster
          tabs := state.tabs.insert id (.start mode) }
  | relay (event : Relay.Event Bytes) (relay : Relay Bytes Doc)
      (hother : ∀ id node client heard, event ≠ .hub (.connect id node client) heard)
      (hrelay : state.relay.step codec lib event = some relay) :
      Steps (.relay event) (state.withRelay event relay)
  | receive (id : ConnId) (tab : Tab) (connection : Connection Bytes) (message : Message Bytes)
      (htab : state.tabs.lookup id = some tab)
      (hconnection : state.relay.cluster.connections id = some connection)
      (hmessage : connection.received[tab.read]? = some message)
      (hregistered : (state.registered id).isSome = true) :
      Steps (.receive id) (state.withTab id (tab.receive lib message.bytes))
  | initialized (id : ConnId) (tab : Tab) (htab : state.tabs.lookup id = some tab)
      (hphase : tab.page.phase = .syncing) (hmode : tab.page.mode = .initializer)
      (hwaits : tab.page.routed = false) :
      Steps (.initialized id) (state.withTab id tab.initialized)
  | sync (id : ConnId) (tab : Tab) (documentId : DocumentId) (response : WorkerSyncResponse)
      (snapshot : Snapshot) (htab : state.tabs.lookup id = some tab)
      (hdocument : state.documentId id = some documentId) (hphase : tab.page.phase = .syncing)
      (hlistens : tab.page.mode = .join ∨ tab.page.routed = true) (hnone : tab.response = none)
      (hsnapshot : state.snapshot lib documentId = some (response, snapshot)) :
      Steps (.sync id) (state.withTab id (tab.answered response snapshot))
  | refuse (id : ConnId) (tab : Tab) (documentId : DocumentId)
      (htab : state.tabs.lookup id = some tab) (hdocument : state.documentId id = some documentId)
      (hphase : tab.page.phase = .syncing) (hsnapshot : state.snapshot lib documentId = none) :
      Steps (.sync id) (state.withTab id tab.failed)
  | respond (id : ConnId) (tab : Tab) (response : WorkerSyncResponse)
      (htab : state.tabs.lookup id = some tab) (hresponse : tab.response = some response)
      (hphase : tab.page.phase = .syncing) :
      Steps (.respond id) (state.withTab id (tab.synced lib response))
  | fail (id : ConnId) (tab : Tab) (htab : state.tabs.lookup id = some tab) :
      Steps (.fail id) (state.withTab id tab.failed)

theorem step_cases {event : Event Bytes} {after : CatchUp Bytes Doc}
    (hstep : state.step codec lib event = some after) : state.Steps codec lib event after := by
  unfold step at hstep
  split at hstep
  next id node client mode =>
    obtain ⟨relay, hrelay, rfl⟩ := Option.map_eq_some_iff.mp hstep
    obtain ⟨cluster, hcluster, rfl⟩ := Option.map_eq_some_iff.mp hrelay
    exact .connect id node client mode cluster hcluster
  next => cases hstep
  next event hother =>
    obtain ⟨relay, hrelay, rfl⟩ := Option.map_eq_some_iff.mp hstep
    refine .relay event relay ?_ hrelay
    rintro id node client heard rfl
    exact hother id node client heard rfl
  next id =>
    simp only [Option.bind_eq_bind, Option.bind_eq_some_iff,
      Option.ite_none_right_eq_some] at hstep
    obtain ⟨tab, htab, connection, hconnection, message, hmessage, hregistered, hafter⟩ := hstep
    cases hafter
    exact .receive id tab connection message htab hconnection hmessage hregistered
  next id =>
    simp only [Option.bind_eq_bind, Option.bind_eq_some_iff,
      Option.ite_none_right_eq_some] at hstep
    obtain ⟨tab, htab, ⟨hphase, hmode, hwaits⟩, hafter⟩ := hstep
    cases hafter
    exact .initialized id tab htab hphase hmode hwaits
  next id =>
    simp only [Option.bind_eq_bind, Option.bind_eq_some_iff,
      Option.ite_none_right_eq_some] at hstep
    obtain ⟨tab, htab, documentId, hdocument, ⟨hphase, hlistens, hnone⟩, hstep⟩ := hstep
    split at hstep
    next response snapshot hsnapshot =>
      cases hstep
      exact .sync id tab documentId response snapshot htab hdocument hphase hlistens
        (Option.isNone_iff_eq_none.mp hnone) hsnapshot
    next hsnapshot =>
      cases hstep
      exact .refuse id tab documentId htab hdocument hphase hsnapshot
  next id =>
    simp only [Option.bind_eq_bind, Option.bind_eq_some_iff,
      Option.ite_none_right_eq_some] at hstep
    obtain ⟨tab, htab, response, hresponse, hphase, hafter⟩ := hstep
    cases hafter
    exact .respond id tab response htab hresponse hphase
  next id =>
    obtain ⟨tab, htab, hafter⟩ := Option.bind_eq_some_iff.mp hstep
    cases hafter
    exact .fail id tab htab

/-- Nobody is connected. -/
def system : TransitionSystem (CatchUp Bytes Doc) (Event Bytes) where
  init state := state = empty
  step := step codec lib

/-! ## What a page should have been given -/

/-- The queues are empty, and no broadcast is in progress. -/
def Drained : Prop :=
  state.relay.feed = [] ∧
    (∀ i < state.relay.cluster.nextSubscription, ∀ s ∈ state.relay.cluster.subscriptions i,
      s.delivery.isNone = true ∧ (s.closedAt = none →
        s.consumed = (state.relay.cluster.channels (channel s.documentId)).length)) ∧
    ∀ id ∈ state.tabs.keys, ∀ connection ∈ state.relay.cluster.connections id,
      connection.stage.progress.isNone = true

/-- The updates of the page contain what the runtime has applied: the state after some
edits, and the later ones. -/
def Covers (tab : Tab) (id : RuntimeId) : Prop :=
  ∃ before after, state.relay.edits id = before ++ after ∧
    (before = [] ∨ ∃ request doc, state.relay.origins[id]? = some request ∧
      Relay.replay lib (lib.newDoc request.clientId request.content) (before.map Prod.snd) =
        some doc ∧ lib.encodeStateAsUpdate doc ∈ tab.remoteUpdates) ∧
    ∀ edit ∈ after, edit.2 ∈ tab.remoteUpdates

/-- Once the queues are empty, an active page whose connection is open has been given every
update that the worker has applied in the session of its document. -/
def CaughtUp : Prop :=
  state.Drained → ∀ id tab connection, state.tabs.lookup id = some tab →
    state.relay.cluster.connections id = some connection →
    state.relay.cluster.InRoom id → connection.done = false →
    tab.page.phase = .active → tab.read = connection.received.length →
    ∀ runtime, state.relay.manager.documents.lookup connection.client.documentId = some runtime →
      state.Covers lib tab runtime

/-- The page is not given the envelope: its room was past offering it when the client was
registered, or the page did not keep it. -/
def lost (id : ConnId) (tab : Tab) (tag : Tag) : Bool :=
  (state.registered id).any (· tag) ||
    (state.relay.cluster.connections id).any fun connection =>
      (connection.received.take tab.skipped).any fun message => message.tag = some tag

/-- The page waits for later edits: it has its snapshot, and its connection is open. -/
def Waits (tab : Tab) (connection : Connection Bytes) : Prop :=
  tab.snapshot.isSome = true ∧ tab.page.phase ≠ .error ∧ connection.done = false

instance (tab : Tab) (connection : Connection Bytes) : Decidable (Waits tab connection) :=
  inferInstanceAs (Decidable (_ ∧ _))

/-- The worker applies no edit after the snapshot of a page that is not given it. Clients
are of documents whose id JavaScript reads back. -/
def InTime : Event Bytes → Prop
  | .connect _ _ client _ => ReadsChannel lib client.documentId
  | .relay .handle => ∀ item ∈ state.relay.feed.head?,
      (state.relay.manager.editOf lib item.1 item.2.payload).isSome = true →
      ∀ id ∈ state.tabs.keys, ∀ tab ∈ state.tabs.lookup id,
      ∀ connection ∈ state.relay.cluster.connections id,
        Waits tab connection → item.1 = channel connection.client.documentId →
          state.lost id tab item.2.tag = false
  | _ => True

instance (event : Event Bytes) : Decidable (state.InTime lib event) :=
  match event with
  | .connect _ _ _ _ => inferInstanceAs (Decidable (_ = _))
  | .relay .handle => inferInstanceAs (Decidable (∀ item ∈ state.relay.feed.head?,
      (state.relay.manager.editOf lib item.1 item.2.payload).isSome = true →
      ∀ id ∈ state.tabs.keys, ∀ tab ∈ state.tabs.lookup id,
      ∀ connection ∈ state.relay.cluster.connections id,
        Waits tab connection → item.1 = channel connection.client.documentId →
          state.lost id tab item.2.tag = false))
  | .relay (.hub _ _) | .relay (.worker _) | .receive _ | .initialized _ | .sync _ | .respond _
  | .fail _ => inferInstanceAs (Decidable True)

/-! ## The invariant -/

variable {codec lib state} {json : Envelope → Json}

/-- What a snapshot has to do with the runtimes. -/
structure SnapshotOk (lib : Libraries Doc Bytes) (state : CatchUp Bytes Doc) (id : ConnId)
    (tab : Tab) (connection : Connection Bytes) (snapshot : Snapshot) : Prop where
  replays : ∃ request doc, state.relay.origins[snapshot.runtime]? = some request ∧
    Relay.replay lib (lib.newDoc request.clientId request.content)
      (((state.relay.edits snapshot.runtime).take (snapshot.edits snapshot.runtime)).map Prod.snd) =
        some doc ∧ lib.encodeStateAsUpdate doc = snapshot.state
  bound : snapshot.runtimes ≤ state.relay.manager.runtimes.length
  taken : ∀ runtime, snapshot.edits runtime ≤ (state.relay.edits runtime).length
  unborn : ∀ runtime, snapshot.runtimes ≤ runtime → snapshot.edits runtime = 0
  current : ∀ runtime, state.relay.manager.documents.lookup connection.client.documentId =
    some runtime → runtime = snapshot.runtime ∨ snapshot.runtimes ≤ runtime
  later : tab.page.phase ≠ .error → connection.done = false → ∀ runtime,
    ∀ edit ∈ (state.relay.edits runtime).drop (snapshot.edits runtime),
    ∀ sender, state.relay.cluster.connections edit.1.sender = some sender →
      sender.client.documentId = connection.client.documentId → state.lost id tab edit.1 = false

/-- What a page has kept of what its client has received. -/
structure TabOk (lib : Libraries Doc Bytes) (state : CatchUp Bytes Doc) (id : ConnId) (tab : Tab)
    (connection : Connection Bytes) : Prop where
  read : tab.read ≤ connection.received.length
  skipped : tab.skipped ≤ tab.read
  joining : tab.page.mode = .join →
    tab.skipped = 0 ∧ (tab.page.routed = false → tab.page.buffering = true)
  kept : tab.page.buffering = true ∨ tab.page.routed = true → ∀ position message,
    tab.skipped ≤ position → position < tab.read → connection.received[position]? = some message →
    ∀ envelope update, parseEnvelope lib message.bytes = some envelope →
      routeDocChange lib envelope = some update →
      (tab.page.routed = true → update ∈ tab.remoteUpdates) ∧
        (tab.page.routed = false → envelope ∈ tab.page.buffer)
  active : tab.page.phase = .active → tab.page.routed = true ∧
    ∃ snapshot, tab.snapshot = some snapshot ∧ snapshot.state ∈ tab.remoteUpdates
  asked : tab.snapshot.isSome = true → tab.page.mode = .join ∨ tab.page.routed = true
  response : ∀ response, tab.response = some response →
    ∃ snapshot, tab.snapshot = some snapshot ∧ snapshot.state = response.yjsState
  snapshot : ∀ snapshot, tab.snapshot = some snapshot →
    SnapshotOk lib state id tab connection snapshot

/-- The recorded edits were published in the room of the runtime's document. -/
def Published (state : CatchUp Bytes Doc) : Prop :=
  ∀ runtime, ∀ edit ∈ state.relay.edits runtime, ∃ sender,
    state.relay.cluster.connections edit.1.sender = some sender ∧
      (∃ entry ∈ state.relay.cluster.channels (channel sender.client.documentId),
        entry.tag = edit.1) ∧
      ∀ found, state.relay.manager.runtimes[runtime]? = some found →
        found.documentId = sender.client.documentId

/-- What is recorded about the registrations fits the nodes: a client in its room has been
given what the room was not past offering when it was registered. -/
structure Served (state : CatchUp Bytes Doc) : Prop where
  addressed : state.relay.cluster.Addressed
  seated : ∀ id connection, state.relay.cluster.connections id = some connection →
    ∃ tab, state.tabs.lookup id = some tab
  joined : ∀ id missed, state.registered id = some missed → ∃ connection,
    state.relay.cluster.connections id = some connection ∧ connection.subscription.isSome = true
  complete : ∀ id, state.relay.cluster.InRoom id → ∃ missed, state.registered id = some missed ∧
    ∀ tag, state.relay.cluster.passed id tag = true → missed tag = true ∨
      state.relay.cluster.Received id tag ∨ state.relay.cluster.Dropped id
  fresh : ∀ id tab, state.tabs.lookup id = some tab → state.registered id = none →
    ∃ mode, tab = .start mode ∨ tab = (Tab.start mode).failed

structure Sound (codec : Codec Bytes) (lib : Libraries Doc Bytes) (json : Envelope → Json)
    (state : CatchUp Bytes Doc) : Prop extends Served state where
  sound : state.relay.Sound codec lib json
  known : state.relay.manager.Known
  keys : ∀ documentId id, state.relay.manager.documents.lookup documentId = some id →
    ∃ runtime, state.relay.manager.runtimes[id]? = some runtime ∧ runtime.documentId = documentId
  readable : ∀ id connection, state.relay.cluster.connections id = some connection →
    ReadsChannel lib connection.client.documentId
  published : state.Published
  tabs : ∀ id tab connection, state.tabs.lookup id = some tab →
    state.relay.cluster.connections id = some connection → state.relay.cluster.InRoom id →
    TabOk lib state id tab connection

theorem routeDocChange_eq (envelope : Json) :
    routeDocChange lib envelope = updateOf lib envelope := by
  unfold routeDocChange updateOf extractYjsPayload
  split
  · cases envelope.field "payload" with
    | none => rfl
    | some payload => rfl
  · rfl

/-- The page reads an edit as the worker does. -/
theorem parseEnvelope_of_update {data : Bytes} {envelope : Json} {update : List UInt8}
    (hparse : lib.parse data = some envelope) (hupdate : updateOf lib envelope = some update) :
    parseEnvelope lib data = some envelope ∧ routeDocChange lib envelope = some update := by
  have htype : envelope.stringField "type" = some "doc.change" := by
    by_contra hother
    simp [updateOf, hother] at hupdate
  refine ⟨?_, (routeDocChange_eq envelope).trans hupdate⟩
  simp [parseEnvelope, hparse, htype]

/-- No local broadcast is in progress. -/
theorem Drained.quiet (hdrained : state.Drained) (h : state.Served) {id : ConnId}
    {connection : Connection Bytes} (hconnection : state.relay.cluster.connections id =
      some connection) : connection.stage.progress = none := by
  obtain ⟨tab, htab⟩ := h.seated id connection hconnection
  have hmember : id ∈ state.tabs.keys :=
    AList.mem_keys.mp (AList.lookup_isSome.mp (Option.isSome_of_mem htab))
  exact Option.isNone_iff_eq_none.mp (hdrained.2.2 id hmember connection hconnection)

/-- The subscriptions have handled what there is on their channels. -/
theorem Drained.consumed (hdrained : state.Drained) (hlayout : state.relay.cluster.Layout codec)
    {i : SubId} {s : Subscription Bytes} (hs : state.relay.cluster.subscriptions i = some s) :
    s.delivery = none ∧ (s.closedAt = none →
      s.consumed = (state.relay.cluster.channels (channel s.documentId)).length) := by
  obtain ⟨hdelivery, hconsumed⟩ := hdrained.2.1 i (hlayout.subscription_bound i s hs) s hs
  exact ⟨Option.isNone_iff_eq_none.mp hdelivery, hconsumed⟩

/-- What reaches the worker after the snapshot has been kept by the page. -/
theorem Sound.caughtUp (h : state.Sound codec lib json) (hread : Readable codec lib json) :
    state.CaughtUp lib := by
  intro hdrained id tab connection htab hconnection hroom hopen hactive hall runtime hlookup
  have hok := h.tabs id tab connection htab hconnection hroom
  obtain ⟨hrouted, snapshot, hsnapshot, hpushed⟩ := hok.active hactive
  have hsnap := hok.snapshot snapshot hsnapshot
  have hlayout := h.sound.ordered.layout
  have hquiet : ∀ other found, state.relay.cluster.connections other = some found →
      found.stage.progress = none := fun _ _ hfound => hdrained.quiet h.toServed hfound
  have hempty := fun i s (hs : state.relay.cluster.subscriptions i = some s) =>
    hdrained.consumed hlayout hs
  refine ⟨(state.relay.edits runtime).take (snapshot.edits runtime),
    (state.relay.edits runtime).drop (snapshot.edits runtime),
    (List.take_append_drop _ _).symm, ?_, ?_⟩
  · rcases hsnap.current runtime hlookup with rfl | hnew
    · obtain ⟨request, doc, hrequest, hreplay, hstate⟩ := hsnap.replays
      exact .inr ⟨request, doc, hrequest, hreplay, hstate ▸ hpushed⟩
    · left
      rw [hsnap.unborn runtime hnew, List.take_zero]
  · intro edit hedit
    have hmember := List.mem_of_mem_drop hedit
    obtain ⟨sender, hsender, ⟨entry, hentry, htag⟩, hdocument⟩ := h.published runtime edit hmember
    obtain ⟨found, hfound, hkey⟩ := h.keys _ runtime hlookup
    have hroomOf : sender.client.documentId = connection.client.documentId :=
      (hdocument found hfound).symm.trans hkey
    have hkept := hsnap.later (by simp [hactive]) hopen runtime edit hedit sender hsender hroomOf
    -- the room has offered the edit to the client after its registration
    have hpassed : state.relay.cluster.passed id entry.tag = true :=
      Cluster.passed_of_drained hlayout hroom hquiet hempty hconnection (htag ▸ hsender) hroomOf
        (hroomOf ▸ hentry)
    rw [htag] at hpassed
    obtain ⟨missed, hmissed, hcomplete⟩ := h.complete id hroom
    simp only [lost, hmissed, Option.any_some, hconnection, Bool.or_eq_false_iff] at hkept
    rcases hcomplete edit.1 hpassed with hmiss | hreceived | hdropped
    · rw [hkept.1] at hmiss
      cases hmiss
    · obtain ⟨target, htarget, message, hmessage, hmessageTag⟩ := hreceived
      cases hconnection.symm.trans htarget
      obtain ⟨position, hposition⟩ := List.mem_iff_getElem?.mp hmessage
      have hbound := (List.getElem?_eq_some_iff.mp hposition).1
      have hskipped : tab.skipped ≤ position := by
        by_contra hless
        have htaken : message ∈ connection.received.take tab.skipped := by
          apply List.mem_iff_getElem?.mpr
          exact ⟨position, by rw [List.getElem?_take, if_pos (Nat.lt_of_not_le hless), hposition]⟩
        have hnot := List.any_eq_false.mp hkept.2 message htaken
        exact hnot (decide_eq_true hmessageTag)
      obtain ⟨v, envelope, hv, henvelope, hrenders⟩ :=
        h.sound.ordered.faithful id connection hconnection message hmessage edit.1 hmessageTag
      obtain ⟨other, sent, hother, hsent, hupdate⟩ := h.sound.edits runtime edit hmember
      cases hsender.symm.trans hother
      cases (Cluster.view_eq hsender).symm.trans hv
      cases henvelope.symm.trans hsent
      obtain ⟨hparse, hroute⟩ := parseEnvelope_of_update (hread.renders hrenders) hupdate
      exact (hok.kept (.inr hrouted) position message hskipped (hall ▸ hbound) hposition
        (json envelope) edit.2 hparse hroute).1 hrouted
    · exact absurd hdropped
        (Cluster.not_dropped hquiet (fun i s hs => (hempty i s hs).1) hconnection hopen)

/-! ### The nodes -/

theorem TabOk.fresh {id : ConnId} {tab : Tab} {connection : Connection Bytes}
    (h : ∃ mode, tab = .start mode ∨ tab = (Tab.start mode).failed) :
    TabOk lib state id tab connection := by
  obtain ⟨mode, rfl | rfl⟩ := h
  · refine ⟨Nat.zero_le _, le_rfl, fun hjoin => ⟨rfl, fun _ => ?_⟩, ?_, nofun, nofun, nofun, nofun⟩
    · exact decide_eq_true hjoin
    · intro _ position _ _ hposition
      cases hposition
  · refine ⟨Nat.zero_le _, le_rfl, fun hjoin => ⟨rfl, fun _ => ?_⟩, ?_, nofun, nofun, nofun, nofun⟩
    · exact decide_eq_true hjoin
    · intro _ position _ _ hposition
      cases hposition

/-- Only `Register` changes what is recorded about a client. -/
theorem withRelay_registered (event : Cluster.Event Bytes) (heard : Bool) (relay : Relay Bytes Doc)
    (id : ConnId) :
    (state.withRelay (.hub event heard) relay).registered id = state.registered id ∨
      ∃ subscribed now, event = .register id subscribed now ∧
        ((relay.cluster.connections id).any fun connection =>
          connection.subscription.isSome) = true ∧
        (state.withRelay (.hub event heard) relay).registered id =
          some (relay.cluster.passed id) := by
  cases event with
  | register other subscribed now =>
      by_cases hjoined : ((relay.cluster.connections other).any fun connection =>
          connection.subscription.isSome) = true
      · by_cases heq : id = other
        · subst heq
          exact .inr ⟨subscribed, now, rfl, hjoined, by simp [withRelay, hjoined]⟩
        · left
          simp only [withRelay, hjoined, if_true]
          exact Function.update_of_ne heq ..
      · left
        simp only [withRelay, if_neg hjoined]
  | connect | frame | run | write | disconnect | stopWriting | stop | forward | receive | deliver
    | exit => exact .inl rfl

/-- A client that is in its room after it has been registered. -/
theorem registered_self {id : ConnId} {subscribed heard : Bool} {now : Backend.Instant}
    {relay : Relay Bytes Doc}
    (hjoined : (relay.cluster.connections id).any (fun connection =>
      connection.subscription.isSome) = true) :
    (state.withRelay (.hub (.register id subscribed now) heard) relay).registered id =
      some (relay.cluster.passed id) := by
  simp [withRelay, hjoined]

/-- Somebody who has been registered does not register again. -/
theorem Served.not_registered (h : state.Served) (hlayout : state.relay.cluster.Layout codec)
    {id : ConnId} {subscribed : Bool} {now : Backend.Instant} {cluster : Cluster Bytes}
    (hstep : Cluster.step codec state.relay.cluster (.register id subscribed now) = some cluster) :
    state.registered id = none := by
  obtain ⟨connection, hconnection, hstep⟩ := Option.bind_eq_some_iff.mp hstep
  split at hstep
  next hstage =>
    cases hmissed : state.registered id with
    | none => rfl
    | some missed =>
        obtain ⟨found, hfound, hjoined⟩ := h.joined id missed hmissed
        cases hconnection.symm.trans hfound
        have hnone := hlayout.connecting id connection.view
          (Cluster.view_eq hconnection) (by simp [Connection.view, hstage, Stage.isConnecting])
        have hnone : connection.subscription = none := hnone
        rw [hnone] at hjoined
        cases hjoined
  next => cases hstep

theorem lost_growing {after : CatchUp Bytes Doc} {id : ConnId} {tab : Tab}
    {old new : Connection Bytes} (hold : state.relay.cluster.connections id = some old)
    (hnew : after.relay.cluster.connections id = some new)
    (hregistered : after.registered id = state.registered id)
    (hreceived : old.received <+: new.received) (hskipped : tab.skipped ≤ old.received.length)
    (tag : Tag) : after.lost id tab tag = state.lost id tab tag := by
  obtain ⟨more, hmore⟩ := hreceived
  simp only [lost, hregistered, hold, hnew, Option.any_some, ← hmore,
    List.take_append_of_le_length hskipped]

/-- A page is as it was when the nodes move. -/
theorem TabOk.hub {after : CatchUp Bytes Doc} {id : ConnId} {tab : Tab}
    {old new : Connection Bytes} (h : TabOk lib state id tab old)
    (hold : state.relay.cluster.connections id = some old)
    (hnew : after.relay.cluster.connections id = some new)
    (hclient : new.client = old.client) (hdone : old.done = true → new.done = true)
    (hreceived : old.received <+: new.received)
    (hregistered : after.registered id = state.registered id)
    (hmanager : after.relay.manager = state.relay.manager)
    (horigins : after.relay.origins = state.relay.origins)
    (hedits : after.relay.edits = state.relay.edits)
    (hsenders : ∀ runtime, ∀ edit ∈ state.relay.edits runtime, ∀ sender,
      after.relay.cluster.connections edit.1.sender = some sender → ∃ before,
        state.relay.cluster.connections edit.1.sender = some before ∧
          sender.client = before.client) :
    TabOk lib after id tab new where
  read := h.read.trans hreceived.length_le
  skipped := h.skipped
  joining := h.joining
  kept hlistens position message hskipped hread hposition := by
    have hbound : position < old.received.length := hread.trans_le h.read
    obtain ⟨more, hmore⟩ := hreceived
    rw [← hmore, List.getElem?_append_left hbound] at hposition
    exact h.kept hlistens position message hskipped hread hposition
  active := h.active
  asked := h.asked
  response := h.response
  snapshot snapshot hsnapshot := by
    have hsnap := h.snapshot snapshot hsnapshot
    refine ⟨?_, ?_, ?_, hsnap.unborn, ?_, ?_⟩
    · rw [horigins, hedits]
      exact hsnap.replays
    · rw [hmanager]
      exact hsnap.bound
    · rw [hedits]
      exact hsnap.taken
    · rw [hmanager, hclient]
      exact hsnap.current
    · intro hphase hopen runtime edit hedit sender hsender hdocument
      rw [hedits] at hedit
      obtain ⟨before, hbefore, hsame⟩ :=
        hsenders runtime edit (List.mem_of_mem_drop hedit) sender hsender
      have hopenOld : old.done = false := by
        by_contra hclosed
        have hnow := hdone (Bool.not_eq_false _ ▸ hclosed)
        cases hopen.symm.trans hnow
      rw [lost_growing hold hnew hregistered hreceived (h.skipped.trans h.read)]
      rw [hsame, hclient] at hdocument
      exact hsnap.later hphase hopenOld runtime edit hedit before hbefore hdocument

/-- Whoever is in its room was registered before, or is registered by the step. -/
theorem Served.rooms (h : state.Served) (hlayout : state.relay.cluster.Layout codec)
    {event : Cluster.Event Bytes} {cluster : Cluster Bytes} (hafter : cluster.Layout codec)
    (hstep : Cluster.step codec state.relay.cluster event = some cluster) (heard : Bool)
    {id : ConnId} (hroom : cluster.InRoom id) :
    state.relay.cluster.InRoom id ∧
        (state.withRelay (.hub event heard) (state.relay.hub event heard cluster)).registered id =
          state.registered id ∨
      state.registered id = none ∧
        (state.withRelay (.hub event heard) (state.relay.hub event heard cluster)).registered id =
          some (cluster.passed id) := by
  rcases hroom.before hlayout hstep with hbefore | ⟨subscribed, now, rfl⟩
  · rcases state.withRelay_registered event heard (state.relay.hub event heard cluster) id with
      hsame | ⟨subscribed, now, rfl, -, -⟩
    · exact .inl ⟨hbefore, hsame⟩
    · obtain ⟨missed, hmissed, -⟩ := h.complete id hbefore
      cases (h.not_registered hlayout hstep).symm.trans hmissed
  · obtain ⟨target, room, s, htarget, -, -, hjoined, -⟩ := hroom.subscription hafter
    refine .inr ⟨h.not_registered hlayout hstep, registered_self ?_⟩
    show ((cluster.connections id).any fun connection => connection.subscription.isSome) = true
    rw [htarget, Option.any_some, hjoined]
    rfl

theorem Served.hub (h : state.Served) (hlayout : state.relay.cluster.Layout codec)
    (hforward : codec.Forwards) {event : Cluster.Event Bytes} {cluster : Cluster Bytes}
    (hafter : cluster.Layout codec)
    (hstep : Cluster.step codec state.relay.cluster event = some cluster) (heard : Bool)
    (hconnect : ∀ id node client, event = .connect id node client →
      ∃ tab, state.tabs.lookup id = some tab) :
    (state.withRelay (.hub event heard) (state.relay.hub event heard cluster)).Served := by
  refine ⟨h.addressed.step hlayout hstep, fun id new hnew => ?_, fun id missed hmissed => ?_,
    fun id hroom => ?_, fun id tab htab hnone => ?_⟩
  · rcases Cluster.connection_before hlayout hstep hnew with ⟨old, hold, -⟩ | ⟨-, node, hevent⟩
    · exact h.seated id old hold
    · exact hconnect id node new.client hevent
  · rcases state.withRelay_registered event heard (state.relay.hub event heard cluster) id with
      hsame | ⟨-, -, -, hjoined, -⟩
    · obtain ⟨old, hold, hjoined⟩ := h.joined id missed (hsame.symm.trans hmissed)
      exact Cluster.subscription_after hlayout hstep hold hjoined
    · exact Option.any_eq_true _ _ |>.mp hjoined
  · rcases h.rooms hlayout hafter hstep heard hroom with ⟨hbefore, hsame⟩ | ⟨-, hnow⟩
    · obtain ⟨missed, hmissed, hcomplete⟩ := h.complete id hbefore
      have hserves := Cluster.step_serves hlayout hforward hbefore hstep
      refine ⟨missed, hsame.trans hmissed, fun tag hpassed => ?_⟩
      rcases hserves.passed tag hpassed with hold | hnew
      · rcases hcomplete tag hold with hmiss | hreceived | hdropped
        · exact .inl hmiss
        · exact .inr (.inl (hserves.received hreceived))
        · exact .inr (.inr (hserves.dropped hdropped))
      · exact .inr hnew
    · exact ⟨_, hnow, fun tag hpassed => .inl hpassed⟩
  · refine h.fresh id tab htab ?_
    rcases state.withRelay_registered event heard (state.relay.hub event heard cluster) id with
      hsame | ⟨-, -, -, -, hnow⟩
    · exact hsame.symm.trans hnone
    · cases hnow.symm.trans hnone

/-- The nodes move. -/
theorem Sound.hub (h : state.Sound codec lib json) (hread : Readable codec lib json)
    (hforward : codec.Forwards) {event : Cluster.Event Bytes} {cluster : Cluster Bytes}
    (hstep : Cluster.step codec state.relay.cluster event = some cluster) (heard : Bool)
    (hconnect : ∀ id node client, event = .connect id node client →
      ReadsChannel lib client.documentId ∧ ∃ tab, state.tabs.lookup id = some tab) :
    (state.withRelay (.hub event heard) (state.relay.hub event heard cluster)).Sound codec lib
      json := by
  have hlayout := h.sound.ordered.layout
  have hsent := Cluster.step_sent hlayout hstep
  have hafter : (state.relay.hub event heard cluster).Sound codec lib json :=
    h.sound.hub hread hstep heard
  have hsenders : ∀ runtime, ∀ edit ∈ state.relay.edits runtime, ∀ sender,
      cluster.connections edit.1.sender = some sender → ∃ before,
        state.relay.cluster.connections edit.1.sender = some before ∧
          sender.client = before.client := by
    intro runtime edit hedit sender hsender
    obtain ⟨before, hbefore, -⟩ := h.published runtime edit hedit
    obtain ⟨new, hnew, hclient, -⟩ := hsent _ before hbefore
    cases hsender.symm.trans hnew
    exact ⟨before, hbefore, hclient⟩
  refine ⟨h.toServed.hub hlayout hforward hafter.ordered.layout hstep heard
      fun id node client hevent => (hconnect id node client hevent).2,
    hafter, h.known, h.keys, fun id new hnew => ?_, fun runtime edit hedit => ?_,
    fun id tab new htab hnew hroom => ?_⟩
  · rcases Cluster.connection_before hlayout hstep hnew with
      ⟨old, hold, hclient, -⟩ | ⟨-, node, hevent⟩
    · rw [hclient]
      exact h.readable id old hold
    · exact (hconnect id node new.client hevent).1
  · obtain ⟨sender, hsender, ⟨entry, hentry, htag⟩, hdocument⟩ := h.published runtime edit hedit
    obtain ⟨new, hnew, hclient, -⟩ := hsent _ sender hsender
    rw [← hclient] at hentry hdocument
    exact ⟨new, hnew, ⟨entry, Cluster.mem_channels_step hstep hentry, htag⟩, hdocument⟩
  · rcases h.rooms hlayout hafter.ordered.layout hstep heard hroom with
      ⟨hbefore, hsame⟩ | ⟨hnone, -⟩
    · obtain ⟨old, hold⟩ := hbefore.connection
      have hserves := Cluster.step_serves hlayout hforward hbefore hstep
      obtain ⟨found, hfound, hreceived⟩ := hserves.queue old hold
      cases hnew.symm.trans hfound
      rcases Cluster.connection_before hlayout hstep hnew with
        ⟨same, hsameOld, hclient, hdone⟩ | ⟨hgone, -⟩
      · cases hold.symm.trans hsameOld
        exact (h.tabs id tab old htab hold hbefore).hub hold hnew hclient hdone hreceived hsame rfl
          rfl rfl hsenders
      · cases hold.symm.trans hgone
    · exact .fresh (h.fresh id tab htab hnone)

/-! ### The worker -/

/-- What a page has kept does not depend on the worker. -/
theorem TabOk.of_snapshot {after : CatchUp Bytes Doc} {id : ConnId} {tab : Tab}
    {connection : Connection Bytes} (h : TabOk lib state id tab connection)
    (hsnapshot : ∀ snapshot, tab.snapshot = some snapshot →
      SnapshotOk lib after id tab connection snapshot) : TabOk lib after id tab connection :=
  ⟨h.read, h.skipped, h.joining, h.kept, h.active, h.asked, h.response, hsnapshot⟩

/-- A call of the worker goes on. -/
theorem Sound.worked (h : state.Sound codec lib json) {event : Manager.Event Bytes}
    {manager : Manager Doc}
    (hevent : ∀ channel rawMessage, event ≠ .handleRedisMessage channel rawMessage)
    (hstep : state.relay.manager.step lib event = some manager) :
    (state.withRelay (.worker event) (state.relay.work event manager)).Sound codec lib json := by
  have hlength : state.relay.manager.runtimes.length ≤ manager.runtimes.length :=
    (Manager.step_effect hstep).length_le
  refine ⟨⟨h.addressed, h.seated, h.joined, h.complete, h.fresh⟩,
    h.sound.work (Manager.step_keepsTexts hevent hstep), h.known.step hstep,
    Manager.step_keys h.known h.keys hstep, h.readable, fun runtime edit hedit => ?_,
    fun id tab connection htab hconnection hroom => ?_⟩
  · obtain ⟨sender, hsender, hentry, hdocument⟩ := h.published runtime edit hedit
    refine ⟨sender, hsender, hentry, fun found hfound => ?_⟩
    rcases Nat.lt_or_ge runtime state.relay.manager.runtimes.length with hold | hnew
    · have hbefore := List.getElem?_eq_getElem hold
      obtain ⟨next, hnext, hsame⟩ := (Manager.step_effect hstep).documentId hbefore
      have heq : some next = some found := hnext.symm.trans hfound
      cases heq
      exact hsame.trans (hdocument _ hbefore)
    · -- nothing has been applied by a runtime that has just been constructed
      have hnone : state.relay.edits runtime = [] := h.sound.unborn runtime hnew
      have hmember : edit ∈ state.relay.edits runtime := hedit
      rw [hnone] at hmember
      cases hmember
  · have hok := h.tabs id tab connection htab hconnection hroom
    refine hok.of_snapshot fun snapshot hsnapshot => ?_
    have hsnap := hok.snapshot snapshot hsnapshot
    refine ⟨?_, hsnap.bound.trans hlength, hsnap.taken, hsnap.unborn, fun runtime hlookup => ?_,
      hsnap.later⟩
    · obtain ⟨request, doc, hrequest, hreplay, hstate⟩ := hsnap.replays
      exact ⟨request, doc, Foundation.List.getElem?_of_prefix (List.prefix_append _ _) hrequest,
        hreplay, hstate⟩
    · rcases Manager.step_registered hstep hlookup with hbefore | hnew
      · exact hsnap.current runtime hbefore
      · exact .inr (hsnap.bound.trans hnew)

/-- A message adds at most its own edit. -/
theorem handle_edits (relay : Relay Bytes Doc) (item : String × Hub.Published Bytes)
    (rest : List (String × Hub.Published Bytes)) (runtime : RuntimeId) :
    ∃ more, (relay.handle lib item rest).edits runtime = relay.edits runtime ++ more ∧
      ∀ edit ∈ more, edit.1 = item.2.tag ∧
        relay.manager.editOf lib item.1 item.2.payload = some (runtime, edit.2) := by
  cases hedit : relay.manager.editOf lib item.1 item.2.payload with
  | none =>
      have hsame : (relay.handle lib item rest).edits = relay.edits := by
        simp [Relay.handle, hedit]
      exact ⟨[], by rw [hsame, List.append_nil], fun _ hmember => absurd hmember List.not_mem_nil⟩
  | some found =>
      obtain ⟨id, update⟩ := found
      have hedits : (relay.handle lib item rest).edits =
          Function.update relay.edits id (relay.edits id ++ [(item.2.tag, update)]) := by
        simp [Relay.handle, hedit]
      rw [hedits]
      by_cases heq : runtime = id
      · subst heq
        refine ⟨[(item.2.tag, update)], Function.update_self .., fun edit hmember => ?_⟩
        rw [List.mem_singleton.mp hmember]
        exact ⟨rfl, rfl⟩
      · exact ⟨[], (Function.update_of_ne heq ..).trans (List.append_nil _).symm,
          fun _ hmember => absurd hmember List.not_mem_nil⟩

/-- The worker handles the next message of Redis. -/
theorem Sound.handled (h : state.Sound codec lib json) (hread : Readable codec lib json)
    (hguard : state.InTime lib (.relay .handle)) {item : String × Hub.Published Bytes}
    {rest : List (String × Hub.Published Bytes)} (hfeed : state.relay.feed = item :: rest) :
    (state.withRelay .handle (state.relay.handle lib item rest)).Sound codec lib json := by
  let event : Manager.Event Bytes := .handleRedisMessage item.1 item.2.payload
  have hstep : state.relay.manager.step lib event =
      some (state.relay.manager.handleRedisMessage lib item.1 item.2.payload) := rfl
  have hlength : state.relay.manager.runtimes.length ≤
      (state.relay.manager.handleRedisMessage lib item.1 item.2.payload).runtimes.length :=
    (Manager.step_effect hstep).length_le
  -- the message was published in the room of its sender
  obtain ⟨sender, hsender, hname⟩ :=
    h.addressed item.1 item.2 (h.sound.fed item (hfeed ▸ List.mem_cons_self))
  refine ⟨⟨h.addressed, h.seated, h.joined, h.complete, h.fresh⟩, h.sound.handle hread hfeed,
    h.known.step hstep, Manager.step_keys h.known h.keys hstep, h.readable,
    fun runtime edit hedit => ?_, fun id tab connection htab hconnection hroom => ?_⟩
  · obtain ⟨more, hmore, hnew⟩ := handle_edits state.relay item rest runtime
    have hedit : edit ∈ state.relay.edits runtime ++ more := hmore ▸ hedit
    rcases List.mem_append.mp hedit with hold | hadded
    · obtain ⟨author, hauthor, hentry, hdocument⟩ := h.published runtime edit hold
      refine ⟨author, hauthor, hentry, fun found hfound => ?_⟩
      have hbound : runtime < state.relay.manager.runtimes.length := by
        by_contra hunborn
        rw [h.sound.unborn runtime (Nat.le_of_not_lt hunborn)] at hold
        cases hold
      have hbefore := List.getElem?_eq_getElem hbound
      obtain ⟨next, hnext, hsame⟩ := (Manager.step_effect hstep).documentId hbefore
      have heq : some next = some found := hnext.symm.trans hfound
      cases heq
      exact hsame.trans (hdocument _ hbefore)
    · obtain ⟨htag, happlied⟩ := hnew edit hadded
      obtain ⟨documentId, envelope, hparsed, hlookup, -⟩ :=
        state.relay.manager.editOf_spec happlied
      have hreadable : Manager.parseDocumentIdFromChannel lib item.1 =
          some sender.client.documentId := hname ▸ h.readable _ sender hsender
      cases hparsed.symm.trans hreadable
      refine ⟨sender, htag ▸ hsender, ⟨item.2, ?_, htag.symm⟩, fun found hfound => ?_⟩
      · exact hname ▸ h.sound.fed item (hfeed ▸ List.mem_cons_self)
      · obtain ⟨before, hbefore, hdocument⟩ := h.keys _ runtime hlookup
        obtain ⟨next, hnext, hsame⟩ := (Manager.step_effect hstep).documentId hbefore
        have heq : some next = some found := hnext.symm.trans hfound
        cases heq
        exact hsame.trans hdocument
  · have hok := h.tabs id tab connection htab hconnection hroom
    refine hok.of_snapshot fun snapshot hsnapshot => ?_
    have hsnap := hok.snapshot snapshot hsnapshot
    refine ⟨?_, hsnap.bound.trans hlength, fun runtime => ?_, hsnap.unborn,
      fun runtime hlookup => ?_, fun hphase hopen runtime edit hedit author hauthor hdocument => ?_⟩
    · obtain ⟨request, doc, hrequest, hreplay, hstate⟩ := hsnap.replays
      obtain ⟨more, hmore, -⟩ := handle_edits state.relay item rest snapshot.runtime
      refine ⟨request, doc, hrequest, ?_, hstate⟩
      show Relay.replay lib _
        ((((state.relay.handle lib item rest).edits snapshot.runtime).take _).map Prod.snd) = _
      rw [hmore, List.take_append_of_le_length (hsnap.taken snapshot.runtime)]
      exact hreplay
    · obtain ⟨more, hmore, -⟩ := handle_edits state.relay item rest runtime
      show _ ≤ ((state.relay.handle lib item rest).edits runtime).length
      rw [hmore, List.length_append]
      exact (hsnap.taken runtime).trans (Nat.le_add_right _ _)
    · have hbefore : state.relay.manager.documents.lookup connection.client.documentId =
          some runtime :=
        (state.relay.manager.handleRedisMessage_documents item.1 item.2.payload) ▸ hlookup
      exact hsnap.current runtime hbefore
    · obtain ⟨more, hmore, hnew⟩ := handle_edits state.relay item rest runtime
      have hedit : edit ∈ ((state.relay.edits runtime) ++ more).drop (snapshot.edits runtime) :=
        hmore ▸ hedit
      rw [List.drop_append_of_le_length (hsnap.taken runtime)] at hedit
      rcases List.mem_append.mp hedit with hold | hadded
      · exact hsnap.later hphase hopen runtime edit hold author hauthor hdocument
      · obtain ⟨htag, happlied⟩ := hnew edit hadded
        have hmember : id ∈ state.tabs.keys :=
          AList.mem_keys.mp (AList.lookup_isSome.mp (Option.isSome_of_mem htab))
        rw [htag] at hauthor ⊢
        cases hsender.symm.trans hauthor
        exact hguard item (by rw [hfeed]; rfl) (Option.isSome_of_mem happlied) id hmember tab htab
          connection hconnection ⟨Option.isSome_of_mem hsnapshot, hphase, hopen⟩
          (hdocument ▸ hname)

/-! ### The pages -/

theorem SnapshotOk.withTab {id : ConnId} {tab after : Tab} {connection : Connection Bytes}
    {snapshot : Snapshot} (h : SnapshotOk lib state id tab connection snapshot)
    (hskipped : after.skipped = tab.skipped)
    (hphase : after.page.phase ≠ .error → tab.page.phase ≠ .error) :
    SnapshotOk lib state id after connection snapshot where
  replays := h.replays
  bound := h.bound
  taken := h.taken
  unborn := h.unborn
  current := h.current
  later hopen := by
    have hlost : state.lost id after = state.lost id tab := by
      funext tag
      simp only [lost, hskipped]
    rw [hlost]
    exact h.later (hphase hopen)

/-- A page moves. -/
theorem lookup_withTab {id other : ConnId} {tab found : Tab}
    (hfound : (state.withTab id tab).tabs.lookup other = some found) :
    other = id ∧ found = tab ∨ state.tabs.lookup other = some found := by
  by_cases heq : other = id
  · subst heq
    have hinserted : (state.withTab other tab).tabs.lookup other = some tab :=
      AList.lookup_insert ..
    cases hinserted.symm.trans hfound
    exact .inl ⟨rfl, rfl⟩
  · exact .inr ((AList.lookup_insert_ne heq).symm.trans hfound)

theorem Served.withTab (h : state.Served) {id : ConnId} {tab : Tab}
    (hfresh : state.registered id = none →
      ∃ mode, tab = .start mode ∨ tab = (Tab.start mode).failed) :
    (state.withTab id tab).Served := by
  refine ⟨h.addressed, fun other connection hconnection => ?_, h.joined, h.complete,
    fun other found hfound hnone => ?_⟩
  · by_cases heq : other = id
    · subst heq
      exact ⟨tab, AList.lookup_insert ..⟩
    · obtain ⟨seat, hseat⟩ := h.seated other connection hconnection
      exact ⟨seat, (AList.lookup_insert_ne heq).trans hseat⟩
  · rcases lookup_withTab hfound with ⟨rfl, rfl⟩ | hold
    · exact hfresh hnone
    · exact h.fresh other found hold hnone

theorem Sound.withTab (h : state.Sound codec lib json) {id : ConnId} {tab : Tab}
    (hfresh : state.registered id = none →
      ∃ mode, tab = .start mode ∨ tab = (Tab.start mode).failed)
    (hok : ∀ connection, state.relay.cluster.connections id = some connection →
      state.relay.cluster.InRoom id → TabOk lib state id tab connection) :
    (state.withTab id tab).Sound codec lib json := by
  refine ⟨h.toServed.withTab hfresh, h.sound, h.known, h.keys, h.readable, h.published,
    fun other found connection hfound hconnection hroom => ?_⟩
  have hbefore : TabOk lib state other found connection := by
    rcases lookup_withTab hfound with ⟨rfl, rfl⟩ | hold
    · exact hok connection hconnection hroom
    · exact h.tabs other found connection hold hconnection hroom
  refine hbefore.of_snapshot fun snapshot hsnapshot => ?_
  have hsnap := hbefore.snapshot snapshot hsnapshot
  exact ⟨hsnap.replays, hsnap.bound, hsnap.taken, hsnap.unborn, hsnap.current, hsnap.later⟩

/-- What a message changes about the page. -/
theorem receive_page {tab : Tab} {data : Bytes} {envelope : Json}
    (hparse : parseEnvelope lib data = some envelope) :
    (tab.receive lib data).page.mode = tab.page.mode ∧
      (tab.receive lib data).page.buffering = tab.page.buffering ∧
      (tab.receive lib data).page.routed = tab.page.routed ∧
      ((tab.receive lib data).page.phase = tab.page.phase ∨
        tab.page.phase = .connecting ∧ (tab.receive lib data).page.phase = .syncing) ∧
      (tab.page.buffering = true →
        (tab.receive lib data).page.buffer = tab.page.buffer ++ [envelope]) := by
  obtain ⟨hmode, hphase, hbuffering, hrouted⟩ := tab.page.receive_fields envelope
  have hbuffer : tab.page.buffering = true →
      (tab.page.receive envelope).buffer = tab.page.buffer ++ [envelope] := by
    intro hbuffers
    simp [CollabWorkspace.receive, hbuffers]
  simp only [Tab.receive, hparse]
  split
  next hack => exact ⟨hmode, hbuffering, hrouted, .inr ⟨hack.1, rfl⟩, hbuffer⟩
  next => exact ⟨hmode, hbuffering, hrouted, .inl hphase, hbuffer⟩

/-- What a message changes about the rest. -/
theorem receive_tab (lib : Libraries Doc Bytes) (tab : Tab) (data : Bytes) :
    (tab.receive lib data).read = tab.read + 1 ∧
      (tab.receive lib data).skipped = tab.skipped ∧
      (tab.receive lib data).response = tab.response ∧
      (tab.receive lib data).snapshot = tab.snapshot ∧
      tab.remoteUpdates ⊆ (tab.receive lib data).remoteUpdates := by
  unfold Tab.receive
  split
  next => exact ⟨rfl, rfl, rfl, rfl, List.Subset.refl _⟩
  next envelope _ =>
    refine ⟨rfl, rfl, rfl, rfl, ?_⟩
    dsimp only
    split
    · exact List.subset_append_left _ _
    · exact List.Subset.refl _

theorem receive_routed {tab : Tab} {data : Bytes} {envelope : Json} {update : List UInt8}
    (hparse : parseEnvelope lib data = some envelope)
    (hupdate : routeDocChange lib envelope = some update) (hrouted : tab.page.routed = true) :
    update ∈ (tab.receive lib data).remoteUpdates := by
  simp [Tab.receive, hparse, hupdate, hrouted]

/-- A message that does not parse only counts. -/
theorem receive_none {tab : Tab} {data : Bytes} (hparse : parseEnvelope lib data = none) :
    tab.receive lib data = { tab with read := tab.read + 1 } := by
  simp only [Tab.receive, hparse]

theorem TabOk.receive {id : ConnId} {tab : Tab} {connection : Connection Bytes}
    (h : TabOk lib state id tab connection) {message : Message Bytes}
    (hmessage : connection.received[tab.read]? = some message) :
    TabOk lib state id (tab.receive lib message.bytes) connection := by
  obtain ⟨hread, hskipped, hresponse, hsnapshot, hupdates⟩ := receive_tab lib tab message.bytes
  have hbound : tab.read + 1 ≤ connection.received.length :=
    (List.getElem?_eq_some_iff.mp hmessage).1
  cases hparse : parseEnvelope lib message.bytes with
  | none =>
      rw [receive_none hparse]
      refine ⟨hbound, h.skipped.trans (Nat.le_succ _), h.joining, ?_, h.active, h.asked, h.response,
        fun snapshot hfound => (h.snapshot snapshot hfound).withTab rfl fun hphase => hphase⟩
      intro hlistens position other hlow hlt hposition envelope update henvelope
      rcases Nat.lt_succ_iff_lt_or_eq.mp hlt with hold | rfl
      · exact h.kept hlistens position other hlow hold hposition envelope update henvelope
      · cases hmessage.symm.trans hposition
        cases hparse.symm.trans henvelope
  | some arrived =>
      obtain ⟨hmode, hbuffering, hrouted, hphase, hbuffer⟩ := receive_page hparse
      refine ⟨hread ▸ hbound, ?_, ?_, ?_, fun hactive => ?_, ?_, ?_, fun snapshot hfound => ?_⟩
      · rw [hread, hskipped]
        exact h.skipped.trans (Nat.le_succ _)
      · rw [hmode, hskipped, hrouted, hbuffering]
        exact h.joining
      · rw [hbuffering, hrouted, hskipped, hread]
        intro hlistens position other hlow hlt hposition envelope update henvelope hupdate
        rcases Nat.lt_succ_iff_lt_or_eq.mp hlt with hold | rfl
        · obtain ⟨hpushed, hbuffered⟩ :=
            h.kept hlistens position other hlow hold hposition envelope update henvelope hupdate
          refine ⟨fun hroutes => hupdates (hpushed hroutes), fun hwaits => ?_⟩
          have hbuffers : tab.page.buffering = true := by simpa [hwaits] using hlistens
          rw [hbuffer hbuffers]
          exact List.mem_append_left _ (hbuffered hwaits)
        · cases hmessage.symm.trans hposition
          cases hparse.symm.trans henvelope
          refine ⟨fun hroutes => receive_routed hparse hupdate hroutes, fun hwaits => ?_⟩
          have hbuffers : tab.page.buffering = true := by simpa [hwaits] using hlistens
          rw [hbuffer hbuffers]
          exact List.mem_append_right _ (List.mem_singleton_self _)
      · rcases hphase with hsame | ⟨-, hsyncing⟩
        · obtain ⟨hroutes, snapshot, hfound, hpushed⟩ := h.active (hsame ▸ hactive)
          exact ⟨hrouted.trans hroutes, snapshot, hsnapshot.trans hfound, hupdates hpushed⟩
        · cases hsyncing.symm.trans hactive
      · rw [hsnapshot, hmode, hrouted]
        exact h.asked
      · rw [hresponse, hsnapshot]
        exact h.response
      · rw [hsnapshot] at hfound
        refine (h.snapshot snapshot hfound).withTab hskipped fun hopen => ?_
        rcases hphase with hsame | ⟨hconnecting, -⟩
        · exact hsame ▸ hopen
        · rw [hconnecting]
          exact nofun

theorem TabOk.failed {id : ConnId} {tab : Tab} {connection : Connection Bytes}
    (h : TabOk lib state id tab connection) : TabOk lib state id tab.failed connection :=
  ⟨h.read, h.skipped, h.joining, h.kept, nofun, h.asked, h.response, fun snapshot hfound =>
    (h.snapshot snapshot hfound).withTab rfl fun hopen => absurd rfl hopen⟩

/-- The page listens from now on. It has not asked for a snapshot yet. -/
theorem TabOk.initialized {id : ConnId} {tab : Tab} {connection : Connection Bytes}
    (h : TabOk lib state id tab connection) (hphase : tab.page.phase = .syncing)
    (hmode : tab.page.mode = .initializer) (hwaits : tab.page.routed = false) :
    TabOk lib state id tab.initialized connection := by
  have hnone : tab.snapshot = none := by
    cases hsnapshot : tab.snapshot with
    | none => rfl
    | some snapshot =>
        have hasked := h.asked (Option.isSome_of_mem hsnapshot)
        simp [hmode, hwaits] at hasked
  refine ⟨h.read, le_rfl, fun hjoin => ?_, fun _ position _ hlow hlt => ?_, fun hactive => ?_,
    fun _ => .inr rfl, h.response, fun snapshot hfound => ?_⟩
  · cases hmode.symm.trans hjoin
  · exact absurd hlt (not_lt.mpr hlow)
  · cases hphase.symm.trans hactive
  · cases hnone.symm.trans hfound

/-- The worker answers with the text its runtime has. -/
theorem TabOk.answered (hsound : state.Sound codec lib json) {id : ConnId} {tab : Tab}
    {connection : Connection Bytes} (h : TabOk lib state id tab connection)
    (hphase : tab.page.phase = .syncing)
    (hlistens : tab.page.mode = .join ∨ tab.page.routed = true) {response : WorkerSyncResponse}
    {snapshot : Snapshot}
    (hsnapshot : state.snapshot lib connection.client.documentId = some (response, snapshot)) :
    TabOk lib state id (tab.answered response snapshot) connection := by
  simp only [CatchUp.snapshot, Manager.syncDocument, Option.bind_eq_bind,
    Option.bind_eq_some_iff, Option.pure_def, Option.some.injEq] at hsnapshot
  obtain ⟨runtime, hlookup, found, ⟨same, hsame, current, hcurrent, rfl⟩, hpair⟩ := hsnapshot
  cases hlookup.symm.trans hsame
  cases hpair
  obtain ⟨request, hrequest, hreplay, -⟩ := hsound.sound.texts runtime current hcurrent
  refine ⟨h.read, h.skipped, h.joining, h.kept, fun hactive => ?_, fun _ => hlistens,
    fun response hresponse => ?_, fun snapshot hfound => ?_⟩
  · cases hphase.symm.trans hactive
  · cases hresponse
    exact ⟨_, rfl, rfl⟩
  · cases hfound
    refine ⟨⟨request, current.doc, hrequest, ?_, rfl⟩, le_rfl, fun _ => le_rfl,
      fun other hother => ?_, fun other hother => ?_, fun _ _ other edit hedit => ?_⟩
    · rw [List.take_length]
      exact hreplay
    · show (state.relay.edits other).length = 0
      rw [hsound.sound.unborn other hother]
      rfl
    · cases hlookup.symm.trans hother
      exact .inl rfl
    · rw [List.drop_length] at hedit
      cases hedit

/-- The page pushes the snapshot and what it has buffered. -/
theorem TabOk.synced {id : ConnId} {tab : Tab} {connection : Connection Bytes}
    (h : TabOk lib state id tab connection) {response : WorkerSyncResponse}
    (hresponse : tab.response = some response) (hphase : tab.page.phase = .syncing) :
    TabOk lib state id (tab.synced lib response) connection := by
  obtain ⟨snapshot, hsnapshot, hstate⟩ := h.response response hresponse
  have hopen : tab.page.phase ≠ .error := by
    rw [hphase]
    exact nofun
  cases hmode : tab.page.mode with
  | join =>
      simp only [Tab.synced, hmode]
      refine ⟨h.read, h.skipped, fun _ => ⟨(h.joining hmode).1, nofun⟩, ?_, fun _ => ⟨rfl, ?_⟩,
        fun _ => .inr rfl, nofun, fun found hfound => ?_⟩
      · intro _ position message hlow hlt hposition envelope update henvelope hupdate
        refine ⟨fun _ => ?_, nofun⟩
        cases hrouted : tab.page.routed with
        | true =>
            have hpushed := (h.kept (.inr hrouted) position message hlow hlt hposition envelope
              update henvelope hupdate).1 hrouted
            exact List.mem_append_left _ (List.mem_append_left _ hpushed)
        | false =>
            have hbuffered := (h.kept (.inl ((h.joining hmode).2 hrouted)) position message hlow hlt
              hposition envelope update henvelope hupdate).2 hrouted
            exact List.mem_append_right _ (List.mem_filterMap.mpr ⟨envelope, hbuffered, hupdate⟩)
      · refine ⟨snapshot, hsnapshot, ?_⟩
        simp [hstate]
      · exact (h.snapshot found hfound).withTab rfl fun _ => hopen
  | initializer =>
      have hrouted : tab.page.routed = true := by
        have hasked := h.asked (Option.isSome_of_mem hsnapshot)
        simpa [hmode] using hasked
      simp only [Tab.synced, hmode]
      refine ⟨h.read, h.skipped, fun hjoin => ?_, ?_, fun _ => ⟨hrouted, ?_⟩, fun _ => .inr hrouted,
        nofun, fun found hfound => ?_⟩
      · cases hmode.symm.trans hjoin
      · intro _ position message hlow hlt hposition envelope update henvelope hupdate
        obtain ⟨hpushed, hbuffered⟩ := h.kept (.inr hrouted) position message hlow hlt hposition
          envelope update henvelope hupdate
        exact ⟨fun hroutes => List.mem_append_left _ (hpushed hroutes), hbuffered⟩
      · refine ⟨snapshot, hsnapshot, ?_⟩
        simp [hstate]
      · exact (h.snapshot found hfound).withTab rfl fun _ => hopen

/-! ### One step -/

/-- A page whose client has not been registered has received no acknowledgement. -/
theorem Served.registered_of_syncing (h : state.Served) {id : ConnId} {tab : Tab}
    (htab : state.tabs.lookup id = some tab) (hphase : tab.page.phase = .syncing) :
    state.registered id ≠ none := by
  intro hnone
  obtain ⟨mode, rfl | rfl⟩ := h.fresh id tab htab hnone <;> cases hphase

theorem Sound.step (h : state.Sound codec lib json) (hread : Readable codec lib json)
    (hforward : codec.Forwards) {event : Event Bytes} (hguard : state.InTime lib event)
    {after : CatchUp Bytes Doc} (hstep : state.step codec lib event = some after) :
    after.Sound codec lib json := by
  cases step_cases codec lib state hstep with
  | connect id node client mode cluster hcluster =>
      have hnone : state.relay.cluster.connections id = none := by
        cases Cluster.step_cases codec state.relay.cluster hcluster with
        | connect _ _ _ hnone => exact hnone
      have hseated : (state.withTab id (.start mode)).Sound codec lib json := by
        refine h.withTab (fun _ => ⟨mode, .inl rfl⟩) fun connection hconnection => ?_
        cases hnone.symm.trans hconnection
      refine hseated.hub hread hforward hcluster true fun other _ opened hevent => ?_
      cases hevent
      exact ⟨hguard, _, AList.lookup_insert ..⟩
  | relay event relay hother hrelay =>
      cases Relay.step_cases codec lib state.relay hrelay with
      | hub event heard cluster hcluster =>
          refine h.hub hread hforward hcluster heard ?_
          rintro id node client rfl
          cases hother id node client heard rfl
      | worker event manager hnotice hmanager => exact h.worked hnotice hmanager
      | handle item rest hfeed => exact h.handled hread hguard hfeed
  | receive id tab connection message htab hconnection hmessage hregistered =>
      refine h.withTab (fun hnone => ?_) fun found hfound hroom => ?_
      -- nothing is written to the socket before the registration
      · rw [hnone] at hregistered
        cases hregistered
      · cases hconnection.symm.trans hfound
        exact (h.tabs id tab connection htab hconnection hroom).receive hmessage
  | initialized id tab htab hphase hmode hwaits =>
      exact h.withTab (fun hnone => absurd hnone (h.registered_of_syncing htab hphase))
        fun connection hconnection hroom =>
          (h.tabs id tab connection htab hconnection hroom).initialized hphase hmode hwaits
  | sync id tab documentId response snapshot htab hdocument hphase hlistens hnone hsnapshot =>
      have hregistered := h.registered_of_syncing htab hphase
      refine h.withTab (fun hunregistered => absurd hunregistered hregistered)
        fun connection hconnection hroom => ?_
      simp only [CatchUp.documentId, hconnection, Option.map_some, Option.some.injEq] at hdocument
      subst hdocument
      exact (h.tabs id tab connection htab hconnection hroom).answered h hphase hlistens hsnapshot
  | refuse id tab documentId htab hdocument hphase hsnapshot =>
      have hregistered := h.registered_of_syncing htab hphase
      exact h.withTab (fun hunregistered => absurd hunregistered hregistered)
        fun connection hconnection hroom =>
          (h.tabs id tab connection htab hconnection hroom).failed
  | respond id tab response htab hresponse hphase =>
      exact h.withTab (fun hnone => absurd hnone (h.registered_of_syncing htab hphase))
        fun connection hconnection hroom =>
          (h.tabs id tab connection htab hconnection hroom).synced hresponse hphase
  | fail id tab htab =>
      refine h.withTab (fun hnone => ?_) fun connection hconnection hroom =>
        (h.tabs id tab connection htab hconnection hroom).failed
      obtain ⟨mode, rfl | rfl⟩ := h.fresh id tab htab hnone
      · exact ⟨mode, .inr rfl⟩
      · exact ⟨mode, .inr rfl⟩

theorem empty_served : (empty : CatchUp Bytes Doc).Served where
  addressed _ _ hentry := by cases hentry
  seated _ _ hconnection := by cases hconnection
  joined _ _ hmissed := by cases hmissed
  complete _ hroom := by
    obtain ⟨_, _, hconnection, -⟩ := hroom
    cases hconnection
  fresh _ _ htab := by cases htab

theorem empty_sound : (empty : CatchUp Bytes Doc).Sound codec lib json where
  toServed := empty_served
  sound := Relay.empty_sound
  known := Manager.empty_known
  keys _ _ hlookup := by cases hlookup
  readable _ _ hconnection := by cases hconnection
  published _ _ hedit := by cases hedit
  tabs _ _ _ htab := by cases htab

/-- In every run in which the worker applies no edit after the snapshot of a page that is
not given it, the pages catch up. -/
theorem reachable_caughtUp (hread : Readable codec lib json) (hforward : codec.Forwards)
    (hreach : (system codec lib).ReachableUnder (InTime lib) state) : state.CaughtUp lib := by
  have hsound : state.Sound codec lib json := by
    refine hreach.invariant (system codec lib) (Sound codec lib json) ?_ ?_
    · rintro start rfl
      exact empty_sound
    · exact fun before event after _ h hguard hstep => h.step hread hforward hguard hstep
  exact hsound.caughtUp hread

/-! ## Runs -/

instance (state : CatchUp Bytes Doc) : Decidable state.Drained :=
  inferInstanceAs (Decidable (_ ∧ _ ∧ _))

/-- The nodes take steps whose messages the worker hears. -/
def hubEvents (events : List (Cluster.Event (Envelope ⊕ EnvelopeMessage))) :
    List (Event (Envelope ⊕ EnvelopeMessage)) :=
  events.map fun event => .relay (.hub event true)

/-- A client of document 1 is registered, and its arrival announced to the room. -/
def enters (id : ConnId) (client : Client) (mode : WorkspaceMode) (clients : List ConnId) :
    List (Event (Envelope ⊕ EnvelopeMessage)) :=
  [.connect id "node" client mode] ++
    hubEvents ([.register id true 0, .run id 0 true 0] ++ clients.map (.run id · true 0) ++
      [.run id 0 true 0, .run id 0 true 0, .run id 0 true 0])

/-- The session of document 1 is initialised once its owner is there. -/
def opens : List (Event (Envelope ⊕ EnvelopeMessage)) :=
  enters 0 ⟨1, "owner", 1, "OWNER", 64⟩ .initializer [0] ++
    [.relay (.worker (.initializeDocument ⟨1, "", 1, "owner", 0⟩)),
      .relay (.worker (.resume 0 true)), .relay (.worker (.resume 0 true))]

/-- The owner types an exclamation mark. -/
def types (clients : List ConnId) : List (Event (Envelope ⊕ EnvelopeMessage)) :=
  hubEvents ([.frame 0 (.inl ⟨.docChange, 1, "", 1, 0, some (.object [("update", .string "!")])⟩) 0,
    .run 0 0 true 0] ++ clients.map (.run 0 · true 0) ++ [.run 0 0 true 0, .run 0 0 true 0])

/-- An editor joins the room, and its page asks for the session. -/
def joins : List (Event (Envelope ⊕ EnvelopeMessage)) :=
  enters 1 ⟨2, "editor", 1, "EDITOR", 64⟩ .join [0, 1] ++
    [.receive 1, .receive 1, .sync 1, .respond 1]

/-- The subscription of the room handles three messages. -/
def drains : List (Event (Envelope ⊕ EnvelopeMessage)) :=
  hubEvents [.forward 0, .receive 0, .forward 0, .receive 0, .forward 0, .receive 0]

/-- An editor joins before the owner types. -/
theorem reachable_caughtUp_guest : ∃ state : CatchUp (Envelope ⊕ EnvelopeMessage) String,
    (system plainCodec plainLibraries).ReachableUnder (InTime plainLibraries) state ∧
      state.Drained ∧ (state.relay.edits 0).map Prod.snd = [[33]] ∧
      (state.tabs.lookup 1).map Tab.remoteUpdates = some [[], [33]] ∧
      state.CaughtUp plainLibraries := by
  obtain ⟨state, hreach, hcheck⟩ := (system plainCodec plainLibraries).exists_reachable_of_exec
    (.init rfl : (system plainCodec plainLibraries).ReachableUnder (InTime plainLibraries) empty)
    (opens ++ joins ++ types [0, 1] ++ [.relay .handle, .relay .handle] ++ drains ++ [.receive 1])
    (fun state => state.Drained ∧ (state.relay.edits 0).map Prod.snd = [[33]] ∧
      (state.tabs.lookup 1).map Tab.remoteUpdates = some [[], [33]]) (by decide +kernel)
  obtain ⟨hdrained, hedits, hupdates⟩ := of_decide_eq_true hcheck
  exact ⟨state, hreach, hdrained, hedits, hupdates,
    reachable_caughtUp plain_readable plainCodec_forwards hreach⟩

/-- The owner types before the editor is registered. The worker is behind: it handles the
edit after it has answered the editor. -/
theorem late_guest_misses_edit :
    ¬ ∀ state : CatchUp (Envelope ⊕ EnvelopeMessage) String,
      (system plainCodec plainLibraries).Reachable state → state.CaughtUp plainLibraries := by
  intro hclaim
  obtain ⟨state, hreach, hcheck⟩ := (system plainCodec plainLibraries).exists_reachable_of_exec
    (.init rfl : (system plainCodec plainLibraries).Reachable empty)
    (opens ++ types [0] ++ joins ++ [.relay .handle, .relay .handle] ++ drains)
    (fun state => state.Drained ∧
      (state.tabs.lookup 1).any (fun tab =>
        tab.page.phase = .active ∧ tab.remoteUpdates = [[]] ∧ tab.read = 2) ∧
      (state.relay.cluster.connections 1).any (fun connection =>
        connection.done = false ∧ connection.received.length = 2 ∧
          connection.client.documentId = 1 ∧
          (state.relay.cluster.rooms connection.node connection.client.documentId).any
            fun room => 1 ∈ room.clients) ∧
      state.relay.manager.documents.lookup 1 = some 0 ∧
      (state.relay.edits 0).map Prod.snd = [[33]] ∧
      state.relay.origins[0]?.map InitializeRequest.content = some "") (by decide +kernel)
  obtain ⟨hdrained, htab, hconnection, hlookup, hedits, horigin⟩ := of_decide_eq_true hcheck
  obtain ⟨tab, htab, htabCheck⟩ := (Option.any_eq_true _ _).mp htab
  obtain ⟨hactive, hupdates, hread⟩ := of_decide_eq_true htabCheck
  obtain ⟨connection, hconnection, hconnectionCheck⟩ := (Option.any_eq_true _ _).mp hconnection
  obtain ⟨hopen, hreceived, hdocument, hrooms⟩ := of_decide_eq_true hconnectionCheck
  obtain ⟨room, hroom, hmember⟩ := (Option.any_eq_true _ _).mp hrooms
  obtain ⟨before, after, hsplit, hbefore, hafter⟩ := hclaim state hreach hdrained 1 tab connection
    htab hconnection ⟨connection, room, hconnection, hroom, of_decide_eq_true hmember⟩ hopen hactive
    (hread.trans hreceived.symm) 0 (hdocument ▸ hlookup)
  rw [hupdates] at hbefore hafter
  -- the edit is none of the updates, so it would have to be in the snapshot
  have hnone : after = [] := by
    refine List.eq_nil_iff_forall_not_mem.mpr fun edit hedit => ?_
    have hupdate : edit.2 ∈ (state.relay.edits 0).map Prod.snd :=
      List.mem_map_of_mem (hsplit ▸ List.mem_append_right before hedit)
    have hpushed := hafter edit hedit
    rw [hedits, List.mem_singleton] at hupdate
    rw [hupdate] at hpushed
    revert hpushed
    decide
  rw [hnone, List.append_nil] at hsplit
  rw [hsplit] at hedits
  rcases hbefore with rfl | ⟨request, doc, hrequest, hreplay, hstate⟩
  · cases hedits
  · rw [hrequest, Option.map_some, Option.some.injEq] at horigin
    rw [hedits, horigin] at hreplay
    cases hreplay
    have hnot : plainLibraries.encodeStateAsUpdate ("" ++ String.ofList
        ([33].map fun byte : UInt8 => Char.ofNat byte.toNat)) ∉ ([[]] : List (List UInt8)) := by
      decide +kernel
    exact hnot hstate

end CatchUp

end CollabEditor.Platform
