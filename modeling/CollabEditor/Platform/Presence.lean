import CollabEditor.Hub.RoomCounts
import CollabEditor.Platform.Attendance

/-! # Whether the pages agree on who is in a room

A page starts from the worker's count, or from itself alone, and adds what its own
connection is told from then on. What was announced before its client was registered it
never hears; the worker may have counted more of it, or less.
-/

namespace CollabEditor.Platform.CatchUp

open Foundation
open Frontend Hub Worker
open Backend (DocumentId)

variable {Bytes Doc : Type}

/-- What the messages change about the count of a page. -/
def heard (lib : Libraries Doc Bytes) (messages : List (Message Bytes)) : Int :=
  CollabWorkspace.changes (messages.filterMap fun message => parseEnvelope lib message.bytes)

variable (codec : Codec Bytes) (lib : Libraries Doc Bytes) (state : CatchUp Bytes Doc)

/-- Of how many clients the room was past telling a client when it was registered. -/
def missed (documentId : DocumentId) (id : ConnId) : Int :=
  state.relay.cluster.total state.clients documentId fun tag => (state.registered id).any (· tag)

/-- Nobody is publishing anything. -/
def Quiet : Prop :=
  ∀ id ∈ state.clients, ∀ connection ∈ state.relay.cluster.connections id,
    connection.stage.tag.isNone = true

instance : Decidable state.Quiet :=
  inferInstanceAs (Decidable (∀ id ∈ state.clients,
    ∀ connection ∈ state.relay.cluster.connections id, connection.stage.tag.isNone = true))

/-- Once everything has been delivered and no page is on its way, the active pages whose
connections are open show the number of connections in their rooms. -/
def PresenceAgrees : Prop :=
  state.Drained → state.Quiet →
    (∀ id tab, state.tabs.lookup id = some tab →
      tab.page.phase = .active ∨ tab.page.phase = .error) →
      ∀ id tab connection, state.tabs.lookup id = some tab →
        state.relay.cluster.connections id = some connection → state.relay.cluster.InRoom id →
        connection.done = false → tab.page.phase = .active →
        tab.read = connection.received.length →
          tab.page.userCount = state.present connection.client.documentId

/-- A room is reopened only when its old subscription is drained, and the broker takes
every announcement. -/
def Delivers : Event Bytes → Prop
  | .relay (.hub event _) => state.relay.cluster.DrainedBeforeReopen event ∧
      state.relay.cluster.AcceptsAnnouncements event
  | _ => True

instance : (event : Event Bytes) → Decidable (state.Delivers event)
  | .relay (.hub event _) => inferInstanceAs (Decidable
      (state.relay.cluster.DrainedBeforeReopen event ∧
        state.relay.cluster.AcceptsAnnouncements event))
  | .connect .. | .relay (.worker _) | .relay .handle | .receive _ | .initialized _ | .sync _
  | .respond _ | .fail _ => inferInstanceAs (Decidable True)

/-- The worker answers a page that joins when it has counted the page itself and exactly
those of whom the page is not told; a page that has initialised starts to count when it is
alone among those of whom it will not be told; and nobody leaves a count of 0. -/
def Counts : Event Bytes → Prop
  | .sync id => ∀ tab ∈ state.tabs.lookup id, tab.page.mode = .join →
      ∀ documentId ∈ state.documentId id, ∀ answer ∈ state.snapshot lib documentId,
        (answer.1.userCount : Int) - 1 = state.missed documentId id
  | .initialized id => ∀ tab ∈ state.tabs.lookup id,
      ∀ connection ∈ state.relay.cluster.connections id,
        1 = state.missed connection.client.documentId id +
          heard lib (connection.received.take tab.read)
  | .respond id => ∀ tab ∈ state.tabs.lookup id, tab.page.mode = .join →
      ∀ response ∈ tab.response,
        CollabWorkspace.Lossless ((response.userCount : Int) - 1) tab.page.buffer
  | .receive id => ∀ tab ∈ state.tabs.lookup id, tab.page.routed = true →
      ∀ connection ∈ state.relay.cluster.connections id,
      ∀ message ∈ connection.received[tab.read]?, ∀ envelope ∈ parseEnvelope lib message.bytes,
        participantEvent envelope = some .left → 1 ≤ tab.page.userCount
  | _ => True

instance (event : Event Bytes) : Decidable (state.Counts lib event) := by
  unfold Counts
  cases event <;> exact inferInstance

def Aligned (event : Event Bytes) : Prop := state.Delivers event ∧ state.Counts lib event

instance (event : Event Bytes) : Decidable (state.Aligned lib event) :=
  inferInstanceAs (Decidable (_ ∧ _))

/-! ## The page -/

variable {codec lib state} {json : Envelope → Json}

theorem heard_cons (message : Message Bytes) (rest : List (Message Bytes)) :
    heard lib (message :: rest) =
      (parseEnvelope lib message.bytes).elim 0 CollabWorkspace.change + heard lib rest := by
  unfold heard
  cases hparse : parseEnvelope lib message.bytes <;> simp [hparse, CollabWorkspace.changes]

theorem heard_take_succ {messages : List (Message Bytes)} {position : Nat} {message : Message Bytes}
    (hmessage : messages[position]? = some message) :
    heard lib (messages.take (position + 1)) = heard lib (messages.take position) +
      (parseEnvelope lib message.bytes).elim 0 CollabWorkspace.change := by
  rw [List.take_add_one, hmessage, heard, List.filterMap_append, CollabWorkspace.changes_append]
  cases hparse : parseEnvelope lib message.bytes <;>
    simp [heard, hparse, CollabWorkspace.changes]

/-- What the count of a page rests on. `missed` is what its client is not told. -/
structure PageOk (lib : Libraries Doc Bytes) (missed : Int) (tab : Tab)
    (connection : Connection Bytes) : Prop where
  read : tab.read ≤ connection.received.length
  waiting : tab.page.mode = .join → tab.page.routed = false → tab.page.buffering = true ∧
    CollabWorkspace.changes tab.page.buffer = heard lib (connection.received.take tab.read)
  routed : tab.page.routed = true → tab.page.buffering = false ∧
    tab.page.userCount = missed + heard lib (connection.received.take tab.read)
  active : tab.page.phase = .active → tab.page.routed = true
  alone : tab.page.mode = .initializer → tab.page.buffering = false ∧
    (tab.page.routed = false → tab.page.userCount = 1)
  joined : tab.page.mode = .join → tab.page.routed = true →
    tab.page.phase = .active ∨ tab.page.phase = .error
  response : ∀ response, tab.response = some response →
    (tab.page.mode = .join → (response.userCount : Int) - 1 = missed) ∧
      (tab.page.mode = .initializer → tab.page.routed = true)

theorem PageOk.fresh {missed : Int} {tab : Tab} {connection : Connection Bytes}
    (h : ∃ mode, tab = .start mode ∨ tab = (Tab.start mode).failed) :
    PageOk lib missed tab connection := by
  obtain ⟨mode, rfl | rfl⟩ := h
  · refine ⟨Nat.zero_le _, fun hjoin _ => ⟨decide_eq_true hjoin, rfl⟩, nofun, nofun, ?_, ?_, nofun⟩
    · rintro rfl
      exact ⟨rfl, fun _ => rfl⟩
    · exact fun _ => nofun
  · refine ⟨Nat.zero_le _, fun hjoin _ => ⟨decide_eq_true hjoin, rfl⟩, nofun, nofun, ?_, ?_, nofun⟩
    · rintro rfl
      exact ⟨rfl, fun _ => rfl⟩
    · exact fun _ => nofun

/-- The connection has received more. -/
theorem PageOk.growing {missed : Int} {tab : Tab} {old new : Connection Bytes}
    (h : PageOk lib missed tab old) (hreceived : old.received <+: new.received) :
    PageOk lib missed tab new := by
  obtain ⟨more, hmore⟩ := hreceived
  have htake : new.received.take tab.read = old.received.take tab.read := by
    rw [← hmore, List.take_append_of_le_length h.read]
  refine ⟨?_, ?_, ?_, h.active, h.alone, h.joined, h.response⟩
  · rw [← hmore, List.length_append]
    exact h.read.trans (Nat.le_add_right _ _)
  · rw [htake]
    exact h.waiting
  · rw [htake]
    exact h.routed

/-- The count of a page that routes changes by the event. -/
theorem receive_userCount {tab : Tab} {data : Bytes} {envelope : Json}
    (hparse : parseEnvelope lib data = some envelope) (hrouted : tab.page.routed = true)
    (hlossless : participantEvent envelope = some .left → 1 ≤ tab.page.userCount) :
    (tab.receive lib data).page.userCount =
      tab.page.userCount + CollabWorkspace.change envelope := by
  have hcount : (tab.page.receive envelope).userCount =
      tab.page.userCount + CollabWorkspace.change envelope := by
    rw [← CollabWorkspace.routeParticipantEvent_userCount hlossless]
    simp only [CollabWorkspace.receive, hrouted, if_true]
    split <;> rfl
  simp only [Tab.receive, hparse]
  split
  next => exact hcount
  next => exact hcount

theorem receive_waiting {tab : Tab} {data : Bytes} {envelope : Json}
    (hparse : parseEnvelope lib data = some envelope) (hwaits : tab.page.routed = false) :
    (tab.receive lib data).page.userCount = tab.page.userCount := by
  have hcount : (tab.page.receive envelope).userCount = tab.page.userCount := by
    simp only [CollabWorkspace.receive, hwaits]
    split <;> rfl
  simp only [Tab.receive, hparse]
  split
  next => exact hcount
  next => exact hcount

theorem PageOk.receive {missed : Int} {tab : Tab} {connection : Connection Bytes}
    (h : PageOk lib missed tab connection) {message : Message Bytes}
    (hmessage : connection.received[tab.read]? = some message)
    (hlossless : tab.page.routed = true → ∀ envelope,
      parseEnvelope lib message.bytes = some envelope →
        participantEvent envelope = some .left → 1 ≤ tab.page.userCount) :
    PageOk lib missed (tab.receive lib message.bytes) connection := by
  obtain ⟨hread, -, hresponse, -⟩ := receive_tab lib tab message.bytes
  have hbound : tab.read + 1 ≤ connection.received.length :=
    (List.getElem?_eq_some_iff.mp hmessage).1
  have hheard : heard lib (connection.received.take (tab.read + 1)) = _ := heard_take_succ hmessage
  cases hparse : parseEnvelope lib message.bytes with
  | none =>
      rw [hparse, Option.elim_none, add_zero] at hheard
      rw [receive_none hparse]
      refine ⟨hbound, ?_, ?_, h.active, h.alone, h.joined, h.response⟩
      · show _ → _ → _ ∧ _ = heard lib (connection.received.take (tab.read + 1))
        rw [hheard]
        exact h.waiting
      · show _ → _ ∧ _ = missed + heard lib (connection.received.take (tab.read + 1))
        rw [hheard]
        exact h.routed
  | some envelope =>
      rw [hparse, Option.elim_some] at hheard
      obtain ⟨hmode, hbuffering, hrouted, hphase, hbuffer⟩ :
          (tab.receive lib message.bytes).page.mode = tab.page.mode ∧ _ := receive_page hparse
      refine ⟨hread ▸ hbound, fun hjoin hwaits => ?_, fun hroutes => ?_, fun hactive => ?_,
        fun hinitializer => ?_, fun hjoin hroutes => ?_, ?_⟩
      · rw [hmode] at hjoin
        rw [hrouted] at hwaits
        obtain ⟨hbuffers, hchanges⟩ := h.waiting hjoin hwaits
        rw [hbuffering, hbuffer hbuffers, hread, hheard, CollabWorkspace.changes_append, hchanges]
        exact ⟨hbuffers, by simp [CollabWorkspace.changes]⟩
      · rw [hrouted] at hroutes
        obtain ⟨hbuffers, hcount⟩ := h.routed hroutes
        rw [hbuffering, hread, hheard,
          receive_userCount hparse hroutes (hlossless hroutes envelope hparse), hcount, add_assoc]
        exact ⟨hbuffers, rfl⟩
      · rw [hrouted]
        rcases hphase with hsame | ⟨-, hsyncing⟩
        · exact h.active (hsame ▸ hactive)
        · cases hsyncing.symm.trans hactive
      · rw [hmode] at hinitializer
        obtain ⟨hbuffers, hfresh⟩ := h.alone hinitializer
        rw [hbuffering, hrouted]
        refine ⟨hbuffers, fun hwaits => ?_⟩
        rw [receive_waiting hparse hwaits]
        exact hfresh hwaits
      · rw [hmode] at hjoin
        rw [hrouted] at hroutes
        rcases hphase with hsame | ⟨hconnecting, -⟩
        · rw [hsame]
          exact h.joined hjoin hroutes
        · have hphase := h.joined hjoin hroutes
          rw [hconnecting] at hphase
          simp at hphase
      · rw [hresponse, hmode, hrouted]
        exact h.response

theorem PageOk.failed {missed : Int} {tab : Tab} {connection : Connection Bytes}
    (h : PageOk lib missed tab connection) : PageOk lib missed tab.failed connection :=
  ⟨h.read, h.waiting, h.routed, nofun, h.alone, fun _ _ => .inr rfl, h.response⟩

/-- The page that has initialised the session counts from now on. -/
theorem PageOk.initialized {missed : Int} {tab : Tab} {connection : Connection Bytes}
    (h : PageOk lib missed tab connection) (hmode : tab.page.mode = .initializer)
    (hwaits : tab.page.routed = false)
    (hcount : 1 = missed + heard lib (connection.received.take tab.read)) :
    PageOk lib missed tab.initialized connection := by
  obtain ⟨hbuffers, hfresh⟩ := h.alone hmode
  have hother : tab.page.mode ≠ .join := by
    rw [hmode]
    exact nofun
  refine ⟨h.read, nofun, fun _ => ⟨hbuffers, (hfresh hwaits).trans hcount⟩, fun _ => rfl,
    fun _ => ⟨hbuffers, nofun⟩, fun hjoin => absurd hjoin hother,
    fun response hresponse => ⟨(h.response response hresponse).1, fun _ => rfl⟩⟩

theorem PageOk.answered {missed : Int} {tab : Tab} {connection : Connection Bytes}
    (h : PageOk lib missed tab connection)
    (hlistens : tab.page.mode = .join ∨ tab.page.routed = true) {response : WorkerSyncResponse}
    (hcount : tab.page.mode = .join → (response.userCount : Int) - 1 = missed)
    (snapshot : Snapshot) : PageOk lib missed (tab.answered response snapshot) connection := by
  refine ⟨h.read, h.waiting, h.routed, h.active, h.alone, h.joined, ?_⟩
  rintro found ⟨⟩
  refine ⟨hcount, fun hinitializer => hlistens.resolve_left ?_⟩
  rw [show tab.page.mode = .initializer from hinitializer]
  exact nofun

/-- The page that joins counts from the snapshot, with what it has buffered. -/
theorem PageOk.synced {missed : Int} {tab : Tab} {connection : Connection Bytes}
    (h : PageOk lib missed tab connection) {response : WorkerSyncResponse}
    (hresponse : tab.response = some response) (hphase : tab.page.phase = .syncing)
    (hlossless : tab.page.mode = .join →
      CollabWorkspace.Lossless ((response.userCount : Int) - 1) tab.page.buffer) :
    PageOk lib missed (tab.synced lib response) connection := by
  obtain ⟨hregistered, hrouted⟩ := h.response response hresponse
  cases hmode : tab.page.mode with
  | join =>
      have hwaits : tab.page.routed = false := by
        by_contra hroutes
        have hjoined := h.joined hmode (Bool.not_eq_false _ ▸ hroutes)
        rw [hphase] at hjoined
        simp at hjoined
      obtain ⟨-, hchanges⟩ := h.waiting hmode hwaits
      let seeded : CollabWorkspace :=
        { tab.page with
          buffering := false
          userCount := (response.userCount : Int) - 1
          usernames := response.participantMap }
      obtain ⟨hkept, hbuffering⟩ := seeded.foldl_fields tab.page.buffer
      have hcount : (tab.page.joined response).userCount =
          (response.userCount : Int) - 1 + CollabWorkspace.changes tab.page.buffer :=
        CollabWorkspace.foldl_userCount
          (hlossless hmode : CollabWorkspace.Lossless seeded.userCount _)
      have hjoins : (tab.page.joined response).mode = .join := hkept.trans hmode
      simp only [Tab.synced, hmode]
      refine ⟨h.read, fun _ hunrouted => ?_, fun _ => ⟨hbuffering, ?_⟩, fun _ => rfl,
        fun hinitializer => ?_, fun _ _ => .inl rfl, fun found hfound => ?_⟩
      · cases hunrouted
      · show (tab.page.joined response).userCount = _
        rw [hcount, hregistered hmode, hchanges]
      · cases hjoins.symm.trans hinitializer
      · cases hfound
  | initializer =>
      have hroutes := hrouted hmode
      simp only [Tab.synced, hmode]
      refine ⟨h.read, h.waiting, h.routed, fun _ => hroutes, h.alone, fun _ _ => .inl rfl,
        fun found hfound => ?_⟩
      cases hfound

/-! ## The invariant -/

/-- The page reads the participant of an announcement. -/
def ReadsParticipants (json : Envelope → Json) : Prop :=
  ∀ (client : Client) (type : MessageType) (message : String) (now : Backend.Instant),
    (parseParticipantPayload
      ((json (client.participantEnvelope type message now)).field "payload")).isSome = true

structure Presented (codec : Codec Bytes) (lib : Libraries Doc Bytes) (state : CatchUp Bytes Doc) :
    Prop extends Served state where
  ordered : state.relay.cluster.Ordered codec True
  announcing : state.relay.cluster.Announcing
  told : state.relay.cluster.Told
  within : state.relay.cluster.Within
  authored : state.relay.cluster.Authored
  replies : ∀ id connection, state.relay.cluster.connections id = some connection →
    ∀ bytes ∈ untagged connection.received, connection.client.IsReply codec bytes
  passed : ∀ id missed, state.registered id = some missed → ∀ tag, missed tag = true →
    state.relay.cluster.passed id tag = true
  unheard : ∀ id missed, state.registered id = some missed → ∀ message tag,
    state.relay.cluster.Has id message → message.tag = some tag → missed tag = false
  pages : ∀ id tab connection, state.tabs.lookup id = some tab →
    state.relay.cluster.connections id = some connection → state.relay.cluster.InRoom id →
      PageOk lib (state.missed connection.client.documentId id) tab connection

/-- An envelope changes the count of a page as it says. -/
theorem change_json (hread : Readable codec lib json) (hnames : ReadsParticipants json)
    {client : Client} {envelope : Envelope}
    (hauthored : client.Owns envelope ∨ client.Announces envelope) :
    CollabWorkspace.change (json envelope) = envelope.change := by
  have hother : envelope.type = .chat ∨ envelope.type = .docChange →
      CollabWorkspace.change (json envelope) = envelope.change := by
    rintro (htype | htype) <;>
      simp [CollabWorkspace.change, participantEvent, hread.type, Envelope.change, htype,
        MessageType.text]
  rcases hauthored with howns | ⟨now, rfl | rfl⟩
  · exact hother howns.type
  · obtain ⟨participant, hparticipant⟩ := Option.isSome_iff_exists.mp
      (hnames client .participantJoined "participant joined" now)
    have hevent : participantEvent (json (client.participantEnvelope .participantJoined
        "participant joined" now)) = some (.joined participant) := by
      unfold participantEvent
      rw [hread.type]
      exact congrArg (Option.map ParticipantEvent.joined) hparticipant
    rw [CollabWorkspace.change, hevent]
    rfl
  · obtain ⟨participant, hparticipant⟩ := Option.isSome_iff_exists.mp
      (hnames client .participantLeft "participant left" now)
    have hevent : participantEvent (json (client.participantEnvelope .participantLeft
        "participant left" now)) = some .left := by
      unfold participantEvent
      rw [hread.type]
      exact congrArg (Option.map fun _ => ParticipantEvent.left) hparticipant
    rw [CollabWorkspace.change, hevent]
    rfl

/-- What a page is told changes its count as the envelope says, a reply not at all. -/
theorem Presented.change_message (h : state.Presented codec lib) (hread : Readable codec lib json)
    (hnames : ReadsParticipants json) {id : ConnId} {connection : Connection Bytes}
    (hconnection : state.relay.cluster.connections id = some connection) {message : Message Bytes}
    (hmessage : message ∈ connection.received) :
    (parseEnvelope lib message.bytes).elim 0 CollabWorkspace.change =
      message.tag.elim 0 state.relay.cluster.changeOf := by
  have hparse : ∀ envelope, lib.parse message.bytes = some (json envelope) →
      parseEnvelope lib message.bytes = some (json envelope) := by
    intro envelope hbytes
    simp [parseEnvelope, hbytes, hread.type]
  cases htag : message.tag with
  | some tag =>
      obtain ⟨v, envelope, hv, henvelope, hrenders⟩ :=
        h.ordered.faithful id connection hconnection message hmessage tag htag
      obtain ⟨sender, hsender, rfl⟩ := Option.map_eq_some_iff.mp hv
      have hsent : state.relay.cluster.Sent tag sender envelope := ⟨hsender, henvelope⟩
      rw [hparse envelope (hread.renders hrenders), Option.elim_some, Option.elim_some,
        hsent.changeOf]
      exact change_json hread hnames (h.authored tag sender envelope hsent)
  | none =>
      have hreply := h.replies id connection hconnection message.bytes
        (List.mem_map.mpr ⟨message, List.mem_filter.mpr ⟨hmessage, by simp [htag]⟩, rfl⟩)
      have hnothing : ∀ envelope : Envelope, participantEvent (json envelope) = none →
          lib.parse message.bytes = some (json envelope) →
          (parseEnvelope lib message.bytes).elim 0 CollabWorkspace.change = 0 := by
        intro envelope hnone hbytes
        rw [hparse envelope hbytes, Option.elim_some, CollabWorkspace.change, hnone]
      rcases hreply with hack | ⟨code, text, herror⟩
      · refine hnothing _ ?_ (hread.marshal _ _ hack)
        unfold participantEvent
        rw [hread.type]
        rfl
      · refine hnothing _ ?_ (hread.marshal _ _ herror)
        unfold participantEvent
        rw [hread.type]
        rfl

/-- What a page has been told adds up to what the envelopes say. -/
theorem heard_eq {messages : List (Message Bytes)} {change : Tag → Int}
    (hmessages : ∀ message ∈ messages,
      (parseEnvelope lib message.bytes).elim 0 CollabWorkspace.change =
        message.tag.elim 0 change) : heard lib messages = ((tags messages).map change).sum := by
  induction messages with
  | nil => rfl
  | cons message rest ih =>
      have hrest : heard lib rest = ((tags rest).map change).sum :=
        ih fun other hother => hmessages other (List.mem_cons_of_mem message hother)
      have hfirst : ((tags (message :: rest)).map change).sum =
          message.tag.elim 0 change + ((tags rest).map change).sum := by
        unfold tags
        cases htag : message.tag <;> simp [htag]
      rw [heard_cons, hfirst, hmessages message List.mem_cons_self, hrest]

/-- An active page has been told of everybody of whom the room was not past telling it. -/
theorem Presented.presenceAgrees (h : state.Presented codec lib) (hread : Readable codec lib json)
    (hnames : ReadsParticipants json) : state.PresenceAgrees := by
  intro hdrained hquiet _ id tab connection htab hconnection hroom hopen hactive hall
  have hlayout := h.ordered.layout
  have hpage := h.pages id tab connection htab hconnection hroom
  obtain ⟨-, hcount⟩ := hpage.routed (hpage.active hactive)
  rw [hall, List.take_length, heard_eq fun message hmessage =>
    h.change_message hread hnames hconnection hmessage] at hcount
  obtain ⟨missed, hmissed, hcomplete⟩ := h.complete id hroom
  have hnodup : (tags connection.received).Nodup :=
    nodup_tags (h.ordered.inOrder trivial id connection hconnection)
  have hseated : ∀ other found, state.relay.cluster.connections other = some found →
      other ∈ state.clients := by
    intro other found hfound
    exact mem_clients.mpr (h.seated other found hfound)
  -- the page has received what the room has told, but for what it was not told
  have hreceived : ∑ tag ∈ (tags connection.received).toFinset, state.relay.cluster.changeOf tag =
      ∑ tag ∈ (state.relay.cluster.tagsOf state.clients connection.client.documentId).filter
        (fun tag => ¬ missed tag = true), state.relay.cluster.changeOf tag := by
    refine Finset.sum_subset (fun tag htag => ?_) fun tag htag hnot => ?_
    · obtain ⟨message, hmessage, hmessageTag⟩ :=
        List.mem_filterMap.mp (List.mem_toFinset.mp htag)
      have hhas : state.relay.cluster.Has id message := ⟨connection, hconnection, hmessage⟩
      obtain ⟨sender, hsender, found, hfound, hdocument, -⟩ :=
        h.within.received id message tag hhas hmessageTag
      cases hconnection.symm.trans hfound
      obtain ⟨v, envelope, hv, henvelope, -⟩ :=
        h.ordered.faithful id connection hconnection message hmessage tag hmessageTag
      cases (Cluster.view_eq hsender).symm.trans hv
      refine Finset.mem_filter.mpr ⟨Cluster.mem_tagsOf.mpr ⟨hseated _ sender hsender, sender,
        envelope, ⟨hsender, henvelope⟩, hdocument.symm⟩, ?_⟩
      rw [h.unheard id missed hmissed message tag hhas hmessageTag]
      exact Bool.false_ne_true
    · obtain ⟨hmember, hunmissed⟩ := Finset.mem_filter.mp htag
      obtain ⟨-, sender, envelope, hsent, hdocument⟩ := Cluster.mem_tagsOf.mp hmember
      rw [hsent.changeOf]
      by_contra hchange
      rcases h.told tag sender envelope hsent hchange with hcurrent | ⟨entry, hentry, rfl⟩
      · have hnone := hquiet tag.sender (hseated _ sender hsent.1) sender hsent.1
        rw [hcurrent] at hnone
        cases hnone
      · have hpassed : state.relay.cluster.passed id entry.tag = true :=
          Cluster.passed_of_drained hlayout hroom (fun _ _ hfound =>
            hdrained.quiet h.toServed hfound) (fun _ _ hs => hdrained.consumed hlayout hs)
            hconnection hsent.1 hdocument (hdocument ▸ hentry)
        rcases hcomplete entry.tag hpassed with
          hmiss | ⟨target, htarget, message, hmessage, htold⟩ | hdropped
        · exact hunmissed hmiss
        · cases hconnection.symm.trans htarget
          exact hnot (List.mem_toFinset.mpr (List.mem_filterMap.mpr ⟨message, hmessage, htold⟩))
        · exact Cluster.not_dropped (fun _ _ hfound => hdrained.quiet h.toServed hfound)
            (fun _ _ hs => (hdrained.consumed hlayout hs).1) hconnection hopen hdropped
  rw [← List.sum_toFinset _ hnodup, hreceived, CatchUp.missed, Cluster.total] at hcount
  simp only [hmissed, Option.any_some] at hcount
  rw [hcount, Finset.sum_filter_add_sum_filter_not, h.announcing.sum_tagsOf]
  rfl

/-! ### The nodes -/

/-- What a client is not told was sent before it was registered. -/
theorem Presented.sent_of_missed (h : state.Presented codec lib) {id : ConnId} {tag : Tag}
    (hmissed : ((state.registered id).any (· tag)) = true) : tag.sender ∈ state.clients ∧
      ∃ sender envelope, state.relay.cluster.Sent tag sender envelope := by
  obtain ⟨missed, hregistered, htag⟩ := (Option.any_eq_true _ _).mp hmissed
  obtain ⟨sender, envelope, hsent⟩ :=
    Cluster.sent_of_passed h.ordered.layout (h.passed id missed hregistered tag htag)
  exact ⟨mem_clients.mpr (h.seated _ sender hsent.1), sender, envelope, hsent⟩

theorem Presented.hub (h : state.Presented codec lib) (hread : Readable codec lib json)
    (hforward : codec.Forwards) (hcodec : codec.WritesAnnouncements) {event : Cluster.Event Bytes}
    {cluster : Cluster Bytes} (hdrained : state.relay.cluster.DrainedBeforeReopen event)
    (haccepts : state.relay.cluster.AcceptsAnnouncements event)
    (hstep : Cluster.step codec state.relay.cluster event = some cluster) (heard : Bool)
    (hconnect : ∀ id node client, event = .connect id node client →
      ∃ tab, state.tabs.lookup id = some tab) :
    (state.withRelay (.hub event heard) (state.relay.hub event heard cluster)).Presented codec
      lib := by
  have hlayout := h.ordered.layout
  have hafter : cluster.Ordered codec True :=
    h.ordered.step hread.keepsOrigin (fun _ => hdrained) hstep
  have hregistrations := fun id =>
    state.withRelay_registered event heard (state.relay.hub event heard cluster) id
  refine ⟨h.toServed.hub hlayout hforward hafter.layout hstep heard hconnect, hafter,
    h.announcing.step hlayout hcodec hstep, h.told.step h.announcing hlayout hcodec haccepts hstep,
    h.within.step h.announcing hlayout h.addressed hcodec haccepts hafter.layout hstep,
    h.authored.step hlayout hstep,
    fun id new hnew bytes hbytes => Cluster.replies_step hlayout hstep h.replies hnew hbytes,
    fun id missed hmissed tag htag => ?_, fun id missed hmissed message tag hhas htag => ?_,
    fun id tab new htab hnew hroom => ?_⟩
  · rcases hregistrations id with hsame | ⟨-, -, -, -, hnow⟩
    · exact Cluster.passed_step hlayout hstep (h.passed id missed (hsame ▸ hmissed) tag htag)
    · cases hnow.symm.trans hmissed
      exact htag
  · have hbefore := Cluster.step_has hstep htag hhas
    rcases hregistrations id with hsame | ⟨subscribed, now, rfl, -, -⟩
    · have hmissed := hsame.symm.trans hmissed
      rcases hbefore with hold | hoffers
      · exact h.unheard id missed hmissed message tag hold htag
      · by_contra hmiss
        have hpassed := h.passed id missed hmissed tag (Bool.not_eq_false _ ▸ hmiss)
        cases hpassed.symm.trans (hoffers.not_passed h.ordered htag)
    · -- somebody who has just been registered has been told nothing
      rcases hbefore with hold | hoffers
      · obtain ⟨connection, hconnection, hregister⟩ := Option.bind_eq_some_iff.mp hstep
        obtain ⟨-, -, found, hfound, -, hjoined⟩ := h.within.received id message tag hold htag
        cases hconnection.symm.trans hfound
        split at hregister
        next hstage =>
          have hnone : connection.subscription = none :=
            hlayout.connecting id connection.view (Cluster.view_eq hconnection)
              (by simp [Connection.view, hstage, Stage.isConnecting])
          rw [hnone] at hjoined
          cases hjoined
        next => cases hregister
      · cases hoffers
  · rcases h.rooms hlayout hafter.layout hstep heard hroom with ⟨hbefore, hsame⟩ | ⟨hnone, -⟩
    · obtain ⟨old, hold⟩ := hbefore.connection
      have hserves := Cluster.step_serves hlayout hforward hbefore hstep
      obtain ⟨found, hfound, hreceived⟩ := hserves.queue old hold
      cases hnew.symm.trans hfound
      obtain ⟨same, hsameNew, hclient, -⟩ := Cluster.step_sent hlayout hstep id old hold
      cases hnew.symm.trans hsameNew
      have hmissed : (state.withRelay (.hub event heard)
          (state.relay.hub event heard cluster)).missed new.client.documentId id =
          state.missed old.client.documentId id := by
        rw [CatchUp.missed, CatchUp.missed, hsame, hclient]
        exact Cluster.total_step hlayout hstep _ _ fun tag htag => (h.sent_of_missed htag).2
      rw [hmissed]
      exact (h.pages id tab old htab hold hbefore).growing hreceived
    · exact .fresh (h.fresh id tab htab hnone)

/-! ### One step -/

/-- A page moves, or is opened. -/
theorem Presented.withTab (h : state.Presented codec lib) {id : ConnId} {tab : Tab}
    (hfresh : state.registered id = none →
      ∃ mode, tab = .start mode ∨ tab = (Tab.start mode).failed)
    (hok : ∀ connection, state.relay.cluster.connections id = some connection →
      state.relay.cluster.InRoom id →
        PageOk lib (state.missed connection.client.documentId id) tab connection) :
    (state.withTab id tab).Presented codec lib := by
  refine ⟨h.toServed.withTab hfresh, h.ordered, h.announcing, h.told, h.within, h.authored,
    h.replies, h.passed, h.unheard, fun other found connection hfound hconnection hroom => ?_⟩
  have hsubset : state.clients ⊆ (state.withTab id tab).clients := by
    rw [clients_insert]
    exact Finset.subset_insert id state.clients
  have hmissed : (state.withTab id tab).missed connection.client.documentId other =
      state.missed connection.client.documentId other :=
    Cluster.total_subset hsubset _ fun tag htag => (h.sent_of_missed htag).1
  rw [hmissed]
  rcases lookup_withTab hfound with ⟨rfl, rfl⟩ | hold
  · exact hok connection hconnection hroom
  · exact h.pages other found connection hold hconnection hroom

theorem Presented.step (h : state.Presented codec lib) (hread : Readable codec lib json)
    (hforward : codec.Forwards) (hcodec : codec.WritesAnnouncements) {event : Event Bytes}
    (hguard : state.Aligned lib event) {after : CatchUp Bytes Doc}
    (hstep : state.step codec lib event = some after) : after.Presented codec lib := by
  obtain ⟨hdelivers, hcounts⟩ := hguard
  cases step_cases codec lib state hstep with
  | connect id node client mode cluster hcluster =>
      have hnone : state.relay.cluster.connections id = none := by
        cases Cluster.step_cases codec state.relay.cluster hcluster with
        | connect _ _ _ hnone => exact hnone
      have hseated : (state.withTab id (.start mode)).Presented codec lib := by
        refine h.withTab (fun _ => ⟨mode, .inl rfl⟩) fun connection hconnection => ?_
        cases hnone.symm.trans hconnection
      have hdrained : state.relay.cluster.DrainedBeforeReopen (.connect id node client) := trivial
      have haccepts : state.relay.cluster.AcceptsAnnouncements (.connect id node client) := trivial
      refine hseated.hub hread hforward hcodec hdrained haccepts hcluster true
        fun other _ opened hevent => ?_
      cases hevent
      exact ⟨_, AList.lookup_insert ..⟩
  | relay event relay hother hrelay =>
      cases Relay.step_cases codec lib state.relay hrelay with
      | hub event heard cluster hcluster =>
          refine h.hub hread hforward hcodec hdelivers.1 hdelivers.2 hcluster heard ?_
          rintro id node client rfl
          cases hother id node client heard rfl
      | worker event manager hnotice hmanager =>
          exact ⟨⟨h.addressed, h.seated, h.joined, h.complete, h.fresh⟩, h.ordered, h.announcing,
            h.told, h.within, h.authored, h.replies, h.passed, h.unheard, h.pages⟩
      | handle item rest hfeed =>
          exact ⟨⟨h.addressed, h.seated, h.joined, h.complete, h.fresh⟩, h.ordered, h.announcing,
            h.told, h.within, h.authored, h.replies, h.passed, h.unheard, h.pages⟩
  | receive id tab connection message htab hconnection hmessage hregistered =>
      refine h.withTab (fun hnone => ?_) fun found hfound hroom => ?_
      · rw [hnone] at hregistered
        cases hregistered
      · cases hconnection.symm.trans hfound
        refine (h.pages id tab connection htab hconnection hroom).receive hmessage
          fun hroutes envelope henvelope => ?_
        exact hcounts tab htab hroutes connection hconnection message hmessage envelope henvelope
  | initialized id tab htab hphase hmode hwaits =>
      refine h.withTab (fun hnone => absurd hnone (h.registered_of_syncing htab hphase))
        fun connection hconnection hroom => ?_
      exact (h.pages id tab connection htab hconnection hroom).initialized hmode hwaits
        (hcounts tab htab connection hconnection)
  | sync id tab documentId response snapshot htab hdocument hphase hlistens hnone hsnapshot =>
      refine h.withTab (fun hunregistered => absurd hunregistered
        (h.registered_of_syncing htab hphase)) fun connection hconnection hroom => ?_
      refine (h.pages id tab connection htab hconnection hroom).answered hlistens (fun hjoin => ?_)
        snapshot
      have hcount := hcounts tab htab hjoin documentId hdocument (response, snapshot) hsnapshot
      simp only [CatchUp.documentId, hconnection, Option.map_some, Option.some.injEq] at hdocument
      rw [hdocument]
      exact hcount
  | refuse id tab documentId htab hdocument hphase hsnapshot =>
      exact h.withTab (fun hunregistered => absurd hunregistered
        (h.registered_of_syncing htab hphase)) fun connection hconnection hroom =>
          (h.pages id tab connection htab hconnection hroom).failed
  | respond id tab response htab hresponse hphase =>
      refine h.withTab (fun hnone => absurd hnone (h.registered_of_syncing htab hphase))
        fun connection hconnection hroom => ?_
      exact (h.pages id tab connection htab hconnection hroom).synced hresponse hphase
        fun hjoin => hcounts tab htab hjoin response hresponse
  | fail id tab htab =>
      refine h.withTab (fun hnone => ?_) fun connection hconnection hroom =>
        (h.pages id tab connection htab hconnection hroom).failed
      obtain ⟨mode, rfl | rfl⟩ := h.fresh id tab htab hnone
      · exact ⟨mode, .inr rfl⟩
      · exact ⟨mode, .inr rfl⟩

theorem empty_presented : (empty : CatchUp Bytes Doc).Presented codec lib where
  toServed := empty_served
  ordered := Cluster.empty_ordered
  announcing := Cluster.empty_announcing
  told := Cluster.empty_told
  within := Cluster.empty_within
  authored := Cluster.empty_authored
  replies _ _ hconnection := by cases hconnection
  passed _ _ hregistered := by cases hregistered
  unheard _ _ hregistered := by cases hregistered
  pages _ _ _ htab := by cases htab

/-- In every run in which the snapshots count the page and whom it is not told of, the
pages agree on who is in the room. -/
theorem reachable_presenceAgrees (hread : Readable codec lib json)
    (hnames : ReadsParticipants json) (hforward : codec.Forwards)
    (hcodec : codec.WritesAnnouncements)
    (hreach : (system codec lib).ReachableUnder (Aligned lib) state) : state.PresenceAgrees := by
  have hpresented : state.Presented codec lib := by
    refine hreach.invariant (system codec lib) (Presented codec lib) ?_ ?_
    · rintro start rfl
      exact empty_presented
    · exact fun before event after _ h hguard hstep => h.step hread hforward hcodec hguard hstep
  exact hpresented.presenceAgrees hread hnames

/-! ## Runs -/

theorem plain_readsParticipants : ReadsParticipants plainJson :=
  fun _ _ _ _ => rfl

/-- The owner's page starts the session and becomes active; the page of an editor joins.
The given events happen before the worker answers it. At the end everything is delivered. -/
def meeting (before : List (Event (Envelope ⊕ EnvelopeMessage))) :
    List (Event (Envelope ⊕ EnvelopeMessage)) :=
  opens ++ [.receive 0, .receive 0, .initialized 0, .sync 0, .respond 0] ++
    enters 1 ⟨2, "editor", 1, "EDITOR", 64⟩ .join [0, 1] ++ [.receive 0, .receive 1, .receive 1] ++
    before ++ [.sync 1, .respond 1] ++
    hubEvents [.forward 0, .receive 0, .forward 0, .receive 0]

/-- The worker handles the announcement of the editor. -/
def counts : List (Event (Envelope ⊕ EnvelopeMessage)) :=
  [.relay .handle, .relay (.worker (.resume 0 true))]

/-- Both pages show two users. -/
theorem reachable_presenceAgrees_guest : ∃ state : CatchUp (Envelope ⊕ EnvelopeMessage) String,
    (system plainCodec plainLibraries).ReachableUnder (Aligned plainLibraries) state ∧
      state.Drained ∧ state.present 1 = 2 ∧
      (state.tabs.lookup 0).map (·.page.userCount) = some 2 ∧
      (state.tabs.lookup 1).map (·.page.userCount) = some 2 ∧ state.PresenceAgrees := by
  obtain ⟨state, hreach, hcheck⟩ := (system plainCodec plainLibraries).exists_reachable_of_exec
    (.init rfl : (system plainCodec plainLibraries).ReachableUnder (Aligned plainLibraries) empty)
    (meeting counts) (fun state => state.Drained ∧ state.present 1 = 2 ∧
      (state.tabs.lookup 0).map (·.page.userCount) = some (2 : Int) ∧
      (state.tabs.lookup 1).map (·.page.userCount) = some (2 : Int)) (by decide +kernel)
  obtain ⟨hdrained, hpresent, howner, hguest⟩ := of_decide_eq_true hcheck
  exact ⟨state, hreach, hdrained, hpresent, howner, hguest,
    reachable_presenceAgrees plain_readable plain_readsParticipants plainCodec_forwards
      plainCodec_writesAnnouncements hreach⟩

/-- The worker answers the editor before it has handled the editor's announcement. -/
theorem early_snapshot_disagrees :
    ¬ ∀ state : CatchUp (Envelope ⊕ EnvelopeMessage) String,
      (system plainCodec plainLibraries).ReachableUnder Delivers state → state.PresenceAgrees := by
  intro hclaim
  obtain ⟨state, hreach, hcheck⟩ := (system plainCodec plainLibraries).exists_reachable_of_exec
    (.init rfl : (system plainCodec plainLibraries).ReachableUnder Delivers empty)
    (meeting [] ++ counts)
    (fun state => state.Drained ∧ state.Quiet ∧
      (∀ id ∈ state.clients, ((state.tabs.lookup id).map (·.page.phase)) = some .active) ∧
      state.present 1 = 2 ∧
      (state.tabs.lookup 1).any (fun tab =>
        tab.page.phase = .active ∧ tab.page.userCount = 1 ∧ tab.read = 2) ∧
      (state.relay.cluster.connections 1).any (fun connection =>
        connection.done = false ∧ connection.received.length = 2 ∧
          connection.client.documentId = 1 ∧
          (state.relay.cluster.rooms connection.node connection.client.documentId).any
            fun room => 1 ∈ room.clients)) (by decide +kernel)
  obtain ⟨hdrained, hquiet, hphases, hpresent, htab, hconnection⟩ := of_decide_eq_true hcheck
  obtain ⟨tab, htab, htabCheck⟩ := (Option.any_eq_true _ _).mp htab
  obtain ⟨hactive, hcount, hread⟩ := of_decide_eq_true htabCheck
  obtain ⟨connection, hconnection, hconnectionCheck⟩ := (Option.any_eq_true _ _).mp hconnection
  obtain ⟨hopen, hreceived, hdocument, hrooms⟩ := of_decide_eq_true hconnectionCheck
  obtain ⟨room, hroom, hmember⟩ := (Option.any_eq_true _ _).mp hrooms
  have hsettled : ∀ id tab, state.tabs.lookup id = some tab →
      tab.page.phase = .active ∨ tab.page.phase = .error := by
    intro id found hfound
    have hphase := hphases id (mem_clients.mpr ⟨found, hfound⟩)
    rw [hfound] at hphase
    exact .inl (Option.some.inj hphase)
  have hagrees := hclaim state hreach hdrained hquiet hsettled 1 tab connection htab hconnection
    ⟨connection, room, hconnection, hroom, of_decide_eq_true hmember⟩ hopen hactive
    (hread.trans hreceived.symm)
  rw [hcount, hdocument, hpresent] at hagrees
  cases hagrees

end CollabEditor.Platform.CatchUp
