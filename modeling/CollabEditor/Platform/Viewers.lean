import CollabEditor.Platform.Deployment

/-! # What a viewer can do

Nothing between the ticket and the text looks at the permission level. A viewer
changes no text as long as no edit arrives on a connection opened as a viewer.
-/

namespace CollabEditor.Platform.Deployment

open Foundation
open Hub Worker
open Backend (DocumentId UserId Instant Database User PermissionLevel)

variable {Bytes Doc : Type} {codec : Codec Bytes} {lib : Libraries Doc Bytes}
variable {json : Envelope → Json} {deployment : Deployment Bytes Doc}

/-- The connection was opened with a ticket of level `VIEWER`. -/
def IsViewer (cluster : Cluster Bytes) (id : ConnId) : Prop :=
  ∃ connection, cluster.connections id = some connection ∧
    connection.client.permissionLevel = PermissionLevel.viewer.name

/-- The tag is that of an edit its sender has published. -/
def IsEdit (cluster : Cluster Bytes) (tag : Tag) : Prop :=
  ∃ connection envelope, cluster.connections tag.sender = some connection ∧
    connection.sent[tag.number]? = some envelope ∧ envelope.type.text = MessageType.docChange.text

theorem IsEdit.grow {cluster after : Cluster Bytes}
    (hsent : ∀ id old, cluster.connections id = some old → ∃ new, after.connections id = some new ∧
      new.client = old.client ∧ old.sent <+: new.sent)
    {tag : Tag} (h : IsEdit cluster tag) : IsEdit after tag := by
  obtain ⟨connection, envelope, hconnection, henvelope, htype⟩ := h
  obtain ⟨new, hnew, -, hgrown⟩ := hsent tag.sender connection hconnection
  exact ⟨new, envelope, hnew, Foundation.List.getElem?_of_prefix hgrown henvelope, htype⟩

/-- An announcement is no edit. -/
theorem text_of_announcement {type : MessageType} (htype : type.IsAnnouncement) :
    type.text ≠ MessageType.docChange.text := by
  rcases htype with rfl | rfl | rfl <;> decide

/-! ## The edits in a text -/

/-- Every recorded tag is that of a published edit. -/
structure Traced (deployment : Deployment Bytes Doc) : Prop where
  initializing : ∀ call ∈ deployment.initializing, ∀ tag ∈ call.2,
    IsEdit deployment.relay.cluster tag
  syncing : ∀ request ∈ deployment.syncing, ∀ tag ∈ request.2,
    IsEdit deployment.relay.cluster tag
  handed : ∀ request, ∀ tag ∈ deployment.handed request, IsEdit deployment.relay.cluster tag
  stored : ∀ documentId, ∀ tag ∈ deployment.stored documentId,
    IsEdit deployment.relay.cluster tag

/-- What viewers have published are announcements. -/
def ViewersSilent (cluster : Cluster Bytes) : Prop :=
  ∀ id connection, cluster.connections id = some connection →
    connection.client.permissionLevel = PermissionLevel.viewer.name →
    ∀ envelope ∈ connection.sent, envelope.type.IsAnnouncement

/-- The frame an event brings to a connection. -/
def Event.frame : Event Bytes → Option (ConnId × Bytes)
  | .relay (.hub (.frame id bytes _) _) => some (id, bytes)
  | _ => none

/-- No edit arrives on the connection of a viewer. -/
def ViewersSendNoEdits (codec : Codec Bytes) (deployment : Deployment Bytes Doc)
    (event : Event Bytes) : Prop :=
  ∀ arrival ∈ event.frame, ∀ connection ∈ deployment.relay.cluster.connections arrival.1,
    connection.client.permissionLevel = PermissionLevel.viewer.name →
      ∀ envelope ∈ codec.unmarshal arrival.2, envelope.type ≠ .docChange

instance (codec : Codec Bytes) (deployment : Deployment Bytes Doc) (event : Event Bytes) :
    Decidable (deployment.ViewersSendNoEdits codec event) :=
  inferInstanceAs (Decidable (∀ arrival ∈ event.frame,
    ∀ connection ∈ deployment.relay.cluster.connections arrival.1,
      connection.client.permissionLevel = PermissionLevel.viewer.name →
        ∀ envelope ∈ codec.unmarshal arrival.2, envelope.type ≠ .docChange))

/-- The invariant of the deployment. -/
structure Sound (codec : Codec Bytes) (lib : Libraries Doc Bytes) (json : Envelope → Json)
    (deployment : Deployment Bytes Doc) : Prop where
  relay : deployment.relay.Sound codec lib json
  traced : deployment.Traced
  silent : ViewersSilent deployment.relay.cluster

theorem Sound.edits (h : deployment.Sound codec lib json) (hread : Readable codec lib json)
    (id : RuntimeId) : ∀ tag ∈ deployment.edits id, IsEdit deployment.relay.cluster tag := by
  intro tag htag
  rcases List.mem_append.mp htag with hhanded | happlied
  · cases horigin : deployment.relay.origins[id]? with
    | none => simp [horigin] at hhanded
    | some request =>
        rw [horigin] at hhanded
        exact h.traced.handed request tag hhanded
  · obtain ⟨edit, hedit, rfl⟩ := List.mem_map.mp happlied
    obtain ⟨connection, envelope, hconnection, henvelope, hupdate⟩ := h.relay.edits id edit hedit
    exact ⟨connection, envelope, hconnection, henvelope, hread.type_of_updateOf hupdate⟩

/-- The nodes or the worker move. -/
theorem Traced.relayed (h : deployment.Traced) {relay : Relay Bytes Doc}
    (hgrow : ∀ tag, IsEdit deployment.relay.cluster tag → IsEdit relay.cluster tag)
    (hedits : ∀ id, ∀ tag ∈ deployment.edits id, IsEdit deployment.relay.cluster tag) :
    (deployment.relayed relay).Traced where
  initializing call hcall tag htag := hgrow tag (h.initializing call hcall tag htag)
  syncing request hrequest tag htag := by
    rcases List.mem_append.mp hrequest with hold | hnew
    · exact hgrow tag (h.syncing request hold tag htag)
    · obtain ⟨sent, -, rfl⟩ := List.mem_map.mp hnew
      exact hgrow tag (hedits sent.1 tag htag)
  handed request tag htag := hgrow tag (h.handed request tag htag)
  stored documentId tag htag := hgrow tag (h.stored documentId tag htag)

/-- A step of the nodes. -/
theorem Sound.hub (h : deployment.Sound codec lib json) (hread : Readable codec lib json)
    {event : Cluster.Event Bytes} {heard : Bool} {relay : Relay Bytes Doc}
    (hguard : deployment.ViewersSendNoEdits codec (.relay (.hub event heard)))
    (hstep : deployment.relay.step codec lib (.hub event heard) = some relay) :
    (deployment.relayed relay).Sound codec lib json := by
  have hlayout := h.relay.ordered.layout
  obtain ⟨cluster, hcluster, rfl⟩ := Option.map_eq_some_iff.mp hstep
  refine ⟨h.relay.hub hread hcluster heard, ?_, ?_⟩
  · exact h.traced.relayed (fun tag htag => htag.grow (Cluster.step_sent hlayout hcluster))
      (h.edits hread)
  · show ViewersSilent cluster
    intro id connection hconnection hlevel envelope henvelope
    rcases Cluster.step_moves hlayout hcluster with ⟨other, node, client, -, hnone, rfl⟩ | hmoves
    · by_cases heq : id = other
      · subst heq
        simp only [Cluster.setConnection, Function.update_self, Option.some.injEq] at hconnection
        subst hconnection
        cases henvelope
      · simp only [Cluster.setConnection, Function.update_of_ne heq] at hconnection
        exact h.silent id connection hconnection hlevel envelope henvelope
    · cases hold : deployment.relay.cluster.connections id with
      | none =>
          rw [hmoves.absent id hold] at hconnection
          cases hconnection
      | some old =>
          obtain ⟨new, hnew, hadvances⟩ := hmoves.advances id old hold
          cases hconnection.symm.trans hnew
          rw [hadvances.client] at hlevel
          obtain ⟨more, hmore, htypes⟩ := hadvances.sent
          rw [hmore] at henvelope
          rcases List.mem_append.mp henvelope with hbefore | hafter
          · exact h.silent id old hold hlevel envelope hbefore
          · rcases htypes envelope hafter with htype | hedits
            · exact htype
            · -- an edit was read, which the guard excludes
              cases event with
              | frame reader bytes now =>
                  obtain ⟨rfl, incoming, hincoming, hchange⟩ := hedits
                  exact absurd hchange (hguard (_, bytes) rfl old hold hlevel incoming hincoming)
              | _ => cases hedits

/-- A step of the worker. -/
theorem Sound.work (h : deployment.Sound codec lib json) (hread : Readable codec lib json)
    {relay : Relay Bytes Doc} (hrelay : relay.Sound codec lib json)
    (hsame : relay.cluster = deployment.relay.cluster) :
    (deployment.relayed relay).Sound codec lib json where
  relay := hrelay
  traced := h.traced.relayed (fun tag htag => hsame ▸ htag) (h.edits hread)
  silent := by
    show ViewersSilent relay.cluster
    rw [hsame]
    exact h.silent

/-- Whatever users write is no edit of a viewer. -/
theorem Traced.commit (h : deployment.Traced) (db : Database) :
    (deployment.commit db).Traced where
  initializing := h.initializing
  syncing := h.syncing
  handed := h.handed
  stored documentId tag htag := by
    dsimp only [Deployment.commit] at htag
    split at htag
    next => exact h.stored documentId tag htag
    next => cases htag

theorem Sound.initialized (h : deployment.Sound codec lib json) (hread : Readable codec lib json)
    (call : InitializeCall) {edits : List Tag} (clientId : Nat)
    (hedits : ∀ tag ∈ edits, IsEdit deployment.relay.cluster tag) :
    (deployment.initialized lib call edits clientId).Sound codec lib json := by
  unfold Deployment.initialized
  split
  next => exact h
  next request _ =>
    have hhanded : Sound codec lib json { deployment with
        handed := Function.update deployment.handed request
          (deployment.handed request ++ edits) } := by
      refine ⟨h.relay, ⟨h.traced.initializing, h.traced.syncing, ?_, h.traced.stored⟩, h.silent⟩
      intro other tag htag
      by_cases heq : other = request
      · subst heq
        simp only [Function.update_self] at htag
        rcases List.mem_append.mp htag with hold | hnew
        · exact h.traced.handed other tag hold
        · exact hedits tag hnew
      · simp only [Function.update_of_ne heq] at htag
        exact h.traced.handed other tag htag
    exact hhanded.work hread (h.relay.work (Manager.step_keepsTexts nofun rfl)) rfl

theorem Sound.synced (h : deployment.Sound codec lib json) (request : SyncRequest)
    {edits : List Tag} (hedits : ∀ tag ∈ edits, IsEdit deployment.relay.cluster tag) :
    (deployment.synced request edits).Sound codec lib json := by
  unfold Deployment.synced
  split
  next => exact h
  next =>
    refine ⟨h.relay, ⟨h.traced.initializing, h.traced.syncing, h.traced.handed, ?_⟩, h.silent⟩
    intro documentId tag htag
    by_cases heq : documentId = request.documentId
    · simp only [heq, Function.update_self] at htag
      exact hedits tag htag
    · simp only [Function.update_of_ne heq] at htag
      exact h.traced.stored documentId tag htag

/-- Every event keeps the invariant. -/
theorem Sound.step (h : deployment.Sound codec lib json) (hread : Readable codec lib json)
    {event : Event Bytes} (hguard : deployment.ViewersSendNoEdits codec event)
    {after : Deployment Bytes Doc} (hstep : deployment.step codec lib event = some after) :
    after.Sound codec lib json := by
  unfold Deployment.step at hstep
  split at hstep
  next => cases hstep
  next =>
    obtain ⟨next, -, hafter⟩ := Option.bind_eq_some_iff.mp hstep
    cases hafter
    obtain ⟨hinitializing, hsyncing, hhanded, hstored⟩ := h.traced.commit next.db
    exact ⟨h.relay, ⟨hinitializing, hsyncing, hhanded, hstored⟩, h.silent⟩
  next =>
    split at hstep
    next =>
      cases hstep
      exact h
    next =>
      cases hstep
      exact ⟨h.relay, ⟨h.traced.initializing, h.traced.syncing, h.traced.handed, h.traced.stored⟩,
        h.silent⟩
  next id node sendBuffer ticket =>
    split at hstep
    next =>
      cases hstep
      exact ⟨h.relay, ⟨h.traced.initializing, h.traced.syncing, h.traced.handed, h.traced.stored⟩,
        h.silent⟩
    next payload tickets _ =>
      obtain ⟨relay, hrelay, hafter⟩ := Option.bind_eq_some_iff.mp hstep
      cases hafter
      -- a connection that is opened has sent no frame yet
      have hguard : ∀ client, deployment.ViewersSendNoEdits codec
          (.relay (.hub (.connect id node client) true)) := fun _ => nofun
      obtain ⟨hsound, ⟨hinitializing, hsyncing, hhanded, hstored⟩, hsilent⟩ :=
        h.hub hread (hguard _) hrelay
      exact ⟨hsound, ⟨hinitializing, hsyncing, hhanded, hstored⟩, hsilent⟩
  next => cases hstep
  next => cases hstep
  next event _ _ =>
    obtain ⟨relay, hrelay, rfl⟩ := Option.map_eq_some_iff.mp hstep
    have hsound := h.relay.step hread hrelay
    cases event with
    | hub event heard => exact h.hub hread hguard hrelay
    | worker event =>
        refine h.work hread hsound ?_
        cases Relay.step_cases codec lib deployment.relay hrelay with
        | worker => rfl
    | handle =>
        refine h.work hread hsound ?_
        cases Relay.step_cases codec lib deployment.relay hrelay with
        | handle => rfl
  next user documentId =>
    obtain ⟨document, -, hafter⟩ := Option.bind_eq_some_iff.mp hstep
    cases hafter
    -- the call takes the edits along that the stored text goes back to
    refine ⟨h.relay, ⟨?_, h.traced.syncing, h.traced.handed, h.traced.stored⟩, h.silent⟩
    intro call hcall tag htag
    rcases List.mem_append.mp hcall with hold | hnew
    · exact h.traced.initializing call hold tag htag
    · rw [List.mem_singleton] at hnew
      subst hnew
      exact h.traced.stored documentId tag htag
  next index clientId =>
    obtain ⟨⟨call, edits⟩, hcall, hafter⟩ := Option.bind_eq_some_iff.mp hstep
    cases hafter
    have hrest : Sound codec lib json
        { deployment with initializing := deployment.initializing.eraseIdx index } := by
      refine ⟨h.relay, ⟨?_, h.traced.syncing, h.traced.handed, h.traced.stored⟩, h.silent⟩
      exact fun other hother => h.traced.initializing other (List.mem_of_mem_eraseIdx hother)
    exact hrest.initialized hread call clientId
      (h.traced.initializing _ (List.mem_of_getElem? hcall))
  next index =>
    obtain ⟨⟨request, edits⟩, hrequest, hafter⟩ := Option.bind_eq_some_iff.mp hstep
    cases hafter
    have hrest : Sound codec lib json
        { deployment with syncing := deployment.syncing.eraseIdx index } := by
      refine ⟨h.relay, ⟨h.traced.initializing, ?_, h.traced.handed, h.traced.stored⟩, h.silent⟩
      exact fun other hother => h.traced.syncing other (List.mem_of_mem_eraseIdx hother)
    exact hrest.synced request (h.traced.syncing _ (List.mem_of_getElem? hrequest))

/-- What the frames of a connection have done to nobody: no text of the worker and
no stored content has an edit of it, and no client has got one. -/
structure Powerless (lib : Libraries Doc Bytes) (deployment : Deployment Bytes Doc)
    (viewer : ConnId) : Prop where
  texts : ∀ id, ∀ tag ∈ deployment.edits id, tag.sender ≠ viewer
  broadcasts : ∀ client connection, deployment.relay.cluster.connections client = some connection →
    ∀ message ∈ connection.received, ∀ tag, message.tag = some tag → tag.sender = viewer →
      ∀ json, lib.parse message.bytes = some json → json.stringField "type" ≠ some "doc.change"
  stored : ∀ documentId, ∀ tag ∈ deployment.stored documentId, tag.sender ≠ viewer

/-- No edit is one of a viewer. -/
theorem Sound.sender_ne (h : deployment.Sound codec lib json) {viewer : ConnId}
    (hviewer : IsViewer deployment.relay.cluster viewer) {tag : Tag}
    (hedit : IsEdit deployment.relay.cluster tag) : tag.sender ≠ viewer := by
  rintro rfl
  obtain ⟨connection, hconnection, hlevel⟩ := hviewer
  obtain ⟨found, envelope, hfound, henvelope, htype⟩ := hedit
  cases hconnection.symm.trans hfound
  exact text_of_announcement (h.silent _ connection hconnection hlevel envelope
    (List.mem_of_getElem? henvelope)) htype

theorem Sound.powerless (h : deployment.Sound codec lib json) (hread : Readable codec lib json)
    {viewer : ConnId} (hviewer : IsViewer deployment.relay.cluster viewer) :
    deployment.Powerless lib viewer where
  texts id tag htag := h.sender_ne hviewer (h.edits hread id tag htag)
  broadcasts := by
    rintro client connection hconnection message hmessage tag htag rfl value hparse htype
    obtain ⟨v, envelope, hv, henvelope, hrenders⟩ :=
      h.relay.ordered.faithful client connection hconnection message hmessage tag htag
    obtain ⟨sender, hsender, rfl⟩ := Option.map_eq_some_iff.mp hv
    rw [hread.renders hrenders, Option.some.injEq] at hparse
    subst hparse
    rw [hread.type, Option.some.injEq] at htype
    exact h.sender_ne hviewer ⟨sender, envelope, hsender, henvelope, htype⟩ rfl
  stored documentId tag htag := h.sender_ne hviewer (h.traced.stored documentId tag htag)

/-- In every run in which no edit arrives on the connection of a viewer, viewers
have changed nothing. -/
theorem viewers_powerless (hread : Readable codec lib json)
    (hreach : (system codec lib).ReachableUnder (ViewersSendNoEdits codec) deployment)
    {viewer : ConnId} (hviewer : IsViewer deployment.relay.cluster viewer) :
    deployment.Powerless lib viewer := by
  have hsound : deployment.Sound codec lib json := by
    refine hreach.invariant _ (Sound codec lib json) ?_ ?_
    · rintro state ⟨-, -, hrelay, hinitializing, hsyncing, hhanded, hstored⟩
      refine ⟨hrelay ▸ Relay.empty_sound, ⟨?_, ?_, ?_, ?_⟩, ?_⟩
      · simp [hinitializing]
      · simp [hsyncing]
      · simp [hhanded]
      · simp [hstored]
      · simp [hrelay, ViewersSilent, Relay.empty, Cluster.empty]
    · exact fun state event after _ h hguard hstep => h.step hread hguard hstep
  exact hsound.powerless hread hviewer

/-! ## An edit of a viewer -/

/-- The steps of a registration in a room of the given clients. -/
def join (id : ConnId) (clients : List ConnId) : List (Cluster.Event Bytes) :=
  [.register id true 0, .run id 0 true 0] ++ clients.map (.run id · true 0) ++
    [.run id 0 true 0, .run id 0 true 0, .run id 0 true 0]

/-- The steps from a frame to its publication. -/
def speak (id : ConnId) (clients : List ConnId) (bytes : Bytes) : List (Cluster.Event Bytes) :=
  [.frame id bytes 0, .run id 0 true 0] ++ clients.map (.run id · true 0) ++
    [.run id 0 true 0, .run id 0 true 0]

/-- A user reads a document through an invite and opens a websocket on which one
frame arrives. The worker handles what is published and persists its text. -/
def viewerRun (envelope : Envelope) : List (Event (Envelope ⊕ EnvelopeMessage)) :=
  [.backend (.user ⟨1, "owner"⟩ (.create (some "notes") (some "text"))),
    .backend (.user ⟨1, "owner"⟩ (.createInvite 1 true none "invite")),
    .backend (.user ⟨2, "viewer"⟩ (.useInvite "invite")),
    .createTicket ⟨1, "owner"⟩ 1 "first", .createTicket ⟨2, "viewer"⟩ 1 "second",
    .connect 0 "node" 64 "first", .connect 1 "node" 64 "second"] ++
  (join 0 [0] ++ join 1 [0, 1]).map (fun event => .relay (.hub event true)) ++
  [.requestInitialize ⟨1, "owner"⟩ 1, .serveInit 0 0, .relay (.worker (.resume 0 true)),
    .relay (.worker (.resume 0 true))] ++
  (speak 1 [0, 1] (.inl envelope)).map (fun event => .relay (.hub event true)) ++
  [.relay .handle, .relay (.worker (.tick 0)), .sync 0]

/-- A chat message. -/
def viewerChat : Envelope :=
  ⟨.chat, 1, "", 2, 0, some (.object [("content", .string "hello")])⟩

/-- An edit. -/
def viewerEdit : Envelope :=
  ⟨.docChange, 1, "", 2, 0, some (.object [("update", .string "!")])⟩

theorem viewers_powerless_chat : ∃ deployment : Deployment (Envelope ⊕ EnvelopeMessage) String,
    (system plainCodec plainLibraries).ReachableUnder (ViewersSendNoEdits plainCodec) deployment ∧
      deployment.Powerless plainLibraries 1 := by
  obtain ⟨deployment, hreach, hcheck⟩ := (system plainCodec plainLibraries).exists_reachable_of_exec
    (.init ⟨⟨rfl, by decide, by decide⟩, rfl, rfl, rfl, rfl, fun _ => rfl, fun _ => rfl⟩ :
      (system plainCodec plainLibraries).ReachableUnder (ViewersSendNoEdits plainCodec)
        ⟨⟨.empty, 0⟩, fun _ => none, .empty, [], [], fun _ => [], fun _ => []⟩)
    (viewerRun viewerChat)
    (fun deployment => (deployment.relay.cluster.connections 1).any
      fun connection => connection.client.permissionLevel = "VIEWER") (by decide +kernel)
  obtain ⟨connection, hconnection, hlevel⟩ := (Option.any_eq_true _ _).mp hcheck
  exact ⟨deployment, hreach, viewers_powerless plain_readable hreach
    ⟨connection, hconnection, of_decide_eq_true hlevel⟩⟩

/-- The edit of a viewer reaches the worker, the other client and the stored
content. -/
theorem viewer_edit_is_stored : ¬ ∀ deployment : Deployment (Envelope ⊕ EnvelopeMessage) String,
    (system plainCodec plainLibraries).Reachable deployment →
      ∀ user documentId, (∀ row ∈ deployment.backend.db.documentPermissions,
        row.documentId = documentId → row.user.id = user → row.level = .viewer) →
      ∀ viewer connection, deployment.relay.cluster.connections viewer = some connection →
        connection.client.userId = user → connection.client.documentId = documentId →
        connection.client.permissionLevel = PermissionLevel.viewer.name →
          deployment.Powerless plainLibraries viewer := by
  intro hclaim
  obtain ⟨deployment, hreach, hcheck⟩ := (system plainCodec plainLibraries).exists_reachable_of_exec
    (.init ⟨⟨rfl, by decide, by decide⟩, rfl, rfl, rfl, rfl, fun _ => rfl, fun _ => rfl⟩ :
      (system plainCodec plainLibraries).Reachable
        ⟨⟨.empty, 0⟩, fun _ => none, .empty, [], [], fun _ => [], fun _ => []⟩)
    (viewerRun viewerEdit)
    (fun deployment =>
      (deployment.backend.db.documentPermissions.all fun row =>
        decide (row.documentId = 1 → row.user.id = 2 → row.level = .viewer)) &&
      ((deployment.relay.cluster.connections 1).any fun connection =>
        decide (connection.client = (⟨2, "viewer", 1, "VIEWER", 64⟩ : Client))) &&
      decide (deployment.stored 1 = [(⟨1, 1⟩ : Tag)]) &&
      decide ((deployment.backend.db.documents 1).map Backend.Document.content =
        some (some "text!")))
    (by decide +kernel)
  simp only [Bool.and_eq_true, decide_eq_true_eq] at hcheck
  obtain ⟨⟨⟨hrows, hconnection⟩, hstored⟩, -⟩ := hcheck
  obtain ⟨connection, hconnection, hclient⟩ := (Option.any_eq_true _ _).mp hconnection
  have hclient := of_decide_eq_true hclient
  have hpowerless := hclaim deployment hreach 2 1 (fun row hrow hdocument huser =>
    of_decide_eq_true (List.all_eq_true.mp hrows row hrow) hdocument huser) 1 connection hconnection
    (by rw [hclient]) (by rw [hclient]) (by rw [hclient]; rfl)
  exact hpowerless.stored 1 ⟨1, 1⟩ (by simp [hstored]) rfl

end CollabEditor.Platform.Deployment
