import CollabEditor.Hub.Connections
import CollabEditor.Hub.CrossNode
import CollabEditor.Worker.Edits

/-! # The hub nodes and the state worker around one Redis

Redis keeps the messages it has still to deliver to the worker in the order of
their publication. The worker handles them one at a time, between any other
calls.
-/

namespace CollabEditor.Platform

open Foundation
open Hub Worker
open Backend (DocumentId Instant)

variable {Bytes Doc : Type}

/-- JavaScript reads what Go has written: the bytes of an envelope, or of a
message around it, as one value. A node that forwards the envelope keeps it. -/
structure Readable (codec : Codec Bytes) (lib : Libraries Doc Bytes) (json : Envelope → Json) :
    Prop where
  type : ∀ envelope, (json envelope).stringField "type" = some envelope.type.text
  marshal : ∀ envelope bytes, codec.marshal envelope = some bytes →
    lib.parse bytes = some (json envelope)
  marshalMessage : ∀ message payload, codec.marshalMessage message = some payload →
    ∃ parsed, lib.parse payload = some parsed ∧
      parsed.field "envelope" = some (json message.envelope)
  unmarshalMessage : ∀ message payload, codec.marshalMessage message = some payload →
    ∃ decoded, codec.unmarshalMessage payload = some decoded ∧
      decoded.originNodeId = message.originNodeId ∧ json decoded.envelope = json message.envelope

namespace Readable

variable {codec : Codec Bytes} {lib : Libraries Doc Bytes} {json : Envelope → Json}

theorem keepsOrigin (hread : Readable codec lib json) : codec.KeepsOrigin := by
  intro message payload hmarshal
  obtain ⟨decoded, hdecoded, horigin, -⟩ := hread.unmarshalMessage message payload hmarshal
  exact ⟨decoded, hdecoded, horigin⟩

/-- All bytes of an envelope are read as the same value. -/
theorem renders (hread : Readable codec lib json) {node : NodeId} {envelope : Envelope}
    {bytes : Bytes} (hrenders : codec.Renders node envelope bytes) :
    lib.parse bytes = some (json envelope) := by
  rcases hrenders with hlocal | ⟨payload, decoded, ⟨-, hpayload⟩, hdecoded, hbytes⟩
  · exact hread.marshal envelope bytes hlocal
  · obtain ⟨found, hfound, -, hjson⟩ := hread.unmarshalMessage _ payload hpayload
    cases hdecoded.symm.trans hfound
    rw [hread.marshal _ bytes hbytes, hjson]

/-- The worker takes the envelope out of a message. -/
theorem parseEnvelopeMessage (hread : Readable codec lib json) {message : EnvelopeMessage}
    {payload : Bytes} (hpayload : codec.marshalMessage message = some payload) :
    Manager.parseEnvelopeMessage lib payload = some (json message.envelope) := by
  obtain ⟨parsed, hparsed, hfield⟩ := hread.marshalMessage message payload hpayload
  have hobject : parsed.isObject = true := Json.isObject_of_field hfield
  have henvelope : (json message.envelope).isObject = true := by
    have htype := hread.type message.envelope
    cases hvalue : (json message.envelope).field "type" with
    | none => simp [Json.stringField, hvalue] at htype
    | some value => exact Json.isObject_of_field hvalue
  simp [Manager.parseEnvelopeMessage, hparsed, hobject, hfield, henvelope]

/-- Only an edit carries an update. -/
theorem type_of_updateOf (hread : Readable codec lib json) {envelope : Envelope}
    {update : List UInt8} (hupdate : updateOf lib (json envelope) = some update) :
    envelope.type.text = MessageType.docChange.text := by
  have htype : (json envelope).stringField "type" = some "doc.change" := by
    by_contra hother
    simp [updateOf, hother] at hupdate
  rw [hread.type, Option.some.injEq] at htype
  exact htype

end Readable

/-- JavaScript reads the id of the document back from the name of its channel. -/
def ReadsChannel (lib : Libraries Doc Bytes) (documentId : DocumentId) : Prop :=
  Manager.parseDocumentIdFromChannel lib (documentChannel documentId) = some documentId

instance (lib : Libraries Doc Bytes) (documentId : DocumentId) :
    Decidable (ReadsChannel lib documentId) :=
  inferInstanceAs (Decidable (_ = _))

/-! ## Bytes that are values -/

/-- An envelope as JavaScript reads it; `omitempty` leaves the payload out. -/
def plainJson (envelope : Envelope) : Json :=
  .object ([("type", .string envelope.type.text), ("documentId", .number envelope.documentId),
    ("messageId", .string envelope.messageId), ("senderId", .number envelope.senderId),
    ("sentAt", .number envelope.sentAt)] ++ envelope.payload.toList.map fun value =>
      ("payload", value))

/-- The value of a text of decimal digits. -/
def decimal (text : String) : Option Int :=
  text.toList.foldl (fun value digit => value.bind fun value =>
    if digit.isDigit then some (10 * value + (digit.toNat - '0'.toNat : Nat)) else none) (some 0)

/-- A document that is its text. An update appends the characters it encodes. -/
def plainLibraries : Libraries String (Envelope ⊕ EnvelopeMessage) where
  number := decimal
  parse
    | .inl envelope => some (plainJson envelope)
    | .inr message => some (.object [("originNodeId", .string message.originNodeId),
        ("envelope", plainJson message.envelope)])
  atob text := some (text.toList.map fun c => c.toNat.toUInt8)
  newDoc _ text := text
  applyUpdate doc update := some (doc ++ String.ofList (update.map fun byte => Char.ofNat byte.toNat))
  toText doc := doc
  encodeStateAsUpdate doc := doc.toList.map fun c => c.toNat.toUInt8

theorem plain_readable : Readable plainCodec plainLibraries plainJson where
  type _ := rfl
  marshal envelope bytes hmarshal := by
    cases hmarshal
    rfl
  marshalMessage message payload hmarshal := by
    cases hmarshal
    exact ⟨_, rfl, rfl⟩
  unmarshalMessage message payload hmarshal := by
    cases hmarshal
    exact ⟨message, rfl, rfl, rfl⟩

/-! ## The system -/

/-- The nodes, the worker and what Redis has still to deliver to it. The last two
fields only record what happened: the request each runtime was constructed for,
and the updates applied to its document with the tags of their envelopes. -/
structure Relay (Bytes Doc : Type) where
  cluster : Cluster Bytes
  manager : Manager Doc
  feed : List (String × Published Bytes)
  origins : List InitializeRequest
  edits : RuntimeId → List (Tag × List UInt8)

/-- The channel of a command to Redis a call is waiting for. -/
def pendingChannel : Frame → Option String
  | .initializeSubscribe request _ => some (documentChannel request.documentId)
  | .closeUnsubscribe documentId _ _ => some (documentChannel documentId)
  | _ => none

namespace Relay

variable (codec : Codec Bytes) (lib : Libraries Doc Bytes) (relay : Relay Bytes Doc)

def empty : Relay Bytes Doc where
  cluster := .empty
  manager := .empty
  feed := []
  origins := []
  edits := fun _ => []

/-- Redis has a message of the channel for the worker. While a command is on its
way, `heard` tells whether Redis has seen it. -/
def hears (name : String) (heard : Bool) : Bool :=
  if relay.manager.calls.any fun call => pendingChannel call == some name then heard
  else name ∈ relay.manager.redisChannels

/-- The nodes have moved. -/
def hub (event : Cluster.Event Bytes) (heard : Bool) (cluster : Cluster Bytes) :
    Relay Bytes Doc :=
  { relay with
    cluster := cluster
    feed := relay.feed ++ (relay.cluster.publication event).toList.filter
      fun item => relay.hears item.1 heard }

/-- The worker has moved without a message of Redis. -/
def work (event : Manager.Event Bytes) (manager : Manager Doc) : Relay Bytes Doc :=
  { relay with
    manager := manager
    origins := relay.origins ++ (relay.manager.installs event).toList }

/-- The worker handles a message of Redis. -/
def handle (item : String × Published Bytes) (rest : List (String × Published Bytes)) :
    Relay Bytes Doc :=
  { relay with
    manager := relay.manager.handleRedisMessage lib item.1 item.2.payload
    feed := rest
    edits := match relay.manager.editOf lib item.1 item.2.payload with
      | none => relay.edits
      | some (id, update) =>
          Function.update relay.edits id (relay.edits id ++ [(item.2.tag, update)]) }

inductive Event (Bytes : Type)
  | hub (event : Cluster.Event Bytes) (heard : Bool)
  | worker (event : Manager.Event Bytes)
  /-- The next message of Redis reaches the worker. -/
  | handle

def step : Event Bytes → Option (Relay Bytes Doc)
  | .hub event heard =>
      (Cluster.step codec relay.cluster event).map fun cluster => relay.hub event heard cluster
  | .worker (.handleRedisMessage _ _) => none
  | .worker event => (relay.manager.step lib event).map fun manager => relay.work event manager
  | .handle =>
      match relay.feed with
      | [] => none
      | item :: rest => some (relay.handle lib item rest)

/-- What a step can have been. -/
inductive Steps : Event Bytes → Relay Bytes Doc → Prop
  | hub (event : Cluster.Event Bytes) (heard : Bool) (cluster : Cluster Bytes)
      (hcluster : Cluster.step codec relay.cluster event = some cluster) :
      Steps (.hub event heard) (relay.hub event heard cluster)
  | worker (event : Manager.Event Bytes) (manager : Manager Doc)
      (hother : ∀ channel rawMessage, event ≠ .handleRedisMessage channel rawMessage)
      (hmanager : relay.manager.step lib event = some manager) :
      Steps (.worker event) (relay.work event manager)
  | handle (item : String × Published Bytes) (rest : List (String × Published Bytes))
      (hfeed : relay.feed = item :: rest) : Steps .handle (relay.handle lib item rest)

theorem step_cases {event : Event Bytes} {after : Relay Bytes Doc}
    (hstep : relay.step codec lib event = some after) : relay.Steps codec lib event after := by
  unfold step at hstep
  split at hstep
  next event heard =>
    obtain ⟨cluster, hcluster, rfl⟩ := Option.map_eq_some_iff.mp hstep
    exact .hub event heard cluster hcluster
  next => cases hstep
  next event hother =>
    obtain ⟨manager, hmanager, rfl⟩ := Option.map_eq_some_iff.mp hstep
    refine .worker event manager ?_ hmanager
    rintro channel rawMessage rfl
    exact hother channel rawMessage rfl
  next =>
    split at hstep
    next => cases hstep
    next item rest hfeed =>
      cases hstep
      exact .handle item rest hfeed

/-! ## What the records say -/

/-- Yjs applies updates one after the other. -/
def replay (doc : Doc) (updates : List (List UInt8)) : Option Doc :=
  updates.foldlM lib.applyUpdate doc

variable (json : Envelope → Json)

/-- The update comes from an envelope its sender has published. -/
def Carries (cluster : Cluster Bytes) (tag : Tag) (update : List UInt8) : Prop :=
  ∃ connection envelope, cluster.connections tag.sender = some connection ∧
    connection.sent[tag.number]? = some envelope ∧ updateOf lib (json envelope) = some update

/-- Redis delivers what was published, and every text is that of the request its
runtime was constructed for with the recorded edits applied. -/
structure Sound : Prop where
  ordered : relay.cluster.Ordered codec False
  fed : ∀ item ∈ relay.feed, item.2 ∈ relay.cluster.channels item.1
  edits : ∀ id, ∀ edit ∈ relay.edits id, Carries lib json relay.cluster edit.1 edit.2
  origins : relay.origins.length = relay.manager.runtimes.length
  unborn : ∀ id, relay.manager.runtimes.length ≤ id → relay.edits id = []
  texts : ∀ (id : RuntimeId) (runtime : DocumentRuntime Doc),
    relay.manager.runtimes[id]? = some runtime → ∃ request, relay.origins[id]? = some request ∧
      replay lib (lib.newDoc request.clientId request.content) ((relay.edits id).map Prod.snd) =
        some runtime.doc ∧ runtime.content = lib.toText runtime.doc

variable {codec lib relay json}

theorem empty_sound : (empty : Relay Bytes Doc).Sound codec lib json where
  ordered := Cluster.empty_ordered
  fed := by simp [empty]
  edits := by simp [empty]
  origins := rfl
  unborn _ _ := rfl
  texts := by simp [empty, Manager.empty]

theorem Carries.grow {cluster after : Cluster Bytes}
    (hsent : ∀ id old, cluster.connections id = some old → ∃ new, after.connections id = some new ∧
      new.client = old.client ∧ old.sent <+: new.sent)
    {tag : Tag} {update : List UInt8} (h : Carries lib json cluster tag update) :
    Carries lib json after tag update := by
  obtain ⟨connection, envelope, hconnection, henvelope, hupdate⟩ := h
  obtain ⟨new, hnew, -, hgrown⟩ := hsent tag.sender connection hconnection
  exact ⟨new, envelope, hnew, Foundation.List.getElem?_of_prefix hgrown henvelope, hupdate⟩

/-- A published message is handed to the worker if Redis knows it listens. -/
theorem Sound.hub (h : relay.Sound codec lib json) (hread : Readable codec lib json)
    {event : Cluster.Event Bytes} {cluster : Cluster Bytes}
    (hstep : Cluster.step codec relay.cluster event = some cluster) (heard : Bool) :
    (relay.hub event heard cluster).Sound codec lib json where
  ordered := h.ordered.step hread.keepsOrigin False.elim hstep
  fed item hitem := by
    have hchannels := Cluster.step_channels hstep
    rcases List.mem_append.mp hitem with hold | hnew
    · have hmem := h.fed item hold
      show item.2 ∈ cluster.channels item.1
      rw [hchannels]
      cases hpublication : relay.cluster.publication event with
      | none => exact hmem
      | some published =>
          by_cases heq : item.1 = published.1
          · simp only [Cluster.append, heq, Function.update_self]
            exact List.mem_append_left _ (heq ▸ hmem)
          · simp only [Cluster.append, Function.update_of_ne heq]
            exact hmem
    · obtain ⟨hpublication, -⟩ := List.mem_filter.mp hnew
      rw [Option.mem_toList] at hpublication
      show item.2 ∈ cluster.channels item.1
      rw [hchannels, hpublication]
      simp [Cluster.append]
  edits id edit hedit := (h.edits id edit hedit).grow (Cluster.step_sent h.ordered.layout hstep)
  origins := h.origins
  unborn := h.unborn
  texts := h.texts

/-- The other calls of the worker construct a runtime at most. -/
theorem Sound.work (h : relay.Sound codec lib json) {event : Manager.Event Bytes}
    {manager : Manager Doc}
    (hkept : Manager.KeepsTexts lib (relay.manager.installs event) relay.manager manager) :
    (relay.work event manager).Sound codec lib json where
  ordered := h.ordered
  fed := h.fed
  edits := h.edits
  origins := by
    show (relay.origins ++ (relay.manager.installs event).toList).length = manager.runtimes.length
    rw [List.length_append, h.origins, hkept.length]
  unborn id hid := by
    refine h.unborn id (le_trans ?_ hid)
    show relay.manager.runtimes.length ≤ manager.runtimes.length
    have hlength := hkept.length
    omega
  texts id runtime hruntime := by
    rcases Nat.lt_or_ge id relay.manager.runtimes.length with hold | hnew
    · obtain ⟨next, hnext, hdoc, hcontent⟩ := hkept.text id _ (List.getElem?_eq_getElem hold)
      have hsame : some next = some runtime := hnext.symm.trans hruntime
      cases hsame
      obtain ⟨request, hrequest, hreplay, htext⟩ := h.texts id _ (List.getElem?_eq_getElem hold)
      refine ⟨request, Foundation.List.getElem?_of_prefix (List.prefix_append _ _) hrequest, ?_, ?_⟩
      · rw [hdoc]
        exact hreplay
      · rw [hdoc, hcontent, htext]
    · -- the runtime that is constructed is the last one
      have hbound : id < manager.runtimes.length := (List.getElem?_eq_some_iff.mp hruntime).1
      have hlength := hkept.length
      cases hinstalls : relay.manager.installs event with
      | none =>
          rw [hinstalls, Option.toList_none, List.length_nil, Nat.add_zero] at hlength
          exact absurd (hlength ▸ hbound) (not_lt.mpr hnew)
      | some request =>
          rw [hinstalls] at hlength
          have hid : id = relay.manager.runtimes.length := by
            simp only [Option.toList_some, List.length_singleton] at hlength
            lia
          subst hid
          have hcreated := hkept.created request hinstalls
          have hsame : some runtime = some _ := hruntime.symm.trans hcreated
          cases hsame
          refine ⟨request, ?_, ?_, rfl⟩
          · show (relay.origins ++ (relay.manager.installs event).toList)[_]? = some request
            simp [hinstalls, ← h.origins]
          · show replay lib _ ((relay.edits _).map Prod.snd) = _
            rw [h.unborn _ le_rfl]
            rfl

/-- The worker applies the edit in a message it handles. -/
theorem Sound.handle (h : relay.Sound codec lib json) (hread : Readable codec lib json)
    {item : String × Published Bytes} {rest : List (String × Published Bytes)}
    (hfeed : relay.feed = item :: rest) : (relay.handle lib item rest).Sound codec lib json := by
  have hfed : ∀ other ∈ rest, other.2 ∈ relay.cluster.channels other.1 := by
    intro other hother
    exact h.fed other (hfeed ▸ List.mem_cons_of_mem item hother)
  rcases relay.manager.handleRedisMessage_text lib item.1 item.2.payload with
    ⟨hedit, hkept⟩ | ⟨id, update, runtime, next, hedit, hruntime, hnext, hruntimes, -⟩
  · have hedits : (relay.handle lib item rest).edits = relay.edits := by
      simp [Relay.handle, hedit]
    have hlength : (relay.handle lib item rest).manager.runtimes.length =
        relay.manager.runtimes.length := hkept.length
    refine ⟨h.ordered, hfed, hedits ▸ h.edits, h.origins.trans hlength.symm, ?_, ?_⟩
    · rw [hedits, hlength]
      exact h.unborn
    · intro id runtime hruntime
      have hbound : id < relay.manager.runtimes.length :=
        hlength ▸ (List.getElem?_eq_some_iff.mp hruntime).1
      obtain ⟨next, hsame, hdoc, hcontent⟩ := hkept.text id _ (List.getElem?_eq_getElem hbound)
      cases hsame.symm.trans hruntime
      obtain ⟨request, hrequest, hreplay, htext⟩ := h.texts id _ (List.getElem?_eq_getElem hbound)
      refine ⟨request, hrequest, ?_, ?_⟩
      · rw [hedits, hdoc]
        exact hreplay
      · rw [hdoc, hcontent, htext]
  · have hedits : (relay.handle lib item rest).edits =
        Function.update relay.edits id (relay.edits id ++ [(item.2.tag, update)]) := by
      simp [Relay.handle, hedit]
    have hlength : (relay.handle lib item rest).manager.runtimes.length =
        relay.manager.runtimes.length := by
      show (relay.manager.handleRedisMessage lib item.1 item.2.payload).runtimes.length = _
      rw [hruntimes, List.length_set]
    have hbound : id < relay.manager.runtimes.length := (List.getElem?_eq_some_iff.mp hruntime).1
    refine ⟨h.ordered, hfed, ?_, h.origins.trans hlength.symm, ?_, ?_⟩
    · intro other edit hmem
      rw [hedits] at hmem
      by_cases heq : other = id
      · subst heq
        rw [Function.update_self, List.mem_append, List.mem_singleton] at hmem
        rcases hmem with hmem | rfl
        · exact h.edits other edit hmem
        · -- the message was published by the sender of its envelope
          obtain ⟨-, envelope, -, -, henvelope, hupdate⟩ := relay.manager.editOf_spec hedit
          obtain ⟨v, hv, -, sent, hsent, -, hpayload⟩ := h.ordered.layout.entry item.1 item.2
            (h.fed item (hfeed ▸ List.mem_cons_self))
          obtain ⟨connection, hconnection, rfl⟩ := Option.map_eq_some_iff.mp hv
          rw [hread.parseEnvelopeMessage hpayload, Option.some.injEq] at henvelope
          subst henvelope
          exact ⟨connection, sent, hconnection, hsent, hupdate⟩
      · rw [Function.update_of_ne heq] at hmem
        exact h.edits other edit hmem
    · intro other hother
      rw [hlength] at hother
      rw [hedits, Function.update_of_ne (by lia)]
      exact h.unborn other hother
    · intro other found hfound
      have hset : (relay.manager.runtimes.set id next)[other]? = some found := by
        rw [← hruntimes]
        exact hfound
      rw [hedits]
      by_cases heq : other = id
      · subst heq
        rw [List.getElem?_set_self hbound, Option.some.injEq] at hset
        subst hset
        obtain ⟨request, hrequest, hreplay, -⟩ := h.texts other runtime hruntime
        obtain ⟨doc, hdoc, rfl⟩ := Option.map_eq_some_iff.mp hnext
        refine ⟨request, hrequest, ?_, rfl⟩
        rw [Function.update_self, List.map_append, replay, List.foldlM_append]
        rw [replay] at hreplay
        simp [hreplay, hdoc]
      · rw [List.getElem?_set_ne (Ne.symm heq)] at hset
        rw [Function.update_of_ne heq]
        exact h.texts other found hset

/-- Every event keeps the records right. -/
theorem Sound.step (h : relay.Sound codec lib json) (hread : Readable codec lib json)
    {event : Event Bytes} {after : Relay Bytes Doc}
    (hstep : relay.step codec lib event = some after) : after.Sound codec lib json := by
  cases step_cases codec lib relay hstep with
  | hub event heard cluster hcluster => exact h.hub hread hcluster heard
  | worker event manager hother hmanager => exact h.work (Manager.step_keepsTexts hother hmanager)
  | handle item rest hfeed => exact h.handle hread hfeed

end Relay

end CollabEditor.Platform
