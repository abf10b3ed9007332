import CollabEditor.Foundation.InOrder
import CollabEditor.Platform.CatchUp
import CollabEditor.Worker.ChatHistory

/-! # The chat of a page that joins

The worker gives the page its chat history, and the page adds what the socket has
received in the meantime. Nothing compares the two.
-/

namespace CollabEditor.Platform

open Foundation
open Frontend Hub Worker
open Backend (DocumentId)

variable {Bytes Doc Raw : Type}

/-- The filter of `routeChatMessages`. The loop that drains the buffer hands on the same types. -/
def isChatRelevant (envelope : Json) : Bool :=
  envelope.stringField "type" ∈ [some "chat.message", some "room.participant.joined",
    some "room.participant.left", some "error"]

/-- The id that the hub has given a chat message. -/
def chatId (envelope : Json) : Option String :=
  if envelope.stringField "type" = some "chat.message" then envelope.stringField "messageId"
  else none

def chatIds (envelopes : List Json) : List String := envelopes.filterMap chatId

/-- The chat of a page. The last two fields are records. -/
structure ChatFeed where
  /-- What has been pushed into `chatMessages$`. -/
  chatMessages : List Json
  /-- The chat history in the response to the sync request. -/
  history : List Json
  /-- The envelopes that the socket has received. -/
  heard : List Json

namespace ChatFeed

variable (feed : ChatFeed)

def empty : ChatFeed where
  chatMessages := []
  history := []
  heard := []

/-- The socket receives an envelope. -/
def receive (page : CollabWorkspace) (envelope : Json) : ChatFeed :=
  { feed with
    chatMessages :=
      if page.routed then feed.chatMessages ++ [envelope].filter isChatRelevant
      else feed.chatMessages
    heard := feed.heard ++ [envelope] }

/-- The worker answers the sync request. -/
def answered (response : WorkerSyncResponse) : ChatFeed :=
  { feed with history := response.chatHistory }

/-- Both flows from the response to the sync request on. -/
def synced (page : CollabWorkspace) (response : WorkerSyncResponse) : ChatFeed :=
  match page.mode with
  | .join =>
      { feed with
        chatMessages := feed.chatMessages ++ response.chatHistory ++
          page.buffer.filter isChatRelevant }
  | .initializer => { feed with chatMessages := feed.chatMessages ++ response.chatHistory }

/-- The chat messages of the history, and those that the socket has received. -/
def given : List String := chatIds (feed.history ++ feed.heard)

end ChatFeed

/-- The nodes, the worker and the pages with their chats. -/
structure ChatReplay (Bytes Doc : Type) where
  catchUp : CatchUp Bytes Doc
  feeds : ConnId → ChatFeed

namespace ChatReplay

variable (codec : Codec Bytes) (lib : Libraries Doc Bytes) (state : ChatReplay Bytes Doc)

def empty : ChatReplay Bytes Doc where
  catchUp := .empty
  feeds := fun _ => .empty

def setFeed (id : ConnId) (feed : ChatFeed) : ConnId → ChatFeed :=
  Function.update state.feeds id feed

def tab (id : ConnId) : Option Tab := state.catchUp.tabs.lookup id

/-- The envelope that reaches a page next. -/
def envelope (id : ConnId) : Option Json := do
  let tab ← state.tab id
  let connection ← state.catchUp.relay.cluster.connections id
  let message ← connection.received[tab.read]?
  parseEnvelope lib message.bytes

/-- What the worker would answer a page. -/
def response (id : ConnId) : Option WorkerSyncResponse := do
  let documentId ← state.catchUp.documentId id
  state.catchUp.relay.manager.syncDocument lib documentId

/-- The chats after an event. -/
def feedsAfter : CatchUp.Event Bytes → ConnId → ChatFeed
  | .connect id _ _ _ => state.setFeed id .empty
  | .receive id =>
      match state.tab id, state.envelope lib id with
      | some tab, some envelope => state.setFeed id ((state.feeds id).receive tab.page envelope)
      | _, _ => state.feeds
  | .sync id =>
      match state.response lib id with
      | some response => state.setFeed id ((state.feeds id).answered response)
      | none => state.feeds
  | .respond id =>
      match state.tab id, (state.tab id).bind Tab.response with
      | some tab, some response => state.setFeed id ((state.feeds id).synced tab.page response)
      | _, _ => state.feeds
  | .relay _ | .initialized _ | .fail _ => state.feeds

def step (event : CatchUp.Event Bytes) : Option (ChatReplay Bytes Doc) :=
  (state.catchUp.step codec lib event).map fun catchUp =>
    { catchUp := catchUp, feeds := state.feedsAfter lib event }

/-- Nobody is connected. -/
def system : TransitionSystem (ChatReplay Bytes Doc) (CatchUp.Event Bytes) where
  init state := state = empty
  step := step codec lib

/-- The chat messages in the history of a session of the worker. -/
def stored (runtime : RuntimeId) : List String :=
  chatIds (state.catchUp.relay.manager.chats runtime)

/-- Every chat message that a page has been given, by the worker or by its socket, has been
pushed once when its feeds are open, and two of them in the order of any session of the
worker that has stored both. -/
def OnceInOrder : Prop :=
  ∀ id tab, state.tab id = some tab → tab.page.mode = .join → tab.page.routed = true →
    (∀ messageId ∈ (state.feeds id).given,
      (chatIds (state.feeds id).chatMessages).count messageId = 1) ∧
    ∀ runtime, ∀ first ∈ (state.feeds id).given, ∀ second ∈ (state.feeds id).given,
      Precedes (state.stored runtime) first second →
        Precedes (chatIds (state.feeds id).chatMessages) first second

/-- The pages that join. -/
def Joins (id : ConnId) : Prop := (state.tab id).any fun tab => tab.page.mode = .join

instance (id : ConnId) : Decidable (state.Joins id) := inferInstanceAs (Decidable (_ = true))

/-- A chat message reaches a page once: by the socket, or in the history of the response. A
page receives its messages in the order in which the worker stores them. -/
def ComesOnce : CatchUp.Event Bytes → Prop
  | .receive id => state.Joins id → ∀ messageId ∈ (state.envelope lib id).bind chatId,
      messageId ∉ (state.feeds id).given ∧
        ∀ runtime < state.catchUp.relay.manager.runtimes.length,
          ∀ later ∈ (state.feeds id).given, ¬Precedes (state.stored runtime) messageId later
  | .sync id => state.Joins id → ∀ response ∈ state.response lib id,
      ∀ messageId ∈ chatIds response.chatHistory, messageId ∉ chatIds (state.feeds id).heard
  | .relay .handle => ∀ item ∈ state.catchUp.relay.feed.head?,
      ∀ added ∈ state.catchUp.relay.manager.chatAdded lib item.1 item.2.payload,
      ∀ messageId ∈ chatIds added.2,
        (∀ runtime < state.catchUp.relay.manager.runtimes.length,
          messageId ∉ state.stored runtime) ∧
        ∀ id ∈ state.catchUp.tabs.keys, state.Joins id →
          ∀ later ∈ state.stored added.1, ¬Precedes (state.feeds id).given messageId later
  | _ => True

instance (event : CatchUp.Event Bytes) : Decidable (state.ComesOnce lib event) :=
  match event with
  | .receive id => inferInstanceAs (Decidable (state.Joins id →
      ∀ messageId ∈ (state.envelope lib id).bind chatId, messageId ∉ (state.feeds id).given ∧
        ∀ runtime < state.catchUp.relay.manager.runtimes.length,
          ∀ later ∈ (state.feeds id).given, ¬Precedes (state.stored runtime) messageId later))
  | .sync id => inferInstanceAs (Decidable (state.Joins id → ∀ response ∈ state.response lib id,
      ∀ messageId ∈ chatIds response.chatHistory, messageId ∉ chatIds (state.feeds id).heard))
  | .relay .handle => inferInstanceAs (Decidable (∀ item ∈ state.catchUp.relay.feed.head?,
      ∀ added ∈ state.catchUp.relay.manager.chatAdded lib item.1 item.2.payload,
      ∀ messageId ∈ chatIds added.2,
        (∀ runtime < state.catchUp.relay.manager.runtimes.length,
          messageId ∉ state.stored runtime) ∧
        ∀ id ∈ state.catchUp.tabs.keys, state.Joins id →
          ∀ later ∈ state.stored added.1, ¬Precedes (state.feeds id).given messageId later))
  | .relay (.hub _ _) | .relay (.worker _) | .connect _ _ _ _ | .initialized _ | .respond _
  | .fail _ => inferInstanceAs (Decidable True)

/-! ## The invariant -/

@[simp] theorem chatIds_append (first second : List Json) :
    chatIds (first ++ second) = chatIds first ++ chatIds second :=
  List.filterMap_append

theorem chatIds_singleton (envelope : Json) : chatIds [envelope] = (chatId envelope).toList := by
  unfold chatIds
  cases hid : chatId envelope <;> simp [hid]

/-- The chat messages are among what is handed on. -/
theorem chatIds_filter (envelopes : List Json) :
    chatIds (envelopes.filter isChatRelevant) = chatIds envelopes := by
  unfold chatIds
  rw [List.filterMap_filter]
  refine List.filterMap_congr fun envelope _ => ?_
  unfold chatId isChatRelevant
  by_cases htype : envelope.stringField "type" = some "chat.message"
  · simp [htype]
  · simp [htype]

theorem chatIds_chatOf (envelope : Json) : chatIds (chatOf envelope) = chatIds [envelope] := by
  rw [chatIds_singleton]
  unfold chatOf chatId
  split
  next htype => rw [chatIds_singleton, chatId, if_pos htype]
  next => rfl

variable {codec lib state}

/-- How far a joining page has come, and that the messages it has been given are its own. -/
structure FeedOk (stored : RuntimeId → List String) (tab : Tab) (feed : ChatFeed) : Prop where
  waiting : tab.page.routed = false →
    tab.page.buffering = true ∧ tab.page.buffer = feed.heard ∧ feed.chatMessages = []
  done : tab.page.routed = true → tab.page.phase = .active ∨ tab.page.phase = .error
  unasked : tab.page.routed = false → tab.response = none → feed.history = []
  answered : ∀ response, tab.response = some response → feed.history = response.chatHistory
  pushed : tab.page.routed = true → chatIds feed.chatMessages = feed.given
  once : feed.given.Nodup
  ordered : ∀ runtime, InOrderOf feed.given (stored runtime)

structure Sound (state : ChatReplay Bytes Doc) : Prop where
  once : ∀ runtime, (state.stored runtime).Nodup
  apart : ∀ first second, first ≠ second → ∀ messageId ∈ state.stored first,
    messageId ∉ state.stored second
  feeds : ∀ id tab, state.tab id = some tab → tab.page.mode = .join →
    FeedOk state.stored tab (state.feeds id)

theorem Sound.onceInOrder (h : state.Sound) : state.OnceInOrder := by
  intro id tab htab hmode hrouted
  have hok := h.feeds id tab htab hmode
  rw [hok.pushed hrouted]
  constructor
  · intro messageId hgiven
    exact List.count_eq_one_of_mem hok.once hgiven
  · intro runtime first hfirst second hsecond hbefore
    exact hok.ordered runtime first hfirst second hsecond hbefore

/-! ### The pages -/

theorem FeedOk.fresh (stored : RuntimeId → List String) : FeedOk stored (.start .join) .empty where
  waiting _ := ⟨rfl, rfl, rfl⟩
  done := nofun
  unasked _ _ := rfl
  answered := nofun
  pushed := nofun
  once := List.nodup_nil
  ordered _ _ hfirst := nomatch hfirst

variable {stored : RuntimeId → List String} {tab : Tab} {feed : ChatFeed}

theorem FeedOk.failed (h : FeedOk stored tab feed) : FeedOk stored tab.failed feed where
  waiting := h.waiting
  done _ := .inr rfl
  unasked := h.unasked
  answered := h.answered
  pushed := h.pushed
  once := h.once
  ordered := h.ordered

theorem given_receive (page : CollabWorkspace) (envelope : Json) :
    (feed.receive page envelope).given = feed.given ++ (chatId envelope).toList := by
  rw [ChatFeed.given, ChatFeed.receive, ← List.append_assoc, chatIds_append,
    chatIds_singleton]
  rfl

/-- The page receives an envelope that it has not been given. -/
theorem FeedOk.receive (h : FeedOk stored tab feed) {data : Bytes} {envelope : Json}
    (henvelope : parseEnvelope lib data = some envelope)
    (hstored : ∀ runtime, (stored runtime).Nodup)
    (hnew : ∀ messageId ∈ chatId envelope, messageId ∉ feed.given ∧
      ∀ runtime, ∀ later ∈ feed.given, ¬Precedes (stored runtime) messageId later) :
    FeedOk stored (tab.receive lib data) (feed.receive tab.page envelope) := by
  obtain ⟨-, hbuffering, hrouted, hphase, hbuffer⟩ := CatchUp.receive_page henvelope
  obtain ⟨-, -, hresponse, -, -⟩ := CatchUp.receive_tab lib tab data
  constructor
  · intro hwaits
    rw [hrouted] at hwaits
    obtain ⟨hlistens, hheard, hnone⟩ := h.waiting hwaits
    refine ⟨hbuffering.trans hlistens, ?_, ?_⟩
    · rw [hbuffer hlistens, hheard]
      rfl
    · simp [ChatFeed.receive, hwaits, hnone]
  · intro hroutes
    rw [hrouted] at hroutes
    rcases hphase with hsame | ⟨hconnecting, -⟩
    · rw [hsame]
      exact h.done hroutes
    · rcases h.done hroutes with hactive | herror
      · cases hconnecting.symm.trans hactive
      · cases hconnecting.symm.trans herror
  · intro hwaits hnone
    exact h.unasked (hrouted.symm.trans hwaits) (hresponse.symm.trans hnone)
  · intro response hasked
    exact h.answered response (hresponse.symm.trans hasked)
  · intro hroutes
    rw [hrouted] at hroutes
    rw [given_receive, ← h.pushed hroutes]
    simp only [ChatFeed.receive, hroutes, if_true, chatIds_append, chatIds_filter,
      chatIds_singleton]
  · rw [given_receive]
    cases hid : chatId envelope with
    | none => simpa using h.once
    | some messageId =>
        rw [Option.toList_some, ← List.concat_eq_append]
        exact List.Nodup.concat (hnew messageId hid).1 h.once
  · intro runtime
    rw [given_receive]
    cases hid : chatId envelope with
    | none => simpa using h.ordered runtime
    | some messageId =>
        exact (h.ordered runtime).concat_left (hstored runtime) ((hnew messageId hid).2 runtime)

/-- A message that does not parse only counts. -/
theorem FeedOk.skip (h : FeedOk stored tab feed) {data : Bytes}
    (hnone : parseEnvelope lib data = none) : FeedOk stored (tab.receive lib data) feed := by
  rw [CatchUp.receive_none hnone]
  exact ⟨h.waiting, h.done, h.unasked, h.answered, h.pushed, h.once, h.ordered⟩

/-- The live feeds are opened when the page has got its response. -/
theorem FeedOk.waits (h : FeedOk stored tab feed) (hphase : tab.page.phase = .syncing) :
    tab.page.routed = false := by
  cases hrouted : tab.page.routed with
  | false => rfl
  | true =>
      rcases h.done hrouted with hactive | herror
      · cases hphase.symm.trans hactive
      · cases hphase.symm.trans herror

/-- The worker answers with a history of which nothing has been received. -/
theorem FeedOk.response (h : FeedOk stored tab feed) (hphase : tab.page.phase = .syncing)
    (hnone : tab.response = none) {response : WorkerSyncResponse} (snapshot : Snapshot)
    {runtime : RuntimeId} (hhistory : chatIds response.chatHistory = stored runtime)
    (hstored : (stored runtime).Nodup)
    (hapart : ∀ other, other ≠ runtime → ∀ messageId ∈ stored runtime, messageId ∉ stored other)
    (hnew : ∀ messageId ∈ stored runtime, messageId ∉ chatIds feed.heard) :
    FeedOk stored (tab.answered response snapshot) (feed.answered response) := by
  have hwaits := h.waits hphase
  have hheard : feed.given = chatIds feed.heard := by
    rw [ChatFeed.given, h.unasked hwaits hnone, List.nil_append]
  have hgiven : (feed.answered response).given = stored runtime ++ feed.given := by
    rw [hheard, ← hhistory, ChatFeed.given, chatIds_append]
    rfl
  constructor
  · exact h.waiting
  · exact h.done
  · exact fun _ hasked => nomatch hasked
  · intro found hfound
    cases hfound
    rfl
  · exact fun hrouted => nomatch hwaits.symm.trans hrouted
  · rw [hgiven]
    refine hstored.append h.once fun messageId hold hheld => hnew messageId hold ?_
    rwa [← hheard]
  · intro other
    rw [hgiven]
    by_cases hsame : other = runtime
    · rw [hsame]
      exact InOrderOf.self_append _ _
    · exact (h.ordered other).append_left (hapart other hsame)

/-- The page drains its buffer behind the history. -/
theorem FeedOk.synced (h : FeedOk stored tab feed) (hmode : tab.page.mode = .join)
    (hphase : tab.page.phase = .syncing) {response : WorkerSyncResponse}
    (hresponse : tab.response = some response) :
    FeedOk stored (tab.synced lib response) (feed.synced tab.page response) := by
  have hwaits := h.waits hphase
  obtain ⟨-, hbuffer, hnone⟩ := h.waiting hwaits
  have hgiven : (feed.synced tab.page response).given = feed.given := by
    rw [ChatFeed.synced, hmode]
    rfl
  have hpushed : chatIds (feed.synced tab.page response).chatMessages = feed.given := by
    rw [ChatFeed.synced, hmode]
    dsimp only
    rw [hnone, hbuffer, List.nil_append, chatIds_append, chatIds_filter, ← h.answered response
      hresponse, ← chatIds_append]
    rfl
  rw [Tab.synced, hmode]
  constructor
  · intro hrouted
    cases hrouted
  · exact fun _ => .inl rfl
  · intro hrouted
    cases hrouted
  · intro response hresponse
    cases hresponse
  · exact fun _ => hpushed.trans hgiven.symm
  · rw [hgiven]
    exact h.once
  · rw [hgiven]
    exact h.ordered

/-- The worker stores a message that no session has stored. -/
theorem FeedOk.stores (h : FeedOk stored tab feed) {runtime : RuntimeId} {messageId : String}
    (hnew : messageId ∉ stored runtime)
    (hlater : ∀ later ∈ stored runtime, ¬Precedes feed.given messageId later) :
    FeedOk (Function.update stored runtime (stored runtime ++ [messageId])) tab feed where
  waiting := h.waiting
  done := h.done
  unasked := h.unasked
  answered := h.answered
  pushed := h.pushed
  once := h.once
  ordered other := by
    by_cases hsame : other = runtime
    · subst hsame
      rw [Function.update_self]
      exact (h.ordered other).concat_right hnew hlater
    · rw [Function.update_of_ne hsame]
      exact h.ordered other

/-! ### One step -/

theorem stored_of_chats {after : ChatReplay Bytes Doc}
    (hchats : after.catchUp.relay.manager.chats = state.catchUp.relay.manager.chats) :
    after.stored = state.stored := by
  funext runtime
  rw [stored, stored, hchats]

theorem Sound.of_same (h : state.Sound) {after : ChatReplay Bytes Doc}
    (hstored : after.stored = state.stored)
    (htabs : after.catchUp.tabs = state.catchUp.tabs) (hfeeds : after.feeds = state.feeds) :
    after.Sound := by
  constructor
  · rw [hstored]
    exact h.once
  · rw [hstored]
    exact h.apart
  · intro id tab htab hmode
    rw [hstored, hfeeds]
    exact h.feeds id tab (by rwa [ChatReplay.tab, htabs] at htab) hmode

/-- One page has moved. -/
theorem Sound.withTab (h : state.Sound) {id : ConnId} {tab : Tab} {feed : ChatFeed}
    (hok : tab.page.mode = .join → FeedOk state.stored tab feed) :
    Sound { catchUp := state.catchUp.withTab id tab, feeds := state.setFeed id feed } where
  once := h.once
  apart := h.apart
  feeds other found hfound hmode := by
    by_cases hsame : other = id
    · subst hsame
      have htab : tab = found := Option.some.inj ((AList.lookup_insert _).symm.trans hfound)
      subst htab
      dsimp only [setFeed]
      rw [Function.update_self]
      exact hok hmode
    · have hfound : state.tab other = some found :=
        (AList.lookup_insert_ne hsame).symm.trans hfound
      dsimp only [setFeed]
      rw [Function.update_of_ne hsame]
      exact h.feeds other found hfound hmode

/-- One page has moved, its chat has not. -/
theorem Sound.withTab_same (h : state.Sound) {id : ConnId} {tab : Tab}
    (hok : tab.page.mode = .join → FeedOk state.stored tab (state.feeds id)) :
    Sound { catchUp := state.catchUp.withTab id tab, feeds := state.feeds } := by
  have hmoved : Sound { catchUp := state.catchUp.withTab id tab,
                        feeds := state.setFeed id (state.feeds id) } := h.withTab hok
  rwa [setFeed, Function.update_eq_self] at hmoved

/-- The worker stores a message that no session has stored. -/
theorem Sound.stores (h : state.Sound) {after : ChatReplay Bytes Doc} {runtime : RuntimeId}
    {messageId : String}
    (hstored : after.stored =
      Function.update state.stored runtime (state.stored runtime ++ [messageId]))
    (htabs : after.catchUp.tabs = state.catchUp.tabs) (hfeeds : after.feeds = state.feeds)
    (hnew : ∀ other, messageId ∉ state.stored other)
    (hlater : ∀ id, state.Joins id →
      ∀ later ∈ state.stored runtime, ¬Precedes (state.feeds id).given messageId later) :
    after.Sound where
  once other := by
    rw [hstored]
    by_cases hsame : other = runtime
    · subst hsame
      rw [Function.update_self, ← List.concat_eq_append]
      exact (h.once other).concat (hnew other)
    · rw [Function.update_of_ne hsame]
      exact h.once other
  apart first second hne found hfirst := by
    rw [hstored] at hfirst ⊢
    by_cases hsame : first = runtime
    · subst hsame
      rw [Function.update_self, List.mem_append, List.mem_singleton] at hfirst
      rw [Function.update_of_ne hne.symm]
      rcases hfirst with hold | rfl
      · exact h.apart first second hne found hold
      · exact hnew second
    · rw [Function.update_of_ne hsame] at hfirst
      by_cases hother : second = runtime
      · subst hother
        rw [Function.update_self, List.mem_append, List.mem_singleton, not_or]
        exact ⟨h.apart first second hne found hfirst, fun heq => hnew first (heq ▸ hfirst)⟩
      · rw [Function.update_of_ne hother]
        exact h.apart first second hne found hfirst
  feeds id tab htab hmode := by
    have hbefore : state.tab id = some tab := by rwa [ChatReplay.tab, htabs] at htab
    have hjoins : state.Joins id := by
      rw [Joins, hbefore]
      exact decide_eq_true hmode
    rw [hstored, hfeeds]
    exact (h.feeds id tab hbefore hmode).stores (hnew runtime) (hlater id hjoins)

/-- The worker handles a message of Redis. -/
theorem Sound.handled (h : state.Sound) {channel : String} {payload : Bytes}
    {after : ChatReplay Bytes Doc}
    (hmanager : after.catchUp.relay.manager =
      state.catchUp.relay.manager.handleRedisMessage lib channel payload)
    (htabs : after.catchUp.tabs = state.catchUp.tabs) (hfeeds : after.feeds = state.feeds)
    (hnew : ∀ added ∈ state.catchUp.relay.manager.chatAdded lib channel payload,
      ∀ messageId ∈ chatIds added.2,
        (∀ runtime, messageId ∉ state.stored runtime) ∧
        ∀ id, state.Joins id →
          ∀ later ∈ state.stored added.1, ¬Precedes (state.feeds id).given messageId later) :
    after.Sound := by
  have hchats := Manager.handleRedisMessage_chats lib state.catchUp.relay.manager channel payload
  rw [← hmanager] at hchats
  cases hadded : state.catchUp.relay.manager.chatAdded lib channel payload with
  | none =>
      rw [hadded] at hchats
      exact h.of_same (stored_of_chats hchats) htabs hfeeds
  | some added =>
      obtain ⟨runtime, envelopes⟩ := added
      obtain ⟨envelope, rfl : envelopes = chatOf envelope⟩ := Manager.chatAdded_eq hadded
      have hfresh := hnew _ hadded
      rw [hadded] at hchats
      dsimp only at hchats hfresh
      rw [chatIds_chatOf, chatIds_singleton] at hfresh
      have hstored : after.stored = Function.update state.stored runtime
          (state.stored runtime ++ (chatId envelope).toList) := by
        funext other
        by_cases hsame : other = runtime
        · subst hsame
          rw [Function.update_self, stored, hchats, Function.update_self, chatIds_append,
            chatIds_chatOf, chatIds_singleton]
          rfl
        · rw [Function.update_of_ne hsame, stored, hchats, Function.update_of_ne hsame]
          rfl
      cases hid : chatId envelope with
      | none =>
          rw [hid, Option.toList_none, List.append_nil, Function.update_eq_self] at hstored
          exact h.of_same hstored htabs hfeeds
      | some messageId =>
          rw [hid, Option.toList_some] at hstored hfresh
          obtain ⟨hnone, hlater⟩ := hfresh messageId (List.mem_singleton_self _)
          exact h.stores hstored htabs hfeeds hnone hlater

/-- A session that is not there has stored nothing. -/
theorem not_stored {runtime : RuntimeId}
    (hruntime : ¬runtime < state.catchUp.relay.manager.runtimes.length) :
    state.stored runtime = [] := by
  rw [stored, Manager.chats, List.getElem?_eq_none (Nat.le_of_not_lt hruntime)]
  rfl

/-- The nodes or the worker move. -/
theorem Sound.relay (h : state.Sound) {event : Relay.Event Bytes} {relay : Relay Bytes Doc}
    (hguard : state.ComesOnce lib (.relay event))
    (hstep : state.catchUp.relay.step codec lib event = some relay) :
    Sound { catchUp := state.catchUp.withRelay event relay, feeds := state.feeds } := by
  cases Relay.step_cases codec lib state.catchUp.relay hstep with
  | hub event heard cluster hcluster => exact h.of_same rfl rfl rfl
  | worker event manager hother hmanager =>
      exact h.of_same (stored_of_chats (Manager.step_chats hother hmanager)) rfl rfl
  | handle item rest hfeed =>
      refine h.handled rfl rfl rfl fun added hadded messageId hid => ?_
      have hitem : item ∈ state.catchUp.relay.feed.head? := by rw [hfeed]; rfl
      obtain ⟨hnone, hlater⟩ := hguard item hitem added hadded messageId hid
      refine ⟨fun runtime => ?_, fun id hjoins => ?_⟩
      · by_cases hruntime : runtime < state.catchUp.relay.manager.runtimes.length
        · exact hnone runtime hruntime
        · rw [not_stored hruntime]
          exact List.not_mem_nil
      · have hkey : id ∈ state.catchUp.tabs.keys := by
          obtain ⟨tab, htab, -⟩ := (Option.any_eq_true _ _).mp hjoins
          exact AList.mem_keys.mp (AList.lookup_isSome.mp (Option.isSome_of_mem htab))
        exact hlater id hkey hjoins

/-- The worker takes a snapshot whenever it answers. -/
theorem no_response {documentId : DocumentId}
    (hsnapshot : state.catchUp.snapshot lib documentId = none) :
    state.catchUp.relay.manager.syncDocument lib documentId = none := by
  unfold CatchUp.snapshot at hsnapshot
  cases hlookup : state.catchUp.relay.manager.documents.lookup documentId with
  | none => simp [Manager.syncDocument, hlookup]
  | some runtime =>
      rw [hlookup] at hsnapshot
      cases hresponse : state.catchUp.relay.manager.syncDocument lib documentId with
      | none => rfl
      | some response => simp [hresponse] at hsnapshot

/-- A page that listens receives a message that parses. -/
theorem Sound.receives (h : state.Sound) {id : ConnId} {tab : Tab} (htab : state.tab id = some tab)
    {data : Bytes} {envelope : Json} (henvelope : parseEnvelope lib data = some envelope)
    (hguard : state.Joins id → ∀ messageId ∈ chatId envelope,
      messageId ∉ (state.feeds id).given ∧
        ∀ runtime < state.catchUp.relay.manager.runtimes.length,
          ∀ later ∈ (state.feeds id).given, ¬Precedes (state.stored runtime) messageId later) :
    Sound { catchUp := state.catchUp.withTab id (tab.receive lib data),
            feeds := state.setFeed id ((state.feeds id).receive tab.page envelope) } := by
  refine h.withTab fun hmode => ?_
  have hjoin : tab.page.mode = .join := (CatchUp.receive_page henvelope).1.symm.trans hmode
  have hjoins : state.Joins id := by
    rw [Joins, htab]
    exact decide_eq_true hjoin
  refine (h.feeds id tab htab hjoin).receive henvelope h.once fun messageId hid => ?_
  obtain ⟨hnew, hbefore⟩ := hguard hjoins messageId hid
  refine ⟨hnew, fun runtime => ?_⟩
  by_cases hruntime : runtime < state.catchUp.relay.manager.runtimes.length
  · exact hbefore runtime hruntime
  · rw [not_stored hruntime]
    exact fun later _ hbefore => nomatch hbefore.mem.1

theorem Sound.step (h : state.Sound) {event : CatchUp.Event Bytes}
    (hguard : state.ComesOnce lib event) {after : ChatReplay Bytes Doc}
    (hstep : state.step codec lib event = some after) : after.Sound := by
  obtain ⟨catchUp, hmoved, rfl⟩ := Option.map_eq_some_iff.mp hstep
  cases CatchUp.step_cases codec lib state.catchUp hmoved with
  | connect id node client mode cluster hcluster =>
      have hstarted : Sound { catchUp := state.catchUp.withTab id (.start mode),
                              feeds := state.setFeed id .empty } := by
        refine h.withTab ?_
        rintro rfl
        exact .fresh _
      exact hstarted.of_same rfl rfl rfl
  | relay event relay hother hrelay => exact h.relay hguard hrelay
  | receive id tab connection message htab hconnection hmessage hregistered =>
      have htab : state.tab id = some tab := htab
      have hreads : state.envelope lib id = parseEnvelope lib message.bytes := by
        simp [ChatReplay.envelope, htab, hconnection, hmessage]
      cases henvelope : parseEnvelope lib message.bytes with
      | none =>
          rw [henvelope] at hreads
          simp only [feedsAfter, htab, hreads]
          refine h.withTab_same fun hmode => ?_
          rw [CatchUp.receive_none henvelope] at hmode
          exact (h.feeds id tab htab hmode).skip henvelope
      | some envelope =>
          rw [henvelope] at hreads
          simp only [feedsAfter, htab, hreads]
          refine h.receives htab henvelope fun hjoins messageId hid => ?_
          exact hguard hjoins messageId (by rw [hreads]; exact hid)
  | initialized id tab htab hphase hmode hwaits =>
      exact h.withTab_same fun hjoin => nomatch hmode.symm.trans hjoin
  | sync id tab documentId response snapshot htab hdocument hphase hlistens hnone hsnapshot =>
      simp only [CatchUp.snapshot, Option.bind_eq_bind, Option.bind_eq_some_iff, Option.pure_def,
        Option.some.injEq, Prod.mk.injEq] at hsnapshot
      obtain ⟨runtime, hlookup, answer, hanswer, rfl, -⟩ := hsnapshot
      have hreads : state.response lib id = some answer := by
        simp [ChatReplay.response, hdocument, hanswer]
      simp only [feedsAfter, hreads]
      refine h.withTab fun hmode => ?_
      have hjoins : state.Joins id := by
        rw [Joins, ChatReplay.tab, htab]
        exact decide_eq_true hmode
      have hhistory : chatIds answer.chatHistory = state.stored runtime := by
        rw [stored, Manager.syncDocument_chatHistory hlookup hanswer]
      refine (h.feeds id tab htab hmode).response hphase hnone snapshot hhistory (h.once runtime)
        ?_ ?_
      · exact fun other hother => h.apart runtime other hother.symm
      · rw [← hhistory]
        exact hguard hjoins answer hreads
  | refuse id tab documentId htab hdocument hphase hsnapshot =>
      have hreads : state.response lib id = none := by
        simp only [ChatReplay.response, hdocument, Option.bind_eq_bind, Option.bind_some]
        exact no_response hsnapshot
      simp only [feedsAfter, hreads]
      exact h.withTab_same fun hmode => (h.feeds id tab htab hmode).failed
  | respond id tab response htab hresponse hphase =>
      have htab : state.tab id = some tab := htab
      simp only [feedsAfter, htab, Option.bind_some, hresponse]
      refine h.withTab fun hmode => ?_
      have hjoin : tab.page.mode = .join := by
        rw [Tab.synced] at hmode
        cases hold : tab.page.mode with
        | join => rfl
        | initializer =>
            rw [hold] at hmode
            exact hold.symm.trans hmode
      exact (h.feeds id tab htab hjoin).synced hjoin hphase hresponse
  | fail id tab htab =>
      exact h.withTab_same fun hmode => (h.feeds id tab htab hmode).failed

theorem empty_sound : (empty : ChatReplay Bytes Doc).Sound where
  once _ := List.nodup_nil
  apart _ _ _ _ hfirst := nomatch hfirst
  feeds _ _ htab := nomatch htab

/-- In every run in which chat messages come to the pages once, and in the order in which the
worker stores them, the pages show them so. -/
theorem reachable_onceInOrder
    (hreach : (system codec lib).ReachableUnder (ComesOnce lib) state) : state.OnceInOrder := by
  have hsound : state.Sound := by
    refine hreach.invariant (system codec lib) Sound ?_ ?_
    · rintro start rfl
      exact empty_sound
    · exact fun before event after _ h hguard hstep => h.step hguard hstep
  exact hsound.onceInOrder

/-! ## Runs -/

/-- The owner writes a message to the chat. -/
def chats (now : Backend.Instant) (clients : List ConnId) :
    List (CatchUp.Event (Envelope ⊕ EnvelopeMessage)) :=
  CatchUp.hubEvents
    ([.frame 0 (.inl ⟨.chat, 1, "", 1, 0, some (.object [("content", .string "hello")])⟩) now,
      .run 0 0 true 0] ++ clients.map (.run 0 · true 0) ++ [.run 0 0 true 0, .run 0 0 true 0])

/-- An editor is registered, and its page has received what was waiting for it. -/
def enters : List (CatchUp.Event (Envelope ⊕ EnvelopeMessage)) :=
  CatchUp.enters 1 ⟨2, "editor", 1, "EDITOR", 64⟩ .join [0, 1] ++ [.receive 1, .receive 1]

/-- The editor joins between two messages. -/
theorem reachable_onceInOrder_guest : ∃ state : ChatReplay (Envelope ⊕ EnvelopeMessage) String,
    (system plainCodec plainLibraries).ReachableUnder (ComesOnce plainLibraries) state ∧
      state.stored 0 = ["5-1", "6-1"] ∧ chatIds (state.feeds 1).chatMessages = ["5-1", "6-1"] ∧
      state.OnceInOrder := by
  obtain ⟨state, hreach, hcheck⟩ := (system plainCodec plainLibraries).exists_reachable_of_exec
    (.init rfl : (system plainCodec plainLibraries).ReachableUnder (ComesOnce plainLibraries) empty)
    (CatchUp.opens ++ chats 5 [0] ++ [.relay .handle] ++ enters ++ [.sync 1, .respond 1] ++
      chats 6 [0, 1] ++ [.relay .handle, .relay .handle, .receive 1])
    (fun state => state.stored 0 = ["5-1", "6-1"] ∧
      chatIds (state.feeds 1).chatMessages = ["5-1", "6-1"]) (by decide +kernel)
  obtain ⟨hstored, hpushed⟩ := of_decide_eq_true hcheck
  exact ⟨state, hreach, hstored, hpushed, reachable_onceInOrder hreach⟩

/-- The message reaches the page while it waits, and the worker stores it before it answers. -/
theorem history_repeats_buffer :
    ¬ ∀ state : ChatReplay (Envelope ⊕ EnvelopeMessage) String,
      (system plainCodec plainLibraries).Reachable state → state.OnceInOrder := by
  intro hclaim
  obtain ⟨state, hreach, hcheck⟩ := (system plainCodec plainLibraries).exists_reachable_of_exec
    (.init rfl : (system plainCodec plainLibraries).Reachable empty)
    (CatchUp.opens ++ enters ++ chats 5 [0, 1] ++
      [.receive 1, .relay .handle, .relay .handle, .sync 1, .respond 1])
    (fun state => (state.tab 1).any (fun tab =>
        tab.page.mode = .join ∧ tab.page.routed = true) ∧
      "5-1" ∈ (state.feeds 1).given ∧
      (chatIds (state.feeds 1).chatMessages).count "5-1" = 2) (by decide +kernel)
  obtain ⟨htab, hgiven, htwice⟩ := of_decide_eq_true hcheck
  obtain ⟨tab, htab, hrouted⟩ := (Option.any_eq_true _ _).mp htab
  obtain ⟨hmode, hrouted⟩ := of_decide_eq_true hrouted
  have honce := (hclaim state hreach 1 tab htab hmode hrouted).1 "5-1" hgiven
  cases htwice.symm.trans honce

end ChatReplay

end CollabEditor.Platform
