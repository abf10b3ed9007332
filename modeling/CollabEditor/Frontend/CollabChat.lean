import Mathlib.Data.List.AList
import CollabEditor.Foundation.Json
import CollabEditor.Foundation.TransitionSystem

/-! # The chat panel

The effect of the panel subscribes to a stream that replays all it has emitted. What is read
while it runs, also by the subscriber during the replay, are its dependencies: a change of one
of them runs it again.
-/

namespace CollabEditor.Frontend

open Foundation

inductive CollaborationMessageType
  | chatMessage
  | docChange
  | connectionAck
  | error
  | participantJoined
  | participantLeft
deriving DecidableEq, Repr

/-- `CollaborationEnvelope`, as far as the panel reads it. -/
structure CollaborationEnvelope where
  type : CollaborationMessageType
  messageId : Option String
  senderId : Option Rat
  sentAt : Option String
  payload : Option Json

/-- `marked.parse`, and `Intl.DateTimeFormat` at a `Date`; `none` is an invalid date. -/
structure ChatLibraries where
  parse : String → String
  formatDate : String → Option String

inductive ChatLineKind
  | message
  | system
  | error
deriving DecidableEq, Repr

structure ChatLine where
  id : String
  kind : ChatLineKind
  username : String
  sentAtLabel : String
  html : String
  isMine : Bool
  /-- The position of its envelope among those emitted, a record. -/
  origin : Nat
deriving DecidableEq, Repr

/-- The inputs of the panel other than its stream. -/
structure ChatInputs where
  usernames : AList fun _ : Rat => String
  currentUserId : Option Rat

/-- Which inputs have been read. -/
structure ChatReads where
  usernames : Bool
  currentUserId : Bool
deriving DecidableEq, Repr

/-- A computation that reads inputs. -/
abbrev Tracked := StateM ChatReads

namespace Tracked

variable {α β : Type}

@[simp] theorem pure_apply (value : α) (reads : ChatReads) :
    (pure value : Tracked α) reads = (value, reads) := rfl

@[simp] theorem bind_apply (first : Tracked α) (rest : α → Tracked β) (reads : ChatReads) :
    (first >>= rest) reads = rest (first reads).1 (first reads).2 := rfl

@[simp] theorem map_apply (f : α → β) (computation : Tracked α) (reads : ChatReads) :
    (f <$> computation) reads = (f (computation reads).1, (computation reads).2) := rfl

end Tracked

namespace ChatInputs

variable (inputs : ChatInputs)

def readUsernames : Tracked (AList fun _ : Rat => String) :=
  fun reads => (inputs.usernames, { reads with usernames := true })

def readCurrentUserId : Tracked (Option Rat) :=
  fun reads => (inputs.currentUserId, { reads with currentUserId := true })

end ChatInputs

/-! ## From an envelope to a line -/

namespace CollabChat

/-- White space and line terminators of JavaScript. -/
def isWhitespace (c : Char) : Bool :=
  c.val ∈ [0x20, 0xA0, 0x1680, 0x2028, 0x2029, 0x202F, 0x205F, 0x3000, 0xFEFF] ||
    (0x09 ≤ c.val && c.val ≤ 0x0D) || (0x2000 ≤ c.val && c.val ≤ 0x200A)

/-- `String.prototype.trim` -/
def trim (value : String) : String :=
  String.ofList ((value.toList.dropWhile isWhitespace).reverse.dropWhile isWhitespace).reverse

variable (lib : ChatLibraries) (inputs : ChatInputs)

def formatSentAt (sentAt : Option String) : String :=
  ((sentAt.filter (· ≠ "")).bind lib.formatDate).getD ""

def renderMarkdown (content : String) : String :=
  if trim content = "" then "" else lib.parse (trim content)

def resolveUsername (userId : Option Rat) (fallback : String) : Tracked String :=
  match userId with
  | none => pure fallback
  | some userId => do
      let map ← inputs.readUsernames
      return (((map.lookup userId).map trim).filter (· ≠ "")).getD fallback

/-- `userId !== null && userId === this.currentUserId()` -/
def isMine (userId : Option Rat) : Tracked Bool :=
  match userId with
  | none => pure false
  | some userId => do
      let currentUserId ← inputs.readCurrentUserId
      return currentUserId = some userId

def readChatContent (payload : Option Json) : String :=
  match payload with
  | some (.string text) => text
  | some record => (record.stringField "content").getD ""
  | none => ""

/-- `ParticipantEventPayload`, as far as the panel reads it. -/
structure ChatParticipant where
  userId : Rat
  username : String
  message : String
deriving DecidableEq, Repr

def readParticipantEventPayload (payload : Option Json) : Option ChatParticipant := do
  let record ← payload
  let _ ← record.numberField "documentId"
  let userId ← record.numberField "userId"
  let username ← record.stringField "username"
  return {
    userId := userId
    username := username
    message := (record.stringField "message").getD "" }

def readErrorMessage (payload : Option Json) : String :=
  match payload with
  | some (.string text) => if trim text = "" then "Something went wrong." else text
  | some record =>
      (((record.stringField "message").filter (trim · ≠ "")) <|>
        ((record.stringField "error").filter (trim · ≠ ""))).getD "Something went wrong."
  | none => "Something went wrong."

/-- The user a participant event is about. -/
def participantId (envelope : CollaborationEnvelope) : Option Rat :=
  ((readParticipantEventPayload envelope.payload).map (·.userId)).or envelope.senderId

/-- The `room.participant.joined` and `room.participant.left` cases, which differ in what they
say by default. -/
def participantLine (envelope : CollaborationEnvelope) (id : String) (origin : Nat)
    (event : String) : Tracked ChatLine := do
  let payload := readParticipantEventPayload envelope.payload
  let userId := participantId envelope
  let username ← resolveUsername inputs userId ((payload.map (·.username)).getD "Unknown user")
  let message := (payload.map (·.message)).getD ""
  let isMine ← isMine inputs userId
  return {
    id := id
    kind := .system
    username := username
    sentAtLabel := formatSentAt lib envelope.sentAt
    html := renderMarkdown lib (if trim message ≠ "" then message else username ++ event)
    isMine := isMine
    origin := origin }

/-- `toChatLine`, once the id is there. -/
def toChatLine (envelope : CollaborationEnvelope) (id : String) (origin : Nat) :
    Tracked (Option ChatLine) :=
  match envelope.type with
  | .chatMessage => do
      let content := readChatContent envelope.payload
      let username ← resolveUsername inputs envelope.senderId "Unknown user"
      let isMine ← isMine inputs envelope.senderId
      return some {
        id := id
        kind := .message
        username := username
        sentAtLabel := formatSentAt lib envelope.sentAt
        html := renderMarkdown lib content
        isMine := isMine
        origin := origin }
  | .participantJoined =>
      some <$> participantLine lib inputs envelope id origin " joined the room."
  | .participantLeft =>
      some <$> participantLine lib inputs envelope id origin " left the room."
  | .error =>
      return some {
        id := id
        kind := .error
        username := "System"
        sentAtLabel := formatSentAt lib envelope.sentAt
        html := renderMarkdown lib (readErrorMessage envelope.payload)
        isMine := false
        origin := origin }
  | .docChange | .connectionAck => return none

/-- Turning the envelope into a line reads both inputs: it is about a user. -/
def namesUser (envelope : CollaborationEnvelope) : Bool :=
  match envelope.type with
  | .chatMessage => envelope.senderId.isSome
  | .participantJoined | .participantLeft => (participantId envelope).isSome
  | .error | .docChange | .connectionAck => false

end CollabChat

/-! ## The component -/

/-- `CollaborationChatComponent` with what Angular knows of its effect. -/
structure CollabChat where
  messages : List ChatLine
  nextLocalId : Nat
  subscribed : Bool
  /-- The dependencies of the effect. -/
  reads : ChatReads
  /-- The effect is to run. -/
  dirty : Bool

/-- The stream, the inputs, and the component while it is mounted. -/
structure ChatPanel where
  emitted : List CollaborationEnvelope
  inputs : ChatInputs
  component : Option CollabChat
  /-- How many envelopes the effect replayed when it last ran, a record. -/
  replayed : Nat

namespace CollabChat

variable (lib : ChatLibraries)

/-- The component as it is constructed: the effect is scheduled. -/
def mounted : CollabChat where
  messages := []
  nextLocalId := 0
  subscribed := false
  reads := { usernames := false, currentUserId := false }
  dirty := true

/-- The subscriber. -/
def receive (inputs : ChatInputs) (chat : CollabChat) (envelope : CollaborationEnvelope)
    (origin : Nat) : Tracked CollabChat := do
  let nextLocalId := if envelope.messageId.isSome then chat.nextLocalId else chat.nextLocalId + 1
  let id := envelope.messageId.getD ("local-" ++ toString nextLocalId)
  let next ← toChatLine lib inputs envelope id origin
  return { chat with messages := chat.messages ++ next.toList, nextLocalId := nextLocalId }

/-- The emitted envelopes in their order, the first of them at `origin`. -/
def replay (inputs : ChatInputs) (chat : CollabChat) :
    (envelopes : List CollaborationEnvelope) → (origin : Nat) → Tracked CollabChat
  | [], _ => pure chat
  | envelope :: rest, origin => do
      let next ← receive lib inputs chat envelope origin
      replay inputs next rest (origin + 1)

/-- The effect runs, after the cleanup of its last run. -/
def runEffect (inputs : ChatInputs) (emitted : List CollaborationEnvelope) (chat : CollabChat) :
    CollabChat :=
  let (next, reads) := replay lib inputs chat emitted 0
    { usernames := false, currentUserId := false }
  { next with subscribed := true, reads := reads, dirty := false }

/-- An input has changed. -/
def notify (depends : ChatReads → Bool) (chat : CollabChat) : CollabChat :=
  { chat with dirty := chat.dirty || depends chat.reads }

end CollabChat

namespace ChatPanel

variable (lib : ChatLibraries) (panel : ChatPanel)

inductive Event
  | emit (envelope : CollaborationEnvelope)
  /-- The workspace sets a new table. -/
  | setUsernames (usernames : AList fun _ : Rat => String)
  | setCurrentUserId (currentUserId : Option Rat)
  | mount
  | destroy
  | runEffect

/-- What the live subscription reads is read outside the effect. -/
def emit (envelope : CollaborationEnvelope) : ChatPanel :=
  { panel with
    emitted := panel.emitted ++ [envelope]
    component := panel.component.map fun chat =>
      if chat.subscribed then
        (CollabChat.receive lib panel.inputs chat envelope panel.emitted.length chat.reads).1
      else chat }

def step : Event → Option ChatPanel
  | .emit envelope => some (panel.emit lib envelope)
  | .setUsernames usernames => some { panel with
      inputs := { panel.inputs with usernames := usernames }
      component := panel.component.map (·.notify ChatReads.usernames) }
  | .setCurrentUserId currentUserId =>
      -- a signal that is set to the value it has tells nobody
      if currentUserId = panel.inputs.currentUserId then some panel
      else some { panel with
        inputs := { panel.inputs with currentUserId := currentUserId }
        component := panel.component.map (·.notify ChatReads.currentUserId) }
  | .mount =>
      if panel.component.isNone then
        some { panel with component := some .mounted, replayed := 0 }
      else none
  | .destroy => if panel.component.isSome then some { panel with component := none } else none
  | .runEffect =>
      match panel.component with
      | some chat =>
          if chat.dirty then
            some { panel with
              component := some (chat.runEffect lib panel.inputs panel.emitted)
              replayed := panel.emitted.length }
          else none
      | none => none

/-- The workspace before anything has been emitted. -/
def start (inputs : ChatInputs) : ChatPanel where
  emitted := []
  inputs := inputs
  component := none
  replayed := 0

def system : TransitionSystem ChatPanel Event where
  init panel := ∃ inputs, panel = start inputs
  step := step lib

/-- Each envelope has one line at most, and the lines stand in the order of emission. -/
def LinesInOrder : Prop :=
  ∀ chat, panel.component = some chat →
    chat.messages.Pairwise fun first second => first.origin < second.origin

/-- The effect has replayed an envelope that is about a user. -/
def Dependent : Prop :=
  panel.component.isSome ∧ (panel.emitted.take panel.replayed).any CollabChat.namesUser = true

instance : Decidable panel.Dependent := inferInstanceAs (Decidable (_ ∧ _))

/-- An input changes only while the effect does not depend on it. -/
def InputsSettled : Event → Prop
  | .setUsernames _ => ¬panel.Dependent
  | .setCurrentUserId currentUserId =>
      currentUserId ≠ panel.inputs.currentUserId → ¬panel.Dependent
  | _ => True

instance : (event : Event) → Decidable (panel.InputsSettled event)
  | .setUsernames _ => inferInstanceAs (Decidable (¬_))
  | .setCurrentUserId currentUserId => inferInstanceAs (Decidable
      (currentUserId ≠ panel.inputs.currentUserId → ¬panel.Dependent))
  | .emit _ | .mount | .destroy | .runEffect => .isTrue trivial

end ChatPanel

/-! ## What a line reads -/

/-- Reading both inputs, if the condition holds. -/
def ChatReads.both (reads : ChatReads) (read : Bool) : ChatReads where
  usernames := reads.usernames || read
  currentUserId := reads.currentUserId || read

namespace CollabChat

variable {lib : ChatLibraries} {inputs : ChatInputs} {reads : ChatReads}

theorem resolveUsername_reads (userId : Option Rat) (fallback : String) :
    (resolveUsername inputs userId fallback reads).2 =
      { reads with usernames := reads.usernames || userId.isSome } := by
  cases userId with
  | none => simp [resolveUsername]
  | some userId => simp [resolveUsername, ChatInputs.readUsernames]

theorem isMine_reads (userId : Option Rat) :
    (isMine inputs userId reads).2 =
      { reads with currentUserId := reads.currentUserId || userId.isSome } := by
  cases userId with
  | none => simp [isMine]
  | some userId => simp [isMine, ChatInputs.readCurrentUserId]

theorem participantLine_reads (envelope : CollaborationEnvelope) (id : String) (origin : Nat)
    (event : String) :
    (participantLine lib inputs envelope id origin event reads).2 =
      reads.both (participantId envelope).isSome := by
  simp [participantLine, resolveUsername_reads, isMine_reads, ChatReads.both]

/-- An envelope is about a user, or its line reads nothing. -/
theorem toChatLine_reads (envelope : CollaborationEnvelope) (id : String) (origin : Nat) :
    (toChatLine lib inputs envelope id origin reads).2 = reads.both (namesUser envelope) := by
  unfold toChatLine namesUser
  cases envelope.type with
  | chatMessage => simp [resolveUsername_reads, isMine_reads, ChatReads.both]
  | participantJoined | participantLeft => simp [participantLine_reads]
  | error | docChange | connectionAck => simp [ChatReads.both]

theorem toChatLine_origin {envelope : CollaborationEnvelope} {id : String} {origin : Nat}
    {line : ChatLine} (hline : (toChatLine lib inputs envelope id origin reads).1 = some line) :
    line.origin = origin := by
  unfold toChatLine at hline
  cases htype : envelope.type with
  | chatMessage | participantJoined | participantLeft | error =>
      rw [htype] at hline
      cases hline
      rfl
  | docChange | connectionAck =>
      rw [htype] at hline
      cases hline

/-! ## The lines of a replay -/

/-- The lines are of envelopes before `bound`, in their order. -/
structure Ordered (lines : List ChatLine) (bound : Nat) : Prop where
  below : ∀ line ∈ lines, line.origin < bound
  increasing : lines.Pairwise fun first second => first.origin < second.origin

theorem Ordered.append {lines : List ChatLine} {bound : Nat} (hordered : Ordered lines bound)
    {next : Option ChatLine} (hnext : ∀ line, next = some line → line.origin = bound) :
    Ordered (lines ++ next.toList) (bound + 1) := by
  cases next with
  | none =>
      rw [Option.toList_none, List.append_nil]
      exact ⟨fun line hline => Nat.lt_succ_of_lt (hordered.below line hline),
        hordered.increasing⟩
  | some line =>
      have horigin := hnext line rfl
      constructor
      · intro other hother
        rcases List.mem_append.mp hother with hold | hnew
        · exact Nat.lt_succ_of_lt (hordered.below other hold)
        · cases List.mem_singleton.mp hnew
          lia
      · refine List.pairwise_append.mpr ⟨hordered.increasing, List.pairwise_singleton _ _, ?_⟩
        intro first hfirst second hsecond
        cases List.mem_singleton.mp hsecond
        rw [horigin]
        exact hordered.below first hfirst

/-- The subscriber appends the line of the envelope, and reads both inputs if that is about
a user. -/
theorem receive_spec (lib : ChatLibraries) (inputs : ChatInputs) (chat : CollabChat)
    (envelope : CollaborationEnvelope) {origin : Nat}
    (hordered : Ordered chat.messages origin) (reads : ChatReads) :
    Ordered (receive lib inputs chat envelope origin reads).1.messages (origin + 1) ∧
      (receive lib inputs chat envelope origin reads).2 = reads.both (namesUser envelope) ∧
      (receive lib inputs chat envelope origin reads).1.subscribed = chat.subscribed ∧
      (receive lib inputs chat envelope origin reads).1.reads = chat.reads ∧
      (receive lib inputs chat envelope origin reads).1.dirty = chat.dirty := by
  refine ⟨?_, ?_, rfl, rfl, rfl⟩
  · exact hordered.append fun line hline => toChatLine_origin hline
  · simp [receive, toChatLine_reads]

theorem replay_spec (lib : ChatLibraries) (inputs : ChatInputs) (chat : CollabChat)
    (envelopes : List CollaborationEnvelope) {origin : Nat}
    (hordered : Ordered chat.messages origin) (reads : ChatReads) :
    Ordered (replay lib inputs chat envelopes origin reads).1.messages
        (origin + envelopes.length) ∧
      (replay lib inputs chat envelopes origin reads).2 =
        reads.both (envelopes.any namesUser) := by
  induction envelopes generalizing chat origin reads with
  | nil => exact ⟨hordered, by simp [replay, ChatReads.both]⟩
  | cons envelope rest ih =>
      obtain ⟨hnext, hreads, -⟩ := receive_spec lib inputs chat envelope hordered reads
      obtain ⟨hlines, hrest⟩ := ih _ hnext (receive lib inputs chat envelope origin reads).2
      rw [replay, Tracked.bind_apply]
      refine ⟨?_, ?_⟩
      · rwa [List.length_cons, Nat.add_comm rest.length 1, ← Nat.add_assoc]
      · rw [hrest, hreads]
        simp [ChatReads.both, Bool.or_assoc]

end CollabChat

/-! ## One run of the effect -/

namespace ChatPanel

variable {lib : ChatLibraries} {panel next : ChatPanel}

/-- The component as long as its effect has run once at most: what it shows, and what it
depends on. -/
structure Component (panel : ChatPanel) (chat : CollabChat) : Prop where
  unsubscribed : chat.subscribed = false → chat.messages = []
  lines : CollabChat.Ordered chat.messages panel.emitted.length
  once : chat.dirty = true → chat.subscribed = false
  reads : chat.reads = ChatReads.both { usernames := false, currentUserId := false }
    ((panel.emitted.take panel.replayed).any CollabChat.namesUser)

structure Sound (panel : ChatPanel) : Prop where
  component : ∀ chat, panel.component = some chat → panel.Component chat
  replayed : panel.replayed ≤ panel.emitted.length

theorem Sound.linesInOrder (hsound : panel.Sound) : panel.LinesInOrder :=
  fun chat hchat => (hsound.component chat hchat).lines.increasing

/-- A change of an input the effect does not depend on leaves it alone. -/
theorem Sound.notify (hsound : panel.Sound) (inputs : ChatInputs) {depends : ChatReads → Bool}
    (hdepends : ∀ chat, panel.component = some chat → depends chat.reads = false) :
    Sound { panel with
      inputs := inputs
      component := panel.component.map (·.notify depends) } := by
  refine ⟨?_, hsound.replayed⟩
  intro chat hchat
  obtain ⟨before, hbefore, rfl⟩ := Option.map_eq_some_iff.mp hchat
  have hcomponent := hsound.component before hbefore
  refine ⟨hcomponent.unsubscribed, hcomponent.lines, ?_, hcomponent.reads⟩
  intro hdirty
  rw [CollabChat.notify, hdepends before hbefore, Bool.or_false] at hdirty
  exact hcomponent.once hdirty

theorem Component.independent {chat : CollabChat} (hcomponent : panel.Component chat)
    (hchat : panel.component = some chat) (hsettled : ¬panel.Dependent) :
    chat.reads.usernames = false ∧ chat.reads.currentUserId = false := by
  have hnobody : (panel.emitted.take panel.replayed).any CollabChat.namesUser = false := by
    rw [Dependent, hchat, Option.isSome_some, not_and, Bool.not_eq_true] at hsettled
    exact hsettled rfl
  rw [hcomponent.reads, hnobody]
  exact ⟨rfl, rfl⟩

theorem Sound.emit (hsound : panel.Sound) (envelope : CollaborationEnvelope) :
    (panel.emit lib envelope).Sound := by
  have htake : (panel.emitted ++ [envelope]).take panel.replayed =
      panel.emitted.take panel.replayed := List.take_append_of_le_length hsound.replayed
  refine ⟨?_, by simp [ChatPanel.emit, Nat.le_succ_of_le hsound.replayed]⟩
  intro chat hchat
  obtain ⟨before, hbefore, hafter⟩ := Option.map_eq_some_iff.mp hchat
  have hcomponent := hsound.component before hbefore
  have hlength : (panel.emit lib envelope).emitted.length = panel.emitted.length + 1 := by
    simp [ChatPanel.emit]
  split at hafter
  next hsubscribed =>
    subst hafter
    obtain ⟨hlines, -, hsame, hreads, hdirty⟩ := CollabChat.receive_spec lib panel.inputs
      before envelope hcomponent.lines before.reads
    refine ⟨?_, hlength ▸ hlines, ?_, ?_⟩
    · intro hnot
      cases hsubscribed.symm.trans (hsame.symm.trans hnot)
    · rw [hdirty, hsame]
      exact hcomponent.once
    · rw [hreads, hcomponent.reads, ← htake]
      rfl
  next hunsubscribed =>
    subst hafter
    refine ⟨hcomponent.unsubscribed, ?_, hcomponent.once, ?_⟩
    · rw [hcomponent.unsubscribed (by simpa using hunsubscribed)]
      exact ⟨nofun, .nil⟩
    · rw [hcomponent.reads, ← htake]
      rfl

theorem Sound.step {event : Event} (hsound : panel.Sound) (hguard : panel.InputsSettled event)
    (hstep : panel.step lib event = some next) : next.Sound := by
  cases event with
  | emit envelope =>
      cases hstep
      exact hsound.emit envelope
  | setUsernames usernames =>
      cases hstep
      exact hsound.notify _ fun chat hchat =>
        ((hsound.component chat hchat).independent hchat hguard).1
  | setCurrentUserId currentUserId =>
      simp only [ChatPanel.step] at hstep
      split at hstep
      next =>
        cases hstep
        exact hsound
      next hchanged =>
        cases hstep
        exact hsound.notify _ fun chat hchat =>
          ((hsound.component chat hchat).independent hchat (hguard hchanged)).2
  | mount =>
      obtain ⟨-, hnext⟩ := Option.ite_none_right_eq_some.mp hstep
      cases hnext
      refine ⟨?_, Nat.zero_le _⟩
      rintro chat ⟨⟩
      exact ⟨fun _ => rfl, ⟨nofun, .nil⟩, fun _ => rfl, rfl⟩
  | destroy =>
      obtain ⟨-, hnext⟩ := Option.ite_none_right_eq_some.mp hstep
      cases hnext
      exact ⟨nofun, hsound.replayed⟩
  | runEffect =>
      simp only [ChatPanel.step] at hstep
      split at hstep
      next before hbefore =>
        obtain ⟨hdirty, hnext⟩ := Option.ite_none_right_eq_some.mp hstep
        cases hnext
        refine ⟨?_, Nat.le_refl _⟩
        rintro chat ⟨⟩
        have hcomponent := hsound.component before hbefore
        -- the effect has not run before, so there is nothing that it could repeat
        have hempty := hcomponent.unsubscribed (hcomponent.once hdirty)
        have hordered : CollabChat.Ordered before.messages 0 := by
          rw [hempty]
          exact ⟨nofun, .nil⟩
        obtain ⟨hlines, hreads⟩ := CollabChat.replay_spec lib panel.inputs before
          panel.emitted hordered { usernames := false, currentUserId := false }
        refine ⟨nofun, ?_, nofun, ?_⟩
        · rwa [Nat.zero_add] at hlines
        · dsimp only
          rw [List.take_length]
          exact hreads
      next => cases hstep

/-- In every run in which the inputs change only while the effect does not depend on them, each
envelope has one line at most, and the lines stand in the order of emission. -/
theorem reachable_linesInOrder (hreach : (system lib).ReachableUnder InputsSettled panel) :
    panel.LinesInOrder := by
  have hsound : panel.Sound := by
    refine hreach.invariant (system lib) Sound ?_ ?_
    · rintro panel ⟨inputs, rfl⟩
      exact ⟨nofun, Nat.le_refl 0⟩
    · intro panel event next _ hsound hguard hstep
      exact hsound.step hguard hstep
  exact hsound.linesInOrder

/-- Texts are shown as they are, without a date. -/
def plainLibraries : ChatLibraries where
  parse := id
  formatDate := fun _ => none

def noUsers : ChatInputs where
  usernames := ∅
  currentUserId := none

/-- A chat message of user 1. -/
def chatMessage (messageId content : String) : CollaborationEnvelope where
  type := .chatMessage
  messageId := some messageId
  senderId := some 1
  sentAt := none
  payload := some (.object [("content", .string content)])

/-- The names are there before the panel, and the messages come after it. -/
theorem reachable_linesInOrder_live : ∃ panel,
    (system plainLibraries).ReachableUnder InputsSettled panel ∧
      (panel.component.map fun chat => chat.messages.map (·.html)) = some ["one", "two"] ∧
      panel.LinesInOrder := by
  obtain ⟨panel, hreach, hcheck⟩ := (system plainLibraries).exists_reachable_of_exec
    (.init ⟨noUsers, rfl⟩ :
      (system plainLibraries).ReachableUnder InputsSettled (start noUsers))
    [.setCurrentUserId (some 1), .mount, .runEffect, .emit (chatMessage "a" "one"),
      .setUsernames ∅, .emit (chatMessage "b" "two")]
    (fun panel => (panel.component.map fun chat => chat.messages.map (·.html)) =
      some ["one", "two"]) (by decide +kernel)
  exact ⟨panel, hreach, of_decide_eq_true hcheck, reachable_linesInOrder hreach⟩

/-- A replayed message makes the names a dependency, and their next change shows it twice. -/
theorem replayed_message_shown_twice :
    ¬ ∀ panel, (system plainLibraries).Reachable panel → panel.LinesInOrder := by
  intro hall
  obtain ⟨panel, hreach, hcheck⟩ := (system plainLibraries).exists_reachable_of_exec
    (.init ⟨noUsers, rfl⟩ : (system plainLibraries).Reachable (start noUsers))
    [.emit (chatMessage "a" "one"), .mount, .runEffect, .setUsernames ∅, .runEffect]
    (fun panel => (panel.component.map fun chat => chat.messages.map (·.origin)) = some [0, 0])
    (by decide +kernel)
  obtain ⟨chat, hchat, horigins⟩ := Option.map_eq_some_iff.mp (of_decide_eq_true hcheck)
  have hincreasing := List.pairwise_map.mpr (hall panel hreach chat hchat)
  rw [horigins] at hincreasing
  exact absurd hincreasing (by decide)

end ChatPanel

end CollabEditor.Frontend
