import CollabEditor.Foundation.Json
import CollabEditor.Worker.DocumentRuntime
import Mathlib.Algebra.Ring.Int.Defs

/-! # The collaboration page

Of the page it is modelled how it finds out who is in the room. Everything between
two `await`s of a flow happens at once; what the socket receives comes in between.
The streams to the editor and to the chat are left out.
-/

namespace CollabEditor.Frontend

open Foundation
open Worker (WorkerSyncResponse)

/-- `CollabWorkspaceMode`: the page initialises the session or joins it. -/
inductive WorkspaceMode
  | initializer
  | join
deriving DecidableEq, Repr

/-- `WorkspacePhase`, after `ngOnInit`. -/
inductive WorkspacePhase
  | connecting
  | syncing
  | active
  | error
deriving DecidableEq, Repr

/-- `ParticipantEventPayload`, as far as it is read. -/
structure ParticipantEventPayload where
  documentId : Rat
  userId : Rat
  username : String
deriving DecidableEq, Repr

/-- `parseParticipantPayload`. -/
def parseParticipantPayload (payload : Option Json) : Option ParticipantEventPayload := do
  let record ← payload
  let documentId ← record.numberField "documentId"
  let userId ← record.numberField "userId"
  let username ← record.stringField "username"
  return { documentId := documentId, userId := userId, username := username }

/-- A participant event the page understands. -/
inductive ParticipantEvent
  | joined (participant : ParticipantEventPayload)
  | left
deriving DecidableEq, Repr

def participantEvent (envelope : Json) : Option ParticipantEvent :=
  match envelope.stringField "type" with
  | some "room.participant.joined" =>
      (parseParticipantPayload (envelope.field "payload")).map .joined
  | some "room.participant.left" =>
      (parseParticipantPayload (envelope.field "payload")).map fun _ => .left
  | _ => none

/-- `CollabWorkspaceComponent`. `buffering` and `routed` are its subscriptions to
the inbound stream. -/
structure CollabWorkspace where
  mode : WorkspaceMode
  phase : WorkspacePhase
  userCount : Int
  usernames : AList fun _ : Rat => String
  buffering : Bool
  buffer : List Json
  routed : Bool

namespace CollabWorkspace

/-- Both flows up to the acknowledgement they wait for. -/
def start (mode : WorkspaceMode) : CollabWorkspace where
  mode := mode
  phase := .connecting
  userCount := 1
  usernames := ∅
  buffering := decide (mode = .join)
  buffer := []
  routed := false

variable (page : CollabWorkspace)

/-- The body of the loop that drains the buffer, and of `routeParticipantEvents`. -/
def routeParticipantEvent (envelope : Json) : CollabWorkspace :=
  match participantEvent envelope with
  | some (.joined participant) =>
      { page with
        userCount := page.userCount + 1
        usernames := page.usernames.insert participant.userId participant.username }
  | some .left => { page with userCount := max 0 (page.userCount - 1) }
  | none => page

/-- The socket receives an envelope. -/
def receive (envelope : Json) : CollabWorkspace :=
  let routed := if page.routed then page.routeParticipantEvent envelope else page
  if page.buffering then { routed with buffer := page.buffer ++ [envelope] } else routed

/-- The flow goes on after the acknowledgement. -/
def acknowledged : CollabWorkspace := { page with phase := .syncing }

/-- `runJoinFlow` from the sync response on. -/
def joined (response : WorkerSyncResponse) : CollabWorkspace :=
  -- the page hears of its own arrival too, so it counts one less
  let seeded := { page with
    buffering := false
    userCount := (response.userCount : Int) - 1
    usernames := response.participantMap }
  { page.buffer.foldl routeParticipantEvent seeded with routed := true, phase := .active }

/-- `runInitFlow` from the response to the initialisation to the second request. -/
def initialized : CollabWorkspace := { page with routed := true }

/-- `runInitFlow` from the response to the second request on. -/
def synced (response : WorkerSyncResponse) : CollabWorkspace :=
  { page with usernames := response.participantMap, phase := .active }

/-- A request of a flow fails. -/
def failed : CollabWorkspace := { page with phase := .error }

/-- What a participant event adds to the count. -/
def change (envelope : Json) : Int :=
  match participantEvent envelope with
  | some (.joined _) => 1
  | some .left => -1
  | none => 0

/-- What a list of participant events adds to the count. -/
def changes (envelopes : List Json) : Int := (envelopes.map change).sum

/-- The participant events take nothing from a count of 0. -/
def Lossless : Int → List Json → Prop
  | _, [] => True
  | userCount, envelope :: rest =>
      (participantEvent envelope = some .left → 1 ≤ userCount) ∧
        Lossless (userCount + change envelope) rest

instance decidableLossless : (userCount : Int) → (envelopes : List Json) →
    Decidable (Lossless userCount envelopes)
  | _, [] => isTrue trivial
  | userCount, envelope :: rest =>
      have := decidableLossless (userCount + change envelope) rest
      inferInstanceAs (Decidable (_ ∧ _))

@[simp] theorem changes_nil : changes [] = 0 := rfl

@[simp] theorem changes_append (first second : List Json) :
    changes (first ++ second) = changes first + changes second := by
  simp [changes]

theorem routeParticipantEvent_userCount {page : CollabWorkspace} {envelope : Json}
    (hlossless : participantEvent envelope = some .left → 1 ≤ page.userCount) :
    (page.routeParticipantEvent envelope).userCount = page.userCount + change envelope := by
  unfold routeParticipantEvent change
  split
  next => rfl
  next hleft =>
    have hpositive := hlossless hleft
    show max 0 (page.userCount - 1) = page.userCount + -1
    omega
  next => simp

/-- Nothing else of the page depends on who is in the room. -/
theorem routeParticipantEvent_fields (page : CollabWorkspace) (envelope : Json) :
    (page.routeParticipantEvent envelope).mode = page.mode ∧
      (page.routeParticipantEvent envelope).phase = page.phase ∧
      (page.routeParticipantEvent envelope).buffering = page.buffering ∧
      (page.routeParticipantEvent envelope).routed = page.routed := by
  unfold routeParticipantEvent
  split <;> exact ⟨rfl, rfl, rfl, rfl⟩

theorem foldl_fields (page : CollabWorkspace) (envelopes : List Json) :
    (envelopes.foldl routeParticipantEvent page).mode = page.mode ∧
      (envelopes.foldl routeParticipantEvent page).buffering = page.buffering := by
  induction envelopes generalizing page with
  | nil => exact ⟨rfl, rfl⟩
  | cons envelope rest ih =>
      obtain ⟨hmode, -, hbuffering, -⟩ := page.routeParticipantEvent_fields envelope
      obtain ⟨hmodeRest, hbufferingRest⟩ := ih (page.routeParticipantEvent envelope)
      exact ⟨hmodeRest.trans hmode, hbufferingRest.trans hbuffering⟩

theorem receive_fields (page : CollabWorkspace) (envelope : Json) :
    (page.receive envelope).mode = page.mode ∧ (page.receive envelope).phase = page.phase ∧
      (page.receive envelope).buffering = page.buffering ∧
      (page.receive envelope).routed = page.routed := by
  obtain ⟨hmode, hphase, hbuffering, hrouted⟩ := page.routeParticipantEvent_fields envelope
  unfold receive
  dsimp only
  split <;> split <;>
    first
      | exact ⟨rfl, rfl, rfl, rfl⟩
      | exact ⟨hmode, hphase, hbuffering, hrouted⟩

/-- The buffer is drained without a loss. -/
theorem foldl_userCount {page : CollabWorkspace} {envelopes : List Json}
    (hlossless : Lossless page.userCount envelopes) :
    (envelopes.foldl routeParticipantEvent page).userCount =
      page.userCount + changes envelopes := by
  induction envelopes generalizing page with
  | nil => simp
  | cons envelope rest ih =>
      obtain ⟨hfirst, hrest⟩ := hlossless
      have hcount := routeParticipantEvent_userCount hfirst
      rw [List.foldl_cons, ih (by rwa [hcount]), hcount]
      simp [changes, Int.add_assoc]

end CollabWorkspace

end CollabEditor.Frontend
