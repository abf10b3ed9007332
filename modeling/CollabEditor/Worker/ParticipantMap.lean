import CollabEditor.Worker.DocumentManager
import Mathlib.Tactic.Common

/-! # Who is in the room, as the worker has it

The announcements of a room are one for each connection that opens or closes, and the map
has one entry for each user. A session starts with the map `startRuntime` leaves.
-/

namespace CollabEditor.Worker

open Foundation

variable {Doc Raw : Type} (lib : Libraries Doc Raw)

/-- The runtime at the end of `initializeDocument`. -/
def DocumentRuntime.initialized (request : InitializeRequest) : DocumentRuntime Doc :=
  let runtime := DocumentRuntime.create lib request.documentId request.clientId request.content
  { runtime.startAutoPersistence with
    participantMap := runtime.participantMap.insert request.userId request.username }

/-- A runtime that nothing has reached since its construction is registered as such. -/
theorem Manager.startRuntime_initialized {manager : Manager Doc} {request : InitializeRequest}
    {id : RuntimeId} (hnew : manager.runtimes[id]? =
      some (.create lib request.documentId request.clientId request.content)) :
    (manager.startRuntime request id).runtimes[id]? = some (.initialized lib request) := by
  have hbound := (List.getElem?_eq_some_iff.mp hnew).1
  rw [startRuntime, hnew]
  exact List.getElem?_set_self hbound

/-- A runtime with the connections of its room that are open, each with its user. -/
structure RoomRuntime (Doc : Type) where
  runtime : DocumentRuntime Doc
  connections : AList fun _ : Nat => Rat

namespace RoomRuntime

variable (room : RoomRuntime Doc)

/-- The room when `initializeDocument` returns: the initiator's connection is open. -/
def initialized (request : InitializeRequest) (connection : Nat) : RoomRuntime Doc where
  runtime := .initialized lib request
  connections := (∅ : AList fun _ : Nat => Rat).insert connection request.userId

/-- The participant an envelope is about. -/
def participant (envelope : Json) : Option (Rat × String) :=
  DocumentRuntime.parseParticipantEventPayload (envelope.field "payload")

/-- What the runtime receives, with the connection that an announcement is about. -/
inductive Event
  | joined (connection : Nat) (envelope : Json)
  | left (connection : Nat) (envelope : Json)
  /-- An envelope of another type. -/
  | other (envelope : Json)

/-- `applyEnvelope`; an envelope that makes it throw changes nothing. -/
def receive (envelope : Json) : DocumentRuntime Doc :=
  (room.runtime.applyEnvelope lib envelope).getD room.runtime

/-- The hub announces a connection once when it opens and once when it closes, with the
user it belongs to. -/
def step : Event → Option (RoomRuntime Doc)
  | .joined connection envelope =>
      match participant envelope with
      | some (userId, _) =>
          if envelope.stringField "type" = some "room.participant.joined" ∧
              connection ∉ room.connections then
            some { runtime := room.receive lib envelope
                   connections := room.connections.insert connection userId }
          else none
      | none => none
  | .left connection envelope =>
      match participant envelope with
      | some (userId, _) =>
          if envelope.stringField "type" = some "room.participant.left" ∧
              room.connections.lookup connection = some userId then
            some { runtime := room.receive lib envelope
                   connections := room.connections.erase connection }
          else none
      | none => none
  | .other envelope =>
      if envelope.stringField "type" ≠ some "room.participant.joined" ∧
          envelope.stringField "type" ≠ some "room.participant.left" then
        some { room with runtime := room.receive lib envelope }
      else none

def system : TransitionSystem (RoomRuntime Doc) Event where
  init room := ∃ request connection, room = initialized lib request connection
  step := step lib

/-- The keys of the participant map are the users with an open connection. -/
def Presence : Prop :=
  ∀ userId, userId ∈ room.runtime.participantMap ↔
    ∃ connection, room.connections.lookup connection = some userId

/-- A connection that closes is its user's only one. -/
def LeavesAltogether : Event → Prop
  | .left connection _ => ∀ other ∈ room.connections.keys, other ≠ connection →
      room.connections.lookup other ≠ room.connections.lookup connection
  | _ => True

instance : (event : Event) → Decidable (room.LeavesAltogether event)
  | .left connection _ => inferInstanceAs (Decidable (∀ other ∈ room.connections.keys,
      other ≠ connection → room.connections.lookup other ≠ room.connections.lookup connection))
  | .joined _ _ | .other _ => .isTrue trivial

end RoomRuntime

/-! ## What an envelope does to the map -/

variable {lib}

theorem DocumentRuntime.applyEnvelope_joined (runtime : DocumentRuntime Doc) {envelope : Json}
    {userId : Rat} {username : String}
    (htype : envelope.stringField "type" = some "room.participant.joined")
    (hparticipant : RoomRuntime.participant envelope = some (userId, username)) :
    ∃ next, runtime.applyEnvelope lib envelope = some next ∧
      next.participantMap = runtime.participantMap.insert userId username := by
  have hpayload : parseParticipantEventPayload (envelope.field "payload") =
      some (userId, username) := hparticipant
  rw [applyEnvelope, htype]
  exact ⟨_, rfl, by rw [addParticipant, hpayload]; rfl⟩

theorem DocumentRuntime.applyEnvelope_left (runtime : DocumentRuntime Doc) {envelope : Json}
    {userId : Rat} {username : String}
    (htype : envelope.stringField "type" = some "room.participant.left")
    (hparticipant : RoomRuntime.participant envelope = some (userId, username)) :
    ∃ next, runtime.applyEnvelope lib envelope = some next ∧
      next.participantMap = runtime.participantMap.erase userId := by
  have hpayload : parseParticipantEventPayload (envelope.field "payload") =
      some (userId, username) := hparticipant
  rw [applyEnvelope, htype]
  exact ⟨_, rfl, by rw [removeParticipant, hpayload]; rfl⟩

theorem DocumentRuntime.applyEnvelope_other {runtime next : DocumentRuntime Doc} {envelope : Json}
    (hjoined : envelope.stringField "type" ≠ some "room.participant.joined")
    (hleft : envelope.stringField "type" ≠ some "room.participant.left")
    (happly : runtime.applyEnvelope lib envelope = some next) :
    next.participantMap = runtime.participantMap := by
  unfold applyEnvelope at happly
  split at happly
  next htype => exact absurd htype hjoined
  next htype => exact absurd htype hleft
  next =>
    split at happly
    next update _ =>
      simp only [applyDocChange, Option.bind_eq_bind, Option.bind_eq_some_iff] at happly
      obtain ⟨bytes, -, doc, -, hnext⟩ := happly
      cases hnext
      rfl
    next =>
      cases happly
      rfl
  next =>
    cases happly
    rfl
  next =>
    cases happly
    rfl

namespace RoomRuntime

variable {room : RoomRuntime Doc}

/-- The steps of the room, with what they do to the map. -/
inductive Steps (room : RoomRuntime Doc) : Event → RoomRuntime Doc → Prop
  | joined (connection : Nat) (envelope : Json) (userId : Rat) (username : String)
      (runtime : DocumentRuntime Doc) (hnew : connection ∉ room.connections)
      (hmap : runtime.participantMap = room.runtime.participantMap.insert userId username) :
      Steps room (.joined connection envelope)
        { runtime := runtime, connections := room.connections.insert connection userId }
  | left (connection : Nat) (envelope : Json) (userId : Rat) (runtime : DocumentRuntime Doc)
      (hopen : room.connections.lookup connection = some userId)
      (hmap : runtime.participantMap = room.runtime.participantMap.erase userId) :
      Steps room (.left connection envelope)
        { runtime := runtime, connections := room.connections.erase connection }
  | other (envelope : Json) (runtime : DocumentRuntime Doc)
      (hmap : runtime.participantMap = room.runtime.participantMap) :
      Steps room (.other envelope) { room with runtime := runtime }

theorem step_cases {event : Event} {next : RoomRuntime Doc}
    (hstep : room.step lib event = some next) : room.Steps event next := by
  cases event with
  | joined connection envelope =>
      simp only [step] at hstep
      split at hstep
      next userId username hparticipant =>
        obtain ⟨⟨htype, hnew⟩, hnext⟩ := Option.ite_none_right_eq_some.mp hstep
        cases hnext
        obtain ⟨applied, happly, hmap⟩ := room.runtime.applyEnvelope_joined htype hparticipant
        refine .joined connection envelope userId username _ hnew ?_
        rw [receive, happly]
        exact hmap
      next => cases hstep
  | left connection envelope =>
      simp only [step] at hstep
      split at hstep
      next userId username hparticipant =>
        obtain ⟨⟨htype, hopen⟩, hnext⟩ := Option.ite_none_right_eq_some.mp hstep
        cases hnext
        obtain ⟨applied, happly, hmap⟩ := room.runtime.applyEnvelope_left htype hparticipant
        refine .left connection envelope userId _ hopen ?_
        rw [receive, happly]
        exact hmap
      next => cases hstep
  | other envelope =>
      obtain ⟨⟨hjoined, hleft⟩, hnext⟩ := Option.ite_none_right_eq_some.mp hstep
      cases hnext
      refine .other envelope _ ?_
      unfold receive
      cases happly : room.runtime.applyEnvelope lib envelope with
      | none => rfl
      | some applied => exact DocumentRuntime.applyEnvelope_other hjoined hleft happly

/-! ## The map and the connections -/

theorem presence_initialized (request : InitializeRequest) (connection : Nat) :
    (initialized lib request connection).Presence := by
  intro userId
  simp only [initialized, DocumentRuntime.initialized, DocumentRuntime.create,
    DocumentRuntime.startAutoPersistence, AList.mem_insert]
  constructor
  · rintro (rfl | hnone)
    · exact ⟨connection, AList.lookup_insert _⟩
    · exact absurd hnone (AList.notMem_empty _)
  · rintro ⟨other, hother⟩
    left
    by_cases hsame : other = connection
    · subst hsame
      rw [AList.lookup_insert] at hother
      exact (Option.some.inj hother).symm
    · rw [AList.lookup_insert_ne hsame, AList.lookup_empty] at hother
      cases hother

/-- A new connection adds its user. -/
theorem Presence.joined (hpresence : room.Presence) {connection : Nat} {userId : Rat}
    {username : String} {runtime : DocumentRuntime Doc} (hnew : connection ∉ room.connections)
    (hmap : runtime.participantMap = room.runtime.participantMap.insert userId username) :
    Presence
      { runtime := runtime, connections := room.connections.insert connection userId } := by
  intro other
  dsimp only
  rw [hmap, AList.mem_insert, hpresence other]
  constructor
  · rintro (rfl | ⟨held, hheld⟩)
    · exact ⟨connection, AList.lookup_insert _⟩
    · have hne : held ≠ connection := by
        rintro rfl
        rw [AList.lookup_eq_none.mpr hnew] at hheld
        cases hheld
      exact ⟨held, (AList.lookup_insert_ne hne).trans hheld⟩
  · rintro ⟨held, hheld⟩
    by_cases hsame : held = connection
    · subst hsame
      rw [AList.lookup_insert] at hheld
      exact .inl (Option.some.inj hheld).symm
    · exact .inr ⟨held, (AList.lookup_insert_ne hsame).symm.trans hheld⟩

/-- The user of a closed connection leaves the map, which is right if it was the only one. -/
theorem Presence.left_iff (hpresence : room.Presence) {connection : Nat} {userId : Rat}
    {runtime : DocumentRuntime Doc} (hopen : room.connections.lookup connection = some userId)
    (hmap : runtime.participantMap = room.runtime.participantMap.erase userId) :
    Presence { runtime := runtime, connections := room.connections.erase connection } ↔
      ∀ other ∈ room.connections.keys, other ≠ connection →
        room.connections.lookup other ≠ room.connections.lookup connection := by
  constructor
  · intro hafter other _ hne hsame
    have hthere : userId ∈ runtime.participantMap := by
      refine (hafter userId).mpr ⟨other, ?_⟩
      exact (AList.lookup_erase_ne hne).trans (hsame.trans hopen)
    rw [hmap, AList.mem_erase] at hthere
    exact hthere.1 rfl
  · intro hsole other
    dsimp only
    rw [hmap, AList.mem_erase, hpresence other]
    constructor
    · rintro ⟨hne, held, hheld⟩
      have hother : held ≠ connection := by
        rintro rfl
        exact hne (Option.some.inj (hheld.symm.trans hopen))
      exact ⟨held, (AList.lookup_erase_ne hother).trans hheld⟩
    · rintro ⟨held, hheld⟩
      have hother : held ≠ connection := by
        rintro rfl
        rw [AList.lookup_erase] at hheld
        cases hheld
      rw [AList.lookup_erase_ne hother] at hheld
      have hmem : held ∈ room.connections.keys :=
        AList.lookup_isSome.mp (Option.isSome_iff_exists.mpr ⟨other, hheld⟩)
      refine ⟨?_, held, hheld⟩
      rintro rfl
      exact hsole held hmem hother (hheld.trans hopen.symm)

/-- A step keeps map and connections in step exactly if nobody leaves by halves. -/
theorem Presence.step_iff (hpresence : room.Presence) {event : Event} {next : RoomRuntime Doc}
    (hstep : room.step lib event = some next) : next.Presence ↔ room.LeavesAltogether event := by
  cases step_cases hstep with
  | joined connection envelope userId username runtime hnew hmap =>
      exact iff_of_true (hpresence.joined hnew hmap) trivial
  | left connection envelope userId runtime hopen hmap => exact hpresence.left_iff hopen hmap
  | other envelope runtime hmap =>
      refine iff_of_true (fun userId => ?_) trivial
      dsimp only
      rw [hmap]
      exact hpresence userId

/-- In every run in which a connection that closes is its user's only one, the participant map
has the users with an open connection; and from there a step keeps it so exactly if it meets
that condition. -/
theorem reachable_presence
    (hreach : (system lib).ReachableUnder LeavesAltogether room) :
    room.Presence ∧ ∀ event next, room.step lib event = some next →
      (next.Presence ↔ room.LeavesAltogether event) := by
  have hpresence : room.Presence := by
    refine hreach.invariant (system lib) Presence ?_ ?_
    · rintro room ⟨request, connection, rfl⟩
      exact presence_initialized request connection
    · intro room event next _ hpresence hguard hstep
      exact (hpresence.step_iff hstep).mpr hguard
  exact ⟨hpresence, fun event next hstep => hpresence.step_iff hstep⟩

/-- The announcement of a participant. -/
def announced (type : String) (userId : Rat) (username : String) : Json :=
  .object [("type", .string type),
    ("payload", .object [("userId", .number userId), ("username", .string username)])]

/-- The session that its owner starts. -/
def ownersRequest : InitializeRequest where
  documentId := 1
  content := ""
  userId := 1
  username := "owner"
  clientId := 0

/-- A guest comes and goes. -/
theorem reachable_presence_guest : ∃ room : RoomRuntime String,
    (system textLibraries).ReachableUnder LeavesAltogether room ∧
      room.runtime.participantMap.keys = [1] ∧
      room.Presence ∧ ∀ event next, room.step textLibraries event = some next →
        (next.Presence ↔ room.LeavesAltogether event) := by
  obtain ⟨room, hreach, hcheck⟩ := (system textLibraries).exists_reachable_of_exec
    (.init ⟨ownersRequest, 0, rfl⟩ : (system textLibraries).ReachableUnder LeavesAltogether
      (initialized textLibraries ownersRequest 0))
    [.joined 1 (announced "room.participant.joined" 2 "guest"),
      .left 1 (announced "room.participant.left" 2 "guest")]
    (fun room => room.runtime.participantMap.keys = [1]) (by decide +kernel)
  exact ⟨room, hreach, of_decide_eq_true hcheck, reachable_presence hreach⟩

/-- The owner opens a second tab and closes it: the map is empty while the first is open. -/
theorem second_tab_removes_user :
    ¬ ∀ room : RoomRuntime String, (system textLibraries).Reachable room → room.Presence := by
  intro hall
  obtain ⟨room, hreach, hcheck⟩ := (system textLibraries).exists_reachable_of_exec
    (.init ⟨ownersRequest, 0, rfl⟩ : (system textLibraries).Reachable
      (initialized textLibraries ownersRequest 0))
    [.joined 1 (announced "room.participant.joined" 1 "owner"),
      .left 1 (announced "room.participant.left" 1 "owner")]
    (fun room => room.runtime.participantMap.keys = [] ∧ room.connections.lookup 0 = some 1)
    (by decide +kernel)
  obtain ⟨hkeys, hopen⟩ := of_decide_eq_true hcheck
  have hthere : (1 : Rat) ∈ room.runtime.participantMap := (hall room hreach 1).mpr ⟨0, hopen⟩
  rw [AList.mem_keys, hkeys] at hthere
  cases hthere

end RoomRuntime

end CollabEditor.Worker
