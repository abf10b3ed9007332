import CollabEditor.Foundation.Ownership
import CollabEditor.Hub.Cluster

/-! # The rooms of one hub

Any number of `Register` and `Unregister` calls run at a time, and a section under
the mutex is one step. A client may be unregistered by several calls. The
subscription of an emptied room is on its way from the room to the call that closes it.
-/

namespace CollabEditor.Hub

open Foundation
open Backend (DocumentId)

/-- Calls of `Unregister`. -/
abbrev UnregisterId := Nat

/-- What has become of the one call of `Register`. -/
inductive Registration
  | created
  | registered
  | failed
deriving DecidableEq, Repr

/-- A client of the hub, as far as registration goes. `removed` and `left` only
record that a call is past the removal, and how many left events there were. -/
structure Member where
  client : Client
  registration : Registration
  /-- The call that `MarkUnregistered` was true for. -/
  marked : Option UnregisterId
  removed : Bool
  done : Bool
  left : Nat

/-- How far a call of `Unregister` has come. -/
inductive UnregisterStage
  /-- Before `MarkUnregistered`. -/
  | marking
  /-- Before the section under the mutex. -/
  | removing
  /-- There was no room, which should not happen. -/
  | missing
  /-- Before the left event, with the subscription of a room it emptied. -/
  | notifying (subscription : Option SubId)
  /-- Before `client.Close()`. -/
  | closing (subscription : Option SubId)
  /-- Before `room.sub.Close()`. -/
  | closingSubscription (subscription : SubId)
  | finished
deriving DecidableEq, Repr

structure UnregisterCall where
  client : ConnId
  stage : UnregisterStage
deriving DecidableEq, Repr

/-- The `rooms` of a `Hub` with its clients, and the subscriptions that are open. -/
structure RoomHub where
  members : ConnId → Option Member
  rooms : DocumentId → Option Room
  subscriptions : Finset SubId
  nextSubscription : SubId
  calls : UnregisterId → Option UnregisterCall

namespace RoomHub

variable (hub : RoomHub)

def empty : RoomHub where
  members := fun _ => none
  rooms := fun _ => none
  subscriptions := ∅
  nextSubscription := 0
  calls := fun _ => none

def setMember (id : ConnId) (member : Member) : RoomHub :=
  { hub with members := Function.update hub.members id (some member) }

def setRoom (documentId : DocumentId) (room : Option Room) : RoomHub :=
  { hub with rooms := Function.update hub.rooms documentId room }

def setCall (call : UnregisterId) (state : UnregisterCall) : RoomHub :=
  { hub with calls := Function.update hub.calls call (some state) }

/-- `Subscribe` succeeds. -/
def subscribe : RoomHub :=
  { hub with
    subscriptions := insert hub.nextSubscription hub.subscriptions
    nextSubscription := hub.nextSubscription + 1 }

/-- The section of `Register`. When it fails, `ServeHTTP` closes the client. -/
def register (id : ConnId) (member : Member) (subscribed : Bool) : RoomHub :=
  let documentId := member.client.documentId
  let joined := { member with registration := .registered }
  match hub.rooms documentId with
  | some room =>
      (hub.setRoom documentId (some { room with clients := insert id room.clients })).setMember id
        joined
  | none =>
      if subscribed then
        (hub.subscribe.setRoom documentId
          (some { clients := {id}, sub := hub.nextSubscription })).setMember id joined
      else hub.setMember id { member with registration := .failed, done := true }

/-- The section of `Unregister`, which deletes a room it empties. -/
def remove (call : UnregisterId) (id : ConnId) (member : Member) : RoomHub :=
  let documentId := member.client.documentId
  let gone := hub.setMember id { member with removed := true }
  match hub.rooms documentId with
  | none => gone.setCall call ⟨id, .missing⟩
  | some room =>
      let clients := room.clients.erase id
      if clients = ∅ then
        (gone.setRoom documentId none).setCall call ⟨id, .notifying (some room.sub)⟩
      else
        (gone.setRoom documentId (some { room with clients := clients })).setCall call
          ⟨id, .notifying none⟩

/-- A call of `Unregister` takes its next step. -/
def run (call : UnregisterId) (id : ConnId) (member : Member) : UnregisterStage → Option RoomHub
  | .marking =>
      some <| if member.marked.isSome then hub.setCall call ⟨id, .finished⟩
        else (hub.setMember id { member with marked := some call }).setCall call ⟨id, .removing⟩
  | .removing => some (hub.remove call id member)
  | .missing =>
      some <| (hub.setMember id { member with done := true }).setCall call ⟨id, .finished⟩
  | .notifying subscription =>
      some <| (hub.setMember id { member with left := member.left + 1 }).setCall call
        ⟨id, .closing subscription⟩
  | .closing none =>
      some <| (hub.setMember id { member with done := true }).setCall call ⟨id, .finished⟩
  | .closing (some subscription) =>
      some <| (hub.setMember id { member with done := true }).setCall call
        ⟨id, .closingSubscription subscription⟩
  | .closingSubscription subscription =>
      some <| { hub with subscriptions := hub.subscriptions.erase subscription }.setCall call
        ⟨id, .finished⟩
  | .finished => none

inductive Event
  /-- `NewClient`. -/
  | create (id : ConnId) (client : Client)
  | register (id : ConnId) (subscribed : Bool)
  /-- `Unregister` is called for a client whose `Register` has succeeded. -/
  | unregister (call : UnregisterId) (id : ConnId)
  | run (call : UnregisterId)

def step : Event → Option RoomHub
  | .create id client =>
      if (hub.members id).isSome then none
      else some <| hub.setMember id
        { client := client, registration := .created, marked := none, removed := false
          done := false, left := 0 }
  | .register id subscribed => do
      let member ← hub.members id
      if member.registration = .created then some (hub.register id member subscribed) else none
  | .unregister call id => do
      let member ← hub.members id
      if member.registration = .registered ∧ (hub.calls call).isNone then
        some (hub.setCall call ⟨id, .marking⟩)
      else none
  | .run call => do
      let state ← hub.calls call
      let member ← hub.members state.client
      hub.run call state.client member state.stage

/-- A hub without clients. -/
def system : TransitionSystem RoomHub Event where
  init hub := hub = empty
  step := step

end RoomHub

/-! ## The invariant -/

/-- The subscription the call has still to close. -/
def UnregisterStage.holds : UnregisterStage → Option SubId
  | .notifying subscription | .closing subscription => subscription
  | .closingSubscription subscription => some subscription
  | _ => none

/-- What a call at this stage knows about its client. -/
def UnregisterStage.Fits (call : UnregisterId) (member : Member) : UnregisterStage → Prop
  | .marking | .finished => True
  | .removing => member.marked = some call ∧ member.removed = false
  | .missing => False
  | .notifying _ => member.marked = some call ∧ member.removed = true ∧ member.left = 0
  | .closing _ | .closingSubscription _ => member.marked = some call ∧ member.removed = true

/-- The client belongs into the map. -/
def Member.Present (member : Member) (documentId : DocumentId) : Prop :=
  member.client.documentId = documentId ∧ member.registration = .registered ∧
    member.removed = false

namespace RoomHub

/-- Who has to close a subscription: a room of the map, or a call that removed it. -/
def Owns (hub : RoomHub) : DocumentId ⊕ UnregisterId → SubId → Prop
  | .inl documentId, subscription =>
      ∃ room, hub.rooms documentId = some room ∧ room.sub = subscription
  | .inr call, subscription =>
      ∃ state, hub.calls call = some state ∧ state.stage.holds = some subscription

/-- The client is in the map. -/
def InMap (hub : RoomHub) (id : ConnId) (documentId : DocumentId) : Prop :=
  ∃ room, hub.rooms documentId = some room ∧ id ∈ room.clients

/-- The room invariant. -/
structure Consistent (hub : RoomHub) : Prop where
  room : ∀ documentId room, hub.rooms documentId = some room →
    room.clients.Nonempty ∧ room.sub ∈ hub.subscriptions
  document : ∀ documentId id, hub.InMap id documentId →
    ∃ member, hub.members id = some member ∧ member.client.documentId = documentId
  /-- A client is in the map from its `Register` to the removal by its first
  `Unregister`. -/
  present : ∀ id, (∃ documentId, hub.InMap id documentId) ↔
    ∃ member, hub.members id = some member ∧ member.registration = .registered ∧
      member.removed = false
  /-- An open subscription has one owner, a room or a call. -/
  owned : ∀ subscription ∈ hub.subscriptions,
    (∃! documentId, hub.Owns (.inl documentId) subscription) ∧
        (∀ call, ¬ hub.Owns (.inr call) subscription) ∨
      (∃! call, hub.Owns (.inr call) subscription) ∧
        ∀ documentId, ¬ hub.Owns (.inl documentId) subscription
  found : ∀ call state, hub.calls call = some state → state.stage ≠ .missing
  left : ∀ id member, hub.members id = some member → member.left ≤ 1

/-- The inductive form. -/
structure Sound (hub : RoomHub) : Prop where
  nonempty : ∀ documentId room, hub.rooms documentId = some room → room.clients.Nonempty
  present : ∀ id documentId, hub.InMap id documentId ↔
    ∃ member, hub.members id = some member ∧ member.Present documentId
  owners : Ownership hub.Owns (· ∈ hub.subscriptions)
  bound : ∀ subscription ∈ hub.subscriptions, subscription < hub.nextSubscription
  call : ∀ call state, hub.calls call = some state → ∃ member,
    hub.members state.client = some member ∧ member.registration = .registered ∧
      state.stage.Fits call member
  left : ∀ id member, hub.members id = some member →
    member.left ≤ 1 ∧ (member.removed = false → member.left = 0)
  kept : ∀ id member, hub.members id = some member →
    member.registration ≠ .registered ∨ member.marked = none → member.removed = false

variable {hub : RoomHub}

theorem empty_sound : empty.Sound where
  nonempty := by simp [empty]
  present := by simp [empty, InMap]
  owners := by
    refine .of_none ?_ (by simp [empty])
    rintro (documentId | call) subscription <;> simp [Owns, empty]
  bound := by simp [empty]
  call := by simp [empty]
  left := by simp [empty]
  kept := by simp [empty]

/-! ## Updates -/

theorem setMember_cases {id other : ConnId} {member found : Member}
    (hfound : (hub.setMember id member).members other = some found) :
    other = id ∧ found = member ∨ other ≠ id ∧ hub.members other = some found := by
  dsimp only [setMember] at hfound
  by_cases heq : other = id
  · rw [heq, Function.update_self, Option.some.injEq] at hfound
    exact .inl ⟨heq, hfound.symm⟩
  · rw [Function.update_of_ne heq] at hfound
    exact .inr ⟨heq, hfound⟩

theorem setCall_cases {call other : UnregisterId} {state found : UnregisterCall}
    (hfound : (hub.setCall call state).calls other = some found) :
    other = call ∧ found = state ∨ other ≠ call ∧ hub.calls other = some found := by
  dsimp only [setCall] at hfound
  by_cases heq : other = call
  · rw [heq, Function.update_self, Option.some.injEq] at hfound
    exact .inl ⟨heq, hfound.symm⟩
  · rw [Function.update_of_ne heq] at hfound
    exact .inr ⟨heq, hfound⟩

@[simp] theorem setMember_members_self (id : ConnId) (member : Member) :
    (hub.setMember id member).members id = some member := by
  simp [setMember]

theorem setMember_members_of_ne {id other : ConnId} (hne : other ≠ id) (member : Member) :
    (hub.setMember id member).members other = hub.members other := by
  simp [setMember, hne]

/-- A call goes on with the same subscription to close. -/
theorem setCall_owns {call : UnregisterId} (old : UnregisterCall) {new : UnregisterCall}
    (hold : (hub.calls call).bind (·.stage.holds) = old.stage.holds)
    (hholds : new.stage.holds = old.stage.holds) (owner : DocumentId ⊕ UnregisterId)
    (subscription : SubId) :
    (hub.setCall call new).Owns owner subscription ↔ hub.Owns owner subscription := by
  cases owner with
  | inl documentId => exact Iff.rfl
  | inr other =>
      by_cases heq : other = call
      · subst heq
        dsimp only [Owns, setCall]
        rw [Function.update_self, ← Option.bind_eq_some_iff, ← Option.bind_eq_some_iff, hold]
        simp [hholds]
      · dsimp only [Owns, setCall]
        rw [Function.update_of_ne heq]

/-- Whoever is unregistered has been registered, and fits the stage of the call. -/
theorem Sound.caller (h : hub.Sound) {id : ConnId} {member : Member} {call : UnregisterId}
    {stage : UnregisterStage} (hmember : hub.members id = some member)
    (hcall : hub.calls call = some ⟨id, stage⟩) :
    member.registration = .registered ∧ stage.Fits call member := by
  obtain ⟨found, hfound, hrest⟩ := h.call call _ hcall
  cases hmember.symm.trans hfound
  exact hrest

/-- A client changes in a way that the rooms do not depend on, while a call goes on. -/
theorem Sound.advance (h : hub.Sound) {id : ConnId} {old new : Member} {call : UnregisterId}
    {before after : UnregisterStage} (hmember : hub.members id = some old)
    (hcall : hub.calls call = some ⟨id, before⟩) (hclient : new.client = old.client)
    (hregistration : new.registration = old.registration) (hremoved : new.removed = old.removed)
    (hmarked : new.marked = none → old.marked = none)
    (hholds : after.holds = before.holds) (hfits : after.Fits call new)
    (hothers : ∀ other stage, other ≠ call → UnregisterStage.Fits other old stage →
      UnregisterStage.Fits other new stage)
    (hleft : new.left ≤ 1 ∧ (new.removed = false → new.left = 0)) :
    ((hub.setMember id new).setCall call ⟨id, after⟩).Sound := by
  have hpresent : ∀ documentId, new.Present documentId ↔ old.Present documentId := by
    intro documentId
    unfold Member.Present
    rw [hclient, hregistration, hremoved]
  have hregistered := (h.caller hmember hcall).1
  refine ⟨h.nonempty, ?_, ?_, h.bound, ?_, ?_, ?_⟩
  · intro other documentId
    refine (h.present other documentId).trans ?_
    by_cases heq : other = id
    · subst heq
      constructor
      · rintro ⟨member, hfound, hmember'⟩
        cases hmember.symm.trans hfound
        exact ⟨new, setMember_members_self .., (hpresent documentId).mpr hmember'⟩
      · rintro ⟨member, hfound, hmember'⟩
        rcases setMember_cases hfound with ⟨-, rfl⟩ | ⟨hne, -⟩
        · exact ⟨old, hmember, (hpresent documentId).mp hmember'⟩
        · exact absurd rfl hne
    · change _ ↔ ∃ member, (hub.setMember id new).members other = some member ∧ _
      rw [setMember_members_of_ne heq]
  · refine h.owners.congr (fun owner subscription => ?_) fun _ => Iff.rfl
    refine (setCall_owns ⟨id, before⟩ ?_ hholds owner subscription).trans ?_
    · change (hub.calls call).bind _ = _
      rw [hcall]
      rfl
    · cases owner with
      | inl documentId => exact Iff.rfl
      | inr other => exact Iff.rfl
  · intro other state hstate
    rcases setCall_cases hstate with ⟨rfl, rfl⟩ | ⟨hne, hbefore⟩
    · exact ⟨new, setMember_members_self .., hregistration.trans hregistered, hfits⟩
    · obtain ⟨member, hfound, hmember', hstage⟩ := h.call other state hbefore
      by_cases heq : state.client = id
      · rw [heq] at hfound ⊢
        cases hmember.symm.trans hfound
        exact ⟨new, setMember_members_self .., hregistration.trans hregistered,
          hothers other state.stage hne hstage⟩
      · exact ⟨member, (setMember_members_of_ne heq new).trans hfound, hmember', hstage⟩
  · intro other member hfound
    rcases setMember_cases hfound with ⟨-, rfl⟩ | ⟨-, hbefore⟩
    · exact hleft
    · exact h.left other member hbefore
  · intro other member hfound hother
    rcases setMember_cases hfound with ⟨-, rfl⟩ | ⟨-, hbefore⟩
    · rw [hremoved]
      exact h.kept id old hmember (.inr (hmarked (hother.resolve_left fun hne =>
        hne (hregistration.trans hregistered))))
    · exact h.kept other member hbefore hother

theorem setMember_self {id : ConnId} {member : Member} (hmember : hub.members id = some member) :
    hub.setMember id member = hub := by
  unfold setMember
  rw [← hmember, Function.update_eq_self]

theorem setRoom_inMap {documentId : DocumentId} {row : Option Room} (id : ConnId)
    (other : DocumentId) : (hub.setRoom documentId row).InMap id other ↔
      other = documentId ∧ (∃ room, row = some room ∧ id ∈ room.clients) ∨
        other ≠ documentId ∧ hub.InMap id other := by
  dsimp only [InMap, setRoom]
  by_cases heq : other = documentId
  · subst heq
    simp
  · simp [heq]

/-- What a room owns after it was written or removed. -/
theorem setRoom_owns {documentId : DocumentId} {row : Option Room} (other : DocumentId)
    (subscription : SubId) : (hub.setRoom documentId row).Owns (.inl other) subscription ↔
      other = documentId ∧ row.map Room.sub = some subscription ∨
        other ≠ documentId ∧ hub.Owns (.inl other) subscription := by
  dsimp only [Owns, setRoom]
  by_cases heq : other = documentId
  · subst heq
    simp
  · simp [heq]

/-! ## Steps -/

/-- A client that no call knows is new, or could not be registered. -/
theorem Sound.setOutside (h : hub.Sound) {id : ConnId} {new : Member}
    (hold : ∀ member, hub.members id = some member → member.registration ≠ .registered)
    (hnew : new.registration ≠ .registered) (hremoved : new.removed = false)
    (hleft : new.left = 0) : (hub.setMember id new).Sound := by
  refine ⟨h.nonempty, ?_, h.owners, h.bound, ?_, ?_, ?_⟩
  · intro other documentId
    refine (h.present other documentId).trans ?_
    by_cases heq : other = id
    · subst heq
      constructor
      · rintro ⟨member, hfound, -, hregistered, -⟩
        exact absurd hregistered (hold member hfound)
      · rintro ⟨member, hfound, -, hregistered, -⟩
        rw [setMember_members_self, Option.some.injEq] at hfound
        exact absurd (hfound ▸ hregistered) hnew
    · rw [setMember_members_of_ne heq]
  · intro call state hstate
    obtain ⟨member, hfound, hregistered, hfits⟩ := h.call call state hstate
    have hne : state.client ≠ id := by
      rintro rfl
      exact hold member hfound hregistered
    exact ⟨member, (setMember_members_of_ne hne new).trans hfound, hregistered, hfits⟩
  · intro other member hfound
    rcases setMember_cases hfound with ⟨-, rfl⟩ | ⟨-, hbefore⟩
    · exact ⟨by omega, fun _ => hleft⟩
    · exact h.left other member hbefore
  · intro other member hfound hother
    rcases setMember_cases hfound with ⟨-, rfl⟩ | ⟨-, hbefore⟩
    · exact hremoved
    · exact h.kept other member hbefore hother

/-- A client joins its room, which may be new. -/
theorem Sound.join (h : hub.Sound) {id : ConnId} {member : Member} {between : RoomHub}
    {room : Room} (hmember : hub.members id = some member)
    (hcreated : member.registration = .created) (hmembers : between.members = hub.members)
    (hrooms : between.rooms = hub.rooms) (hcalls : between.calls = hub.calls)
    (hclients : ∀ other, other ∈ room.clients ↔
      other = id ∨ hub.InMap other member.client.documentId)
    (howners : Ownership (between.setRoom member.client.documentId (some room)).Owns
      (· ∈ between.subscriptions))
    (hbound : ∀ subscription ∈ between.subscriptions,
      subscription < between.nextSubscription) :
    ((between.setRoom member.client.documentId (some room)).setMember id
      { member with registration := .registered }).Sound := by
  have hpresent : member.removed = false := h.kept id member hmember (.inl (by simp [hcreated]))
  have hinMap : ∀ other documentId, between.InMap other documentId ↔
      hub.InMap other documentId := by
    intro other documentId
    unfold InMap
    rw [hrooms]
  have hout : ∀ documentId, ¬ hub.InMap id documentId := by
    intro documentId hinMap
    obtain ⟨found, hfound, -, hregistered, -⟩ := (h.present id documentId).mp hinMap
    cases hmember.symm.trans hfound
    rw [hcreated] at hregistered
    cases hregistered
  refine ⟨?_, ?_, howners.congr (fun owner _ => ?_) fun _ => Iff.rfl, hbound, ?_, ?_, ?_⟩
  · intro documentId found hfound
    dsimp only [setMember, setRoom] at hfound
    by_cases heq : documentId = member.client.documentId
    · rw [heq, Function.update_self, Option.some.injEq] at hfound
      exact ⟨id, hfound ▸ (hclients id).mpr (.inl rfl)⟩
    · rw [Function.update_of_ne heq, hrooms] at hfound
      exact h.nonempty documentId found hfound
  · intro other documentId
    refine (setRoom_inMap other documentId).trans ?_
    rw [hinMap]
    by_cases heq : other = id
    · subst heq
      rw [setMember_members_self]
      constructor
      · rintro (⟨rfl, -⟩ | ⟨-, hbefore⟩)
        · exact ⟨_, rfl, rfl, rfl, hpresent⟩
        · exact absurd hbefore (hout documentId)
      · rintro ⟨found, hfound, hdocument, -⟩
        cases hfound
        exact .inl ⟨hdocument.symm, room, rfl, (hclients other).mpr (.inl rfl)⟩
    · rw [setMember_members_of_ne heq, setRoom, hmembers, ← h.present other documentId]
      constructor
      · rintro (⟨rfl, found, hfound, hclient⟩ | ⟨-, hbefore⟩)
        · cases hfound
          exact ((hclients other).mp hclient).resolve_left heq
        · exact hbefore
      · intro hbefore
        by_cases hdocument : documentId = member.client.documentId
        · exact .inl ⟨hdocument, room, rfl, (hclients other).mpr (.inr (hdocument ▸ hbefore))⟩
        · exact .inr ⟨hdocument, hbefore⟩
  · cases owner with
    | inl documentId => exact Iff.rfl
    | inr call => exact Iff.rfl
  · intro call state hstate
    change between.calls call = some state at hstate
    rw [hcalls] at hstate
    obtain ⟨found, hfound, hregistered, hfits⟩ := h.call call state hstate
    have hne : state.client ≠ id := by
      rintro rfl
      cases hmember.symm.trans hfound
      rw [hcreated] at hregistered
      cases hregistered
    refine ⟨found, ?_, hregistered, hfits⟩
    rw [setMember_members_of_ne hne]
    exact (congrFun hmembers _).trans hfound
  · intro other found hfound
    rcases setMember_cases hfound with ⟨-, rfl⟩ | ⟨-, hbefore⟩
    · exact h.left id member hmember
    · change between.members other = some found at hbefore
      rw [hmembers] at hbefore
      exact h.left other found hbefore
  · intro other found hfound hother
    rcases setMember_cases hfound with ⟨-, rfl⟩ | ⟨-, hbefore⟩
    · exact hpresent
    · change between.members other = some found at hbefore
      rw [hmembers] at hbefore
      exact h.kept other found hbefore hother

theorem Sound.register (h : hub.Sound) {id : ConnId} {member : Member}
    (hmember : hub.members id = some member) (hcreated : member.registration = .created)
    (subscribed : Bool) : (hub.register id member subscribed).Sound := by
  unfold RoomHub.register
  dsimp only
  split
  next room hroom =>
    refine h.join hmember hcreated rfl rfl rfl (fun other => ?_) ?_ h.bound
    · simp [InMap, hroom]
    · refine h.owners.congr (fun owner subscription => ?_) fun _ => Iff.rfl
      cases owner with
      | inr call => exact Iff.rfl
      | inl documentId =>
          rw [setRoom_owns]
          by_cases heq : documentId = member.client.documentId
          · subst heq
            simp [Owns, hroom]
          · simp [heq]
  next hnone =>
    split
    next =>
      have hbetween : hub.subscribe.members = hub.members := rfl
      refine h.join hmember hcreated hbetween rfl rfl (fun other => ?_) ?_ ?_
      · simp [InMap, hnone]
      · have hfresh : hub.nextSubscription ∉ hub.subscriptions :=
          fun hlive => absurd (h.bound _ hlive) (lt_irrefl _)
        refine h.owners.acquire (.inl member.client.documentId) hfresh
          (fun owner subscription => ?_) fun subscription => ?_
        · cases owner with
          | inr call =>
              simp only [reduceCtorEq, false_and, or_false]
              exact Iff.rfl
          | inl documentId =>
              rw [setRoom_owns]
              by_cases heq : documentId = member.client.documentId
              · subst heq
                simp [Owns, hnone, eq_comm]
              · simp only [heq, false_and, ne_eq, not_false_eq_true, true_and, false_or,
                  Sum.inl.injEq, or_false]
                exact Iff.rfl
        · simp [subscribe, or_comm]
      · intro subscription hlive
        rcases Finset.mem_insert.mp hlive with rfl | hold
        · exact Nat.lt_succ_self _
        · exact (h.bound subscription hold).trans (Nat.lt_succ_self _)
    next =>
      have hpresent : member.removed = false := h.kept id member hmember (.inl (by simp [hcreated]))
      refine h.setOutside (fun found hfound => ?_) (by simp) hpresent
        ((h.left id member hmember).2 hpresent)
      cases hmember.symm.trans hfound
      simp [hcreated]

/-- The first `Unregister` takes the client out of its room. -/
theorem Sound.leave (h : hub.Sound) {id : ConnId} {member : Member} {call : UnregisterId}
    {row : Option Room} {subscription : Option SubId} (hmember : hub.members id = some member)
    (hcall : hub.calls call = some ⟨id, .removing⟩) (hmarked : member.marked = some call)
    (hpresent : member.removed = false)
    (hrow : ∀ room, row = some room → room.clients.Nonempty)
    (hclients : ∀ other, (∃ room, row = some room ∧ other ∈ room.clients) ↔
      other ≠ id ∧ hub.InMap other member.client.documentId)
    (howners : Ownership (((hub.setMember id { member with removed := true }).setRoom
      member.client.documentId row).setCall call ⟨id, .notifying subscription⟩).Owns
      (· ∈ hub.subscriptions)) :
    (((hub.setMember id { member with removed := true }).setRoom member.client.documentId
      row).setCall call ⟨id, .notifying subscription⟩).Sound := by
  have hregistered := (h.caller hmember hcall).1
  have hgone : ∀ documentId, ¬ { member with removed := true }.Present documentId := by
    rintro documentId ⟨-, -, hkept⟩
    cases hkept
  refine ⟨?_, ?_, howners, h.bound, ?_, ?_, ?_⟩
  · intro documentId room hroom
    dsimp only [setCall, setRoom, setMember] at hroom
    by_cases heq : documentId = member.client.documentId
    · rw [heq, Function.update_self] at hroom
      exact hrow room hroom
    · rw [Function.update_of_ne heq] at hroom
      exact h.nonempty documentId room hroom
  · intro other documentId
    refine (setRoom_inMap other documentId).trans ?_
    change _ ↔ ∃ found, (hub.setMember id _).members other = some found ∧ _
    by_cases heq : other = id
    · subst heq
      rw [setMember_members_self]
      constructor
      · rintro (⟨-, hleft⟩ | ⟨hother, hbefore⟩)
        · exact absurd rfl ((hclients other).mp hleft).1
        · obtain ⟨found, hfound, hdocument, -⟩ := (h.present other documentId).mp hbefore
          cases hmember.symm.trans hfound
          exact absurd hdocument.symm hother
      · rintro ⟨found, hfound, hstays⟩
        cases hfound
        exact absurd hstays (hgone documentId)
    · rw [setMember_members_of_ne heq, ← h.present other documentId]
      constructor
      · rintro (⟨rfl, hleft⟩ | ⟨-, hbefore⟩)
        · exact ((hclients other).mp hleft).2
        · exact hbefore
      · intro hbefore
        by_cases hdocument : documentId = member.client.documentId
        · exact .inl ⟨hdocument, (hclients other).mpr ⟨heq, hdocument ▸ hbefore⟩⟩
        · exact .inr ⟨hdocument, hbefore⟩
  · intro other state hstate
    change ∃ found, (hub.setMember id _).members state.client = some found ∧ _
    rcases setCall_cases hstate with ⟨rfl, rfl⟩ | ⟨hne, hbefore⟩
    · exact ⟨_, setMember_members_self .., hregistered, hmarked, rfl,
        (h.left id member hmember).2 hpresent⟩
    · obtain ⟨found, hfound, hfoundRegistered, hfits⟩ := h.call other state hbefore
      by_cases heq : state.client = id
      · rw [heq] at hfound ⊢
        cases hmember.symm.trans hfound
        refine ⟨_, setMember_members_self .., hregistered, ?_⟩
        -- no other call is past the mark
        cases hstage : state.stage with
        | marking | finished => trivial
        | missing =>
            rw [hstage] at hfits
            exact hfits
        | removing | notifying | closing | closingSubscription =>
            rw [hstage] at hfits
            exact absurd (Option.some.inj (hfits.1.symm.trans hmarked)) hne
      · exact ⟨found, (setMember_members_of_ne heq _).trans hfound, hfoundRegistered, hfits⟩
  · intro other found hfound
    rcases setMember_cases hfound with ⟨-, rfl⟩ | ⟨-, hbefore⟩
    · exact ⟨(h.left id member hmember).1, fun hkept => by cases hkept⟩
    · exact h.left other found hbefore
  · intro other found hfound hother
    rcases setMember_cases hfound with ⟨-, rfl⟩ | ⟨-, hbefore⟩
    · rcases hother with hne | hnone
      · exact absurd hregistered hne
      · cases hnone.symm.trans hmarked
    · exact h.kept other found hbefore hother

/-- A call holds what its stage says, all else is owned as before. -/
theorem setCall_owns_call {call : UnregisterId} {state : UnregisterCall} (other : UnregisterId)
    (subscription : SubId) : (hub.setCall call state).Owns (.inr other) subscription ↔
      other = call ∧ state.stage.holds = some subscription ∨
        other ≠ call ∧ hub.Owns (.inr other) subscription := by
  dsimp only [Owns, setCall]
  by_cases heq : other = call
  · subst heq
    simp
  · simp [heq]

theorem Sound.remove (h : hub.Sound) {id : ConnId} {member : Member} {call : UnregisterId}
    (hmember : hub.members id = some member) (hcall : hub.calls call = some ⟨id, .removing⟩)
    (hmarked : member.marked = some call) (hpresent : member.removed = false) :
    (hub.remove call id member).Sound := by
  have hregistered := (h.caller hmember hcall).1
  -- the client is still in its room
  obtain ⟨room, hroom, hclient⟩ := (h.present id member.client.documentId).mpr
    ⟨member, hmember, rfl, hregistered, hpresent⟩
  have hidle : ∀ subscription, ¬ hub.Owns (.inr call) subscription := by
    rintro subscription ⟨state, hstate, hholds⟩
    cases hcall.symm.trans hstate
    cases hholds
  have hinMap : ∀ other, hub.InMap other member.client.documentId ↔ other ∈ room.clients := by
    intro other
    simp [InMap, hroom]
  unfold RoomHub.remove
  dsimp only
  rw [hroom]
  dsimp only
  split
  next hempty =>
    refine h.leave hmember hcall hmarked hpresent (fun _ hrow => by cases hrow)
      (fun other => ?_) ?_
    · rw [hinMap, ← Finset.mem_erase, hempty]
      simp
    · have hlive : room.sub ∈ hub.subscriptions :=
        h.owners.lives (.inl member.client.documentId) room.sub ⟨room, hroom, rfl⟩
      refine h.owners.transfer (.inr call) hlive (fun owner subscription => ?_) fun _ => Iff.rfl
      cases owner with
      | inl documentId =>
          refine (setRoom_owns documentId subscription).trans ?_
          simp only [Option.map_none, reduceCtorEq, and_false, false_or, false_and, or_false]
          constructor
          · rintro ⟨hother, howns⟩
            refine ⟨howns, fun hsame => hother ?_⟩
            have howner := h.owners.unique (.inl documentId) (.inl member.client.documentId)
              subscription howns ⟨room, hroom, hsame.symm⟩
            exact Sum.inl.inj howner
          · rintro ⟨howns, hother⟩
            refine ⟨fun hsame => hother ?_, howns⟩
            obtain ⟨found, hfound, hsub⟩ := howns
            rw [hsame] at hfound
            cases hroom.symm.trans hfound
            exact hsub.symm
      | inr other =>
          rw [setCall_owns_call]
          change _ ∨ other ≠ call ∧ hub.Owns (.inr other) subscription ↔ _
          simp only [UnregisterStage.holds, Option.some.injEq, Sum.inr.injEq]
          constructor
          · rintro (⟨rfl, hsame⟩ | ⟨-, howns⟩)
            · exact .inr ⟨rfl, hsame.symm⟩
            · refine .inl ⟨howns, fun hsame => ?_⟩
              have howner := h.owners.unique (.inr other) (.inl member.client.documentId)
                subscription howns ⟨room, hroom, hsame.symm⟩
              cases howner
          · rintro (⟨howns, -⟩ | ⟨rfl, hsame⟩)
            · refine .inr ⟨?_, howns⟩
              rintro rfl
              exact hidle subscription howns
            · exact .inl ⟨rfl, hsame.symm⟩
  next hothers =>
    refine h.leave hmember hcall hmarked hpresent (fun found hrow => ?_) (fun other => ?_) ?_
    · cases hrow
      exact Finset.nonempty_iff_ne_empty.mpr hothers
    · rw [hinMap, ← Finset.mem_erase]
      simp
    · refine h.owners.congr (fun owner subscription => ?_) fun _ => Iff.rfl
      cases owner with
      | inl documentId =>
          refine (setRoom_owns documentId subscription).trans ?_
          by_cases heq : documentId = member.client.documentId
          · subst heq
            simp [Owns, hroom]
          · simp only [heq, false_and, ne_eq, not_false_eq_true, true_and, false_or]
            exact Iff.rfl
      | inr other =>
          rw [setCall_owns_call]
          change _ ∨ other ≠ call ∧ hub.Owns (.inr other) subscription ↔ _
          simp only [UnregisterStage.holds, reduceCtorEq, and_false, false_or, ne_eq]
          refine ⟨fun howns => howns.2, fun howns => ⟨?_, howns⟩⟩
          rintro rfl
          exact hidle subscription howns

/-- The subscription of an emptied room is closed. -/
theorem Sound.closeSubscription (h : hub.Sound) {id : ConnId} {call : UnregisterId}
    {subscription : SubId} (hcall : hub.calls call = some ⟨id, .closingSubscription subscription⟩) :
    ({ hub with subscriptions := hub.subscriptions.erase subscription }.setCall call
      ⟨id, .finished⟩).Sound := by
  have howner : hub.Owns (.inr call) subscription := ⟨_, hcall, rfl⟩
  refine ⟨h.nonempty, h.present, ?_, ?_, ?_, h.left, h.kept⟩
  · refine h.owners.release subscription (fun owner other => ?_) fun other => ?_
    · cases owner with
      | inl documentId =>
          refine ⟨fun howns => ⟨howns, fun hsame => ?_⟩, fun howns => howns.1⟩
          subst hsame
          cases h.owners.unique (.inl documentId) (.inr call) other howns howner
      | inr holder =>
          rw [setCall_owns_call]
          change _ ∨ holder ≠ call ∧ hub.Owns (.inr holder) other ↔ _
          simp only [UnregisterStage.holds, reduceCtorEq, and_false, false_or]
          constructor
          · rintro ⟨hne, howns⟩
            refine ⟨howns, fun hsame => hne ?_⟩
            subst hsame
            exact Sum.inr.inj (h.owners.unique (.inr holder) (.inr call) other howns howner)
          · rintro ⟨howns, hother⟩
            refine ⟨?_, howns⟩
            rintro rfl
            obtain ⟨state, hstate, hholds⟩ := howns
            cases hcall.symm.trans hstate
            exact hother (Option.some.inj hholds).symm
    · change other ∈ hub.subscriptions.erase subscription ↔ _
      rw [Finset.mem_erase, and_comm]
  · intro other hlive
    exact h.bound other (Finset.mem_of_mem_erase hlive)
  · intro other state hstate
    rcases setCall_cases hstate with ⟨rfl, rfl⟩ | ⟨-, hbefore⟩
    · obtain ⟨member, hmember, hregistered, -⟩ := h.call other _ hcall
      exact ⟨member, hmember, hregistered, trivial⟩
    · exact h.call other state hbefore

theorem Sound.run (h : hub.Sound) {id : ConnId} {member : Member} {call : UnregisterId}
    {stage : UnregisterStage} (hmember : hub.members id = some member)
    (hcall : hub.calls call = some ⟨id, stage⟩) {after : RoomHub}
    (hrun : hub.run call id member stage = some after) : after.Sound := by
  have hfits := (h.caller hmember hcall).2
  have hleft := h.left id member hmember
  -- nobody reads whether the client is closed
  have hclose : ∀ after : UnregisterStage, after.holds = stage.holds →
      after.Fits call { member with done := true } →
      ((hub.setMember id { member with done := true }).setCall call ⟨id, after⟩).Sound := by
    intro after hholds hafter
    refine h.advance hmember hcall rfl rfl rfl (fun h => h) hholds hafter
      (fun other stage _ hstage => ?_) hleft
    cases stage <;> exact hstage
  cases stage with
  | marking =>
      cases hrun
      cases hmarked : member.marked with
      | some first =>
          have hsame : ((hub.setMember id member).setCall call ⟨id, .finished⟩).Sound :=
            h.advance hmember hcall rfl rfl rfl (fun h => h) rfl trivial
              (fun _ _ _ hstage => hstage) hleft
          rwa [setMember_self hmember] at hsame
      | none =>
          have hpresent : member.removed = false := h.kept id member hmember (.inr hmarked)
          refine h.advance hmember hcall rfl rfl rfl (fun h => by cases h) rfl ⟨rfl, hpresent⟩
            (fun other stage _ hstage => ?_) hleft
          cases stage with
          | marking | finished => trivial
          | missing => exact hstage
          | removing | notifying | closing | closingSubscription =>
              cases hmarked.symm.trans hstage.1
  | removing =>
      cases hrun
      exact h.remove hmember hcall hfits.1 hfits.2
  | missing => exact hfits.elim
  | notifying subscription =>
      cases hrun
      obtain ⟨hmarked, hremoved, hzero⟩ := hfits
      refine h.advance hmember hcall rfl rfl rfl (fun h => h) rfl ⟨hmarked, hremoved⟩
        (fun other stage hne hstage => ?_) ?_
      · cases stage with
        | marking | finished => trivial
        | missing => exact hstage
        | removing | closing | closingSubscription => exact hstage
        | notifying => exact absurd (Option.some.inj (hstage.1.symm.trans hmarked)) hne
      · exact ⟨by simp [hzero], fun hkept => by simp [hremoved] at hkept⟩
  | closing subscription =>
      cases subscription with
      | none =>
          cases hrun
          exact hclose .finished rfl trivial
      | some subscription =>
          cases hrun
          exact hclose (.closingSubscription subscription) rfl hfits
  | closingSubscription subscription =>
      cases hrun
      exact h.closeSubscription hcall
  | finished => cases hrun

theorem Sound.step (h : hub.Sound) {event : Event} {after : RoomHub}
    (hstep : hub.step event = some after) : after.Sound := by
  cases event with
  | create id client =>
      simp only [RoomHub.step, Option.ite_none_left_eq_some, Option.some.injEq] at hstep
      obtain ⟨hnone, rfl⟩ := hstep
      refine h.setOutside (fun member hmember => ?_) (by simp) rfl rfl
      simp [hmember] at hnone
  | register id subscribed =>
      obtain ⟨member, hmember, hstep⟩ := Option.bind_eq_some_iff.mp hstep
      split at hstep
      next hcreated =>
        cases hstep
        exact h.register hmember hcreated subscribed
      next => cases hstep
  | unregister call id =>
      obtain ⟨member, hmember, hstep⟩ := Option.bind_eq_some_iff.mp hstep
      split at hstep
      next hregistered =>
        cases hstep
        obtain ⟨hregistered, hnone⟩ := hregistered
        refine ⟨h.nonempty, h.present, ?_, h.bound, ?_, h.left, h.kept⟩
        · refine h.owners.congr (setCall_owns ⟨id, .marking⟩ ?_ rfl) fun _ => Iff.rfl
          rw [Option.isNone_iff_eq_none.mp hnone]
          rfl
        · intro other state hstate
          rcases setCall_cases hstate with ⟨-, rfl⟩ | ⟨-, hbefore⟩
          · exact ⟨member, hmember, hregistered, trivial⟩
          · exact h.call other state hbefore
      next => cases hstep
  | run call =>
      obtain ⟨state, hstate, hstep⟩ := Option.bind_eq_some_iff.mp hstep
      obtain ⟨member, hmember, hrun⟩ := Option.bind_eq_some_iff.mp hstep
      exact h.run hmember hstate hrun

theorem Sound.consistent (h : hub.Sound) : hub.Consistent where
  room documentId room hroom :=
    ⟨h.nonempty documentId room hroom, h.owners.lives (.inl documentId) room.sub
      ⟨room, hroom, rfl⟩⟩
  document documentId id hinMap := by
    obtain ⟨member, hmember, hdocument, -⟩ := (h.present id documentId).mp hinMap
    exact ⟨member, hmember, hdocument⟩
  present id := by
    constructor
    · rintro ⟨documentId, hinMap⟩
      obtain ⟨member, hmember, -, hrest⟩ := (h.present id documentId).mp hinMap
      exact ⟨member, hmember, hrest⟩
    · rintro ⟨member, hmember, hrest⟩
      exact ⟨member.client.documentId, (h.present id _).mpr ⟨member, hmember, rfl, hrest⟩⟩
  owned subscription hlive := by
    obtain ⟨owner, howner⟩ := h.owners.owned subscription hlive
    have hunique : ∀ other, hub.Owns other subscription → other = owner :=
      fun other hother => h.owners.unique other owner subscription hother howner
    cases owner with
    | inl documentId =>
        refine .inl ⟨⟨documentId, howner, fun other hother => ?_⟩, fun call hcall => ?_⟩
        · exact Sum.inl.inj (hunique (.inl other) hother)
        · cases hunique (.inr call) hcall
    | inr call =>
        refine .inr ⟨⟨call, howner, fun other hother => ?_⟩, fun documentId hroom => ?_⟩
        · exact Sum.inr.inj (hunique (.inr other) hother)
        · cases hunique (.inl documentId) hroom
  found call state hstate hmissing := by
    obtain ⟨member, -, -, hfits⟩ := h.call call state hstate
    rw [hmissing] at hfits
    exact hfits
  left id member hmember := (h.left id member hmember).1

theorem reachable_sound (hreach : system.Reachable hub) : hub.Sound := by
  refine hreach.invariant system Sound ?_ ?_
  · intro state hinit
    cases hinit
    exact empty_sound
  · exact fun state event after _ h _ hstep => h.step hstep

/-- The room invariant holds whatever calls run at a time. -/
theorem reachable_roomsConsistent (hreach : system.Reachable hub) : hub.Consistent :=
  (reachable_sound hreach).consistent

/-- A room is opened again while the call that emptied it has not closed its
subscription. -/
def reopenedRoom : List Event :=
  [.create 0 ⟨1, "owner", 7, "OWNER", 64⟩, .register 0 true, .unregister 0 0, .unregister 1 0,
    .run 1, .run 0, .run 1, .create 1 ⟨2, "editor", 7, "EDITOR", 64⟩, .register 1 true]

theorem reachable_roomsConsistent_reopened : ∃ hub : RoomHub, system.Reachable hub ∧
    hub.Consistent ∧ (hub.subscriptions = {0, 1} ∧
      hub.calls 1 = some ⟨0, .notifying (some 0)⟩) := by
  obtain ⟨hub, hreach, hcheck⟩ := system.exists_reachable_of_exec
    (.init rfl : system.Reachable empty) reopenedRoom
    (fun hub => hub.subscriptions = {0, 1} ∧ hub.calls 1 = some ⟨0, .notifying (some 0)⟩)
    (by decide)
  exact ⟨hub, hreach, reachable_roomsConsistent hreach, of_decide_eq_true hcheck⟩

end RoomHub

end CollabEditor.Hub
