import CollabEditor.Frontend.PageVisits

/-! # The gate in front of a document

The routes `open` and `collab` lead to a page that looks the lock of the document up and sends
the user on. On its way to the editor it takes the exclusive lock, and it never gives one back.
-/

namespace CollabEditor.Frontend

inductive EntryIntent
  | opening
  | collab
deriving DecidableEq, Repr

inductive LockState
  | none
  | exclusive
  | collaborative
deriving DecidableEq, Repr

/-- What the gate reads of a lock: a collaborative one names nobody. -/
structure GateLock where
  lockedByUsername : Option String
  lockType : DocumentLockType
deriving DecidableEq, Repr

/-- Where the gate sends the user. -/
inductive Destination
  | readonly (documentId : Int)
  | edit (documentId : Int)
  | collabInit (documentId : Int)
  | collabJoin (documentId : Int)
  | library
deriving DecidableEq, Repr

/-- `DocumentEntryGatePageComponent`. The last field is a record. -/
structure EntryGatePage where
  routeDocumentId : Option Int
  intent : EntryIntent
  /-- The document of the subscription that the cleanup ends, and what it waits for. -/
  visit : Option Int
  stage : Option LoadStage
  loading : Bool
  error : Option String
  lockModalOpen : Bool
  lockedByUsername : Option String
  lockState : LockState
  destroyed : Bool
  navigations : List Destination
deriving DecidableEq, Repr

namespace EntryGatePage

/-- A new page. -/
def fresh (routeDocumentId : Option Int) (intent : EntryIntent) : EntryGatePage where
  routeDocumentId := routeDocumentId
  intent := intent
  visit := none
  stage := none
  loading := true
  error := none
  lockModalOpen := false
  lockedByUsername := none
  lockState := .none
  destroyed := false
  navigations := []

variable (page : EntryGatePage)

def navigate (destination : Destination) : EntryGatePage :=
  { page with navigations := page.navigations ++ [destination] }

def unsubscribed : EntryGatePage := { page with visit := none, stage := none }

/-- The body of the effect; the hint is in the history entry that led here. -/
def load (permissionHint : Option DocPermission) : EntryGatePage :=
  match page.routeDocumentId with
  | none =>
      { page with
        loading := false
        error := some "Missing or invalid document id." }
  | some documentId =>
      if permissionHint = some .viewer then
        { page with
          loading := false
          error := none
          lockModalOpen := false
          lockedByUsername := none
          lockState := .none }.navigate (.readonly documentId)
      else
        { page with
          visit := some documentId
          stage := some .lookup
          loading := true
          error := none
          lockModalOpen := false
          lockedByUsername := none
          lockState := .none }

/-- A lock of anybody, the user included, opens the dialog; a 404 is `none`. -/
def lookedUp (documentId : Int) : Option GateLock → EntryGatePage
  | some lock =>
      { page with
        stage := none
        lockedByUsername := lock.lockedByUsername
        lockState := match lock.lockType with
          | .collaborative => .collaborative
          | .exclusive => .exclusive
        lockModalOpen := true
        loading := false }
  | none =>
      if page.intent = .collab then
        { page with stage := none, loading := false }.navigate (.collabInit documentId)
      else { page with stage := some .lock }

/-- The document, or the empty answer to a user without a permission. -/
def opened (documentId : Int) (myPermission : Option DocPermission) : EntryGatePage :=
  { page with stage := none, loading := false }.navigate <|
    if myPermission = none ∨ myPermission = some DocPermission.viewer then .readonly documentId
    else .edit documentId

def failed (message : String) : EntryGatePage :=
  { page with
    stage := none
    error := some message
    loading := false }

/-- A button of the dialog. -/
def leave (destination : Int → Destination) : EntryGatePage :=
  match page.routeDocumentId with
  | none => page
  | some documentId => { page with lockModalOpen := false }.navigate (destination documentId)

inductive Event
  | route (routeDocumentId : Option Int)
  | runEffect (permissionHint : Option DocPermission)
  | lookedUp (lock : Option GateLock)
  | locked
  | document (myPermission : Option DocPermission)
  | failed (message : String)
  | openReadonlyMode
  | joinCollaborativeSession
  | returnToLibrary
  | destroy
deriving DecidableEq

/-- An answer of the backend, not something that happens in the browser. -/
def Event.isAnswer : Event → Bool
  | .lookedUp _ | .locked | .document _ | .failed _ => true
  | _ => false

/-- The visit is cleaned up. -/
def Event.endsVisit : Event → Bool
  | .runEffect _ | .destroy => true
  | _ => false

/-- The dialog shows these buttons. -/
def offers (lockState : LockState) : Bool :=
  !page.destroyed && !page.loading && page.error.isNone && page.lockModalOpen &&
    page.lockState = lockState

/-- An answer reaches the visit that waits for it. -/
def answer (stage : LoadStage) (next : Int → EntryGatePage) : Option EntryGatePage :=
  if page.stage = some stage then page.visit.map next else none

def step : Event → Option EntryGatePage
  | .route routeDocumentId =>
      if page.destroyed ∨ routeDocumentId = page.routeDocumentId then none
      else some { page with routeDocumentId := routeDocumentId }
  -- the route is not all it reads: the interceptor reads the access token as the lookup is sent
  | .runEffect permissionHint =>
      if page.destroyed then none else some (page.unsubscribed.load permissionHint)
  | .lookedUp lock => page.answer .lookup fun documentId => page.lookedUp documentId lock
  | .locked => page.answer .lock fun _ => { page with stage := some .document }
  | .document myPermission =>
      page.answer .document fun documentId => page.opened documentId myPermission
  | .failed message => if page.stage.isSome then some (page.failed message) else none
  | .openReadonlyMode => if page.offers .exclusive then some (page.leave .readonly) else none
  | .joinCollaborativeSession =>
      if page.offers .collaborative then some (page.leave .collabJoin) else none
  | .returnToLibrary =>
      if page.offers .exclusive ∨ page.offers .collaborative then
        some ({ page with lockModalOpen := false }.navigate .library)
      else none
  | .destroy => if page.destroyed then none else some { page.unsubscribed with destroyed := true }

/-! ## What a step does to the visit -/

variable {page next : EntryGatePage}

theorem mem_navigate {destination other : Destination} :
    destination ∈ (page.navigate other).navigations ↔
      destination ∈ page.navigations ∨ destination = other := by
  simp [navigate]

theorem answer_eq_some_iff {stage : LoadStage} {f : Int → EntryGatePage} :
    page.answer stage f = some next ↔
      page.stage = some stage ∧
        ∃ documentId, page.visit = some documentId ∧ f documentId = next := by
  rw [answer, Option.ite_none_right_eq_some, Option.map_eq_some_iff]

/-- The user is not sent to the editor. -/
structure KeepsOut (before after : List Destination) : Prop where
  kept : before ⊆ after
  edit : ∀ documentId, .edit documentId ∈ after → .edit documentId ∈ before

theorem KeepsOut.refl (navigations : List Destination) : KeepsOut navigations navigations :=
  ⟨fun _ hmem => hmem, fun _ hmem => hmem⟩

theorem KeepsOut.snoc (navigations : List Destination) {destination : Destination}
    (hedit : ∀ documentId, destination ≠ .edit documentId) :
    KeepsOut navigations (navigations ++ [destination]) where
  kept := List.subset_append_left _ _
  edit documentId hmem := by
    rcases List.mem_append.mp hmem with hold | hnew
    · exact hold
    · exact absurd (List.mem_singleton.mp hnew).symm (hedit documentId)

/-- What happens in the browser: a visit ends, and the next one begins with a lookup, or the
visit goes on. -/
inductive Browsed (page : EntryGatePage) (event : Event) (next : EntryGatePage) : Prop
  | ended (hends : event.endsVisit = true) (hstage : next.stage ≠ some .document)
      (hout : KeepsOut page.navigations next.navigations)
  | goesOn (hgoes : event.endsVisit = false) (hvisit : next.visit = page.visit)
      (hstage : next.stage = page.stage) (hout : KeepsOut page.navigations next.navigations)

theorem load_keepsOut (page : EntryGatePage) (permissionHint : Option DocPermission) :
    KeepsOut page.navigations (page.load permissionHint).navigations := by
  unfold load
  split
  next => exact .refl _
  next documentId hroute =>
    split
    next => exact .snoc _ nofun
    next => exact .refl _

theorem load_stage (page : EntryGatePage) (permissionHint : Option DocPermission) :
    (page.unsubscribed.load permissionHint).stage ≠ some .document := by
  unfold load
  split
  next => exact nofun
  next =>
    split
    next => exact nofun
    next => exact nofun

theorem leave_browsed {event : Event} (hevent : event.endsVisit = false)
    {destination : Int → Destination}
    (hedit : ∀ documentId other, destination documentId ≠ .edit other) :
    page.Browsed event (page.leave destination) := by
  unfold EntryGatePage.leave
  split
  next => exact .goesOn hevent rfl rfl (.refl _)
  next documentId hroute => exact .goesOn hevent rfl rfl (.snoc _ (hedit documentId))

theorem step_browser {event : Event} (hevent : event.isAnswer = false)
    (hstep : page.step event = some next) : page.Browsed event next := by
  cases event with
  | route routeDocumentId =>
      obtain ⟨-, hnext⟩ := Option.ite_none_left_eq_some.mp hstep
      cases hnext
      exact .goesOn rfl rfl rfl (.refl _)
  | runEffect permissionHint =>
      obtain ⟨-, hnext⟩ := Option.ite_none_left_eq_some.mp hstep
      cases hnext
      exact .ended rfl (page.load_stage permissionHint) (page.unsubscribed.load_keepsOut _)
  | openReadonlyMode =>
      obtain ⟨-, hnext⟩ := Option.ite_none_right_eq_some.mp hstep
      cases hnext
      exact leave_browsed rfl nofun
  | joinCollaborativeSession =>
      obtain ⟨-, hnext⟩ := Option.ite_none_right_eq_some.mp hstep
      cases hnext
      exact leave_browsed rfl nofun
  | returnToLibrary =>
      obtain ⟨-, hnext⟩ := Option.ite_none_right_eq_some.mp hstep
      cases hnext
      exact .goesOn rfl rfl rfl (.snoc _ nofun)
  | destroy =>
      obtain ⟨-, hnext⟩ := Option.ite_none_left_eq_some.mp hstep
      cases hnext
      exact .ended rfl nofun (.refl _)
  | lookedUp | locked | document | failed => cases hevent

/-- An exclusive lock opens the dialog, and the visit asks for nothing more. -/
theorem step_exclusive {name : Option String}
    (hstep : page.step (.lookedUp (some ⟨name, .exclusive⟩)) = some next) :
    next.stage = none ∧ next.lockModalOpen = true ∧ next.lockState = .exclusive ∧
      next.navigations = page.navigations := by
  obtain ⟨-, documentId, -, rfl⟩ := answer_eq_some_iff.mp hstep
  exact ⟨rfl, rfl, rfl, rfl⟩

/-- What the gate does with an answer. -/
inductive Answered (page : EntryGatePage) (documentId : Int) : Event → EntryGatePage → Prop
  | lookedUp (lock : Option GateLock) (next : EntryGatePage)
      (hstage : next.stage = none ∨ next.stage = some .lock) (hvisit : next.visit = page.visit)
      (hout : KeepsOut page.navigations next.navigations) :
      Answered page documentId (.lookedUp lock) next
  | locked (hlock : page.stage = some .lock) :
      Answered page documentId .locked { page with stage := some .document }
  | document (myPermission : Option DocPermission) (hdocument : page.stage = some .document) :
      Answered page documentId (.document myPermission) (page.opened documentId myPermission)

theorem step_answer {event : Event} (hevent : event.isAnswer = true)
    (hstep : page.step event = some next) :
    (∃ message, event = .failed message ∧ next = page.failed message) ∨
      ∃ documentId, page.visit = some documentId ∧ page.Answered documentId event next := by
  cases event with
  | lookedUp lock =>
      obtain ⟨hstage, documentId, hvisit, rfl⟩ := answer_eq_some_iff.mp hstep
      refine .inr ⟨documentId, hvisit, ?_⟩
      unfold EntryGatePage.lookedUp
      split
      next => exact .lookedUp _ _ (.inl rfl) rfl (.refl _)
      next =>
        split
        next =>
          exact .lookedUp _ _ (.inl rfl) rfl (.snoc _ nofun)
        next => exact .lookedUp _ _ (.inr rfl) rfl (.refl _)
  | locked =>
      obtain ⟨hstage, documentId, hvisit, rfl⟩ := answer_eq_some_iff.mp hstep
      exact .inr ⟨documentId, hvisit, .locked hstage⟩
  | document myPermission =>
      obtain ⟨hstage, documentId, hvisit, rfl⟩ := answer_eq_some_iff.mp hstep
      exact .inr ⟨documentId, hvisit, .document myPermission hstage⟩
  | failed message =>
      obtain ⟨-, hnext⟩ := Option.ite_none_right_eq_some.mp hstep
      cases hnext
      exact .inl ⟨message, rfl, rfl⟩
  | route | runEffect | openReadonlyMode | joinCollaborativeSession | returnToLibrary | destroy =>
      cases hevent

end EntryGatePage

end CollabEditor.Frontend
