import CollabEditor.Foundation.History
import CollabEditor.Frontend.DocumentWorkspacePage

/-! # One workspace page and several documents

The router keeps the page when only the document id of the route changes. A run of the load
effect is a visit of a document: it looks the lock up, takes it and gets the document. The next
run ends the visit, but not a save that is on its way.
-/

namespace CollabEditor.Frontend

open Foundation

inductive DocumentLockType
  | exclusive
  | collaborative
deriving DecidableEq, Repr

/-- What the page reads of a lock. -/
structure DocumentLockDto where
  lockedByUsername : String
  lockType : DocumentLockType
deriving DecidableEq, Repr

/-- A request of the page. -/
inductive PageRequest
  | getDocumentLock (documentId : Int)
  | lockDocument (documentId : Int)
  | getDocument (documentId : Int)
  | unlockDocument (documentId : Int)
  /-- With the document that the text on the page was loaded from, a record. -/
  | saveDocument (documentId : Int) (content : String) (loadedFrom : Option Int)
deriving DecidableEq, Repr

/-- What the subscription of a visit waits for. -/
inductive LoadStage
  | lookup
  | lock
  | document
deriving DecidableEq, Repr

/-- The page. The last five fields are records. -/
structure VisitingPage where
  routeDocumentId : Option Int
  /-- The route has changed since the load effect ran. -/
  due : Bool
  /-- The document whose visit has still to be cleaned up. -/
  visit : Option Int
  stage : Option LoadStage
  title : String
  content : String
  savedContent : String
  permission : DocPermission
  version : Option Int
  lastModified : Option String
  loading : Bool
  error : Option String
  saving : Bool
  saveError : Option String
  lockHeld : Bool
  activeDocumentId : Option Int
  lockModalOpen : Bool
  lockedByUsername : Option String
  destroyed : Bool
  /-- The document of the save that has not been answered. -/
  saveInFlight : Option Int
  requests : List PageRequest
  /-- The visit has asked for the lock. -/
  asked : Bool
  /-- The documents that the text, and that the title and the version are those of. -/
  textOf : Option Int
  titleOf : Option Int
  /-- The documents of the visits that asked for the lock and ended without the document. -/
  abandoned : List Int
deriving DecidableEq, Repr

namespace VisitingPage

/-- A new page. -/
def fresh (routeDocumentId : Option Int) : VisitingPage where
  routeDocumentId := routeDocumentId
  due := true
  visit := none
  stage := none
  title := "Untitled document"
  content := ""
  savedContent := ""
  permission := .viewer
  version := none
  lastModified := none
  loading := true
  error := none
  saving := false
  saveError := none
  lockHeld := false
  activeDocumentId := none
  lockModalOpen := false
  lockedByUsername := none
  destroyed := false
  saveInFlight := none
  requests := []
  asked := false
  textOf := none
  titleOf := none
  abandoned := []

variable (page : VisitingPage)

def canEdit : Bool := page.permission == .owner || page.permission == .editor

def dirty : Bool := page.content ≠ page.savedContent

/-- The cleanup of the load effect. A run for an invalid route has none. -/
def cleanup : VisitingPage :=
  match page.visit with
  | none => page
  | some documentId =>
      { page with
        visit := none
        stage := none
        requests := if page.lockHeld then page.requests ++ [.unlockDocument documentId]
          else page.requests
        lockHeld := false
        activeDocumentId := none
        asked := false
        abandoned := if page.asked = true ∧ page.lockHeld = false then
          page.abandoned ++ [documentId] else page.abandoned }

/-- The body of the load effect. -/
def load : VisitingPage :=
  match page.routeDocumentId with
  | none =>
      { page with
        due := false
        loading := false
        error := some "Missing or invalid document id." }
  | some documentId =>
      { page with
        due := false
        visit := some documentId
        stage := some .lookup
        loading := true
        error := none
        saveError := none
        lockHeld := false
        lockModalOpen := false
        lockedByUsername := none
        activeDocumentId := some documentId
        requests := page.requests ++ [.getDocumentLock documentId] }

/-- `openDocument` starts with the lock. -/
def openDocument (documentId : Int) : VisitingPage :=
  { page with
    stage := some .lock
    asked := true
    requests := page.requests ++ [.lockDocument documentId] }

/-- The lock of another user, or a reason to open the document; a 404 is `none`. -/
def lookedUp (documentId : Int) (lock : Option DocumentLockDto) (currentUser : Option String) :
    VisitingPage :=
  match lock with
  | none => page.openDocument documentId
  | some lock =>
      if some lock.lockedByUsername ≠ currentUser ∧ lock.lockType = .exclusive then
        { page with
          stage := none
          lockedByUsername := some lock.lockedByUsername
          lockModalOpen := true
          loading := false }
      else page.openDocument documentId

def locked (documentId : Int) : VisitingPage :=
  { page with
    stage := some .document
    requests := page.requests ++ [.getDocument documentId] }

/-- The document arrives. -/
def showDocument (documentId : Int) (doc : OpenedDocument String) : VisitingPage :=
  { page with
    stage := none
    title := doc.title
    content := doc.content
    savedContent := doc.content
    permission := doc.myPermission
    version := some doc.version
    lastModified := some doc.lastModified
    lockHeld := true
    loading := false
    textOf := some documentId
    titleOf := some documentId }

def loadFailed (message : String) : VisitingPage :=
  { page with
    stage := none
    error := some message
    loading := false }

/-- `saveDocument` up to its `await`. -/
def saveDocument : VisitingPage :=
  match page.activeDocumentId with
  | none => page
  | some documentId =>
      if page.canEdit = false ∨ page.saving = true ∨ page.dirty = false then page
      else
        { page with
          saving := true
          saveError := none
          saveInFlight := some documentId
          requests := page.requests ++ [.saveDocument documentId page.content page.textOf] }

/-- `saveDocument` goes on, whatever the page shows by now. -/
def saved (documentId : Int) (answer : SavedDocument) : VisitingPage :=
  { page with
    title := answer.title
    version := some answer.version
    lastModified := some answer.lastModified
    savedContent := page.content
    saving := false
    saveInFlight := none
    titleOf := some documentId }

def saveFailed (message : String) : VisitingPage :=
  { page with
    saveError := some message
    saving := false
    saveInFlight := none }

inductive Event
  | navigate (routeDocumentId : Option Int)
  /-- The load effect runs again. -/
  | runEffect
  | lookedUp (lock : Option DocumentLockDto) (currentUser : Option String)
  | locked
  | document (doc : OpenedDocument String)
  /-- An error response to the request that the visit waits for. -/
  | loadFailed (message : String)
  | handleContentChange (value : String)
  /-- The save button, or the interval of the auto-save. -/
  | saveDocument
  | saved (answer : SavedDocument)
  | saveFailed (message : String)
  | destroy

/-- An answer reaches the visit that waits for it. -/
def answer (stage : LoadStage) (next : Int → VisitingPage) : Option VisitingPage :=
  if page.stage = some stage then page.visit.map next else none

def step : Event → Option VisitingPage
  | .navigate routeDocumentId =>
      if page.destroyed ∨ routeDocumentId = page.routeDocumentId then none
      else some { page with routeDocumentId := routeDocumentId, due := true }
  -- the route is not all it reads: the interceptor reads the access token as the lookup is sent
  | .runEffect => if page.destroyed then none else some page.cleanup.load
  | .lookedUp lock currentUser =>
      page.answer .lookup fun documentId => page.lookedUp documentId lock currentUser
  | .locked => page.answer .lock page.locked
  | .document doc => page.answer .document fun documentId => page.showDocument documentId doc
  | .loadFailed message => if page.stage.isSome then some (page.loadFailed message) else none
  | .handleContentChange value =>
      -- otherwise there is no editor on the page
      if page.destroyed = false ∧ page.loading = false ∧ page.error = none then
        some { page with content := value, saveError := none }
      else none
  | .saveDocument => if page.destroyed then none else some page.saveDocument
  | .saved answer => page.saveInFlight.map fun documentId => page.saved documentId answer
  | .saveFailed message => page.saveInFlight.map fun _ => page.saveFailed message
  | .destroy => if page.destroyed then none else some { page.cleanup with destroyed := true }

def system : TransitionSystem VisitingPage Event where
  init page := ∃ routeDocumentId, page = fresh routeDocumentId
  step := step

/-- How often the lock of a document was asked for, and how often it was released. -/
def asks (documentId : Int) : Nat := page.requests.count (.lockDocument documentId)

def releases (documentId : Int) : Nat := page.requests.count (.unlockDocument documentId)

/-- A lock that was asked for was released, or belongs to the visit that goes on, or was left
behind. -/
def Balanced : Prop :=
  ∀ documentId, page.asks documentId = page.releases documentId +
    page.abandoned.count documentId +
      if page.visit = some documentId ∧ page.asked = true then 1 else 0

/-- What a visit has come to. -/
structure Sound : Prop where
  active : page.activeDocumentId = page.visit
  waiting : ∀ stage, page.stage = some stage →
    page.visit.isSome = true ∧ page.lockHeld = false ∧ page.asked = decide (stage ≠ .lookup)
  shown : page.lockHeld = true → page.asked = true ∧ page.textOf = page.visit
  asked : page.asked = true → page.visit.isSome = true
  balanced : page.Balanced

/-! ## Every step of a visit -/

variable {page}

theorem Sound.fresh (routeDocumentId : Option Int) : (fresh routeDocumentId).Sound where
  active := rfl
  waiting := nofun
  shown := nofun
  asked := nofun
  balanced _ := rfl

/-- Requests other than those for locks. -/
theorem Balanced.append (h : page.Balanced) {next : VisitingPage} {request : PageRequest}
    (hrequests : next.requests = page.requests ++ [request])
    (hlock : ∀ documentId, request ≠ .lockDocument documentId)
    (hunlock : ∀ documentId, request ≠ .unlockDocument documentId)
    (hvisit : next.visit = page.visit) (hasked : next.asked = page.asked)
    (habandoned : next.abandoned = page.abandoned) : next.Balanced := by
  intro documentId
  have hbefore := h documentId
  rw [asks, releases] at hbefore ⊢
  rw [hrequests, hvisit, hasked, habandoned, List.count_append, List.count_append,
    List.count_singleton, List.count_singleton, if_neg (by simpa using hlock documentId),
    if_neg (by simpa using hunlock documentId)]
  exact hbefore

/-- The lock is released, or left behind. -/
theorem Sound.cleanup (h : page.Sound) : page.cleanup.Sound ∧ page.cleanup.visit = none ∧
    page.cleanup.asked = false := by
  unfold VisitingPage.cleanup
  split
  next hnone =>
    have hasked : page.asked = false := by
      cases hasked : page.asked with
      | false => rfl
      | true =>
          have hvisit := h.asked hasked
          rw [hnone] at hvisit
          cases hvisit
    exact ⟨h, hnone, hasked⟩
  next documentId hvisit =>
    refine ⟨⟨rfl, nofun, nofun, nofun, ?_⟩, rfl, rfl⟩
    intro other
    have hbefore := h.balanced other
    rw [asks, releases, hvisit] at hbefore
    simp only [asks, releases, reduceCtorEq, false_and, if_false, Nat.add_zero]
    cases hheld : page.lockHeld with
    | true =>
        have hasked := (h.shown hheld).1
        simp only [hasked, and_true, Option.some.injEq] at hbefore
        simp only [if_true, Bool.true_eq_false, and_false, if_false, List.count_append,
          List.count_singleton, beq_iff_eq, PageRequest.unlockDocument.injEq, reduceCtorEq,
          hasked]
        omega
    | false =>
        simp only [Bool.false_eq_true, if_false, and_true]
        cases hasked : page.asked with
        | true =>
            simp only [hasked, and_true, Option.some.injEq] at hbefore
            simp only [if_true, List.count_append, List.count_singleton, beq_iff_eq]
            omega
        | false =>
            simp only [hasked, Bool.false_eq_true, and_false, if_false] at hbefore
            simpa using hbefore

/-- A new visit, after the cleanup. -/
theorem Sound.load (h : page.Sound) (hvisit : page.visit = none) (hasked : page.asked = false) :
    page.load.Sound := by
  have hidle : page.stage = none := by
    cases hstage : page.stage with
    | none => rfl
    | some stage =>
        have hsome := (h.waiting stage hstage).1
        rw [hvisit] at hsome
        cases hsome
  unfold VisitingPage.load
  split
  next => exact ⟨h.active, h.waiting, h.shown, h.asked, h.balanced⟩
  next documentId hroute =>
    refine ⟨rfl, ?_, nofun, fun hasked' => ?_, ?_⟩
    · rintro stage ⟨⟩
      exact ⟨rfl, rfl, by rw [hasked]; rfl⟩
    · exact rfl
    · intro other
      have hbefore := h.balanced other
      simpa [asks, releases, hvisit, hasked, List.count_append] using hbefore

theorem Sound.openDocument (h : page.Sound) {documentId : Int}
    (hvisit : page.visit = some documentId) (hstage : page.stage = some .lookup) :
    (page.openDocument documentId).Sound := by
  obtain ⟨-, hheld, hasked⟩ := h.waiting .lookup hstage
  refine ⟨h.active, ?_, ?_, fun _ => by rw [VisitingPage.openDocument, hvisit]; rfl, ?_⟩
  · rintro stage ⟨⟩
    exact ⟨by rw [VisitingPage.openDocument, hvisit]; rfl, hheld, rfl⟩
  · intro hshown
    exact absurd (hheld.symm.trans hshown) Bool.false_ne_true
  · intro other
    have hbefore := h.balanced other
    rw [asks, releases, hvisit, hasked] at hbefore
    simp only [asks, releases, VisitingPage.openDocument, hvisit, List.count_append,
      List.count_singleton, beq_iff_eq, PageRequest.lockDocument.injEq, reduceCtorEq, if_false,
      Option.some.injEq, and_true] at hbefore ⊢
    simp only [ne_eq, not_true_eq_false, decide_false, Bool.false_eq_true, and_false, if_false,
      Nat.add_zero] at hbefore
    omega

/-- An answer is that to the visit. -/
theorem answer_some {stage : LoadStage} {f : Int → VisitingPage} {next : VisitingPage}
    (hanswer : page.answer stage f = some next) :
    page.stage = some stage ∧ ∃ documentId, page.visit = some documentId ∧ next = f documentId := by
  obtain ⟨hstage, hnext⟩ := Option.ite_none_right_eq_some.mp hanswer
  obtain ⟨documentId, hvisit, rfl⟩ := Option.map_eq_some_iff.mp hnext
  exact ⟨hstage, documentId, hvisit, rfl⟩

theorem Sound.step (h : page.Sound) {event : Event} {next : VisitingPage}
    (hstep : page.step event = some next) : next.Sound := by
  cases event with
  | navigate routeDocumentId =>
      obtain ⟨-, hnext⟩ := Option.ite_none_left_eq_some.mp hstep
      cases hnext
      exact ⟨h.active, h.waiting, h.shown, h.asked, h.balanced⟩
  | runEffect =>
      obtain ⟨-, hnext⟩ := Option.ite_none_left_eq_some.mp hstep
      cases hnext
      obtain ⟨hclean, hvisit, hasked⟩ := h.cleanup
      exact hclean.load hvisit hasked
  | lookedUp lock currentUser =>
      obtain ⟨hstage, documentId, hvisit, rfl⟩ := answer_some hstep
      have hopen := h.openDocument hvisit hstage
      unfold lookedUp
      split
      next => exact hopen
      next =>
        split
        next => exact ⟨h.active, nofun, h.shown, h.asked, h.balanced⟩
        next => exact hopen
  | locked =>
      obtain ⟨hstage, documentId, hvisit, rfl⟩ := answer_some hstep
      obtain ⟨hsome, hheld, hasked⟩ := h.waiting .lock hstage
      refine ⟨h.active, ?_, h.shown, h.asked, ?_⟩
      · rintro stage ⟨⟩
        exact ⟨hsome, hheld, hasked⟩
      · exact h.balanced.append rfl nofun nofun rfl rfl rfl
  | document doc =>
      obtain ⟨hstage, documentId, hvisit, rfl⟩ := answer_some hstep
      obtain ⟨-, -, hasked⟩ := h.waiting .document hstage
      exact ⟨h.active, nofun, fun _ => ⟨hasked, hvisit.symm⟩, h.asked, h.balanced⟩
  | loadFailed message =>
      obtain ⟨-, hnext⟩ := Option.ite_none_right_eq_some.mp hstep
      cases hnext
      exact ⟨h.active, nofun, h.shown, h.asked, h.balanced⟩
  | handleContentChange value =>
      obtain ⟨-, hnext⟩ := Option.ite_none_right_eq_some.mp hstep
      cases hnext
      exact ⟨h.active, h.waiting, h.shown, h.asked, h.balanced⟩
  | saveDocument =>
      obtain ⟨-, hnext⟩ := Option.ite_none_left_eq_some.mp hstep
      cases hnext
      unfold VisitingPage.saveDocument
      split
      next => exact h
      next documentId hactive =>
        split
        next => exact h
        next =>
          exact ⟨h.active, h.waiting, h.shown, h.asked,
            h.balanced.append rfl nofun nofun rfl rfl rfl⟩
  | saved answer | saveFailed message =>
      obtain ⟨documentId, -, rfl⟩ := Option.map_eq_some_iff.mp hstep
      exact ⟨h.active, h.waiting, h.shown, h.asked, h.balanced⟩
  | destroy =>
      obtain ⟨-, hnext⟩ := Option.ite_none_left_eq_some.mp hstep
      cases hnext
      obtain ⟨hclean, -, -⟩ := h.cleanup
      exact ⟨hclean.active, hclean.waiting, hclean.shown, hclean.asked, hclean.balanced⟩

theorem reachable_sound (hreach : system.Reachable page) : page.Sound := by
  refine hreach.invariant system Sound ?_ ?_
  · rintro page ⟨routeDocumentId, rfl⟩
    exact .fresh routeDocumentId
  · exact fun _ _ _ _ h _ hstep => h.step hstep

/-! ## Locks that are left behind -/

/-- When a visit ends, every lock that the page has asked for is released or was left behind; this
visit leaves its lock behind exactly if it ends between asking for it and the document. -/
theorem locks_released (hreach : system.Reachable page) :
    (∀ documentId, page.cleanup.asks documentId =
      page.cleanup.releases documentId + page.abandoned.count documentId +
        if page.visit = some documentId ∧ page.asked = true ∧ page.lockHeld = false then 1
        else 0) ∧
      (page.abandoned = page.cleanup.abandoned ↔ (page.asked = true → page.lockHeld = true)) := by
  have hsound := reachable_sound hreach
  obtain ⟨hclean, hnone, -⟩ := hsound.cleanup
  cases hvisit : page.visit with
  | none =>
      have hsame : page.cleanup = page := by
        unfold cleanup
        rw [hvisit]
      have hasked : page.asked = true → page.lockHeld = true := by
        intro hasked
        have hsome := hsound.asked hasked
        rw [hvisit] at hsome
        cases hsome
      refine ⟨fun other => ?_, iff_of_true (by rw [hsame]) hasked⟩
      have hbalanced := hsound.balanced other
      rw [hsame, hbalanced, hvisit]
      simp
  | some documentId =>
      have habandoned : page.cleanup.abandoned =
          if page.asked = true ∧ page.lockHeld = false then page.abandoned ++ [documentId]
          else page.abandoned := by
        unfold cleanup
        rw [hvisit]
      refine ⟨fun other => ?_, ?_⟩
      · have hbalanced := hclean.balanced other
        rw [hnone, habandoned] at hbalanced
        rw [hbalanced]
        by_cases hleft : page.asked = true ∧ page.lockHeld = false
        · simp only [hleft, and_self, if_true, List.count_append, List.count_singleton,
            beq_iff_eq, and_true, Option.some.injEq, reduceCtorEq, false_and, if_false]
          omega
        · simp [hleft]
      · rw [habandoned]
        split
        next hleft =>
          refine iff_of_false ?_ ?_
          · intro hsame
            have hlength := congrArg List.length hsame
            simp at hlength
          · intro hheld
            rw [hheld hleft.1] at hleft
            exact absurd hleft.2 (by decide)
        next hleft =>
          refine iff_of_true rfl fun hasked => ?_
          cases hheld : page.lockHeld with
          | true => rfl
          | false => exact absurd ⟨hasked, hheld⟩ hleft

/-- The lock is granted, and the page is left before the document arrives. -/
theorem locks_released_late : ∃ page : VisitingPage, system.Reachable page ∧
    page.cleanup.asks 1 = page.cleanup.releases 1 + 1 := by
  obtain ⟨page, hreach, hcheck⟩ := system.exists_reachable_of_exec
    (.init ⟨some 1, rfl⟩ : system.Reachable (fresh (some 1)))
    [.runEffect, .lookedUp none none, .locked]
    (fun page => page.visit = some 1 ∧ page.asked = true ∧ page.lockHeld = false ∧
      page.abandoned = [])
    (by decide +kernel)
  obtain ⟨hvisit, hasked, hheld, hnone⟩ := of_decide_eq_true hcheck
  refine ⟨page, hreach, ?_⟩
  rw [(locks_released hreach).1 1, if_pos ⟨hvisit, hasked, hheld⟩, hnone]
  rfl

/-! ## Whose text is saved -/

/-- A save leaves only while the page holds the lock. -/
def SavesShown (page : VisitingPage) : Event → Prop
  | .saveDocument => page.activeDocumentId.isSome = true → page.lockHeld = true
  | _ => True

instance (event : Event) : Decidable (page.SavesShown event) :=
  match event with
  | .saveDocument =>
      inferInstanceAs (Decidable (page.activeDocumentId.isSome = true → page.lockHeld = true))
  | .navigate _ | .runEffect | .lookedUp _ _ | .locked | .document _ | .loadFailed _
  | .handleContentChange _ | .saved _ | .saveFailed _ | .destroy => isTrue trivial

/-- Every save carries text that was loaded from its document. -/
def OwnText (page : VisitingPage) : Prop :=
  ∀ documentId content loadedFrom,
    .saveDocument documentId content loadedFrom ∈ page.requests → loadedFrom = some documentId

theorem OwnText.append (h : page.OwnText) {next : VisitingPage} {request : PageRequest}
    (hrequests : next.requests = page.requests ++ [request])
    (hsave : ∀ documentId content loadedFrom,
      request = .saveDocument documentId content loadedFrom → loadedFrom = some documentId) :
    next.OwnText := by
  intro documentId content loadedFrom hmem
  rw [hrequests] at hmem
  rcases List.mem_append.mp hmem with hold | hnew
  · exact h documentId content loadedFrom hold
  · exact hsave documentId content loadedFrom (List.mem_singleton.mp hnew).symm

theorem OwnText.cleanup (h : page.OwnText) : page.cleanup.OwnText := by
  unfold VisitingPage.cleanup
  split
  next => exact h
  next documentId hvisit =>
    cases hheld : page.lockHeld with
    | true =>
        have hreleased : (page.requests ++ [PageRequest.unlockDocument documentId]) =
            page.requests ++ [.unlockDocument documentId] := rfl
        refine h.append hreleased ?_
        rintro _ _ _ ⟨⟩
    | false => exact h

theorem OwnText.step (h : page.OwnText) (hsound : page.Sound) {event : Event}
    (hguard : page.SavesShown event) {next : VisitingPage} (hstep : page.step event = some next) :
    next.OwnText := by
  cases event with
  | navigate routeDocumentId =>
      obtain ⟨-, hnext⟩ := Option.ite_none_left_eq_some.mp hstep
      cases hnext
      exact h
  | runEffect =>
      obtain ⟨-, hnext⟩ := Option.ite_none_left_eq_some.mp hstep
      cases hnext
      unfold VisitingPage.load
      split
      next => exact h.cleanup
      next => exact h.cleanup.append rfl nofun
  | lookedUp lock currentUser =>
      obtain ⟨-, documentId, -, rfl⟩ := answer_some hstep
      have hopen : (page.openDocument documentId).OwnText := h.append rfl nofun
      unfold lookedUp
      split
      next => exact hopen
      next =>
        split
        next => exact h
        next => exact hopen
  | locked =>
      obtain ⟨-, documentId, -, rfl⟩ := answer_some hstep
      exact h.append rfl nofun
  | document doc =>
      obtain ⟨-, documentId, -, rfl⟩ := answer_some hstep
      exact h
  | loadFailed message | handleContentChange value =>
      obtain ⟨-, hnext⟩ := Option.ite_none_right_eq_some.mp hstep
      cases hnext
      exact h
  | saveDocument =>
      obtain ⟨-, hnext⟩ := Option.ite_none_left_eq_some.mp hstep
      cases hnext
      unfold VisitingPage.saveDocument
      split
      next => exact h
      next documentId hactive =>
        split
        next => exact h
        next =>
          refine h.append rfl ?_
          rintro other content loadedFrom ⟨⟩
          have hheld := hguard (by rw [hactive]; rfl)
          rw [(hsound.shown hheld).2, ← hsound.active, hactive]
  | saved answer | saveFailed message =>
      obtain ⟨documentId, -, rfl⟩ := Option.map_eq_some_iff.mp hstep
      exact h
  | destroy =>
      obtain ⟨-, hnext⟩ := Option.ite_none_left_eq_some.mp hstep
      cases hnext
      exact h.cleanup

/-- The text on a page that holds a lock was loaded from the document that is locked. In every run
in which saves leave only from such a page, no document is given the text of another one. -/
theorem saves_own_text (hreach : system.ReachableUnder SavesShown page) :
    page.OwnText ∧ (page.lockHeld = true →
      page.activeDocumentId.isSome = true ∧ page.textOf = page.activeDocumentId) := by
  have hall : system.Reachable page := hreach.mono system fun _ _ _ => trivial
  refine ⟨?_, fun hheld => ?_⟩
  · refine hreach.invariant system OwnText ?_ ?_
    · rintro page ⟨routeDocumentId, rfl⟩
      exact nofun
    · intro before event next hbefore h hguard hstep
      have hsound := reachable_sound (hbefore.mono system fun _ _ _ => trivial)
      exact h.step hsound hguard hstep
  · have hsound := reachable_sound hall
    obtain ⟨hasked, htext⟩ := hsound.shown hheld
    rw [hsound.active, htext]
    exact ⟨hsound.asked hasked, rfl⟩

/-- The owner's notes, and what is done to open and change them. -/
def notes : OpenedDocument String := ⟨"notes", "", .owner, 0, "2024-01-01T00:00:00Z"⟩

def openNotes : List Event :=
  [.runEffect, .lookedUp none none, .locked, .document notes, .handleContentChange "draft"]

/-- Two documents, one after the other. -/
theorem saves_own_text_twice : ∃ page : VisitingPage, system.ReachableUnder SavesShown page ∧
    .saveDocument 1 "draft" (some 1) ∈ page.requests ∧
    .saveDocument 2 "draft" (some 2) ∈ page.requests ∧ page.OwnText := by
  obtain ⟨page, hreach, hcheck⟩ := system.exists_reachable_of_exec
    (.init ⟨some 1, rfl⟩ : system.ReachableUnder SavesShown (fresh (some 1)))
    (openNotes ++ [.saveDocument, .saved WorkspacePage.savedNotes, .navigate (some 2)] ++
      openNotes ++ [.saveDocument])
    (fun page => .saveDocument 1 "draft" (some 1) ∈ page.requests ∧
      .saveDocument 2 "draft" (some 2) ∈ page.requests)
    (by decide +kernel)
  obtain ⟨hfirst, hsecond⟩ := of_decide_eq_true hcheck
  exact ⟨page, hreach, hfirst, hsecond, (saves_own_text hreach).1⟩

/-- The page is on its way to another document, with the unsaved text and the rights of the one
before. -/
structure Leftover (page : VisitingPage) (other : Int) (loaded : VisitingPage) : Prop where
  alive : loaded.destroyed = false
  active : loaded.activeDocumentId = some other
  permission : loaded.permission = page.permission
  saving : loaded.saving = false
  content : loaded.content = page.content
  savedContent : loaded.savedContent = page.savedContent
  textOf : loaded.textOf = page.textOf

/-- The text is sent to the other document. -/
theorem Leftover.saves {other : Int} {loaded : VisitingPage} (h : page.Leftover other loaded)
    (hedit : page.canEdit = true) (hdirty : page.dirty = true) :
    ∃ next, loaded.step .saveDocument = some next ∧
      .saveDocument other page.content page.textOf ∈ next.requests := by
  refine ⟨loaded.saveDocument, ?_, ?_⟩
  · rw [step, if_neg (by rw [h.alive]; decide)]
  · have hready : ¬(loaded.canEdit = false ∨ loaded.saving = true ∨ loaded.dirty = false) := by
      rw [canEdit, h.permission, ← canEdit, hedit, h.saving, dirty, h.content, h.savedContent,
        ← dirty, hdirty]
      decide
    rw [saveDocument, h.active]
    dsimp only
    rw [if_neg hready, h.content, h.textOf]
    exact List.mem_append_right _ (List.mem_singleton_self _)

/-- The route changes while the page shows a document. -/
theorem Leftover.navigate (hopen : page.destroyed = false) (hvisit : page.visit.isSome = true)
    (hidle : page.saving = false) {other : Int} (hroute : page.routeDocumentId ≠ some other) :
    ∃ visited, system.exec (fun _ _ => True) page [.navigate (some other), .runEffect] =
        some visited ∧
      page.Leftover other visited ∧ visited.stage = some .lookup ∧ visited.visit = some other := by
  obtain ⟨documentId, hvisit⟩ := Option.isSome_iff_exists.mp hvisit
  let navigated : VisitingPage := { page with routeDocumentId := some other, due := true }
  have hnavigate : page.step (.navigate (some other)) = some navigated := by
    rw [step, if_neg]
    rintro (hdestroyed | hsame)
    · exact absurd (hopen.symm.trans hdestroyed) Bool.false_ne_true
    · exact hroute hsame.symm
  have heffect : navigated.step .runEffect = some navigated.cleanup.load :=
    if_neg (by rw [hopen]; decide)
  refine ⟨navigated.cleanup.load, ?_, ?_, ?_⟩
  · simp only [TransitionSystem.exec, if_true, system, hnavigate, Option.bind_some, heffect]
  · constructor <;> simp only [navigated, load, cleanup, hvisit, hopen, hidle]
  · simp only [navigated, load, cleanup, hvisit, and_self]

/-- What is not saved when the route changes is saved into the next document: while its lock is
looked up, when that fails, and when the page says that somebody else has locked it. -/
theorem unsaved_text_follows (hreach : system.Reachable page) (hopen : page.destroyed = false)
    (hheld : page.lockHeld = true) (hedit : page.canEdit = true) (hidle : page.saving = false)
    (hdirty : page.dirty = true) {other : Int} (hroute : page.routeDocumentId ≠ some other)
    {lock : DocumentLockDto} {currentUser : Option String} (message : String)
    (hlock : some lock.lockedByUsername ≠ currentUser ∧ lock.lockType = .exclusive) :
    ∀ answers ∈ [[], [Event.loadFailed message], [.lookedUp (some lock) currentUser]],
      ∃ next, system.exec (fun _ _ => True) page
          ([.navigate (some other), .runEffect] ++ answers ++ [.saveDocument]) = some next ∧
        .saveDocument other page.content page.activeDocumentId ∈ next.requests := by
  have hsound := reachable_sound hreach
  obtain ⟨hasked, htext⟩ := hsound.shown hheld
  rw [hsound.active, ← htext]
  obtain ⟨visited, hbegin, hleftover, hstage, hvisit⟩ :=
    Leftover.navigate hopen (hsound.asked hasked) hidle hroute
  have hsends : ∀ answers loaded, system.exec (fun _ _ => True) visited answers = some loaded →
      page.Leftover other loaded → ∃ next, system.exec (fun _ _ => True) page
          ([.navigate (some other), .runEffect] ++ answers ++ [.saveDocument]) = some next ∧
        .saveDocument other page.content page.textOf ∈ next.requests := by
    intro answers loaded hexec hloaded
    obtain ⟨next, hstep, hmem⟩ := hloaded.saves hedit hdirty
    refine ⟨next, ?_, hmem⟩
    have hend : system.exec (fun _ _ => True) loaded [.saveDocument] = some next := by
      simp only [TransitionSystem.exec, if_true, system, hstep, Option.bind_some]
    rw [TransitionSystem.exec_append, TransitionSystem.exec_append, hbegin, Option.bind_some,
      hexec, Option.bind_some, hend]
  intro answers hanswers
  simp only [List.mem_cons, List.not_mem_nil, or_false] at hanswers
  rcases hanswers with rfl | rfl | rfl
  · exact hsends [] visited rfl hleftover
  · have hstep : visited.step (.loadFailed message) = some (visited.loadFailed message) :=
      if_pos (by rw [hstage]; rfl)
    refine hsends _ (visited.loadFailed message) ?_ { hleftover with }
    simp only [TransitionSystem.exec, if_true, system, hstep, Option.bind_some]
  · have hstep : visited.step (.lookedUp (some lock) currentUser) =
        some (visited.lookedUp other (some lock) currentUser) := by
      rw [step, answer, if_pos hstage, hvisit]
      rfl
    refine hsends _ (visited.lookedUp other (some lock) currentUser) ?_ ?_
    · simp only [TransitionSystem.exec, if_true, system, hstep, Option.bind_some]
    · rw [lookedUp, if_pos hlock]
      exact { hleftover with }

/-- The draft of the notes is saved into a document that somebody else has locked. -/
theorem unsaved_text_follows_notes : ∃ page next : VisitingPage, system.Reachable page ∧
    page.activeDocumentId = some 1 ∧
    system.exec (fun _ _ => True) page [.navigate (some 2), .runEffect,
      .lookedUp (some ⟨"bob", .exclusive⟩) (some "ada"), .saveDocument] = some next ∧
    .saveDocument 2 "draft" (some 1) ∈ next.requests := by
  obtain ⟨page, hreach, hcheck⟩ := system.exists_reachable_of_exec
    (.init ⟨some 1, rfl⟩ : system.Reachable (fresh (some 1))) openNotes
    (fun page => page.destroyed = false ∧ page.lockHeld = true ∧ page.canEdit = true ∧
      page.saving = false ∧ page.dirty = true ∧ page.routeDocumentId = some 1 ∧
      page.activeDocumentId = some 1 ∧ page.content = "draft")
    (by decide +kernel)
  obtain ⟨hopen, hheld, hedit, hidle, hdirty, hroute, hactive, hcontent⟩ :=
    of_decide_eq_true hcheck
  have hlock : some (⟨"bob", .exclusive⟩ : DocumentLockDto).lockedByUsername ≠ some "ada" ∧
      (⟨"bob", .exclusive⟩ : DocumentLockDto).lockType = .exclusive := by
    decide
  have hother : page.routeDocumentId ≠ some 2 := by
    rw [hroute]
    decide
  obtain ⟨next, hexec, hmem⟩ := unsaved_text_follows hreach hopen hheld hedit hidle hdirty hother ""
    hlock [.lookedUp (some ⟨"bob", .exclusive⟩) (some "ada")] (by simp)
  rw [hcontent, hactive] at hmem
  exact ⟨page, next, hreach, hactive, hexec, hmem⟩

/-! ## Whose answer is shown -/

/-- The title and the version on a page that holds a lock are those of the locked document. -/
def Titled (page : VisitingPage) : Prop :=
  page.lockHeld = true → page.titleOf = page.activeDocumentId

/-- A save is answered while its own document is shown, or none is. -/
def AnswersAtHome (page : VisitingPage) : Event → Prop
  | .saved _ => page.lockHeld = true → page.saveInFlight = page.activeDocumentId
  | _ => True

instance (event : Event) : Decidable (page.AnswersAtHome event) :=
  match event with
  | .saved _ => inferInstanceAs
      (Decidable (page.lockHeld = true → page.saveInFlight = page.activeDocumentId))
  | .navigate _ | .runEffect | .lookedUp _ _ | .locked | .document _ | .loadFailed _
  | .handleContentChange _ | .saveDocument | .saveFailed _ | .destroy => isTrue trivial

theorem cleanup_lockHeld (hsound : page.Sound) : page.cleanup.lockHeld = false := by
  unfold cleanup
  split
  next hnone =>
    cases hheld : page.lockHeld with
    | false => rfl
    | true =>
        have hsome := hsound.asked (hsound.shown hheld).1
        rw [hnone] at hsome
        cases hsome
  next => rfl

theorem Titled.step (h : page.Titled) (hsound : page.Sound) {event : Event} {next : VisitingPage}
    (hstep : page.step event = some next) : next.Titled ↔ page.AnswersAtHome event := by
  have hnew : ∀ loaded : VisitingPage, loaded.lockHeld = false → loaded.Titled := by
    intro loaded hfree hheld
    exact absurd (hfree.symm.trans hheld) Bool.false_ne_true
  have hwaits : ∀ stage, page.stage = some stage → page.lockHeld = false :=
    fun stage hstage => (hsound.waiting stage hstage).2.1
  cases event with
  | navigate routeDocumentId =>
      obtain ⟨-, hnext⟩ := Option.ite_none_left_eq_some.mp hstep
      cases hnext
      exact iff_of_true h trivial
  | runEffect =>
      obtain ⟨-, hnext⟩ := Option.ite_none_left_eq_some.mp hstep
      cases hnext
      refine iff_of_true (hnew _ ?_) trivial
      unfold load
      split
      next => exact cleanup_lockHeld hsound
      next => rfl
  | lookedUp lock currentUser =>
      obtain ⟨hstage, documentId, -, rfl⟩ := answer_some hstep
      refine iff_of_true (hnew _ ?_) trivial
      unfold lookedUp openDocument
      split
      next => exact hwaits _ hstage
      next => split <;> exact hwaits _ hstage
  | locked =>
      obtain ⟨hstage, documentId, -, rfl⟩ := answer_some hstep
      exact iff_of_true (hnew _ (hwaits _ hstage)) trivial
  | document doc =>
      obtain ⟨-, documentId, hvisit, rfl⟩ := answer_some hstep
      refine iff_of_true (fun _ => ?_) trivial
      exact hvisit.symm.trans hsound.active.symm
  | loadFailed message | handleContentChange value =>
      obtain ⟨-, hnext⟩ := Option.ite_none_right_eq_some.mp hstep
      cases hnext
      exact iff_of_true h trivial
  | saveDocument =>
      obtain ⟨-, hnext⟩ := Option.ite_none_left_eq_some.mp hstep
      cases hnext
      refine iff_of_true ?_ trivial
      unfold saveDocument
      split
      next => exact h
      next => split <;> exact h
  | saved answer =>
      obtain ⟨documentId, hsave, rfl⟩ := Option.map_eq_some_iff.mp hstep
      rw [AnswersAtHome, hsave]
      rfl
  | saveFailed message =>
      obtain ⟨documentId, -, rfl⟩ := Option.map_eq_some_iff.mp hstep
      exact iff_of_true h trivial
  | destroy =>
      obtain ⟨-, hnext⟩ := Option.ite_none_left_eq_some.mp hstep
      cases hnext
      exact iff_of_true (hnew _ (cleanup_lockHeld hsound)) trivial

/-- In every run in which saves are answered at home, the title and the version are those of the
document that is shown, whatever loads were under way; and from there a step leaves that so exactly
if it answers no save of another document. -/
theorem titles_own (hreach : system.ReachableUnder AnswersAtHome page) :
    page.Titled ∧ ∀ event next, page.step event = some next →
      (next.Titled ↔ page.AnswersAtHome event) := by
  have hsound : ∀ page, system.ReachableUnder AnswersAtHome page → page.Sound :=
    fun _ hreach => reachable_sound (hreach.mono system fun _ _ _ => trivial)
  have htitled : page.Titled := by
    refine hreach.invariant system Titled ?_ ?_
    · rintro page ⟨routeDocumentId, rfl⟩
      exact nofun
    · exact fun page _ _ hbefore h hguard hstep => (h.step (hsound page hbefore) hstep).mpr hguard
  exact ⟨htitled, fun _ _ hstep => htitled.step (hsound page hreach) hstep⟩

/-- A save of the first document is on its way, and the second is shown. -/
theorem titles_own_notes : ∃ page : VisitingPage,
    system.ReachableUnder AnswersAtHome page ∧ page.lockHeld = true ∧
    page.titleOf = page.activeDocumentId ∧
    ∀ next, page.step (.saved WorkspacePage.savedNotes) = some next → ¬next.Titled := by
  obtain ⟨page, hreach, hcheck⟩ := system.exists_reachable_of_exec
    (.init ⟨some 1, rfl⟩ : system.ReachableUnder AnswersAtHome (fresh (some 1)))
    (openNotes ++ [.saveDocument, .navigate (some 2)] ++ openNotes)
    (fun page => page.lockHeld = true ∧ page.saveInFlight ≠ page.activeDocumentId)
    (by decide +kernel)
  obtain ⟨hheld, hother⟩ := of_decide_eq_true hcheck
  obtain ⟨htitled, hstep⟩ := titles_own hreach
  exact ⟨page, hreach, hheld, htitled hheld, fun next hnext hkept =>
    hother ((hstep _ next hnext).mp hkept hheld)⟩

/-! ## Steps of the browser, and answers -/

/-- An event is caused by the user, the router or Angular, or it is the answer to a request of
the visit or to a save. -/
inductive EventSource
  | browser
  | visit
  | save
deriving DecidableEq, Repr

def Event.source : Event → EventSource
  | .navigate _ | .runEffect | .handleContentChange _ | .saveDocument | .destroy => .browser
  | .lookedUp _ _ | .locked | .document _ | .loadFailed _ => .visit
  | .saved _ | .saveFailed _ => .save

/-- The load effect is cleaned up. -/
def Event.endsVisit : Event → Bool
  | .runEffect | .destroy => true
  | .navigate _ | .lookedUp _ _ | .locked | .document _ | .loadFailed _ | .handleContentChange _
  | .saveDocument | .saved _ | .saveFailed _ => false

/-- The save that a step has sent. -/
def newSave (before after : VisitingPage) : Option (Int × String) :=
  (after.requests.drop before.requests.length).findSome? fun
    | .saveDocument documentId content _ => some (documentId, content)
    | .getDocumentLock _ | .lockDocument _ | .getDocument _ | .unlockDocument _ => none

variable {next : VisitingPage} {event : Event}

/-- Without a visit nothing is waited for or held. -/
theorem Sound.idle (h : page.Sound) (hvisit : page.visit = none) :
    page.stage = none ∧ page.lockHeld = false := by
  constructor
  · by_contra hstage
    obtain ⟨stage, hstage⟩ := Option.ne_none_iff_exists'.mp hstage
    have hsome := (h.waiting stage hstage).1
    rw [hvisit] at hsome
    cases hsome
  · by_contra hheld
    have hsome := h.asked (h.shown (Bool.not_eq_false _ ▸ hheld)).1
    rw [hvisit] at hsome
    cases hsome

/-- The user, the router and Angular end a visit, or leave it as it is. -/
theorem Sound.step_browser (h : page.Sound) (hevent : event.source = .browser)
    (hstep : page.step event = some next) :
    (event.endsVisit = true ∧ (next.stage = none ∨ next.stage = some .lookup) ∧
        next.lockHeld = false) ∨
      event.endsVisit = false ∧ next.visit = page.visit ∧ next.stage = page.stage ∧
        next.lockHeld = page.lockHeld := by
  cases event with
  | navigate routeDocumentId =>
      obtain ⟨-, hnext⟩ := Option.ite_none_left_eq_some.mp hstep
      cases hnext
      exact .inr ⟨rfl, rfl, rfl, rfl⟩
  | runEffect =>
      obtain ⟨-, hnext⟩ := Option.ite_none_left_eq_some.mp hstep
      cases hnext
      obtain ⟨hclean, hvisit, -⟩ := h.cleanup
      obtain ⟨hstage, hheld⟩ := hclean.idle hvisit
      refine .inl ⟨rfl, ?_⟩
      unfold VisitingPage.load
      split
      next => exact ⟨.inl hstage, hheld⟩
      next => exact ⟨.inr rfl, rfl⟩
  | handleContentChange value =>
      obtain ⟨-, hnext⟩ := Option.ite_none_right_eq_some.mp hstep
      cases hnext
      exact .inr ⟨rfl, rfl, rfl, rfl⟩
  | saveDocument =>
      obtain ⟨-, hnext⟩ := Option.ite_none_left_eq_some.mp hstep
      cases hnext
      refine .inr ⟨rfl, ?_⟩
      unfold VisitingPage.saveDocument
      split
      next => exact ⟨rfl, rfl, rfl⟩
      next => split <;> exact ⟨rfl, rfl, rfl⟩
  | destroy =>
      obtain ⟨-, hnext⟩ := Option.ite_none_left_eq_some.mp hstep
      cases hnext
      obtain ⟨hclean, hvisit, -⟩ := h.cleanup
      obtain ⟨hstage, hheld⟩ := hclean.idle hvisit
      exact .inl ⟨rfl, .inl hstage, hheld⟩
  | lookedUp | locked | document | loadFailed | saved | saveFailed => cases hevent

/-- The request of a visit is answered. -/
theorem Sound.step_visit (h : page.Sound) (hevent : event.source = .visit)
    (hstep : page.step event = some next) :
    next.visit = page.visit ∧
      (next.stage = some .document → event = .locked ∧ page.stage = some .lock) ∧
      (next.lockHeld = true → (∃ doc, event = .document doc) ∧ page.stage = some .document) := by
  cases event with
  | lookedUp lock currentUser =>
      obtain ⟨hstage, documentId, hvisit, rfl⟩ := answer_some hstep
      have hheld := (h.waiting .lookup hstage).2.1
      unfold VisitingPage.lookedUp
      split
      next => exact ⟨rfl, nofun, fun hshown => absurd (hheld.symm.trans hshown) nofun⟩
      next => split <;> exact ⟨rfl, nofun, fun hshown => absurd (hheld.symm.trans hshown) nofun⟩
  | locked =>
      obtain ⟨hstage, documentId, hvisit, rfl⟩ := answer_some hstep
      have hheld := (h.waiting .lock hstage).2.1
      exact ⟨rfl, fun _ => ⟨rfl, hstage⟩, fun hshown => absurd (hheld.symm.trans hshown) nofun⟩
  | document doc =>
      obtain ⟨hstage, documentId, hvisit, rfl⟩ := answer_some hstep
      exact ⟨rfl, nofun, fun _ => ⟨⟨doc, rfl⟩, hstage⟩⟩
  | loadFailed message =>
      obtain ⟨hwaits, hnext⟩ := Option.ite_none_right_eq_some.mp hstep
      obtain ⟨stage, hstage⟩ := Option.isSome_iff_exists.mp hwaits
      cases hnext
      have hheld := (h.waiting stage hstage).2.1
      exact ⟨rfl, nofun, fun hshown => absurd (hheld.symm.trans hshown) nofun⟩
  | navigate | runEffect | handleContentChange | saveDocument | saved | saveFailed | destroy =>
      cases hevent

/-- A save is answered. -/
theorem step_save (hevent : event.source = .save) (hstep : page.step event = some next) :
    next.visit = page.visit ∧ next.stage = page.stage ∧ next.lockHeld = page.lockHeld := by
  cases event with
  | saved | saveFailed =>
      obtain ⟨documentId, -, rfl⟩ := Option.map_eq_some_iff.mp hstep
      exact ⟨rfl, rfl, rfl⟩
  | navigate | runEffect | handleContentChange | saveDocument | lookedUp | locked | document
  | loadFailed | destroy => cases hevent

end VisitingPage

end CollabEditor.Frontend
