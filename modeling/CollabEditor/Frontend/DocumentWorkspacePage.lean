import CollabEditor.Foundation.TransitionSystem
import Mathlib.Tactic.Common

/-! # Saving on the workspace page

The page of one opened document keeps the text it believes saved beside the editor's
text. A save leaves with the text of its moment, and its answer may come any time later.
-/

namespace CollabEditor.Frontend

open Foundation

inductive DocPermission
  | owner
  | editor
  | viewer
deriving DecidableEq, Repr

/-- What the page reads of the answer to `openDocument`. -/
structure OpenedDocument (Text : Type) where
  title : String
  content : Text
  myPermission : DocPermission
  version : Int
  lastModified : String

/-- What the page reads of the answer to a save. -/
structure SavedDocument where
  title : String
  version : Int
  lastModified : String
deriving DecidableEq, Repr

/-- A save that has not been answered. -/
structure PendingSave (Text : Type) where
  documentId : Int
  content : Text
  /-- The backend has accepted it. -/
  accepted : Bool

/-- The signals of the page that saving reads and writes, with the backend. -/
structure WorkspacePage (Text : Type) where
  title : String
  content : Text
  savedContent : Text
  permission : DocPermission
  version : Option Int
  lastModified : Option String
  saving : Bool
  saveError : Option String
  activeDocumentId : Option Int
  inFlight : Option (PendingSave Text)
  /-- The content last accepted by the backend. -/
  stored : Text
  /-- Since the last save answered with success, one was accepted and answered with an
  error, a record. -/
  unacknowledged : Bool

namespace WorkspacePage

variable {Text : Type}

/-- The page after `openDocument`. -/
def opened (documentId : Int) (doc : OpenedDocument Text) : WorkspacePage Text where
  title := doc.title
  content := doc.content
  savedContent := doc.content
  permission := doc.myPermission
  version := some doc.version
  lastModified := some doc.lastModified
  saving := false
  saveError := none
  activeDocumentId := some documentId
  inFlight := none
  stored := doc.content
  unacknowledged := false

variable [DecidableEq Text] (page : WorkspacePage Text)

def canEdit : Bool := page.permission == .owner || page.permission == .editor

def dirty : Bool := page.content ≠ page.savedContent

def handleContentChange (value : Text) : WorkspacePage Text :=
  { page with content := value, saveError := none }

/-- `saveDocument` up to its `await`. -/
def saveDocument : WorkspacePage Text :=
  match page.activeDocumentId with
  | none => page
  | some documentId =>
      if page.canEdit = false ∨ page.saving = true ∨ page.dirty = false then page
      else { page with
        saving := true
        saveError := none
        inFlight := some { documentId := documentId, content := page.content, accepted := false } }

/-- The backend commits the save in flight. -/
def accept (save : PendingSave Text) : WorkspacePage Text :=
  { page with inFlight := some { save with accepted := true }, stored := save.content }

/-- `saveDocument` goes on after its `await`. What it records is the editor's text of
this moment. -/
def succeed (saved : SavedDocument) : WorkspacePage Text :=
  { page with
    title := saved.title
    version := some saved.version
    lastModified := some saved.lastModified
    savedContent := page.content
    saving := false
    inFlight := none
    unacknowledged := false }

/-- `saveDocument` goes on in its `catch`. -/
def fail (save : PendingSave Text) (message : String) : WorkspacePage Text :=
  { page with
    saveError := some message
    saving := false
    inFlight := none
    unacknowledged := page.unacknowledged || save.accepted }

inductive Event (Text : Type)
  | handleContentChange (value : Text)
  /-- The save button, or the interval of the auto-save. -/
  | saveDocument
  | accept
  | succeed (saved : SavedDocument)
  /-- An error response, or a response that was lost. A save that is still on its way to the
  backend when the page sees it fail is not committed any more: what it would store then is up to
  the network. -/
  | fail (message : String)

def step : Event Text → Option (WorkspacePage Text)
  | .handleContentChange value => some (page.handleContentChange value)
  | .saveDocument => some page.saveDocument
  | .accept => match page.inFlight with
    | some save => if save.accepted then none else some (page.accept save)
    | none => none
  | .succeed saved => match page.inFlight with
    | some save => if save.accepted then some (page.succeed saved) else none
    | none => none
  | .fail message => page.inFlight.map (page.fail · message)

/-- The page of one opened document. -/
def system (Text : Type) [DecidableEq Text] :
    TransitionSystem (WorkspacePage Text) (Event Text) where
  init page := ∃ documentId doc, page = opened documentId doc
  step := step

/-- With no save in flight, a page that is not dirty shows what the backend has. -/
def Settled : Prop :=
  page.inFlight = none → page.dirty = false → page.stored = page.content

/-- An answer finds the editor as the save left it: a success the text that was sent, and
after an accepted save whose answer was an error the text is not back at the recorded one. -/
def Undisturbed : Event Text → Prop
  | .handleContentChange value =>
      page.unacknowledged = true → page.inFlight = none → value ≠ page.savedContent
  | .succeed _ => ∀ save ∈ page.inFlight, page.content = save.content
  | .fail _ => ∀ save ∈ page.inFlight, page.unacknowledged = true ∨ save.accepted = true →
      page.content ≠ page.savedContent
  | .saveDocument | .accept => True

instance : (event : Event Text) → Decidable (page.Undisturbed event)
  | .handleContentChange value => inferInstanceAs (Decidable
      (page.unacknowledged = true → page.inFlight = none → value ≠ page.savedContent))
  | .succeed _ => inferInstanceAs (Decidable (∀ save ∈ page.inFlight, page.content = save.content))
  | .fail _ => inferInstanceAs (Decidable (∀ save ∈ page.inFlight,
      page.unacknowledged = true ∨ save.accepted = true → page.content ≠ page.savedContent))
  | .saveDocument | .accept => .isTrue trivial

/-! ## What a step does -/

variable {page}

/-- The steps of the page: a change, a save that leaves or does not, and the three things
that happen to a save in flight. -/
inductive Steps (page : WorkspacePage Text) : Event Text → WorkspacePage Text → Prop
  | change (value : Text) : Steps page (.handleContentChange value) (page.handleContentChange value)
  | skip : Steps page .saveDocument page
  | save (documentId : Int) (hidle : page.saving = false) (hdirty : page.content ≠ page.savedContent) :
      Steps page .saveDocument { page with
        saving := true
        saveError := none
        inFlight := some { documentId := documentId, content := page.content, accepted := false } }
  | accept (save : PendingSave Text) (hsave : page.inFlight = some save)
      (hnew : save.accepted = false) : Steps page .accept (page.accept save)
  | succeed (saved : SavedDocument) (save : PendingSave Text) (hsave : page.inFlight = some save)
      (haccepted : save.accepted = true) : Steps page (.succeed saved) (page.succeed saved)
  | fail (message : String) (save : PendingSave Text) (hsave : page.inFlight = some save) :
      Steps page (.fail message) (page.fail save message)

theorem step_cases {event : Event Text} {next : WorkspacePage Text}
    (hstep : page.step event = some next) : page.Steps event next := by
  cases event with
  | handleContentChange value =>
      cases hstep
      exact .change value
  | saveDocument =>
      cases hstep
      unfold saveDocument
      split
      next => exact .skip
      next documentId hactive =>
        split
        next => exact .skip
        next hready =>
          obtain ⟨-, hidle, hdirty⟩ := by simpa only [not_or] using hready
          exact .save documentId (by simpa using hidle) (by simpa [dirty] using hdirty)
  | accept =>
      simp only [step] at hstep
      split at hstep
      next save hsave =>
        obtain ⟨hnew, hnext⟩ := Option.ite_none_left_eq_some.mp hstep
        cases hnext
        exact .accept save hsave (by simpa using hnew)
      next => cases hstep
  | succeed saved =>
      simp only [step] at hstep
      split at hstep
      next save hsave =>
        obtain ⟨haccepted, hnext⟩ := Option.ite_none_right_eq_some.mp hstep
        cases hnext
        exact .succeed saved save hsave haccepted
      next => cases hstep
  | fail message =>
      obtain ⟨save, hsave, rfl⟩ := Option.map_eq_some_iff.mp hstep
      exact .fail message save hsave

/-! ## The three texts -/

/-- How the editor's text, the recorded one and the stored one are related across a save. -/
structure Tracks (page : WorkspacePage Text) : Prop where
  saving : page.saving = page.inFlight.isSome
  sent : ∀ save, page.inFlight = some save → save.content ≠ page.savedContent
  accepted : ∀ save, page.inFlight = some save → save.accepted = true →
    page.stored = save.content
  recorded : (∀ save, page.inFlight = some save → save.accepted = false) →
    (page.unacknowledged = false ↔ page.stored = page.savedContent)
  apart : page.inFlight = none → page.unacknowledged = true → page.content ≠ page.savedContent

omit [DecidableEq Text] in
theorem Tracks.opened (documentId : Int) (doc : OpenedDocument Text) :
    (opened documentId doc).Tracks where
  saving := rfl
  sent := nofun
  accepted := nofun
  recorded _ := by simp [WorkspacePage.opened]
  apart _ hlost := nomatch hlost

theorem Tracks.step {event : Event Text} {next : WorkspacePage Text} (htracks : page.Tracks)
    (hguard : page.Undisturbed event) (hstep : page.step event = some next) : next.Tracks := by
  cases step_cases hstep with
  | change value =>
      exact ⟨htracks.saving, htracks.sent, htracks.accepted, htracks.recorded,
        fun hidle hlost => hguard hlost hidle⟩
  | skip => exact htracks
  | save documentId hidle hdirty =>
      have hnone : page.inFlight = none := by
        have hsaving := htracks.saving
        rw [hidle] at hsaving
        simpa using hsaving.symm
      refine ⟨rfl, ?_, ?_, fun _ => htracks.recorded (by simp [hnone]), nofun⟩
      · rintro save ⟨⟩
        exact hdirty
      · rintro save ⟨⟩ haccepted
        cases haccepted
  | accept save hsave hnew =>
      refine ⟨?_, ?_, ?_, ?_, nofun⟩
      · rw [accept, htracks.saving, hsave]
        rfl
      · rintro found ⟨⟩
        exact htracks.sent save hsave
      · rintro found ⟨⟩ -
        rfl
      · intro hnever
        cases hnever _ rfl
  | succeed saved save hsave haccepted =>
      refine ⟨rfl, nofun, nofun, fun _ => ?_, nofun⟩
      refine iff_of_true rfl ?_
      exact (htracks.accepted save hsave haccepted).trans (hguard save hsave).symm
  | fail message save hsave =>
      refine ⟨rfl, nofun, nofun, fun _ => ?_, ?_⟩
      · cases haccepted : save.accepted with
        | true =>
            refine iff_of_false (by simp [fail, haccepted]) ?_
            exact htracks.accepted save hsave haccepted ▸ htracks.sent save hsave
        | false =>
            have hrecorded := htracks.recorded (by simp [hsave, haccepted])
            simpa [fail, haccepted] using hrecorded
      · intro _ hlost
        exact hguard save hsave (by simpa [fail] using hlost)

/-! ## A clean page shows what is stored -/

theorem Tracks.settled (htracks : page.Tracks) : page.Settled := by
  intro hidle hclean
  have hsame : page.content = page.savedContent := by simpa [dirty] using hclean
  cases hlost : page.unacknowledged with
  | true => exact absurd hsame (htracks.apart hidle hlost)
  | false => exact ((htracks.recorded (by simp [hidle])).mp hlost).trans hsame.symm

/-- A step outside the condition ends in a clean page that does not show what is stored. -/
theorem Tracks.settled_iff {event : Event Text} {next : WorkspacePage Text}
    (htracks : page.Tracks) (hstep : page.step event = some next) :
    next.Settled ↔ page.Undisturbed event := by
  constructor
  · intro hsettled
    cases step_cases hstep with
    | change value =>
        intro hlost hidle hsame
        have hstored : page.stored = value := hsettled hidle (by simp [handleContentChange, dirty, hsame])
        have hrecorded := (htracks.recorded (by simp [hidle])).mpr (hstored.trans hsame)
        rw [hlost] at hrecorded
        cases hrecorded
    | skip | save | accept => trivial
    | succeed saved save hsave haccepted =>
        intro found hfound
        cases hsave.symm.trans hfound
        have hstored : page.stored = page.content := hsettled rfl (by simp [succeed, dirty])
        exact hstored.symm.trans (htracks.accepted save hsave haccepted)
    | fail message save hsave =>
        intro found hfound hlost hsame
        cases hsave.symm.trans hfound
        have hstored : page.stored = page.content :=
          hsettled rfl (by simp [fail, dirty, hsame])
        cases haccepted : save.accepted with
        | true =>
            exact htracks.sent save hsave ((htracks.accepted save hsave haccepted).symm.trans
              (hstored.trans hsame))
        | false =>
            have hrecorded := (htracks.recorded (by simp [hsave, haccepted])).mpr
              (hstored.trans hsame)
            rw [hrecorded, haccepted] at hlost
            simp at hlost
  · exact fun hguard => (htracks.step hguard hstep).settled

theorem reachable_tracks (hreach : (system Text).ReachableUnder Undisturbed page) : page.Tracks := by
  refine hreach.invariant (system Text) Tracks ?_ ?_
  · rintro page ⟨documentId, doc, rfl⟩
    exact .opened documentId doc
  · intro page event next _ htracks hguard hstep
    exact htracks.step hguard hstep

/-- In every run in which answers find the editor undisturbed, a clean page shows what the
backend has; and from there a step ends in such a page exactly if it is undisturbed too. -/
theorem clean_page_is_stored (hreach : (system Text).ReachableUnder Undisturbed page) :
    page.Settled ∧ ∀ event next, page.step event = some next →
      (next.Settled ↔ page.Undisturbed event) :=
  ⟨(reachable_tracks hreach).settled, fun _ _ => (reachable_tracks hreach).settled_iff⟩

/-- The owner's empty document. -/
def emptyDocument : OpenedDocument String where
  title := "notes"
  content := ""
  myPermission := .owner
  version := 0
  lastModified := "2024-01-01T00:00:00Z"

def savedNotes : SavedDocument where
  title := "notes"
  version := 1
  lastModified := "2024-01-01T00:00:20Z"

/-- Typing goes on after a save has been answered. -/
theorem clean_page_after_save : ∃ page : WorkspacePage String,
    (system String).ReachableUnder Undisturbed page ∧
      (page.stored = "draft" ∧ page.content = "draft") ∧
      page.Settled ∧ ∀ event next, page.step event = some next →
        (next.Settled ↔ page.Undisturbed event) := by
  obtain ⟨page, hreach, hcheck⟩ := (system String).exists_reachable_of_exec
    (.init ⟨1, emptyDocument, rfl⟩ :
      (system String).ReachableUnder Undisturbed (opened 1 emptyDocument))
    [.handleContentChange "draft", .saveDocument, .accept, .succeed savedNotes]
    (fun page => page.stored = "draft" ∧ page.content = "draft") (by decide +kernel)
  exact ⟨page, hreach, of_decide_eq_true hcheck, clean_page_is_stored hreach⟩

/-- What is typed while a save is in flight is recorded as saved and never sent. -/
theorem keystrokes_shown_as_saved :
    ¬ ∀ page : WorkspacePage String, (system String).Reachable page → page.Settled := by
  intro hall
  obtain ⟨page, hreach, hcheck⟩ := (system String).exists_reachable_of_exec
    (.init ⟨1, emptyDocument, rfl⟩ : (system String).Reachable (opened 1 emptyDocument))
    [.handleContentChange "a", .saveDocument, .handleContentChange "ab", .accept,
      .succeed savedNotes]
    (fun page => page.inFlight.isNone ∧ page.dirty = false ∧ page.stored ≠ page.content)
    (by decide +kernel)
  obtain ⟨hidle, hclean, hdiffers⟩ := of_decide_eq_true hcheck
  exact hdiffers (hall page hreach (Option.isNone_iff_eq_none.mp hidle) hclean)

end WorkspacePage

end CollabEditor.Frontend
