import CollabEditor.Frontend.PageVisits

/-! # The editor on the workspace page

The page gives its text to the editor, and the editor gives every change of its view back. The
view keeps lines: a text with carriage returns does not come back as it went in.
-/

namespace CollabEditor.Frontend

open Foundation

/-- The lines of a text, joined again: CodeMirror splits at LF, CR LF and CR. -/
def joinedLines : List Char → List Char
  | [] => []
  | '\r' :: '\n' :: rest => '\n' :: joinedLines rest
  | '\r' :: rest => '\n' :: joinedLines rest
  | c :: rest => c :: joinedLines rest

theorem return_notMem_joinedLines (text : List Char) : '\r' ∉ joinedLines text := by
  fun_induction joinedLines text with
  | case1 => exact List.not_mem_nil
  | case2 rest ih => simpa using ih
  | case3 rest hrest ih => simpa using ih
  | case4 c rest hpair hreturn ih =>
      rw [List.mem_cons, not_or]
      exact ⟨fun h => hreturn h.symm, ih⟩

theorem joinedLines_of_notMem {text : List Char} (hlines : '\r' ∉ text) :
    joinedLines text = text := by
  fun_induction joinedLines text with
  | case1 => rfl
  | case2 | case3 => simp at hlines
  | case4 c rest hpair hreturn ih => rw [ih (List.not_mem_of_not_mem_cons hlines)]

/-- `toString` of the document that CodeMirror makes of a text. -/
def documentText (text : String) : String := .ofList (joinedLines text.toList)

/-- A text comes back as it went in exactly if it has no carriage return. -/
theorem documentText_eq_self_iff {text : String} :
    documentText text = text ↔ '\r' ∉ text.toList := by
  constructor
  · intro hsame hreturn
    rw [← hsame, documentText, String.toList_ofList] at hreturn
    exact return_notMem_joinedLines _ hreturn
  · intro hlines
    rw [documentText, joinedLines_of_notMem hlines, String.ofList_toList]

@[simp] theorem documentText_documentText (text : String) :
    documentText (documentText text) = documentText text := by
  rw [documentText_eq_self_iff, documentText, String.toList_ofList]
  exact return_notMem_joinedLines _

/-- A mounted `MarkdownEditorComponent`. -/
structure MarkdownEditor where
  /-- The `content` input. -/
  content : String
  /-- The `doc` signal, which the preview renders. -/
  doc : String
  /-- The document of the view. -/
  view : String
deriving DecidableEq, Repr

/-- The workspace page with its editor. -/
structure EditingPage where
  page : VisitingPage
  editor : Option MarkdownEditor
  /-- Somebody has edited the text since the document was loaded, a record. -/
  edited : Bool
deriving DecidableEq, Repr

namespace EditingPage

def fresh (routeDocumentId : Option Int) : EditingPage where
  page := .fresh routeDocumentId
  editor := none
  edited := false

variable (editing : EditingPage)

/-- `contentChange` reaches `handleContentChange`. -/
def emit (page : VisitingPage) (value : String) : VisitingPage :=
  { page with content := value, saveError := none }

/-- The content effect. What it dispatches comes back through the update listener. -/
def contentEffect (page : VisitingPage) (editor : MarkdownEditor) : VisitingPage × MarkdownEditor :=
  if editor.view = editor.content then (page, { editor with doc := editor.content })
  else
    (emit page (documentText editor.content),
      { editor with
        doc := documentText editor.content
        view := documentText editor.content })

/-- The view of a new editor starts with the content. -/
def mounted (content : String) : MarkdownEditor where
  content := content
  doc := content
  view := documentText content

/-- The template: the editor is there unless the page is loading or shows an error. -/
def render (page : VisitingPage) (editor : Option MarkdownEditor) (edited : Bool) : EditingPage :=
  if page.loading = false ∧ page.error = none then
    match editor with
    | none =>
        let (page, editor) := contentEffect page (mounted page.content)
        ⟨page, some editor, edited⟩
    | some editor =>
        -- an input that has not changed does not run the effect
        if editor.content = page.content then ⟨page, some editor, edited⟩
        else
          let (page, editor) := contentEffect page { editor with content := page.content }
          ⟨page, some editor, edited⟩
  else ⟨page, none, edited⟩

/-- Change detection: the load effect, if the route has changed or the access token, which the
interceptor reads while the effect sends its request, then the template. -/
def tick (tokenChanged : Bool) : EditingPage :=
  if editing.page.destroyed = true then editing
  else render
    (if editing.page.due = true ∨ tokenChanged = true then editing.page.cleanup.load
      else editing.page)
    editing.editor editing.edited

/-- The page takes a change of the text, and the listener sets `doc`. -/
def changed (editor : MarkdownEditor) (text : String) : EditingPage where
  page := emit editing.page text
  editor := some { editor with doc := text, view := text }
  edited := true

/-- `setContent` hands the value on before the view has it. -/
def setContent (editor : MarkdownEditor) (value : String) : EditingPage :=
  if editor.view = value then
    { editing with
      page := emit editing.page value
      editor := some { editor with doc := value }
      edited := true }
  else changed { editing with page := emit editing.page value } editor (documentText value)

/-- A load that arrives, and the other answers, reach the page. -/
def onPage (event : VisitingPage.Event) : Option EditingPage :=
  (editing.page.step event).map fun page =>
    { editing with
      page := page
      edited := match event with
        | .document _ => false
        | _ => editing.edited }

inductive Event
  | navigate (routeDocumentId : Option Int)
  | lookedUp (lock : Option DocumentLockDto) (currentUser : Option String)
  | locked
  | document (doc : OpenedDocument String)
  | loadFailed (message : String)
  | saveDocument
  | saved (answer : SavedDocument)
  | saveFailed (message : String)
  /-- Angular runs. -/
  | tick (tokenChanged : Bool)
  /-- Typing, or a button of the toolbar. -/
  | transaction (text : String)
  | setContent (value : String)
  | destroy

/-- Somebody edits the text. -/
def Event.edits : Event → Bool
  | .transaction _ | .setContent _ => true
  | _ => false

/-- The event of the page alone. -/
def Event.page : Event → Option VisitingPage.Event
  | .navigate routeDocumentId => some (.navigate routeDocumentId)
  | .lookedUp lock currentUser => some (.lookedUp lock currentUser)
  | .locked => some .locked
  | .document doc => some (.document doc)
  | .loadFailed message => some (.loadFailed message)
  | .saveDocument => some .saveDocument
  | .saved answer => some (.saved answer)
  | .saveFailed message => some (.saveFailed message)
  | .tick _ | .transaction _ | .setContent _ | .destroy => none

def step (event : Event) : Option EditingPage :=
  match event with
  | .tick tokenChanged => some (editing.tick tokenChanged)
  | .transaction text =>
      editing.editor.bind fun editor =>
        -- the document of a view has no carriage returns
        if documentText text = text then some (editing.changed editor text) else none
  | .setContent value => editing.editor.map fun editor => editing.setContent editor value
  | .destroy =>
      (editing.page.step .destroy).map fun page => { editing with page := page, editor := none }
  | event => event.page.bind editing.onPage

def system : TransitionSystem EditingPage Event where
  init editing := ∃ routeDocumentId, editing = fresh routeDocumentId
  step := step

/-! ## What the editor shows -/

/-- The editor and the preview show the text of the page. -/
structure Shows (page : VisitingPage) (editor : MarkdownEditor) : Prop where
  view : editor.view = page.content
  doc : editor.doc = page.content
  lines : documentText page.content = page.content
  loading : page.loading = false
  error : page.error = none
  stage : page.stage = none
  destroyed : page.destroyed = false

/-- The text as it was saved, or as it comes back from a view. -/
def Untouched (page : VisitingPage) : Prop :=
  page.content = page.savedContent ∨ page.content = documentText page.savedContent

structure Sound (editing : EditingPage) : Prop where
  /-- The page goes through a run of its own. -/
  reachable : VisitingPage.system.Reachable editing.page
  shows_page : ∀ editor, editing.editor = some editor → Shows editing.page editor
  loads : editing.page.stage.isSome → editing.page.loading = true
  untouched : editing.edited = false → editing.page.lockHeld = true → Untouched editing.page

variable {editing} {page : VisitingPage}

/-- Nothing but the load of a document gives the page a text. -/
structure SameText (page next : VisitingPage) : Prop where
  content : next.content = page.content
  savedContent : next.savedContent = page.savedContent
  lockHeld : next.lockHeld = true → page.lockHeld = true

theorem SameText.untouched {next : VisitingPage} (hsame : SameText page next)
    (h : page.lockHeld = true → Untouched page) (hheld : next.lockHeld = true) :
    Untouched next := by
  rw [Untouched, hsame.content, hsame.savedContent]
  exact h (hsame.lockHeld hheld)

theorem SameText.cleanup (page : VisitingPage) : SameText page page.cleanup := by
  unfold VisitingPage.cleanup
  split
  next => exact ⟨rfl, rfl, id⟩
  next => exact ⟨rfl, rfl, nofun⟩

theorem SameText.load (page : VisitingPage) : SameText page page.load := by
  unfold VisitingPage.load
  split
  next => exact ⟨rfl, rfl, id⟩
  next => exact ⟨rfl, rfl, nofun⟩

theorem SameText.lookedUp (page : VisitingPage) (documentId : Int)
    (lock : Option DocumentLockDto) (currentUser : Option String) :
    SameText page (page.lookedUp documentId lock currentUser) ∧
      (page.loading = true → (page.lookedUp documentId lock currentUser).stage.isSome →
        (page.lookedUp documentId lock currentUser).loading = true) := by
  unfold VisitingPage.lookedUp
  split
  next => exact ⟨⟨rfl, rfl, id⟩, fun hloading _ => hloading⟩
  next =>
    split
    next => exact ⟨⟨rfl, rfl, id⟩, fun _ hnone => by cases hnone⟩
    next => exact ⟨⟨rfl, rfl, id⟩, fun hloading _ => hloading⟩

/-- A load shows no editor, and waits. -/
theorem load_hides (page : VisitingPage) :
    ¬ (page.load.loading = false ∧ page.load.error = none) ∧
      (page.stage = none → page.load.stage.isSome → page.load.loading = true) := by
  unfold VisitingPage.load
  split
  next => exact ⟨nofun, fun hidle hstage => by simp [hidle] at hstage⟩
  next => exact ⟨nofun, fun _ _ => rfl⟩

theorem cleanup_stage (hpage : page.Sound) : page.cleanup.stage = none := by
  unfold VisitingPage.cleanup
  split
  next hnone =>
    cases hstage : page.stage with
    | none => rfl
    | some stage =>
        have hvisit := (hpage.waiting stage hstage).1
        rw [hnone] at hvisit
        cases hvisit
  next => rfl

/-- A change of the text is a step of the page. -/
theorem reachable_emit (hreach : VisitingPage.system.Reachable page)
    (hloading : page.loading = false) (herror : page.error = none)
    (hdestroyed : page.destroyed = false) (value : String) :
    VisitingPage.system.Reachable (emit page value) := by
  have hstep : VisitingPage.system.step page (.handleContentChange value) =
      some (emit page value) := if_pos ⟨hdestroyed, hloading, herror⟩
  exact hreach.step trivial hstep

/-- The content effect of an editor that gets the text of the page. -/
theorem Sound.contentEffect {editor : MarkdownEditor} {edited : Bool}
    (hreach : VisitingPage.system.Reachable page) (hcontent : editor.content = page.content)
    (hview : editor.view = documentText page.content) (hloading : page.loading = false)
    (herror : page.error = none) (hstage : page.stage = none) (hdestroyed : page.destroyed = false)
    (huntouched : edited = false → page.lockHeld = true → Untouched page) :
    (⟨(contentEffect page editor).1, some (contentEffect page editor).2, edited⟩ :
      EditingPage).Sound := by
  have hidle : page.stage.isSome = true → page.loading = true := by simp [hstage]
  unfold EditingPage.contentEffect
  split
  next hsame =>
    have hlines : documentText page.content = page.content := by rw [← hview, hsame, hcontent]
    refine ⟨hreach, ?_, hidle, huntouched⟩
    rintro shown ⟨⟩
    exact ⟨hview.trans hlines, hcontent, hlines, hloading, herror, hstage, hdestroyed⟩
  next =>
    rw [hcontent]
    refine ⟨reachable_emit hreach hloading herror hdestroyed _, ?_, hidle, fun hedited hheld => ?_⟩
    · rintro shown ⟨⟩
      exact ⟨rfl, rfl, documentText_documentText _, hloading, herror, hstage, hdestroyed⟩
    · -- what comes back from the view comes back the same way again
      rcases huntouched hedited hheld with hsaved | hsaved
      · exact .inr (congrArg documentText hsaved)
      · refine .inr ((congrArg documentText hsaved).trans ?_)
        exact documentText_documentText _

theorem Sound.render (hreach : VisitingPage.system.Reachable page)
    {editor : Option MarkdownEditor} {edited : Bool}
    (hshows : ∀ shown, editor = some shown → Shows page shown)
    (hloads : page.stage.isSome → page.loading = true) (hdestroyed : page.destroyed = false)
    (huntouched : edited = false → page.lockHeld = true → Untouched page) :
    (EditingPage.render page editor edited).Sound := by
  unfold EditingPage.render
  split
  next hrendered =>
    obtain ⟨hloading, herror⟩ := hrendered
    have hstage : page.stage = none := by
      cases hstage : page.stage with
      | none => rfl
      | some stage => cases (hloads (by rw [hstage]; rfl)).symm.trans hloading
    cases editor with
    | none => exact .contentEffect hreach rfl rfl hloading herror hstage hdestroyed huntouched
    | some editor =>
        have hshown := hshows editor rfl
        dsimp only
        split
        next =>
          exact ⟨hreach, fun shown hsame => hshows shown hsame, hloads, huntouched⟩
        next =>
          refine .contentEffect hreach rfl ?_ hloading herror hstage hdestroyed huntouched
          exact hshown.view.trans hshown.lines.symm
  next => exact ⟨hreach, nofun, hloads, huntouched⟩

theorem Sound.tick (h : editing.Sound) (tokenChanged : Bool) :
    (editing.tick tokenChanged).Sound := by
  unfold EditingPage.tick
  split
  next => exact h
  next hdestroyed =>
    have halive : editing.page.destroyed = false := Bool.not_eq_true _ ▸ hdestroyed
    split
    next =>
      have hpage := VisitingPage.reachable_sound h.reachable
      have hstep : VisitingPage.system.step editing.page .runEffect =
          some editing.page.cleanup.load := if_neg hdestroyed
      obtain ⟨hhides, hloads⟩ := load_hides editing.page.cleanup
      unfold EditingPage.render
      rw [if_neg hhides]
      refine ⟨h.reachable.step trivial hstep, nofun, hloads (cleanup_stage hpage), ?_⟩
      intro hedited
      exact (SameText.load _).untouched ((SameText.cleanup _).untouched (h.untouched hedited))
    next => exact .render h.reachable h.shows_page h.loads halive h.untouched

/-- A page that waits has no editor. -/
theorem Sound.waiting (h : editing.Sound) {stage : LoadStage}
    (hstage : editing.page.stage = some stage) : editing.editor = none := by
  cases heditor : editing.editor with
  | none => rfl
  | some editor => cases hstage.symm.trans (h.shows_page editor heditor).stage

/-- The page changes beside the editor. -/
theorem Sound.beside (h : editing.Sound) {after : VisitingPage}
    (hreach : VisitingPage.system.Reachable after)
    (hcontent : after.content = editing.page.content)
    (hloading : after.loading = editing.page.loading) (herror : after.error = editing.page.error)
    (hstage : after.stage = editing.page.stage)
    (hdestroyed : after.destroyed = editing.page.destroyed)
    (huntouched : editing.edited = false → after.lockHeld = true → Untouched after) :
    Sound { editing with page := after } := by
  refine ⟨hreach, fun editor heditor => ?_, ?_, huntouched⟩
  · have hshown := h.shows_page editor heditor
    exact ⟨hshown.view.trans hcontent.symm, hshown.doc.trans hcontent.symm,
      hcontent ▸ hshown.lines, hloading.trans hshown.loading, herror.trans hshown.error,
      hstage.trans hshown.stage, hdestroyed.trans hshown.destroyed⟩
  · rw [hstage, hloading]
    exact h.loads

theorem Sound.saveDocument (h : editing.Sound)
    (hreach : VisitingPage.system.Reachable editing.page.saveDocument) :
    Sound { editing with page := editing.page.saveDocument } := by
  have hsaves : editing.page.saveDocument = editing.page ∨ ∃ inFlight requests,
      editing.page.saveDocument = { editing.page with
        saving := true
        saveError := none
        saveInFlight := inFlight
        requests := requests } := by
    unfold VisitingPage.saveDocument
    split
    next => exact .inl rfl
    next =>
      split
      next => exact .inl rfl
      next documentId hactive hsave => exact .inr ⟨some documentId, _, rfl⟩
  rcases hsaves with hsame | ⟨inFlight, requests, hsends⟩
  · rw [hsame]
    exact h
  · rw [hsends] at hreach ⊢
    exact h.beside hreach rfl rfl rfl rfl rfl h.untouched

/-- An answer reaches a page that waits. -/
theorem Sound.arrives (h : editing.Sound) {stage : LoadStage}
    (hwaits : editing.page.stage = some stage) {after : VisitingPage} {edited : Bool}
    (hreach : VisitingPage.system.Reachable after)
    (hloads : editing.page.loading = true → after.stage.isSome → after.loading = true)
    (huntouched : edited = false → after.lockHeld = true → Untouched after) :
    Sound ⟨after, editing.editor, edited⟩ where
  reachable := hreach
  shows_page editor heditor := by
    rw [h.waiting hwaits] at heditor
    cases heditor
  loads := hloads (h.loads (by rw [hwaits]; rfl))
  untouched := huntouched

theorem Sound.onPage (h : editing.Sound) {event : Event} {own : VisitingPage.Event}
    (hown : event.page = some own) {next : EditingPage}
    (hstep : editing.onPage own = some next) : next.Sound := by
  obtain ⟨after, hafter, rfl⟩ := Option.map_eq_some_iff.mp hstep
  have hreach : VisitingPage.system.Reachable after := h.reachable.step trivial hafter
  cases event with
  | navigate routeDocumentId =>
      cases hown
      obtain ⟨-, hafter⟩ := Option.ite_none_left_eq_some.mp hafter
      cases hafter
      exact h.beside hreach rfl rfl rfl rfl rfl h.untouched
  | lookedUp lock currentUser =>
      cases hown
      obtain ⟨hstage, documentId, -, rfl⟩ := VisitingPage.answer_some hafter
      obtain ⟨hsame, hloads⟩ := SameText.lookedUp editing.page documentId lock currentUser
      exact h.arrives hstage hreach hloads fun hedited => hsame.untouched (h.untouched hedited)
  | locked =>
      cases hown
      obtain ⟨hstage, documentId, -, rfl⟩ := VisitingPage.answer_some hafter
      exact h.arrives hstage hreach (fun hloading _ => hloading) h.untouched
  | document doc =>
      cases hown
      obtain ⟨hstage, documentId, -, rfl⟩ := VisitingPage.answer_some hafter
      exact h.arrives hstage hreach (fun _ hnone => by cases hnone) fun _ _ => .inl rfl
  | loadFailed message =>
      cases hown
      obtain ⟨hsome, hafter⟩ := Option.ite_none_right_eq_some.mp hafter
      cases hafter
      obtain ⟨stage, hstage⟩ := Option.isSome_iff_exists.mp hsome
      exact h.arrives hstage hreach (fun _ hnone => by cases hnone) h.untouched
  | saveDocument =>
      cases hown
      obtain ⟨-, hafter⟩ := Option.ite_none_left_eq_some.mp hafter
      cases hafter
      exact h.saveDocument hreach
  | saved answer =>
      cases hown
      obtain ⟨documentId, -, rfl⟩ := Option.map_eq_some_iff.mp hafter
      exact h.beside hreach rfl rfl rfl rfl rfl fun _ _ => .inl rfl
  | saveFailed message =>
      cases hown
      obtain ⟨documentId, -, rfl⟩ := Option.map_eq_some_iff.mp hafter
      exact h.beside hreach rfl rfl rfl rfl rfl h.untouched
  | tick | transaction | setContent | destroy => cases hown

/-- Somebody edits the text. -/
theorem Sound.changed (h : editing.Sound) {editor : MarkdownEditor}
    (heditor : editing.editor = some editor) {text : String} (hlines : documentText text = text) :
    (editing.changed editor text).Sound := by
  have hshown := h.shows_page editor heditor
  refine ⟨reachable_emit h.reachable hshown.loading hshown.error hshown.destroyed text, ?_,
    h.loads, nofun⟩
  rintro shown ⟨⟩
  exact ⟨rfl, rfl, hlines, hshown.loading, hshown.error, hshown.stage, hshown.destroyed⟩

theorem Sound.setContent (h : editing.Sound) {editor : MarkdownEditor}
    (heditor : editing.editor = some editor) (value : String) :
    (editing.setContent editor value).Sound := by
  have hshown := h.shows_page editor heditor
  have hemitted := reachable_emit h.reachable hshown.loading hshown.error hshown.destroyed value
  unfold EditingPage.setContent
  split
  next hsame =>
    refine ⟨hemitted, ?_, h.loads, nofun⟩
    rintro shown ⟨⟩
    have hlines : documentText value = value := by
      rw [← hsame, hshown.view]
      exact hshown.lines
    exact ⟨hsame, rfl, hlines, hshown.loading, hshown.error, hshown.stage, hshown.destroyed⟩
  next =>
    refine ⟨reachable_emit hemitted hshown.loading hshown.error hshown.destroyed _, ?_, h.loads,
      nofun⟩
    rintro shown ⟨⟩
    exact ⟨rfl, rfl, documentText_documentText value, hshown.loading, hshown.error, hshown.stage,
      hshown.destroyed⟩

theorem step_of_page {event : Event} {own : VisitingPage.Event} (hown : event.page = some own) :
    editing.step event = editing.onPage own := by
  cases event with
  | tick | transaction | setContent | destroy => cases hown
  | navigate | lookedUp | locked | document | loadFailed | saveDocument | saved | saveFailed =>
      cases hown
      rfl

theorem Sound.step (h : editing.Sound) {event : Event} {next : EditingPage}
    (hstep : editing.step event = some next) : next.Sound := by
  cases hown : event.page with
  | some own =>
      rw [step_of_page hown] at hstep
      exact h.onPage hown hstep
  | none =>
      cases event with
      | tick tokenChanged =>
          cases hstep
          exact h.tick tokenChanged
      | transaction text =>
          obtain ⟨editor, heditor, hstep⟩ := Option.bind_eq_some_iff.mp hstep
          obtain ⟨hlines, hnext⟩ := Option.ite_none_right_eq_some.mp hstep
          cases hnext
          exact h.changed heditor hlines
      | setContent value =>
          obtain ⟨editor, heditor, rfl⟩ := Option.map_eq_some_iff.mp hstep
          exact h.setContent heditor value
      | destroy =>
          obtain ⟨after, hafter, rfl⟩ := Option.map_eq_some_iff.mp hstep
          have hdestroy : VisitingPage.system.step editing.page .destroy = some after := hafter
          have hreach := h.reachable.step trivial hdestroy
          obtain ⟨-, hafter⟩ := Option.ite_none_left_eq_some.mp hafter
          cases hafter
          refine ⟨hreach, nofun, fun hsome => ?_, fun hedited => ?_⟩
          · rw [cleanup_stage (VisitingPage.reachable_sound h.reachable)] at hsome
            cases hsome
          · exact (SameText.cleanup editing.page).untouched (h.untouched hedited)
      | navigate | lookedUp | locked | document | loadFailed | saveDocument | saved
      | saveFailed => cases hown

theorem reachable_sound (hreach : system.Reachable editing) : editing.Sound := by
  refine hreach.invariant system Sound ?_ fun _ _ _ _ h _ hstep => h.step hstep
  rintro editing ⟨routeDocumentId, rfl⟩
  exact ⟨.init ⟨routeDocumentId, rfl⟩, nofun, nofun, nofun⟩

/-! ## Main results -/

theorem render_load (page : VisitingPage) (editor : Option MarkdownEditor) (edited : Bool) :
    (EditingPage.render page.load editor edited).editor = none := by
  unfold EditingPage.render
  rw [if_neg (load_hides page).1]

/-- The view already has the text of the page. -/
theorem render_view {editor shown : MarkdownEditor} {edited : Bool}
    (hview : editor.view = page.content)
    (hshown : (EditingPage.render page (some editor) edited).editor = some shown) :
    shown.view = editor.view := by
  unfold EditingPage.render at hshown
  split at hshown
  next =>
    dsimp only at hshown
    split at hshown
    next => rw [Option.some.inj hshown]
    next =>
      unfold EditingPage.contentEffect at hshown
      rw [if_pos hview] at hshown
      rw [← Option.some.inj hshown]
  next => cases hshown

/-- Change detection does not touch the view of an editor that stays. -/
theorem Sound.tick_view (h : editing.Sound) {editor shown : MarkdownEditor}
    {tokenChanged : Bool} (heditor : editing.editor = some editor)
    (hshown : (editing.tick tokenChanged).editor = some shown) : shown.view = editor.view := by
  unfold EditingPage.tick at hshown
  split at hshown
  next => rw [Option.some.inj (heditor.symm.trans hshown)]
  next =>
    split at hshown
    next =>
      rw [render_load] at hshown
      cases hshown
    next =>
      rw [heditor] at hshown
      exact render_view (h.shows_page editor heditor).view hshown

/-- A text that nobody has edited is the saved one, as it comes back from a view. -/
theorem Sound.untouched_view (h : editing.Sound) {editor : MarkdownEditor}
    (heditor : editing.editor = some editor) (hedited : editing.edited = false)
    (hheld : editing.page.lockHeld = true) :
    editing.page.content = documentText editing.page.savedContent := by
  rcases h.untouched hedited hheld with hsaved | hsaved
  · rw [← hsaved, (h.shows_page editor heditor).lines]
  · exact hsaved

/-- The editor and its preview show the text of the page, which the next save sends, and only an
edit changes what the editor shows: no answer and no run of the effects overwrites what was
typed. -/
theorem editor_shows_text (hreach : system.Reachable editing) {editor : MarkdownEditor}
    (heditor : editing.editor = some editor) :
    editor.view = editing.page.content ∧ editor.doc = editing.page.content ∧
      '\r' ∉ editor.view.toList ∧
      ∀ event next shown, editing.step event = some next → next.editor = some shown →
        event.edits = false → shown.view = editor.view ∧ next.page.content = editor.view := by
  have h := reachable_sound hreach
  have hpage := h.shows_page editor heditor
  refine ⟨hpage.view, hpage.doc, ?_, fun event next shown hstep hshown hedits => ?_⟩
  · rw [← documentText_eq_self_iff, hpage.view]
    exact hpage.lines
  have hview : shown.view = editor.view := by
    cases hown : event.page with
    | some own =>
        rw [step_of_page hown] at hstep
        obtain ⟨after, -, rfl⟩ := Option.map_eq_some_iff.mp hstep
        rw [Option.some.inj (heditor.symm.trans hshown)]
    | none =>
        cases event with
        | tick =>
            cases hstep
            exact h.tick_view heditor hshown
        | destroy =>
            obtain ⟨after, -, rfl⟩ := Option.map_eq_some_iff.mp hstep
            cases hshown
        | transaction | setContent => cases hedits
        | navigate | lookedUp | locked | document | loadFailed | saveDocument | saved
        | saveFailed => cases hown
  exact ⟨hview, ((h.step hstep).shows_page shown hshown).view.symm.trans hview⟩

/-- The owner opens a document whose lines end with CR LF. -/
def openWindowsNotes : List Event :=
  [.tick false, .lookedUp none (some "owner"), .locked,
    .document ⟨"notes", "a\r\nb", .owner, 0, "2024-01-01T00:00:00Z"⟩, .tick false]

theorem editor_shows_text_typed : ∃ editing : EditingPage, ∃ editor : MarkdownEditor,
    editing.editor = some editor ∧ editor.view = "a\nbc" ∧ (editing.tick false).page.content = "a\nbc" := by
  obtain ⟨editing, hreach, hcheck⟩ := system.exists_reachable_of_exec
    (.init ⟨some 5, rfl⟩ : system.Reachable (fresh (some 5)))
    (openWindowsNotes ++ [.transaction "a\nbc"])
    (fun editing => decide (editing.editor.map MarkdownEditor.view = some "a\nbc" ∧
      (editing.tick false).editor.isSome = true)) (by decide +kernel)
  obtain ⟨hview, hsome⟩ := of_decide_eq_true hcheck
  obtain ⟨editor, heditor, hview⟩ := Option.map_eq_some_iff.mp hview
  obtain ⟨shown, hshown⟩ := Option.isSome_iff_exists.mp hsome
  refine ⟨editing, editor, heditor, hview, ?_⟩
  rw [((editor_shows_text hreach heditor).2.2.2 (.tick false) _ shown rfl hshown rfl).2, hview]

/-- A document that is shown in its editor, and that nobody has edited, counts as unsaved exactly
if its saved text has a carriage return, and then the next save replaces it by the text with other
line ends. -/
theorem untouched_rewritten (hreach : system.Reachable editing) {editor : MarkdownEditor}
    (heditor : editing.editor = some editor) (hedited : editing.edited = false)
    (hheld : editing.page.lockHeld = true) :
    (editing.page.dirty = true ↔ '\r' ∈ editing.page.savedContent.toList) ∧
      ∀ documentId, editing.page.activeDocumentId = some documentId →
        editing.page.canEdit = true → editing.page.saving = false →
        editing.page.saveDocument.requests = editing.page.requests ++
          if '\r' ∈ editing.page.savedContent.toList then
            [.saveDocument documentId (documentText editing.page.savedContent)
              editing.page.textOf]
          else [] := by
  have hcontent := (reachable_sound hreach).untouched_view heditor hedited hheld
  have hdirty : editing.page.dirty = true ↔ '\r' ∈ editing.page.savedContent.toList := by
    rw [VisitingPage.dirty, decide_eq_true_eq, hcontent, ne_eq, documentText_eq_self_iff, not_not]
  refine ⟨hdirty, fun documentId hactive hedit hsaving => ?_⟩
  rw [VisitingPage.saveDocument, hactive]
  dsimp only
  split
  next hrefused =>
    have hclean : editing.page.dirty = false := by
      simpa [hedit, hsaving] using hrefused
    rw [if_neg (by rw [← hdirty, hclean]; exact Bool.false_ne_true), List.append_nil]
  next hsends =>
    have hunsaved : editing.page.dirty = true := by
      simpa [hedit, hsaving] using hsends
    rw [if_pos (hdirty.mp hunsaved), hcontent]

theorem untouched_rewritten_windows : ∃ editing : EditingPage, system.Reachable editing ∧
    editing.editor.isSome = true ∧ editing.edited = false ∧
    editing.page.saveDocument.requests = editing.page.requests ++
      [.saveDocument 5 "a\nb" (some 5)] := by
  obtain ⟨editing, hreach, hcheck⟩ := system.exists_reachable_of_exec
    (.init ⟨some 5, rfl⟩ : system.Reachable (fresh (some 5))) openWindowsNotes
    (fun editing => decide (editing.editor.isSome = true ∧ editing.edited = false ∧
      editing.page.lockHeld = true ∧ editing.page.activeDocumentId = some 5 ∧
      editing.page.canEdit = true ∧ editing.page.saving = false ∧
      editing.page.savedContent = "a\r\nb" ∧ editing.page.textOf = some 5)) (by decide +kernel)
  obtain ⟨hsome, hedited, hheld, hactive, hedit, hsaving, hsaved, htext⟩ :=
    of_decide_eq_true hcheck
  obtain ⟨editor, heditor⟩ := Option.isSome_iff_exists.mp hsome
  refine ⟨editing, hreach, hsome, hedited, ?_⟩
  have hlines : documentText "a\r\nb" = "a\nb" := by decide +kernel
  rw [(untouched_rewritten hreach heditor hedited hheld).2 5 hactive hedit hsaving, hsaved, htext,
    if_pos (by decide), hlines]

end EditingPage

end CollabEditor.Frontend
