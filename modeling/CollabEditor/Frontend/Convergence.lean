import CollabEditor.Frontend.TextChanges

/-! # All editors of a document show one text

The sessions exchange operations in any order, and each creates them under its own client id.
Whether the views follow is up to the two listeners of the editor: a transaction has to come
through to the session, and a delta to the view.
-/

namespace CollabEditor.Frontend

open Foundation Splice

/-- What is assumed of the events of `Y.Text`: a delta leads from the text before a transaction
to the text after it. -/
structure TextDeltas {Op : Type} (text : Finset Op → Text) where
  delta : Finset Op → Finset Op → List DeltaOp
  valid : ∀ doc next, doc ⊆ next → ValidOn (text doc).length (delta doc next)
  applied : ∀ doc next, doc ⊆ next → applyDelta (delta doc next) (text doc) = text next
  text_empty : text ∅ = []

/-- A mounted `MarkdownYjsEditorComponent`. -/
structure Editor (Op : Type) where
  session : MarkdownYjsSession Op
  /-- The document of the view. -/
  view : Text
  /-- The `doc` signal, which the preview renders. -/
  doc : Text
deriving DecidableEq

namespace Editor

variable {Op : Type} [DecidableEq Op] (yjs : Yjs Op) (deltas : TextDeltas yjs.text)
  (mirror : CodeMirror) (editor : Editor Op)

/-- `ngAfterViewInit`; the workspace passes no content. -/
def mounted : Editor Op where
  session := .new yjs []
  view := (MarkdownYjsSession.new yjs []).getPlainText yjs
  doc := []

/-- A transaction of the view, and the update listener. The observer of `Y.Text` sets `doc`. -/
def transaction (changes : List ChangeSpec) : Editor Op :=
  match (MarkdownYjsEditor.updateListener yjs ⟨some editor.session, false⟩ changes).session with
  | none => editor
  | some session => ⟨session, applyAll changes editor.view, session.getPlainText yjs⟩

/-- The delta of an update. -/
def deltaOf (update : Finset Op) : List DeltaOp :=
  deltas.delta editor.session.doc (editor.session.applyRemoteUpdate yjs update).doc

/-- An update from `remoteUpdates`, and the delta listener. -/
def applyRemoteUpdate (update : Finset Op) : Editor Op where
  session := editor.session.applyRemoteUpdate yjs update
  -- an exception of `dispatch` leaves the view as it is
  view := (mirror.onDelta editor.view (editor.deltaOf yjs deltas update)
    .markdownYjsRemote).getD editor.view
  doc := (editor.session.applyRemoteUpdate yjs update).getPlainText yjs

/-- The view and the preview show the text of the session. -/
structure Agrees : Prop where
  view : editor.view = editor.session.getPlainText yjs
  doc : editor.doc = editor.view
  lines : carriageReturn ∉ editor.view

end Editor

/-- An insert without carriage returns. -/
def DeltaOp.Clean : DeltaOp → Prop
  | .insert text => carriageReturn ∉ text
  | .retain _ | .delete _ => True

instance : DecidablePred DeltaOp.Clean
  | .insert text => inferInstanceAs (Decidable (carriageReturn ∉ text))
  | .retain _ | .delete _ => isTrue trivial

/-- Changes without carriage returns: `Text` of CodeMirror splits at them. -/
def CleanChanges (changes : List ChangeSpec) : Prop :=
  ∀ change ∈ changes, carriageReturn ∉ change.insert

instance : DecidablePred CleanChanges := fun changes =>
  inferInstanceAs (Decidable (∀ change ∈ changes, carriageReturn ∉ change.insert))

instance decidableKeepsPositions : (ahead : Int) → (afterDelete : Bool) →
    (delta : List DeltaOp) → Decidable (KeepsPositions ahead afterDelete delta)
  | _, _, [] => isTrue trivial
  | ahead, _, .retain _ :: rest => decidableKeepsPositions ahead false rest
  | ahead, _, .delete n :: rest =>
      have := decidableKeepsPositions (ahead - n) true rest
      inferInstanceAs (Decidable (ahead = 0 ∧ KeepsPositions (ahead - n) true rest))
  | ahead, afterDelete, .insert text :: rest =>
      have := decidableKeepsPositions (ahead + text.length) afterDelete rest
      inferInstanceAs (Decidable ((ahead = 0 ∨ ahead < 0 ∧ afterDelete = true) ∧
        KeepsPositions (ahead + text.length) afterDelete rest))

instance decidableInPlace : (ahead : Int) → (changes : List ChangeSpec) →
    Decidable (InPlace ahead changes)
  | _, [] => isTrue trivial
  | ahead, change :: rest =>
      have := decidableInPlace
        (ahead + (change.insert.length - (change.stop - change.start))) rest
      inferInstanceAs (Decidable (ahead = 0 ∧
        InPlace (ahead + (change.insert.length - (change.stop - change.start))) rest))

/-- A delta that the view follows. -/
def Followable (delta : List DeltaOp) : Prop :=
  KeepsPositions 0 false delta ∧ ∀ op ∈ delta, op.Clean

instance (delta : List DeltaOp) : Decidable (Followable delta) :=
  inferInstanceAs (Decidable (_ ∧ _))

/-- The editors of a document, the document of the worker, and all updates handed out so far
with the editors they come from. The client id of the worker is 0, that of an editor the next
after its index. -/
structure EditingRoom (Op : Type) where
  editors : List (Editor Op)
  worker : Finset Op
  /-- What the worker has made of the stored content, a record. -/
  base : Finset Op
  published : List (Nat × Finset Op)

namespace EditingRoom

variable {Op : Type} [DecidableEq Op] (docs : YjsDocs Op) (deltas : TextDeltas docs.text)
  (mirror : CodeMirror) (room : EditingRoom Op)

/-- A new runtime of the worker. -/
def opened (content : Text) : EditingRoom Op where
  editors := []
  worker := (docs.doc 0).edits (if content ≠ [] then [.insert 0 content] else []) ∅
  base := (docs.doc 0).edits (if content ≠ [] then [.insert 0 content] else []) ∅
  published := []

inductive Event
  | join
  /-- Typing, the toolbar, `setContent`, `replaceSelection` or `insertCodeBlock`. -/
  | transaction (index : Nat) (changes : List ChangeSpec)
  /-- A message reaches another editor: at any time, in any order, once or more often. -/
  | deliver (index message : Nat)
  /-- The state of the worker reaches an editor. -/
  | snapshot (index : Nat)
  /-- A message reaches the worker. -/
  | serve (message : Nat)
deriving DecidableEq

def step : Event → Option (EditingRoom Op)
  | .join =>
      some { room with
        editors := room.editors ++ [.mounted (docs.doc (room.editors.length + 1))] }
  | .transaction index changes => do
      let editor ← room.editors[index]?
      if Ascending changes ∧ Within editor.view.length changes ∧ CleanChanges changes then
        let next := editor.transaction (docs.doc (index + 1)) changes
        some { room with
          editors := room.editors.set index next
          published := room.published ++
            (next.session.handed.drop editor.session.handed.length).map (index, ·) }
      else none
  | .deliver index message => do
      let editor ← room.editors[index]?
      let sent ← room.published[message]?
      if sent.1 = index then none
      else
        some { room with
          editors := room.editors.set index
            (editor.applyRemoteUpdate (docs.doc (index + 1)) deltas mirror sent.2) }
  | .snapshot index => do
      let editor ← room.editors[index]?
      some { room with
        editors := room.editors.set index
          (editor.applyRemoteUpdate (docs.doc (index + 1)) deltas mirror room.worker) }
  | .serve message => do
      let sent ← room.published[message]?
      some { room with worker := room.worker ∪ sent.2 }

def system : TransitionSystem (EditingRoom Op) Event where
  init room := ∃ content, room = opened docs content
  step := step docs deltas mirror

/-- Transactions come through to the session, and deltas to the view. A transaction that changes
one range always does. -/
def Faithful : Event → Prop
  | .transaction _ changes => InPlace 0 changes
  | .deliver index message => ∀ editor ∈ room.editors[index]?, ∀ sent ∈ room.published[message]?,
      Followable (editor.deltaOf (docs.doc (index + 1)) deltas sent.2)
  | .snapshot index => ∀ editor ∈ room.editors[index]?,
      Followable (editor.deltaOf (docs.doc (index + 1)) deltas room.worker)
  | .join | .serve _ => True

instance (event : Event) : Decidable (room.Faithful docs deltas event) :=
  match event with
  | .transaction _ changes => inferInstanceAs (Decidable (InPlace 0 changes))
  | .deliver index message =>
      inferInstanceAs (Decidable (∀ editor ∈ room.editors[index]?,
        ∀ sent ∈ room.published[message]?,
          Followable (editor.deltaOf (docs.doc (index + 1)) deltas sent.2)))
  | .snapshot index =>
      inferInstanceAs (Decidable (∀ editor ∈ room.editors[index]?,
        Followable (editor.deltaOf (docs.doc (index + 1)) deltas room.worker)))
  | .join | .serve _ => isTrue trivial

/-- All operations there are. -/
def operations : Finset Op := room.base ∪ replica (room.published.map Prod.snd)

end EditingRoom

/-! ## One editor -/

section Editor

variable {Op : Type} [DecidableEq Op] {yjs : Yjs Op} {deltas : TextDeltas yjs.text}
  {mirror : CodeMirror} {editor : Editor Op}

theorem Followable.onDelta_eq {delta : List DeltaOp} (hfollow : Followable delta) {doc : Text}
    (hvalid : ValidOn doc.length delta) (hlines : carriageReturn ∉ doc) :
    mirror.onDelta doc delta .markdownYjsRemote = some (applyDelta delta doc) := by
  refine (onDelta_follows_iff mirror hvalid).mpr ⟨hfollow.1, ?_⟩ doc ⟨rfl, hlines⟩
  exact fun text hinsert => hfollow.2 _ hinsert

theorem carriageReturn_notMem_applyDelta {delta : List DeltaOp} (hclean : ∀ op ∈ delta, op.Clean)
    {text : Text} (hlines : carriageReturn ∉ text) : carriageReturn ∉ applyDelta delta text := by
  induction delta generalizing text with
  | nil => exact hlines
  | cons op rest ih =>
      have hrest : ∀ op ∈ rest, op.Clean := fun op hop => hclean op (List.mem_cons_of_mem _ hop)
      have hdrop : ∀ n, carriageReturn ∉ text.drop n := fun n h => hlines (List.mem_of_mem_drop h)
      cases op with
      | retain n =>
          rw [applyDelta, List.mem_append, not_or]
          exact ⟨fun h => hlines (List.mem_of_mem_take h), ih hrest (hdrop n)⟩
      | delete n => exact ih hrest (hdrop n)
      | insert inserted =>
          rw [applyDelta, List.mem_append, not_or]
          exact ⟨hclean _ List.mem_cons_self, ih hrest hlines⟩

namespace Editor

theorem Agrees.mounted (deltas : TextDeltas yjs.text) : (mounted yjs).Agrees yjs where
  view := rfl
  doc := deltas.text_empty.symm
  lines := by
    have hview : (Editor.mounted yjs).view = [] := deltas.text_empty
    rw [hview]
    exact List.not_mem_nil

/-- The session after a transaction. -/
theorem transaction_session (yjs : Yjs Op) (editor : Editor Op) (changes : List ChangeSpec) :
    ∃ session, editor.transaction yjs changes =
        ⟨session, applyAll changes editor.view, session.getPlainText yjs⟩ ∧
      (changes = [] ∧ session = editor.session ∨
        session = editor.session.applyLocalChanges yjs (localChanges 0 changes)) := by
  by_cases hnone : changes = []
  · have hlistener : (MarkdownYjsEditor.updateListener yjs ⟨some editor.session, false⟩
        changes).session = some editor.session := by
      rw [MarkdownYjsEditor.updateListener, if_pos hnone]
    refine ⟨editor.session, ?_, .inl ⟨hnone, rfl⟩⟩
    rw [transaction, hlistener]
  · have hlistener : (MarkdownYjsEditor.updateListener yjs ⟨some editor.session, false⟩
        changes).session =
          some (editor.session.applyLocalChanges yjs (localChanges 0 changes)) := by
      rw [MarkdownYjsEditor.updateListener, if_neg hnone, if_neg (by simp)]
      rfl
    refine ⟨_, ?_, .inr rfl⟩
    rw [transaction, hlistener]

/-- Ranges that are not moved reach the session as they are. -/
theorem localChanges_of_inPlace {ahead : Int} {changes : List ChangeSpec}
    (hin : InPlace ahead changes) :
    localChanges ahead changes =
      changes.map fun change => ⟨change.start, change.stop, change.insert⟩ := by
  induction changes generalizing ahead with
  | nil => rfl
  | cons change rest ih =>
      obtain ⟨rfl, hrest⟩ := hin
      rw [localChanges, ih hrest, Int.add_zero, Int.add_zero]
      rfl

theorem inText_of_within {length : Nat} {changes : List ChangeSpec}
    (hascending : Ascending changes) (hwithin : Within length changes) :
    InText length (changes.map fun change => ⟨change.start, change.stop, change.insert⟩) where
  ranges := by
    intro moved hmoved
    obtain ⟨change, hchange, rfl⟩ := List.mem_map.mp hmoved
    have hforward := hascending.forward change hchange
    have hstop := hwithin change hchange
    exact ⟨Int.natCast_nonneg _, Int.ofNat_le.mpr hforward, Int.ofNat_le.mpr hstop.2⟩
  ordered := by
    rw [List.pairwise_map]
    exact hascending.ordered.imp fun hle => Int.ofNat_le.mpr hle

theorem Agrees.transaction (h : editor.Agrees yjs) {Ready : Finset Op → Prop}
    (hplain : yjs.PlainInRange Ready) (hready : Ready editor.session.doc)
    {changes : List ChangeSpec} (hascending : Ascending changes)
    (hwithin : Within editor.view.length changes) (hin : InPlace 0 changes)
    (hlines : CleanChanges changes) :
    (editor.transaction yjs changes).Agrees yjs := by
  have hshown : (editor.transaction yjs changes).session.getPlainText yjs =
      applyAll changes editor.view := by
    obtain ⟨session, htransaction, hsession⟩ := transaction_session yjs editor changes
    rw [htransaction]
    rw [h.view] at hwithin ⊢
    rcases hsession with ⟨rfl, rfl⟩ | rfl
    · exact (applyAll_nil _).symm
    · rw [localChanges_of_inPlace hin,
        MarkdownYjsSession.text_applyLocalChanges hplain hready
          (inText_of_within hascending hwithin), List.map_map]
      exact congrArg (applyAll · _) (List.map_id changes)
  obtain ⟨session, htransaction, -⟩ := transaction_session yjs editor changes
  rw [htransaction] at hshown ⊢
  refine ⟨hshown.symm, hshown, ?_⟩
  intro hreturn
  rcases mem_applyFrom hreturn with hold | ⟨change, hchange, hnew⟩
  · exact h.lines hold
  · exact hlines change hchange hnew

theorem Agrees.applyRemoteUpdate (h : editor.Agrees yjs) {update : Finset Op}
    (hfollow : Followable (editor.deltaOf yjs deltas update)) :
    (editor.applyRemoteUpdate yjs deltas mirror update).Agrees yjs := by
  have hgrows : editor.session.doc ⊆ (editor.session.applyRemoteUpdate yjs update).doc :=
    Finset.subset_union_left
  have hvalid : ValidOn editor.view.length (editor.deltaOf yjs deltas update) := by
    rw [h.view]
    exact deltas.valid _ _ hgrows
  have happlied : applyDelta (editor.deltaOf yjs deltas update) editor.view =
      (editor.session.applyRemoteUpdate yjs update).getPlainText yjs := by
    rw [h.view]
    exact deltas.applied _ _ hgrows
  have hview : (editor.applyRemoteUpdate yjs deltas mirror update).view =
      (editor.session.applyRemoteUpdate yjs update).getPlainText yjs := by
    rw [Editor.applyRemoteUpdate, hfollow.onDelta_eq hvalid h.lines, Option.getD_some, happlied]
  refine ⟨hview, hview.symm, ?_⟩
  rw [hview, ← happlied]
  exact carriageReturn_notMem_applyDelta hfollow.2 h.lines

/-- What a transaction integrates is handed out, after what was handed out before. -/
structure Hands (yjs : Yjs Op) (before after : MarkdownYjsSession Op) (more : List (Finset Op)) :
    Prop where
  received : after.received = before.received
  handed : after.handed = before.handed ++ more
  new : ∀ update ∈ more, update ⊆ yjs.integrated after.doc \ yjs.integrated before.doc
  all : ∀ op ∈ yjs.integrated after.doc,
    op ∈ yjs.integrated before.doc ∨ ∃ update ∈ more, op ∈ update

theorem Hands.update (yjs : Yjs Op) (session : MarkdownYjsSession Op) (doc : Finset Op) :
    ∃ more, Hands yjs session (session.update yjs doc .markdownYjsLocal) more := by
  generalize hnew : yjs.integrated doc \ yjs.integrated session.doc = new
  have hall : ∀ op ∈ yjs.integrated doc, op ∈ yjs.integrated session.doc ∨ op ∈ new := by
    intro op hop
    rw [← hnew, Finset.mem_sdiff]
    by_cases hold : op ∈ yjs.integrated session.doc
    · exact .inl hold
    · exact .inr ⟨hop, hold⟩
  simp only [MarkdownYjsSession.update, hnew, true_and]
  by_cases hnone : new = ∅
  · rw [if_neg (not_not.mpr hnone)]
    refine ⟨[], rfl, (List.append_nil _).symm, fun _ hupdate => absurd hupdate List.not_mem_nil,
      fun op hop => ?_⟩
    rcases hall op hop with hold | hop
    · exact .inl hold
    · exact absurd (hnone ▸ hop) (Finset.notMem_empty op)
  · rw [if_pos hnone]
    refine ⟨[new], rfl, rfl, fun update hupdate => ?_, fun op hop => ?_⟩
    · rw [List.mem_singleton.mp hupdate]
      exact hnew.symm.subset
    · exact (hall op hop).imp_right fun hop => ⟨new, List.mem_singleton_self _, hop⟩

theorem transaction_hands (yjs : Yjs Op) (h : editor.session.Relayed)
    (changes : List ChangeSpec) :
    (editor.transaction yjs changes).session.Relayed ∧
      (∃ textEdits, (editor.transaction yjs changes).session.doc =
        yjs.edits textEdits editor.session.doc) ∧
      ∃ more, Hands yjs editor.session (editor.transaction yjs changes).session more := by
  have hsame : Hands yjs editor.session editor.session [] :=
    ⟨rfl, (List.append_nil _).symm, fun _ hupdate => absurd hupdate List.not_mem_nil,
      fun _ hop => .inl hop⟩
  obtain ⟨session, htransaction, hsession⟩ := transaction_session yjs editor changes
  rw [htransaction]
  rcases hsession with ⟨-, rfl⟩ | rfl
  · exact ⟨h, ⟨[], rfl⟩, [], hsame⟩
  · have hstep : editor.session.step yjs (.applyLocalChanges (localChanges 0 changes)) =
        some (editor.session.applyLocalChanges yjs (localChanges 0 changes)) := rfl
    have hlocal : editor.session.NoSnapshot yjs (.applyLocalChanges (localChanges 0 changes)) :=
      trivial
    refine ⟨h.step hlocal hstep, ?_⟩
    rw [MarkdownYjsSession.applyLocalChanges]
    split
    next => exact ⟨⟨[], rfl⟩, [], hsame⟩
    next => exact ⟨⟨_, rfl⟩, Hands.update yjs editor.session _⟩

end Editor

end Editor

/-! ## The room -/

namespace EditingRoom

variable {Op : Type} [DecidableEq Op] {docs : YjsDocs Op} {deltas : TextDeltas docs.text}
  {mirror : CodeMirror} {room : EditingRoom Op}

theorem mem_operations {op : Op} :
    op ∈ room.operations ↔ op ∈ room.base ∨ ∃ sent ∈ room.published, op ∈ sent.2 := by
  simp only [operations, Finset.mem_union, mem_replica, List.mem_map, exists_exists_and_eq_and]

theorem subset_operations {sent : Nat × Finset Op} (hsent : sent ∈ room.published) :
    sent.2 ⊆ room.operations := fun _ hop => mem_operations.mpr (.inr ⟨sent, hsent, hop⟩)

/-- An editor with what it has received and handed out. What has its client id, it has itself. -/
structure Accounted (docs : YjsDocs Op) (room : EditingRoom Op) (index : Nat)
    (editor : Editor Op) : Prop where
  agrees : editor.Agrees (docs.doc (index + 1))
  relayed : editor.session.Relayed
  received : ∀ update ∈ editor.session.received, update ⊆ room.operations
  handed : ∀ update ∈ editor.session.handed, (index, update) ∈ room.published
  own : ∀ op ∈ room.operations, docs.client op = index + 1 →
    op ∈ docs.integrated editor.session.doc

/-- Every editor is accounted for, the worker has made nothing up, and an operation is published
by the editor whose client id it has, after all that it depends on. -/
structure Sound (docs : YjsDocs Op) (room : EditingRoom Op) : Prop where
  editors : ∀ index editor, room.editors[index]? = some editor → room.Accounted docs index editor
  worker : room.worker ⊆ room.operations
  closed : Causal.Closed docs.dependencies room.operations
  base : ∀ op ∈ room.base, docs.client op = 0
  published : ∀ sent ∈ room.published, sent.1 < room.editors.length ∧
    ∀ op ∈ sent.2, docs.client op = sent.1 + 1

/-- What an editor has is among all the operations. -/
theorem Accounted.subset {index : Nat} {editor : Editor Op}
    (h : room.Accounted docs index editor) : editor.session.doc ⊆ room.operations := by
  intro op hop
  rw [h.relayed, mem_replica] at hop
  obtain ⟨update, hupdate, hop⟩ := hop
  rcases List.mem_append.mp hupdate with hreceived | hhanded
  · exact h.received update hreceived hop
  · exact subset_operations (h.handed update hhanded) hop

/-- Whatever an editor waits for comes from others. -/
theorem Accounted.ready {index : Nat} {editor : Editor Op} (h : room.Accounted docs index editor)
    (hclosed : Causal.Closed docs.dependencies room.operations) :
    docs.Ready (index + 1) editor.session.doc := by
  intro op hop dependency hdependency hclient
  exact h.own dependency (hclosed op (h.subset hop) hdependency) hclient

/-- Others have published more. -/
theorem Accounted.mono {index : Nat} {editor : Editor Op} (h : room.Accounted docs index editor)
    {later : EditingRoom Op} (hoperations : room.operations ⊆ later.operations)
    (hpublished : room.published ⊆ later.published)
    (hothers : ∀ op ∈ later.operations, docs.client op = index + 1 → op ∈ room.operations) :
    later.Accounted docs index editor where
  agrees := h.agrees
  relayed := h.relayed
  received update hupdate := (h.received update hupdate).trans hoperations
  handed update hupdate := hpublished (h.handed update hupdate)
  own op hop hclient := h.own op (hothers op hop hclient) hclient

/-- An update of known operations reaches an editor. -/
theorem Accounted.applyRemoteUpdate (mirror : CodeMirror) {index : Nat} {editor : Editor Op}
    (h : room.Accounted docs index editor) {update : Finset Op}
    (hupdate : update ⊆ room.operations)
    (hfollow : Followable (editor.deltaOf (docs.doc (index + 1)) deltas update)) :
    room.Accounted docs index
      (editor.applyRemoteUpdate (docs.doc (index + 1)) deltas mirror update) where
  agrees := h.agrees.applyRemoteUpdate hfollow
  relayed := h.relayed.applyRemoteUpdate update
  received known hknown := by
    rcases List.mem_append.mp hknown with hold | hnew
    · exact h.received known hold
    · rw [List.mem_singleton.mp hnew]
      exact hupdate
  handed known hknown := by
    refine h.handed known ?_
    simpa [Editor.applyRemoteUpdate, MarkdownYjsSession.applyRemoteUpdate,
      MarkdownYjsSession.update] using hknown
  own op hop hclient := Causal.integrable_mono Finset.subset_union_left (h.own op hop hclient)

/-- The room when an editor has published more. -/
def publish (room : EditingRoom Op) (more : List (Nat × Finset Op)) : EditingRoom Op :=
  { room with published := room.published ++ more }

theorem mem_operations_publish {more : List (Nat × Finset Op)} {op : Op} :
    op ∈ (room.publish more).operations ↔
      op ∈ room.operations ∨ ∃ sent ∈ more, op ∈ sent.2 := by
  rw [mem_operations, mem_operations, or_assoc]
  refine or_congr Iff.rfl ?_
  simp only [publish, List.mem_append, or_and_right, exists_or]

/-- One editor is replaced, and something may be published. -/
theorem Sound.set (h : room.Sound docs) {index : Nat} {next : Editor Op}
    (hindex : index < room.editors.length) (more : List (Nat × Finset Op))
    (hmore : ∀ sent ∈ more, sent.1 = index ∧ ∀ op ∈ sent.2, docs.client op = index + 1)
    (hclosed : Causal.Closed docs.dependencies (room.publish more).operations)
    (hnext : (room.publish more).Accounted docs index next) :
    Sound docs { room.publish more with editors := room.editors.set index next } := by
  have hoperations : room.operations ⊆ (room.publish more).operations :=
    fun op hop => mem_operations_publish.mpr (.inl hop)
  refine ⟨fun other editor hother => ?_, h.worker.trans hoperations, hclosed, h.base, ?_⟩
  · by_cases hsame : other = index
    · subst hsame
      have hset : editor = next := by
        rw [List.getElem?_set_self'] at hother
        obtain ⟨old, -, rfl⟩ := Option.map_eq_some_iff.mp hother
        rfl
      subst hset
      exact ⟨hnext.agrees, hnext.relayed, hnext.received, hnext.handed, hnext.own⟩
    · rw [List.getElem?_set_ne (Ne.symm hsame)] at hother
      have hold : (room.publish more).Accounted docs other editor := by
        refine (h.editors other editor hother).mono hoperations (List.subset_append_left _ _) ?_
        intro op hop hclient
        rcases mem_operations_publish.mp hop with hop | ⟨sent, hsent, hop⟩
        · exact hop
        · exact absurd (Nat.succ.inj (hclient.symm.trans ((hmore sent hsent).2 op hop))) hsame
      exact ⟨hold.agrees, hold.relayed, hold.received, hold.handed, hold.own⟩
  · intro sent hsent
    rw [List.length_set]
    rcases List.mem_append.mp hsent with hold | hnew
    · exact h.published sent hold
    · obtain ⟨rfl, hclient⟩ := hmore sent hnew
      exact ⟨hindex, hclient⟩

/-- One editor is replaced. -/
theorem Sound.replace (h : room.Sound docs) {index : Nat} {next : Editor Op}
    (hindex : index < room.editors.length) (hnext : room.Accounted docs index next) :
    Sound docs { room with editors := room.editors.set index next } := by
  have hsame : room.publish [] = room := by rw [publish, List.append_nil]
  have hset := h.set hindex [] nofun (hsame.symm ▸ h.closed) (hsame.symm ▸ hnext)
  rwa [hsame] at hset

/-- The transaction of an editor. -/
theorem Sound.transaction (h : room.Sound docs) (hsplices : docs.Splices) {index : Nat}
    {editor : Editor Op} (heditor : room.editors[index]? = some editor)
    {changes : List ChangeSpec} (hascending : Ascending changes)
    (hwithin : Within editor.view.length changes) (hin : InPlace 0 changes)
    (hlines : CleanChanges changes) :
    Sound docs { room with
      editors := room.editors.set index (editor.transaction (docs.doc (index + 1)) changes)
      published := room.published ++
        ((editor.transaction (docs.doc (index + 1)) changes).session.handed.drop
          editor.session.handed.length).map (index, ·) } := by
  have haccounted := h.editors index editor heditor
  have hready := haccounted.ready h.closed
  have hagrees := haccounted.agrees.transaction (hsplices.plainInRange (index + 1)) hready
    hascending hwithin hin hlines
  obtain ⟨hrelayed, ⟨textEdits, hdoc⟩, more, hhands⟩ :=
    Editor.transaction_hands (docs.doc (index + 1)) haccounted.relayed changes
  generalize editor.transaction (docs.doc (index + 1)) changes = next at *
  rw [hhands.handed, List.drop_left]
  -- what is new has the client id of the editor
  have hclient : ∀ op ∈ docs.integrated next.session.doc,
      op ∈ docs.integrated editor.session.doc ∨ docs.client op = index + 1 := by
    rw [hdoc]
    exact hready.edits_integrated textEdits
  have hnew : ∀ update ∈ more, ∀ op ∈ update,
      op ∈ docs.integrated next.session.doc ∧ docs.client op = index + 1 := by
    intro update hupdate op hop
    obtain ⟨hafter, hbefore⟩ := Finset.mem_sdiff.mp (hhands.new update hupdate hop)
    exact ⟨hafter, (hclient op hafter).resolve_left hbefore⟩
  have hmem : ∀ op, op ∈ (room.publish (more.map (index, ·))).operations ↔
      op ∈ room.operations ∨ ∃ update ∈ more, op ∈ update := by
    intro op
    simp only [mem_operations_publish, List.mem_map, exists_exists_and_eq_and]
  have hall : docs.integrated next.session.doc ⊆
      (room.publish (more.map (index, ·))).operations := by
    intro op hop
    refine (hmem op).mpr ((hhands.all op hop).imp_left fun hold => ?_)
    exact haccounted.subset (Causal.integrable_subset _ hold)
  have hgrows : docs.integrated editor.session.doc ⊆ docs.integrated next.session.doc := by
    rw [hdoc]
    exact Causal.integrable_mono (Yjs.edits_extends textEdits _).kept
  refine h.set (List.getElem?_eq_some_iff.mp heditor).1 _ ?_ ?_ ⟨hagrees, hrelayed, ?_, ?_, ?_⟩
  · intro sent hsent
    obtain ⟨update, hupdate, rfl⟩ := List.mem_map.mp hsent
    exact ⟨rfl, fun op hop => (hnew update hupdate op hop).2⟩
  · intro op hop
    rcases (hmem op).mp hop with hold | ⟨update, hupdate, hop⟩
    · exact (h.closed op hold).trans fun other hother => (hmem other).mpr (.inl hother)
    · exact (Causal.closed_integrable _ op (hnew update hupdate op hop).1).trans hall
  · intro update hupdate op hop
    rw [hhands.received] at hupdate
    exact (hmem op).mpr (.inl (haccounted.received update hupdate hop))
  · intro update hupdate
    rw [hhands.handed] at hupdate
    rcases List.mem_append.mp hupdate with hold | hnew
    · exact List.mem_append_left _ (haccounted.handed update hold)
    · exact List.mem_append_right _ (List.mem_map_of_mem hnew)
  · intro op hop hown
    rcases (hmem op).mp hop with hold | ⟨update, hupdate, hop⟩
    · exact hgrows (haccounted.own op hold hown)
    · exact (hnew update hupdate op hop).1

/-- A new editor has a client id that nobody has used. -/
theorem Sound.join (h : room.Sound docs) (deltas : TextDeltas docs.text) :
    Sound docs { room with
      editors := room.editors ++ [.mounted (docs.doc (room.editors.length + 1))] } := by
  refine ⟨fun index editor hindex => ?_, h.worker, h.closed, h.base, fun sent hsent => ?_⟩
  · rcases lt_or_ge index room.editors.length with hold | hnew
    · rw [List.getElem?_append_left hold] at hindex
      exact (h.editors index editor hindex).mono (fun _ hop => hop) (fun _ hop => hop)
        fun _ hop _ => hop
    · rw [List.getElem?_append_right hnew] at hindex
      have hlast : index = room.editors.length := by
        have hlt := (List.getElem?_eq_some_iff.mp hindex).1
        rw [List.length_singleton] at hlt
        omega
      subst hlast
      obtain rfl : editor = .mounted (docs.doc (room.editors.length + 1)) := by
        simpa using hindex.symm
      refine ⟨.mounted deltas, rfl, nofun, nofun, fun op hop hclient => ?_⟩
      rcases mem_operations.mp hop with hbase | ⟨sent, hsent, hop⟩
      · exact absurd ((h.base op hbase).symm.trans hclient) (by omega)
      · obtain ⟨hlt, hsender⟩ := h.published sent hsent
        exact absurd ((hsender op hop).symm.trans hclient) (by omega)
  · obtain ⟨hlt, hsender⟩ := h.published sent hsent
    rw [List.length_append]
    exact ⟨Nat.lt_add_right _ hlt, hsender⟩

theorem Sound.step (hsplices : docs.Splices) (h : room.Sound docs) {event : Event}
    {next : EditingRoom Op} (hguard : room.Faithful docs deltas event)
    (hstep : room.step docs deltas mirror event = some next) : next.Sound docs := by
  cases event with
  | join =>
      cases hstep
      exact h.join deltas
  | transaction index changes =>
      obtain ⟨editor, heditor, hstep⟩ := Option.bind_eq_some_iff.mp hstep
      obtain ⟨⟨hascending, hwithin, hlines⟩, hnext⟩ := Option.ite_none_right_eq_some.mp hstep
      cases hnext
      exact h.transaction hsplices heditor hascending hwithin hguard hlines
  | deliver index message =>
      obtain ⟨editor, heditor, hstep⟩ := Option.bind_eq_some_iff.mp hstep
      obtain ⟨sent, hsent, hstep⟩ := Option.bind_eq_some_iff.mp hstep
      obtain ⟨-, hnext⟩ := Option.ite_none_left_eq_some.mp hstep
      cases hnext
      have hdelivered := (h.editors index editor heditor).applyRemoteUpdate mirror
        (subset_operations (List.mem_of_getElem? hsent)) (hguard editor heditor sent hsent)
      exact h.replace (List.getElem?_eq_some_iff.mp heditor).1 hdelivered
  | snapshot index =>
      obtain ⟨editor, heditor, hstep⟩ := Option.bind_eq_some_iff.mp hstep
      cases hstep
      have hdelivered := (h.editors index editor heditor).applyRemoteUpdate mirror h.worker
        (hguard editor heditor)
      exact h.replace (List.getElem?_eq_some_iff.mp heditor).1 hdelivered
  | serve message =>
      obtain ⟨sent, hsent, hstep⟩ := Option.bind_eq_some_iff.mp hstep
      cases hstep
      refine ⟨fun index editor hindex => ?_, ?_, h.closed, h.base, h.published⟩
      · exact (h.editors index editor hindex).mono (fun _ hop => hop) (fun _ hop => hop)
          fun _ hop _ => hop
      · exact Finset.union_subset h.worker (subset_operations (List.mem_of_getElem? hsent))

/-- The worker creates the first operations under its own id. -/
theorem opened_sound (docs : YjsDocs Op) (content : Text) : (opened docs content).Sound docs := by
  generalize htextEdits : (if content ≠ [] then [.insert 0 content] else [] : List TextEdit) =
    textEdits
  have hready : docs.Ready 0 ∅ := fun op hop => absurd hop (Finset.notMem_empty op)
  have hintegrated : docs.integrated ((docs.doc 0).edits textEdits ∅) =
      (docs.doc 0).edits textEdits ∅ := by
    have hextends : (docs.doc 0).Extends ∅ ((docs.doc 0).edits textEdits ∅) :=
      Yjs.edits_extends textEdits ∅
    have hadded := hextends.added
    rw [Finset.empty_union] at hadded
    exact (Causal.integrable_subset _).antisymm hadded
  have hall : ∀ op, op ∈ (opened docs content).operations ↔
      op ∈ (docs.doc 0).edits textEdits ∅ := by
    intro op
    rw [mem_operations, opened, htextEdits]
    simp
  refine ⟨nofun, fun op hop => ?_, fun op hop dependency hdependency => ?_, fun op hop => ?_,
    nofun⟩
  · exact mem_operations.mpr (.inl hop)
  · rw [hall] at hop ⊢
    rw [← hintegrated] at hop ⊢
    exact Causal.closed_integrable _ op hop hdependency
  · rw [opened, htextEdits, ← hintegrated] at hop
    rcases hready.edits_integrated textEdits op hop with hnone | hclient
    · exact absurd (Causal.integrable_subset _ hnone) (Finset.notMem_empty op)
    · exact hclient

theorem reachable_sound (hsplices : docs.Splices)
    (hreach : (system docs deltas mirror).ReachableUnder (Faithful docs deltas) room) :
    room.Sound docs := by
  refine hreach.invariant (system docs deltas mirror) (Sound docs) ?_ ?_
  · rintro room ⟨content, rfl⟩
    exact opened_sound docs content
  · exact fun room event next _ h hguard hstep => h.step hsplices hguard hstep

/-- In every run in which transactions and deltas come through, every view and its preview show
the text of the session, nobody has an operation that was not published, no operation comes from
two editors, and whoever has them all shows the same text: the one that the worker saves when it
has them all too. -/
theorem editors_converge (hsplices : docs.Splices)
    (hreach : (system docs deltas mirror).ReachableUnder (Faithful docs deltas) room) :
    (∀ editor ∈ room.editors, editor.view = docs.text editor.session.doc ∧
      editor.doc = editor.view ∧ editor.session.doc ⊆ room.operations) ∧
    (∀ first ∈ room.published, ∀ second ∈ room.published, first.1 ≠ second.1 →
      Disjoint first.2 second.2) ∧
    (∀ editor ∈ room.editors, room.operations ⊆ editor.session.doc →
      editor.view = docs.text room.operations) ∧
    (room.operations ⊆ room.worker → docs.text room.worker = docs.text room.operations) := by
  have hsound := reachable_sound hsplices hreach
  have haccounted : ∀ editor ∈ room.editors, ∃ index, room.Accounted docs index editor := by
    intro editor heditor
    obtain ⟨index, hindex⟩ := List.getElem?_of_mem heditor
    exact ⟨index, hsound.editors index editor hindex⟩
  refine ⟨fun editor heditor => ?_, fun first hfirst second hsecond hother => ?_,
    fun editor heditor hall => ?_, fun hall => ?_⟩
  · obtain ⟨index, h⟩ := haccounted editor heditor
    exact ⟨h.agrees.view, h.agrees.doc, h.subset⟩
  · refine Finset.disjoint_left.mpr fun op hop hagain => hother ?_
    have hsame := ((hsound.published first hfirst).2 op hop).symm.trans
      ((hsound.published second hsecond).2 op hagain)
    exact Nat.succ.inj hsame
  · obtain ⟨index, h⟩ := haccounted editor heditor
    have hview : editor.view = docs.text editor.session.doc := h.agrees.view
    rw [hview, h.subset.antisymm hall]
  · rw [hsound.worker.antisymm hall]

/-- The old text goes and the new one comes. -/
def replacement (old new : Text) : List DeltaOp :=
  if old = new then []
  else (if old ≠ [] then [.delete old.length] else []) ++ if new ≠ [] then [.insert new] else []

theorem validOn_replacement (old new : Text) : ValidOn old.length (replacement old new) := by
  unfold replacement
  split
  next => trivial
  next =>
    split
    next hold =>
      refine ⟨List.length_pos_iff.mpr hold, Nat.le_refl _, ?_⟩
      split <;> simp_all [ValidOn]
    next => split <;> simp_all [ValidOn]

theorem applyDelta_replacement (old new : Text) : applyDelta (replacement old new) old = new := by
  unfold replacement
  split
  next hsame => exact hsame
  next => split <;> split <;> simp_all [applyDelta]

theorem text_sequence_empty : YjsDocs.sequence.text ∅ = [] := by decide +kernel

def sequenceDeltas : TextDeltas YjsDocs.sequence.text where
  delta doc next := replacement (YjsDocs.sequence.text doc) (YjsDocs.sequence.text next)
  valid _ _ _ := validOn_replacement _ _
  applied _ _ _ := applyDelta_replacement _ _
  text_empty := text_sequence_empty

/-- Two editors that show the same text write the same letter behind it at the same time. -/
theorem editors_converge_typed : ∃ room : EditingRoom (Sequence.Operation (Fin (2 ^ 16))),
    (system YjsDocs.sequence sequenceDeltas .plain).ReachableUnder
      (Faithful YjsDocs.sequence sequenceDeltas) room ∧
    room.editors.length = 2 ∧
    (∀ editor ∈ room.editors, editor.view = YjsDocs.sequence.text room.operations) ∧
    YjsDocs.sequence.text room.operations = [104, 105, 33, 33] := by
  have hinit : (system YjsDocs.sequence sequenceDeltas .plain).ReachableUnder
      (Faithful YjsDocs.sequence sequenceDeltas) (opened YjsDocs.sequence [104, 105]) :=
    .init ⟨[104, 105], rfl⟩
  obtain ⟨room, hreach, hcheck⟩ :=
    (system YjsDocs.sequence sequenceDeltas .plain).exists_reachable_of_exec hinit
      [.join, .join, .snapshot 0, .snapshot 1, .transaction 0 [⟨2, 2, [33]⟩],
        .transaction 1 [⟨2, 2, [33]⟩], .deliver 1 0, .deliver 0 1, .serve 1, .serve 0]
      (fun room => room.editors.length = 2 ∧
        (∀ editor ∈ room.editors, room.operations ⊆ editor.session.doc) ∧
        YjsDocs.sequence.text room.operations = [104, 105, 33, 33])
      (by decide +kernel)
  obtain ⟨htwo, hall, htext⟩ := of_decide_eq_true hcheck
  have hconverged := (editors_converge YjsDocs.sequence_splices hreach).2.2.1
  exact ⟨room, hreach, htwo, fun editor heditor => hconverged editor heditor (hall editor heditor),
    htext⟩

end EditingRoom

end CollabEditor.Frontend
