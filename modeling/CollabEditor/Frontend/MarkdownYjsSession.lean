import CollabEditor.Foundation.Causal
import CollabEditor.Foundation.TransitionSystem
import Mathlib.Data.Finset.Max
import Mathlib.Data.List.Lex
import Mathlib.Order.Fin.Basic

/-! # Following an editing session from its updates

A session hands the updates of its local transactions to its listeners. A replica that
integrates these, and the updates that the session has received, should show its text.
-/

namespace CollabEditor.Frontend

open Foundation Foundation.Causal

/-- A string of JavaScript, by its code units. -/
abbrev Text := List (Fin (2 ^ 16))

/-- A call of a method of `Y.Text`. -/
inductive TextEdit
  | insert (index : Int) (content : Text)
  | delete (index length : Int)
deriving DecidableEq, Repr

/-- What is assumed of a `Y.Doc`: its text is determined by the integrated operations, and
the operations that an edit creates depend on integrated ones or on each other. -/
structure Yjs (Op : Type) [DecidableEq Op] where
  dependencies : Op → Finset Op
  toString : Finset Op → Text
  /-- The operations that an edit creates, and whether it returns; it may throw when the
  index is out of range. -/
  edit : (integrated : Finset Op) → TextEdit → Finset Op × Bool
  edit_closed : ∀ integrated textEdit, Closed dependencies integrated →
    Closed dependencies (integrated ∪ (edit integrated textEdit).1)

structure MarkdownTextChange where
  fromIndex : Int
  toIndex : Int
  insert : Text
deriving DecidableEq, Repr

inductive Origin
  /-- `LOCAL_ORIGIN` -/
  | markdownYjsLocal
  /-- `REMOTE_ORIGIN` -/
  | markdownYjsRemote
deriving DecidableEq, Repr

/-- A session with a listener for local updates, registered right after construction. -/
structure MarkdownYjsSession (Op : Type) where
  /-- The operations that have reached `doc`, those that are pending among them. -/
  doc : Finset Op
  /-- The updates received through `applyRemoteUpdate`, a record. -/
  received : List (Finset Op)
  /-- The updates that the listener has been called with, a record. -/
  handed : List (Finset Op)
deriving DecidableEq

/-- A fresh document that updates are applied to. -/
def replica {Op : Type} [DecidableEq Op] (updates : List (Finset Op)) : Finset Op :=
  updates.foldl (fun doc update => doc ∪ update) ∅

namespace Yjs

variable {Op : Type} [DecidableEq Op] (yjs : Yjs Op)

/-- Operations with missing dependencies are pending. -/
def integrated (doc : Finset Op) : Finset Op := integrable yjs.dependencies doc

/-- `text.toString()` -/
def text (doc : Finset Op) : Text := yjs.toString (yjs.integrated doc)

/-- The body of a transaction. The edits before one that throws remain. -/
def edits : List TextEdit → Finset Op → Finset Op
  | [], doc => doc
  | textEdit :: rest, doc =>
      match yjs.edit (yjs.integrated doc) textEdit with
      | (created, true) => edits rest (doc ∪ created)
      | (created, false) => doc ∪ created

end Yjs

/-- The edits of the loop in `applyLocalChanges`. -/
def changeEdits : Int → List MarkdownTextChange → List TextEdit
  | _, [] => []
  | offset, change :: rest =>
      let position := change.fromIndex + offset
      let removed := change.toIndex - change.fromIndex
      (if 0 < removed then [.delete position removed] else []) ++
        (if 0 < change.insert.length then [.insert position change.insert] else []) ++
        changeEdits (offset + change.insert.length - removed) rest

/-- The edits of `replaceAllPlainText` where the text has the given length. -/
def replaceAllEdits (currentLength : Nat) (value : Text) : List TextEdit :=
  (if 0 < currentLength then [.delete 0 currentLength] else []) ++
    (if 0 < value.length then [.insert 0 value] else [])

namespace MarkdownYjsSession

variable {Op : Type} [DecidableEq Op] (yjs : Yjs Op) (session : MarkdownYjsSession Op)

def getPlainText : Text := yjs.text session.doc

/-- The constructor. The listeners come after the initial text. -/
def new (initialText : Text) : MarkdownYjsSession Op where
  doc := yjs.edits (if initialText ≠ [] then [.insert 0 initialText] else []) ∅
  received := []
  handed := []

/-- The document after a transaction. The update event carries what the transaction has
integrated, and is passed on if its origin is `LOCAL_ORIGIN`. -/
def update (doc : Finset Op) (origin : Origin) : MarkdownYjsSession Op :=
  -- pending operations are in no update event until their dependencies arrive
  let integrated := yjs.integrated doc \ yjs.integrated session.doc
  { session with
    doc := doc
    handed := if origin = .markdownYjsLocal ∧ integrated ≠ ∅ then session.handed ++ [integrated]
      else session.handed }

def applyRemoteUpdate (update : Finset Op) : MarkdownYjsSession Op :=
  { session.update yjs (session.doc ∪ update) .markdownYjsRemote with
    received := session.received ++ [update] }

def replaceAllPlainText (value : Text) (origin : Origin) : MarkdownYjsSession Op :=
  let textEdits := replaceAllEdits (session.getPlainText yjs).length value
  session.update yjs (yjs.edits textEdits session.doc) origin

def applyLocalReplaceAll (value : Text) : MarkdownYjsSession Op :=
  session.replaceAllPlainText yjs value .markdownYjsLocal

def applyRemotePlainTextSnapshot (value : Text) : MarkdownYjsSession Op :=
  session.replaceAllPlainText yjs value .markdownYjsRemote

def applyLocalChanges (changes : List MarkdownTextChange) : MarkdownYjsSession Op :=
  if changes = [] then session
  else session.update yjs (yjs.edits (changeEdits 0 changes) session.doc) .markdownYjsLocal

inductive Event (Op : Type)
  | applyRemoteUpdate (update : Finset Op)
  | applyLocalReplaceAll (value : Text)
  | applyRemotePlainTextSnapshot (value : Text)
  | applyLocalChanges (changes : List MarkdownTextChange)
deriving DecidableEq

def step : Event Op → Option (MarkdownYjsSession Op)
  | .applyRemoteUpdate update => some (session.applyRemoteUpdate yjs update)
  | .applyLocalReplaceAll value => some (session.applyLocalReplaceAll yjs value)
  | .applyRemotePlainTextSnapshot value => some (session.applyRemotePlainTextSnapshot yjs value)
  | .applyLocalChanges changes => some (session.applyLocalChanges yjs changes)

def system (initialText : Text) : TransitionSystem (MarkdownYjsSession Op) (Event Op) where
  init session := session = new yjs initialText
  step := step yjs

/-- A fresh replica that integrates the updates, in any order, has the session's text. -/
def Followed : Prop :=
  ∀ updates : List (Finset Op), updates.Perm (session.received ++ session.handed) →
    yjs.text (replica updates) = session.getPlainText yjs

/-- A snapshot is applied only where it creates no operations. -/
def NoSnapshot : Event Op → Prop
  | .applyRemotePlainTextSnapshot value => value = [] ∧ session.getPlainText yjs = []
  | _ => True

instance (event : Event Op) : Decidable (session.NoSnapshot yjs event) :=
  match event with
  | .applyRemotePlainTextSnapshot value =>
      inferInstanceAs (Decidable (value = [] ∧ session.getPlainText yjs = []))
  | .applyRemoteUpdate _ | .applyLocalReplaceAll _ | .applyLocalChanges _ =>
      inferInstanceAs (Decidable True)

/-- What has reached the document has been received or handed out. -/
def Relayed : Prop := session.doc = replica (session.received ++ session.handed)

/-! ## What a transaction leaves -/

end MarkdownYjsSession

variable {Op : Type} [DecidableEq Op] {yjs : Yjs Op}

theorem mem_foldl_union {op : Op} {updates : List (Finset Op)} {doc : Finset Op} :
    op ∈ updates.foldl (fun doc update => doc ∪ update) doc ↔
      op ∈ doc ∨ ∃ update ∈ updates, op ∈ update := by
  induction updates generalizing doc with
  | nil => simp
  | cons update rest ih =>
      rw [List.foldl_cons, ih, Finset.mem_union, List.exists_mem_cons_iff, or_assoc]

theorem mem_replica {op : Op} {updates : List (Finset Op)} :
    op ∈ replica updates ↔ ∃ update ∈ updates, op ∈ update := by
  rw [replica, mem_foldl_union]
  exact or_iff_right (Finset.notMem_empty op)

/-- The order of the updates does not matter. -/
theorem replica_perm {updates others : List (Finset Op)} (hperm : updates.Perm others) :
    replica updates = replica others := by
  ext op
  simp only [mem_replica, hperm.mem_iff]

theorem replica_concat (updates : List (Finset Op)) (update : Finset Op) :
    replica (updates ++ [update]) = replica updates ∪ update := by
  rw [replica, List.foldl_concat]
  rfl

/-- What a transaction adds to a document is integrated. -/
structure Yjs.Extends (yjs : Yjs Op) (doc next : Finset Op) : Prop where
  kept : doc ⊆ next
  added : next ⊆ doc ∪ yjs.integrated next

theorem Yjs.created_extends (doc : Finset Op) (textEdit : TextEdit) :
    yjs.Extends doc (doc ∪ (yjs.edit (yjs.integrated doc) textEdit).1) where
  kept := Finset.subset_union_left
  added := by
    apply Finset.union_subset_union_right
    have hclosed := yjs.edit_closed (yjs.integrated doc) textEdit (closed_integrable doc)
    have hsubset := hclosed.subset_integrable
      (Finset.union_subset_union_left (integrable_subset doc))
    exact Finset.subset_union_right.trans hsubset

theorem Yjs.Extends.trans {doc middle next : Finset Op} (hfirst : yjs.Extends doc middle)
    (hsecond : yjs.Extends middle next) : yjs.Extends doc next where
  kept := hfirst.kept.trans hsecond.kept
  added := by
    intro op hop
    rcases Finset.mem_union.mp (hsecond.added hop) with hop | hop
    · rcases Finset.mem_union.mp (hfirst.added hop) with hop | hop
      · exact Finset.mem_union_left _ hop
      · exact Finset.mem_union_right _ (integrable_mono hsecond.kept hop)
    · exact Finset.mem_union_right _ hop

theorem Yjs.edits_extends (textEdits : List TextEdit) (doc : Finset Op) :
    yjs.Extends doc (yjs.edits textEdits doc) := by
  induction textEdits generalizing doc with
  | nil => exact ⟨Finset.Subset.refl _, Finset.subset_union_left⟩
  | cons textEdit rest ih =>
      have hcreated := yjs.created_extends doc textEdit
      rw [Yjs.edits]
      split
      next created hedit =>
        rw [hedit] at hcreated
        exact hcreated.trans (ih _)
      next created hedit =>
        rw [hedit] at hcreated
        exact hcreated

namespace MarkdownYjsSession

variable {session : MarkdownYjsSession Op}

theorem Relayed.followed (h : session.Relayed) : session.Followed yjs := by
  intro updates hperm
  rw [getPlainText, replica_perm hperm, h]

theorem Relayed.applyRemoteUpdate (h : session.Relayed) (update : Finset Op) :
    (session.applyRemoteUpdate yjs update).Relayed := by
  have hperm : ((session.received ++ [update]) ++ session.handed).Perm
      ((session.received ++ session.handed) ++ [update]) := by
    rw [List.append_assoc, List.append_assoc]
    exact List.Perm.append_left _ List.perm_append_comm
  have hreplica := replica_perm hperm
  rw [replica_concat, ← h] at hreplica
  exact hreplica.symm

/-- A local transaction hands out all that it adds. -/
theorem Relayed.update (h : session.Relayed) {doc : Finset Op}
    (hextends : yjs.Extends session.doc doc) :
    (session.update yjs doc .markdownYjsLocal).Relayed := by
  have hdoc : session.doc ∪ yjs.integrated doc \ yjs.integrated session.doc = doc := by
    apply Finset.Subset.antisymm
    · apply Finset.union_subset hextends.kept
      exact Finset.sdiff_subset.trans (integrable_subset doc)
    · intro op hop
      rcases Finset.mem_union.mp (hextends.added hop) with hold | hnew
      · exact Finset.mem_union_left _ hold
      · by_cases hbefore : op ∈ yjs.integrated session.doc
        · exact Finset.mem_union_left _ (integrable_subset session.doc hbefore)
        · exact Finset.mem_union_right _ (Finset.mem_sdiff.mpr ⟨hnew, hbefore⟩)
  simp only [Relayed, MarkdownYjsSession.update, true_and]
  split
  next =>
    rw [← List.append_assoc, replica_concat, ← h, hdoc]
  next hnone =>
    rw [not_not.mp hnone, Finset.union_empty] at hdoc
    rw [← h, hdoc]

/-- Nothing is replaced by nothing. -/
theorem applyRemotePlainTextSnapshot_nil (htext : session.getPlainText yjs = []) :
    session.applyRemotePlainTextSnapshot yjs [] = session := by
  rw [applyRemotePlainTextSnapshot, replaceAllPlainText, htext]
  rfl

theorem Relayed.step (h : session.Relayed) {event : Event Op} {next : MarkdownYjsSession Op}
    (hguard : session.NoSnapshot yjs event) (hstep : session.step yjs event = some next) :
    next.Relayed := by
  cases event with
  | applyRemoteUpdate update =>
      cases hstep
      exact h.applyRemoteUpdate update
  | applyLocalReplaceAll value =>
      cases hstep
      exact h.update (Yjs.edits_extends _ _)
  | applyRemotePlainTextSnapshot value =>
      cases hstep
      obtain ⟨rfl, htext⟩ := hguard
      rw [applyRemotePlainTextSnapshot_nil htext]
      exact h
  | applyLocalChanges changes =>
      cases hstep
      rw [applyLocalChanges]
      split
      · exact h
      · exact h.update (Yjs.edits_extends _ _)

/-- A replica can follow a session that starts empty and is given no snapshot. -/
theorem session_followed (hreach : (system yjs []).ReachableUnder (NoSnapshot yjs) session) :
    session.Followed yjs := by
  apply Relayed.followed
  apply hreach.invariant (system yjs []) Relayed
  · intro session hinit
    cases hinit
    rfl
  · intro session event next _ hrelayed hguard hstep
    exact hrelayed.step hguard hstep

end MarkdownYjsSession

/-! ## A document with one writer -/

/-- The last of the operations, which are named by the texts up to them. -/
def latest (ops : Finset (List Text)) : List Text := ops.max.unbotD []

theorem latest_mem {ops : Finset (List Text)} (h : latest ops ≠ []) : latest ops ∈ ops := by
  rw [latest] at h ⊢
  cases hmax : ops.max with
  | bot => exact absurd (by rw [hmax]; rfl) h
  | coe last => exact Finset.mem_of_max hmax

/-- An edit of a text; `none` when the index is out of range. -/
def TextEdit.apply (text : Text) : TextEdit → Option Text
  | .insert index content =>
      if 0 ≤ index ∧ index ≤ text.length then
        some (text.take index.toNat ++ content ++ text.drop index.toNat)
      else none
  | .delete index length =>
      if 0 ≤ index ∧ 0 ≤ length ∧ index + length ≤ text.length then
        some (text.take index.toNat ++ text.drop (index + length).toNat)
      else none

/-- Every operation of a single writer depends on the one before. -/
def Yjs.singleWriter : Yjs (List Text) where
  dependencies op := if op.length ≤ 1 then ∅ else {op.dropLast}
  toString integrated := (latest integrated).getLastD []
  edit integrated textEdit :=
    match textEdit.apply ((latest integrated).getLastD []) with
    | some text => ({latest integrated ++ [text]}, true)
    | none => (∅, false)
  edit_closed := by
    intro integrated textEdit hclosed
    apply hclosed.union
    split
    next text _ =>
      intro op hop
      rw [Finset.mem_singleton.mp hop, List.dropLast_concat]
      split
      · exact Finset.empty_subset _
      next hlength =>
        apply Finset.singleton_subset_iff.mpr
        apply Finset.mem_union_left
        apply latest_mem
        intro hempty
        rw [hempty] at hlength
        exact hlength (Nat.le_refl 1)
    next => exact fun op hop => absurd hop (Finset.notMem_empty op)

namespace MarkdownYjsSession

/-- A peer writes first, and the session goes on. -/
theorem session_followed_answer :
    ∃ session, (system Yjs.singleWriter []).ReachableUnder (NoSnapshot Yjs.singleWriter) session ∧
      session.getPlainText Yjs.singleWriter = [104, 105] ∧
      session.Followed Yjs.singleWriter := by
  obtain ⟨session, hreach, hcheck⟩ := (system Yjs.singleWriter []).exists_reachable_of_exec
    (.init rfl : (system Yjs.singleWriter []).ReachableUnder (NoSnapshot Yjs.singleWriter)
      (new Yjs.singleWriter []))
    [.applyRemoteUpdate {[[104]]}, .applyLocalChanges [⟨1, 1, [105]⟩]]
    (fun session : MarkdownYjsSession (List Text) =>
      decide (session.getPlainText Yjs.singleWriter = [104, 105])) (by decide)
  exact ⟨session, hreach, of_decide_eq_true hcheck, session_followed hreach⟩

/-- The initial text reaches no replica. -/
theorem initial_text_not_followed :
    ¬∀ initialText session, (system Yjs.singleWriter initialText).Reachable session →
      session.Followed Yjs.singleWriter := by
  intro hall
  have hfollowed := hall [97] _ (.init rfl) [] (List.Perm.refl _)
  revert hfollowed
  decide

end MarkdownYjsSession

end CollabEditor.Frontend
