import CollabEditor.Foundation.Sequence
import CollabEditor.Foundation.Splice
import CollabEditor.Frontend.MarkdownYjsSession

/-! # Documents that share operations

Every `Y.Doc` creates operations under a client id of its own, and integrates those of the
others. What is assumed of `Y.Text` is assumed of documents in which nothing waits for an
operation that the document has still to create: no other ever comes about.
-/

namespace CollabEditor.Frontend

open Foundation Foundation.Causal Splice

/-- An edit of a plain text. An index that is not in the text is its nearer end. -/
def TextEdit.splice (text : Text) : TextEdit → Text
  | .insert index content => replaceRange index.toNat 0 content text
  | .delete index length => replaceRange index.toNat length.toNat [] text

/-- The edit needs no position that the text does not have. -/
def TextEdit.InRange (text : Text) : TextEdit → Prop
  | .insert index _ => 0 ≤ index ∧ index ≤ text.length
  | .delete index length => 0 ≤ index ∧ 0 ≤ length ∧ index + length ≤ text.length

instance (text : Text) (textEdit : TextEdit) : Decidable (textEdit.InRange text) :=
  match textEdit with
  | .insert index _ => inferInstanceAs (Decidable (0 ≤ index ∧ index ≤ text.length))
  | .delete index length =>
      inferInstanceAs (Decidable (0 ≤ index ∧ 0 ≤ length ∧ index + length ≤ text.length))

section Laws

variable {Op : Type} [DecidableEq Op]

/-- What is assumed of `Y.Text`: an edit of a document that meets `Ready` splices the current
text. `Ready` may be `True`. -/
structure Yjs.Plain (yjs : Yjs Op) (Ready : Finset Op → Prop) : Prop where
  empty : Ready ∅
  union : ∀ doc textEdit, Ready doc → Ready (doc ∪ (yjs.edit (yjs.integrated doc) textEdit).1)
  returns : ∀ doc textEdit, Ready doc → (yjs.edit (yjs.integrated doc) textEdit).2 = true
  text_union : ∀ doc textEdit, Ready doc →
    yjs.text (doc ∪ (yjs.edit (yjs.integrated doc) textEdit).1) = textEdit.splice (yjs.text doc)

/-- What is assumed of `Y.Text` for edits that are in range. -/
structure Yjs.PlainInRange (yjs : Yjs Op) (Ready : Finset Op → Prop) : Prop where
  union : ∀ doc textEdit, Ready doc → Ready (doc ∪ (yjs.edit (yjs.integrated doc) textEdit).1)
  returns : ∀ doc textEdit, Ready doc → textEdit.InRange (yjs.text doc) →
    (yjs.edit (yjs.integrated doc) textEdit).2 = true
  text_union : ∀ doc textEdit, Ready doc → textEdit.InRange (yjs.text doc) →
    yjs.text (doc ∪ (yjs.edit (yjs.integrated doc) textEdit).1) = textEdit.splice (yjs.text doc)

variable {yjs : Yjs Op} {Ready : Finset Op → Prop}

theorem Yjs.Plain.inRange (hplain : yjs.Plain Ready) : yjs.PlainInRange Ready where
  union := hplain.union
  returns doc textEdit hready _ := hplain.returns doc textEdit hready
  text_union doc textEdit hready _ := hplain.text_union doc textEdit hready

/-- The edits of a transaction, returning or not, lead from ready documents to ready ones. -/
theorem Yjs.edits_ready
    (hunion : ∀ doc textEdit, Ready doc → Ready (doc ∪ (yjs.edit (yjs.integrated doc) textEdit).1))
    (textEdits : List TextEdit) {doc : Finset Op} (hready : Ready doc) :
    Ready (yjs.edits textEdits doc) := by
  induction textEdits generalizing doc with
  | nil => exact hready
  | cons textEdit rest ih =>
      have hnext := hunion doc textEdit hready
      rw [Yjs.edits]
      split
      next created hedit =>
        rw [hedit] at hnext
        exact ih hnext
      next created hedit =>
        rw [hedit] at hnext
        exact hnext

end Laws

/-! ## Client ids -/

/-- The documents of all clients. Their ids are drawn at random; here they differ. -/
structure YjsDocs (Op : Type) [DecidableEq Op] where
  dependencies : Op → Finset Op
  toString : Finset Op → Text
  /-- The `clientID` of the document that has created an operation. -/
  client : Op → Nat
  edit : (clientID : Nat) → (integrated : Finset Op) → TextEdit → Finset Op × Bool
  edit_closed : ∀ clientID integrated textEdit, Closed dependencies integrated →
    Closed dependencies (integrated ∪ (edit clientID integrated textEdit).1)
  edit_client : ∀ clientID integrated textEdit,
    ∀ op ∈ (edit clientID integrated textEdit).1, client op = clientID

namespace YjsDocs

variable {Op : Type} [DecidableEq Op] (docs : YjsDocs Op) (clientID : Nat)

/-- The document with a client id. -/
def doc : Yjs Op where
  dependencies := docs.dependencies
  toString := docs.toString
  edit := docs.edit clientID
  edit_closed := docs.edit_closed clientID

def integrated (doc : Finset Op) : Finset Op := integrable docs.dependencies doc

/-- What `text.toString()` is does not depend on who asks. -/
def text (doc : Finset Op) : Text := docs.toString (docs.integrated doc)

/-- Nothing waits for an operation that the client has still to create. -/
def Ready (doc : Finset Op) : Prop :=
  ∀ op ∈ doc, ∀ dependency ∈ docs.dependencies op, docs.client dependency = clientID →
    dependency ∈ docs.integrated doc

/-- What is assumed of `Y.Text`: an edit in range splices the text of the operations that are
integrated. -/
structure Splices : Prop where
  returns : ∀ clientID integrated textEdit, Closed docs.dependencies integrated →
    textEdit.InRange (docs.toString integrated) → (docs.edit clientID integrated textEdit).2 = true
  toString_union : ∀ clientID integrated textEdit, Closed docs.dependencies integrated →
    textEdit.InRange (docs.toString integrated) →
    docs.toString (integrated ∪ (docs.edit clientID integrated textEdit).1) =
      textEdit.splice (docs.toString integrated)

variable {docs clientID} {doc : Finset Op}

/-- An edit adds what it creates and nothing that was pending. -/
theorem Ready.integrated_union (hready : docs.Ready clientID doc) (textEdit : TextEdit) :
    docs.integrated (doc ∪ (docs.edit clientID (docs.integrated doc) textEdit).1) =
      docs.integrated doc ∪ (docs.edit clientID (docs.integrated doc) textEdit).1 := by
  generalize hcreated : (docs.edit clientID (docs.integrated doc) textEdit).1 = created
  have hclosed : Closed docs.dependencies (docs.integrated doc ∪ created) :=
    hcreated ▸ docs.edit_closed clientID _ textEdit (closed_integrable doc)
  apply Finset.Subset.antisymm
  · -- what is integrated without the new operations was so before
    have hall : Closed docs.dependencies (docs.integrated (doc ∪ created)) := closed_integrable _
    have hbefore : Closed docs.dependencies
        (docs.integrated doc ∪ (docs.integrated (doc ∪ created)).filter (· ∈ doc)) := by
      refine Closed.union (closed_integrable doc) fun op hop dependency hdependency => ?_
      obtain ⟨hop, hdoc⟩ := Finset.mem_filter.mp hop
      have hneeded := hall op hop hdependency
      rcases Finset.mem_union.mp (integrable_subset _ hneeded) with hold | hnew
      · exact Finset.mem_union_right _ (Finset.mem_filter.mpr ⟨hneeded, hold⟩)
      · have hclient := docs.edit_client clientID _ textEdit dependency (hcreated ▸ hnew)
        exact Finset.mem_union_left _ (hready op hdoc dependency hdependency hclient)
    intro op hop
    rcases Finset.mem_union.mp (integrable_subset _ hop) with hold | hnew
    · refine Finset.mem_union_left _ (hbefore.subset_integrable ?_ ?_)
      · exact Finset.union_subset (integrable_subset doc) fun other hother =>
          (Finset.mem_filter.mp hother).2
      · exact Finset.mem_union_right _ (Finset.mem_filter.mpr ⟨hop, hold⟩)
    · exact Finset.mem_union_right _ hnew
  · exact hclosed.subset_integrable (Finset.union_subset_union_left (integrable_subset doc))

theorem Ready.union (hready : docs.Ready clientID doc) (textEdit : TextEdit) :
    docs.Ready clientID (doc ∪ (docs.edit clientID (docs.integrated doc) textEdit).1) := by
  intro op hop dependency hdependency hclient
  rcases Finset.mem_union.mp hop with hold | hnew
  · exact integrable_mono Finset.subset_union_left (hready op hold dependency hdependency hclient)
  · have hclosed := docs.edit_closed clientID _ textEdit (closed_integrable doc)
    rw [hready.integrated_union]
    exact hclosed op (Finset.mem_union_right _ hnew) hdependency

theorem Ready.text_union (hready : docs.Ready clientID doc) (textEdit : TextEdit) :
    docs.text (doc ∪ (docs.edit clientID (docs.integrated doc) textEdit).1) =
      docs.toString
        (docs.integrated doc ∪ (docs.edit clientID (docs.integrated doc) textEdit).1) := by
  rw [text, hready.integrated_union]

/-- A transaction integrates operations of its own document alone. -/
theorem Ready.edits_integrated (hready : docs.Ready clientID doc) (textEdits : List TextEdit) :
    ∀ op ∈ docs.integrated ((docs.doc clientID).edits textEdits doc),
      op ∈ docs.integrated doc ∨ docs.client op = clientID := by
  induction textEdits generalizing doc with
  | nil => exact fun op hop => .inl hop
  | cons textEdit rest ih =>
      have hone := hready.integrated_union textEdit
      have hnext := hready.union textEdit
      have hcreated : ∀ op ∈ docs.integrated
          (doc ∪ (docs.edit clientID (docs.integrated doc) textEdit).1),
          op ∈ docs.integrated doc ∨ docs.client op = clientID := by
        intro op hop
        rw [hone] at hop
        rcases Finset.mem_union.mp hop with hold | hnew
        · exact .inl hold
        · exact .inr (docs.edit_client clientID _ textEdit op hnew)
      rw [Yjs.edits]
      split
      next created hedit =>
        rw [show (docs.edit clientID (docs.integrated doc) textEdit).1 = created from
          congrArg Prod.fst hedit] at hcreated hnext
        intro op hop
        rcases ih hnext op hop with hbefore | hclient
        · exact hcreated op hbefore
        · exact .inr hclient
      next created hedit =>
        rw [show (docs.edit clientID (docs.integrated doc) textEdit).1 = created from
          congrArg Prod.fst hedit] at hcreated
        exact hcreated

theorem Splices.plainInRange (hsplices : docs.Splices) (clientID : Nat) :
    (docs.doc clientID).PlainInRange (docs.Ready clientID) where
  union _ textEdit hready := hready.union textEdit
  returns doc textEdit _ hrange :=
    hsplices.returns clientID _ textEdit (closed_integrable doc) hrange
  text_union _ textEdit hready hrange :=
    (hready.text_union textEdit).trans
      (hsplices.toString_union clientID _ textEdit (closed_integrable _) hrange)

end YjsDocs

/-! ## A sequence of elements -/

namespace YjsDocs

open Sequence

theorem zero_lt_codeUnits : 0 < 2 ^ 16 := Nat.two_pow_pos 16

local instance : Inhabited (Fin (2 ^ 16)) := ⟨⟨0, zero_lt_codeUnits⟩⟩

def editSequence (clientID : Nat) (integrated : Finset (Operation (Fin (2 ^ 16)))) :
    TextEdit → Finset (Operation (Fin (2 ^ 16)))
  | .insert index content => insertAt clientID integrated index.toNat content
  | .delete index length => deleteAt clientID integrated index.toNat length.toNat

theorem closed_editSequence (clientID : Nat) (integrated : Finset (Operation (Fin (2 ^ 16))))
    (textEdit : TextEdit) (hclosed : Closed Sequence.dependencies integrated) :
    Closed Sequence.dependencies (integrated ∪ editSequence clientID integrated textEdit) := by
  cases textEdit with
  | insert index content => exact closed_insertAt hclosed clientID index.toNat content
  | delete index length => exact closed_deleteAt hclosed clientID index.toNat length.toNat

theorem client_editSequence (clientID : Nat) (integrated : Finset (Operation (Fin (2 ^ 16))))
    (textEdit : TextEdit) :
    ∀ op ∈ editSequence clientID integrated textEdit, op.client = clientID := by
  intro op hop
  cases textEdit with
  | insert => exact client_of_mem_insertAt hop
  | delete => exact client_of_mem_deleteAt hop

/-- Documents whose operations insert one code unit each, or delete one. -/
def sequence : YjsDocs (Operation (Fin (2 ^ 16))) where
  dependencies := Sequence.dependencies
  toString integrated := toList integrated
  client := Operation.client
  edit clientID integrated textEdit := (editSequence clientID integrated textEdit, true)
  edit_closed := closed_editSequence
  edit_client := client_editSequence

theorem sequence_toString_union (clientID : Nat) (integrated : Finset (Operation (Fin (2 ^ 16))))
    (textEdit : TextEdit) :
    sequence.toString (integrated ∪ (sequence.edit clientID integrated textEdit).1) =
      textEdit.splice (sequence.toString integrated) := by
  cases textEdit with
  | insert index content => exact toList_insertAt clientID integrated index.toNat content
  | delete index length => exact toList_deleteAt clientID integrated index.toNat length.toNat

theorem sequence_splices : sequence.Splices where
  returns _ _ _ _ _ := rfl
  toString_union clientID integrated textEdit _ _ :=
    sequence_toString_union clientID integrated textEdit

theorem sequence_plain (clientID : Nat) :
    (sequence.doc clientID).Plain (sequence.Ready clientID) where
  empty := fun op hop => absurd hop (Finset.notMem_empty op)
  union _ textEdit hready := hready.union textEdit
  returns _ _ _ := rfl
  text_union _ textEdit hready :=
    (hready.text_union textEdit).trans (sequence_toString_union clientID _ textEdit)

/-- Two clients write the same letter behind the same one. -/
example :
    let base := (sequence.edit 0 ∅ (.insert 0 [104, 105])).1
    let first := (sequence.edit 1 base (.insert 2 [33])).1
    let second := (sequence.edit 2 base (.insert 2 [33])).1
    sequence.text (base ∪ first ∪ second) = [104, 105, 33, 33] := by decide +kernel

end YjsDocs

end CollabEditor.Frontend
