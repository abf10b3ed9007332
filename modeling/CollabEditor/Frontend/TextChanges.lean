import CollabEditor.Frontend.LocalChanges

/-! # Changes by their positions in the old text

`applyLocalChanges` makes one edit after the other. The changes it is given are ranges of
the text before all of them.
-/

namespace CollabEditor.Frontend

open Foundation Splice

def MarkdownTextChange.toSplice (change : MarkdownTextChange) : Splice (Fin (2 ^ 16)) where
  start := change.fromIndex.toNat
  stop := change.toIndex.toNat
  insert := change.insert

/-- Ranges of a text of the given length, none of which starts before the one in front of it
ends. -/
structure InText (length : Nat) (changes : List MarkdownTextChange) : Prop where
  ranges : ∀ change ∈ changes, 0 ≤ change.fromIndex ∧ change.fromIndex ≤ change.toIndex ∧
    change.toIndex ≤ length
  ordered : changes.Pairwise fun first second => first.toIndex ≤ second.fromIndex

/-- Each edit is in range when it is its turn. -/
def AllInRange : Text → List TextEdit → Prop
  | _, [] => True
  | text, textEdit :: rest => textEdit.InRange text ∧ AllInRange (textEdit.splice text) rest

theorem AllInRange.append {text : Text} {first second : List TextEdit}
    (hfirst : AllInRange text first)
    (hsecond : AllInRange (first.foldl TextEdit.splice text) second) :
    AllInRange text (first ++ second) := by
  induction first generalizing text with
  | nil => exact hsecond
  | cons textEdit rest ih => exact ⟨hfirst.1, ih hfirst.2 hsecond⟩

section

variable {Op : Type} [DecidableEq Op] {yjs : Yjs Op} {Ready : Finset Op → Prop}

/-- Edits in range act on the text. -/
theorem Yjs.PlainInRange.text_edits (hplain : yjs.PlainInRange Ready) {textEdits : List TextEdit}
    {doc : Finset Op} (hready : Ready doc) (hrange : AllInRange (yjs.text doc) textEdits) :
    yjs.text (yjs.edits textEdits doc) = textEdits.foldl TextEdit.splice (yjs.text doc) := by
  induction textEdits generalizing doc with
  | nil => rfl
  | cons textEdit rest ih =>
      obtain ⟨hfirst, hrest⟩ := hrange
      have hreturns := hplain.returns doc textEdit hready hfirst
      have htext := hplain.text_union doc textEdit hready hfirst
      have hnext := hplain.union doc textEdit hready
      rw [← htext] at hrest
      rw [Yjs.edits]
      split
      next created hedit =>
        rw [hedit] at htext hrest hnext
        rw [ih hnext hrest, List.foldl_cons, ← htext]
      next created hedit =>
        rw [hedit] at hreturns
        cases hreturns

/-- Every edit meets a text that it is in range of. -/
theorem Yjs.PlainInRange.inRange_of_append (hplain : yjs.PlainInRange Ready) {doc : Finset Op}
    (hready : Ready doc) {before after : List TextEdit} {textEdit : TextEdit}
    (hrange : AllInRange (yjs.text doc) (before ++ textEdit :: after)) :
    textEdit.InRange (yjs.text (yjs.edits before doc)) := by
  induction before generalizing doc with
  | nil => exact hrange.1
  | cons first rest ih =>
      obtain ⟨hfirst, hrest⟩ := hrange
      have hreturns := hplain.returns doc first hready hfirst
      have htext := hplain.text_union doc first hready hfirst
      have hnext := hplain.union doc first hready
      rw [← htext] at hrest
      rw [Yjs.edits]
      split
      next created hedit =>
        rw [hedit] at hrest hnext
        exact ih hnext hrest
      next created hedit =>
        rw [hedit] at hreturns
        cases hreturns

end

/-! ## The loop -/

variable {changes : List MarkdownTextChange} {change : MarkdownTextChange} {length : Nat}

theorem InText.ascending (h : InText length changes) :
    Ascending (changes.map MarkdownTextChange.toSplice) where
  forward := by
    intro splice hsplice
    obtain ⟨change, hchange, rfl⟩ := List.mem_map.mp hsplice
    exact Int.toNat_le_toNat (h.ranges change hchange).2.1
  ordered := by
    rw [List.pairwise_map]
    exact h.ordered.imp fun hle => Int.toNat_le_toNat hle

theorem InText.of_concat (h : InText length (changes ++ [change])) : InText length changes :=
  ⟨fun first hfirst => h.ranges first (List.mem_append_left _ hfirst),
    h.ordered.sublist (List.sublist_append_left changes [change])⟩

theorem changeEdits_concat (offset : Int) (changes : List MarkdownTextChange)
    (hforward : ∀ change ∈ changes, 0 ≤ change.fromIndex ∧ change.fromIndex ≤ change.toIndex)
    (change : MarkdownTextChange) :
    changeEdits offset (changes ++ [change]) = changeEdits offset changes ++
      changeEdits (offset + lead (changes.map MarkdownTextChange.toSplice)) [change] := by
  induction changes generalizing offset with
  | nil => simp [changeEdits]
  | cons first rest ih =>
      obtain ⟨hlow, hle⟩ := hforward first List.mem_cons_self
      have hlead : lead ((first :: rest).map MarkdownTextChange.toSplice) =
          first.insert.length - (first.toIndex - first.fromIndex) +
            lead (rest.map MarkdownTextChange.toSplice) := by
        rw [List.map_cons, lead_cons]
        simp only [MarkdownTextChange.toSplice]
        omega
      have hoffset : offset + (first.insert.length : Int) - (first.toIndex - first.fromIndex) +
          lead (rest.map MarkdownTextChange.toSplice) =
          offset + lead ((first :: rest).map MarkdownTextChange.toSplice) := by
        omega
      have hrest := ih (offset + first.insert.length - (first.toIndex - first.fromIndex))
        fun other hother => hforward other (List.mem_cons_of_mem _ hother)
      rw [hoffset] at hrest
      simp only [List.cons_append, changeEdits, List.append_assoc] at hrest ⊢
      rw [hrest]

/-- One change where the text holds its range. -/
theorem changeEdits_singleton {offset : Int} {text : Text} {start : Nat}
    (hstart : change.fromIndex + offset = start) (hforward : change.fromIndex ≤ change.toIndex)
    (hstop : start + (change.toIndex - change.fromIndex) ≤ text.length) :
    AllInRange text (changeEdits offset [change]) ∧
      (changeEdits offset [change]).foldl TextEdit.splice text =
        replaceRange start (change.toIndex - change.fromIndex).toNat change.insert text := by
  simp only [changeEdits, hstart, List.append_nil]
  constructor
  · refine AllInRange.append ?_ ?_
    · split
      · exact ⟨⟨by omega, by omega, by omega⟩, trivial⟩
      · trivial
    · rw [foldl_delete]
      split
      · refine ⟨⟨by omega, ?_⟩, trivial⟩
        simp only [replaceRange, Int.toNat_natCast, List.nil_append, List.length_append,
          List.length_take, List.length_drop]
        omega
      · trivial
  · rw [List.foldl_append, foldl_delete, foldl_insert, Int.toNat_natCast,
      replaceRange_replaceRange]

/-- The text before the loop comes to a change has the changes before it, and its own range. -/
theorem changeEdits_applyAll {text : Text} (h : InText text.length changes) :
    AllInRange text (changeEdits 0 changes) ∧
      (changeEdits 0 changes).foldl TextEdit.splice text =
        applyAll (changes.map MarkdownTextChange.toSplice) text := by
  induction changes using List.reverseRecOn with
  | nil => exact ⟨trivial, (applyAll_nil text).symm⟩
  | append_singleton changes change ih =>
      obtain ⟨hrange, htext⟩ := ih h.of_concat
      obtain ⟨hlow, hforward, hhigh⟩ := h.ranges change (by simp)
      have hascending := h.ascending
      rw [List.map_append, List.map_singleton] at hascending ⊢
      obtain ⟨hchanges, hbefore, hle⟩ := hascending.of_concat
      have hfrom : (change.toSplice.start : Int) = change.fromIndex := Int.toNat_of_nonneg hlow
      have hto : (change.toSplice.stop : Int) = change.toIndex :=
        Int.toNat_of_nonneg (hlow.trans hforward)
      have hstop : change.toSplice.stop ≤ text.length := Int.toNat_le.mpr hhigh
      have hstart : (text.take change.toSplice.start).length = change.toSplice.start := by
        rw [List.length_take]
        omega
      have hfront := length_applyAll hchanges (hstart.symm ▸ hbefore)
      have hsplit := applyAll_take hbefore (hle.trans hstop)
      have hgoal := applyAll_concat hbefore hle hstop change.insert
      generalize applyAll (changes.map MarkdownTextChange.toSplice)
        (text.take change.toSplice.start) = front at hfront hsplit hgoal
      -- the offset is by how much the front has been lengthened
      have hposition : change.fromIndex +
          (0 + lead (changes.map MarkdownTextChange.toSplice)) = front.length := by
        rw [hfront, hstart, hfrom, Int.zero_add]
      have hfits : (front.length : Int) + (change.toIndex - change.fromIndex) ≤
          (front ++ text.drop change.toSplice.start).length := by
        rw [List.length_append, List.length_drop]
        omega
      obtain ⟨hinRange, hedited⟩ := changeEdits_singleton hposition hforward hfits
      rw [changeEdits_concat 0 changes fun first hfirst =>
        ⟨(h.of_concat.ranges first hfirst).1, (h.of_concat.ranges first hfirst).2.1⟩]
      rw [hsplit] at htext
      constructor
      · exact hrange.append (htext ▸ hinRange)
      · have hremoved : change.toSplice.start + (change.toIndex - change.fromIndex).toNat =
            change.toSplice.stop := by
          omega
        rw [List.foldl_append, htext, hedited, replaceRange_length, List.drop_drop, hremoved]
        exact hgoal.symm

namespace MarkdownYjsSession

section

variable {Op : Type} [DecidableEq Op] {yjs : Yjs Op} {Ready : Finset Op → Prop}
  {session : MarkdownYjsSession Op}

theorem text_applyLocalChanges (hplain : yjs.PlainInRange Ready) (hready : Ready session.doc)
    (h : InText (session.getPlainText yjs).length changes) :
    (session.applyLocalChanges yjs changes).getPlainText yjs =
      applyAll (changes.map MarkdownTextChange.toSplice) (session.getPlainText yjs) := by
  obtain ⟨hrange, htext⟩ := changeEdits_applyAll h
  rw [applyLocalChanges]
  split
  next hnone =>
    rw [hnone]
    exact (applyAll_nil _).symm
  next => exact (hplain.text_edits hready hrange).trans htext

/-- The session replaces the ranges of the text it had, each by an edit that is in range. -/
theorem applyLocalChanges_replaces (hplain : yjs.PlainInRange Ready)
    (session : MarkdownYjsSession Op) (hready : Ready session.doc)
    (h : InText (session.getPlainText yjs).length changes) :
    (session.applyLocalChanges yjs changes).getPlainText yjs =
        applyAll (changes.map MarkdownTextChange.toSplice) (session.getPlainText yjs) ∧
      ∀ before textEdit after, changeEdits 0 changes = before ++ textEdit :: after →
        textEdit.InRange (yjs.text (yjs.edits before session.doc)) := by
  refine ⟨text_applyLocalChanges hplain hready h, fun before textEdit after hedits => ?_⟩
  have hrange := (changeEdits_applyAll h).1
  rw [hedits] at hrange
  exact hplain.inRange_of_append hready hrange

end

/-- A letter is doubled, the next one removed, and one is put behind the rest. -/
theorem applyLocalChanges_replaces_three :
    (applyLocalChanges (YjsDocs.sequence.doc 1) (.new (YjsDocs.sequence.doc 1) [97, 98, 99])
        [⟨0, 1, [97, 97]⟩, ⟨1, 2, []⟩, ⟨3, 3, [100]⟩]).getPlainText (YjsDocs.sequence.doc 1) =
      [97, 97, 99, 100] := by
  let yjs := YjsDocs.sequence.doc 1
  let session : MarkdownYjsSession _ := .new yjs [97, 98, 99]
  have hplain := YjsDocs.sequence_plain 1
  have htext : session.getPlainText yjs = [97, 98, 99] := by decide +kernel
  have hinText : InText (session.getPlainText yjs).length
      [⟨0, 1, [97, 97]⟩, ⟨1, 2, []⟩, ⟨3, 3, [100]⟩] := by
    rw [htext]
    exact ⟨by decide, by decide⟩
  have hready := Yjs.edits_ready hplain.union
    (if [97, 98, 99] ≠ ([] : Text) then [.insert 0 [97, 98, 99]] else []) hplain.empty
  refine (applyLocalChanges_replaces hplain.inRange session hready hinText).1.trans ?_
  rw [htext]
  decide

end MarkdownYjsSession

end CollabEditor.Frontend
