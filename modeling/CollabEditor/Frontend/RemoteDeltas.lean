import CollabEditor.Foundation.Splice
import CollabEditor.Frontend.MarkdownYjsSession
import Mathlib.Order.Interval.Finset.Nat

/-! # Remote deltas in the editor

The ops of a delta follow each other through the new text, and their positions are
positions of the text that is being written. The editor takes the positions of one
dispatch in the text before it.
-/

namespace CollabEditor.Frontend

open Foundation

/-- An op of a `Y.Text` delta. -/
inductive DeltaOp
  | retain (length : Nat)
  | delete (length : Nat)
  | insert (text : Text)
deriving DecidableEq, Repr

/-- The delta has no empty op and does not run past the end of a text of the given length. -/
def ValidOn : Nat → List DeltaOp → Prop
  | _, [] => True
  | length, .retain n :: rest | length, .delete n :: rest =>
      0 < n ∧ n ≤ length ∧ ValidOn (length - n) rest
  | length, .insert text :: rest => text ≠ [] ∧ ValidOn length rest

instance : (length : Nat) → (delta : List DeltaOp) → Decidable (ValidOn length delta)
  | _, [] => .isTrue trivial
  | length, .retain n :: rest | length, .delete n :: rest =>
      have := instDecidableValidOn (length - n) rest
      inferInstanceAs (Decidable (0 < n ∧ n ≤ length ∧ ValidOn (length - n) rest))
  | length, .insert text :: rest =>
      have := instDecidableValidOn length rest
      inferInstanceAs (Decidable (text ≠ [] ∧ ValidOn length rest))

/-- The text that a delta makes of another one. -/
def applyDelta : List DeltaOp → Text → Text
  | [], text => text
  | .retain n :: rest, text => text.take n ++ applyDelta rest (text.drop n)
  | .delete n :: rest, text => applyDelta rest (text.drop n)
  | .insert inserted :: rest, text => inserted ++ applyDelta rest text

abbrev ChangeSpec := Splice (Fin (2 ^ 16))

/-- The loop of the listener over the ops. -/
def changeSpecs : Nat → List DeltaOp → List ChangeSpec
  | _, [] => []
  | pos, .retain n :: rest => changeSpecs (pos + n) rest
  | pos, .delete n :: rest => ⟨pos, pos + n, []⟩ :: changeSpecs pos rest
  | pos, .insert inserted :: rest =>
      ⟨pos, pos, inserted⟩ :: changeSpecs (pos + inserted.length) rest

def carriageReturn : Fin (2 ^ 16) := 13

/-- What is assumed of an `EditorView`: a document keeps its line breaks as line feeds, a
change that ends behind the document is an exception, and the changes of one dispatch are
changes of the document before it. -/
structure CodeMirror where
  toDocText : Text → Text
  /-- The document after `view.dispatch({ changes })`. -/
  dispatch : Text → List ChangeSpec → Option Text
  toDocText_eq : ∀ text, carriageReturn ∉ text → toDocText text = text
  toDocText_lines : ∀ text, carriageReturn ∉ toDocText text
  dispatch_none : ∀ doc changes, (∃ change ∈ changes, doc.length < change.stop) →
    dispatch doc changes = none
  dispatch_some : ∀ doc changes,
    (∀ change ∈ changes, change.start ≤ change.stop ∧ change.stop ≤ doc.length) →
      dispatch doc changes = some (Splice.applyAll
        (changes.map fun change => { change with insert := toDocText change.insert }) doc)

/-- The `onDelta` listener of a component with a view; `none` is an exception. -/
def CodeMirror.onDelta (view : CodeMirror) (doc : Text) (delta : List DeltaOp)
    (origin : Origin) : Option Text :=
  if origin = .markdownYjsLocal then some doc
  else if changeSpecs 0 delta = [] then some doc
  else view.dispatch doc (changeSpecs 0 delta)

/-- Every delete stands where as much has been inserted as deleted before it; so does every
insert, or it follows a delete, without a retain between, and less has been inserted than
deleted. `ahead` is by how much the insertions lead. -/
def KeepsPositions : (ahead : Int) → (afterDelete : Bool) → List DeltaOp → Prop
  | _, _, [] => True
  | ahead, _, .retain _ :: rest => KeepsPositions ahead false rest
  | ahead, _, .delete n :: rest => ahead = 0 ∧ KeepsPositions (ahead - n) true rest
  | ahead, afterDelete, .insert text :: rest =>
      (ahead = 0 ∨ ahead < 0 ∧ afterDelete = true) ∧
        KeepsPositions (ahead + text.length) afterDelete rest

/-! ## Positions that are right -/

variable {delta : List DeltaOp} {n k : Nat}

/-- The changes start where the loop stands or behind. -/
theorem changeSpecs_start : ∀ change ∈ changeSpecs n delta, n ≤ change.start := by
  induction delta generalizing n with
  | nil => nofun
  | cons op rest ih =>
      intro change hchange
      cases op with
      | retain length => exact Nat.le_trans (Nat.le_add_right n length) (ih change hchange)
      | delete length =>
          rcases List.mem_cons.mp hchange with rfl | hchange
          · exact Nat.le_refl n
          · exact ih change hchange
      | insert text =>
          rcases List.mem_cons.mp hchange with rfl | hchange
          · exact Nat.le_refl n
          · exact Nat.le_trans (Nat.le_add_right n text.length) (ih change hchange)

/-- From a position on, the changes delete the next `k` elements and do nothing else. -/
def Settled (changes : List ChangeSpec) (n k : Nat) : Prop :=
  ∀ i, n ≤ i → Splice.insertedAt changes i = [] ∧ (Splice.deletedAt changes i = true ↔ i < n + k)

theorem Settled.nil : Settled [] 0 0 :=
  fun i _ => ⟨rfl, by simp⟩

theorem Settled.advance {changes : List ChangeSpec} (hsettled : Settled changes n k) (m : Nat) :
    Settled changes (n + m) (k - m) := by
  intro i hi
  obtain ⟨hinserted, hdeleted⟩ := hsettled i (by omega)
  exact ⟨hinserted, by rw [hdeleted]; omega⟩

/-- The next elements are deleted when nothing is deleted yet. -/
theorem Settled.deletion {changes : List ChangeSpec} (hsettled : Settled changes n 0)
    (length : Nat) : Settled (changes ++ [⟨n, n + length, []⟩]) n length := by
  intro i hi
  obtain ⟨hinserted, hdeleted⟩ := hsettled i hi
  constructor
  · simp [hinserted]
  · have hkept : Splice.deletedAt changes i = false := by
      rw [Bool.eq_false_iff, ne_eq, hdeleted]
      omega
    simp [hkept, hi]

section

variable {changes later : List ChangeSpec} {p : Nat}

/-- Before the later changes start, only the settled ones matter. -/
theorem Settled.between (hsettled : Settled changes n k)
    (hlater : ∀ change ∈ later, p ≤ change.start) {i : Nat} (hlow : n ≤ i) (hhigh : i < p) :
    Splice.insertedAt (changes ++ later) i = [] ∧
      (Splice.deletedAt (changes ++ later) i = true ↔ i < n + k) := by
  obtain ⟨hinserted, hdeleted⟩ := hsettled i hlow
  obtain ⟨hnothing, hkept⟩ := Splice.untouched hlater hhigh
  simp [hinserted, hdeleted, hnothing, hkept]

theorem Settled.skip (hsettled : Settled changes n k)
    (hlater : ∀ change ∈ later, p ≤ change.start) {gone : Text} (hgone : gone.length ≤ k)
    (hp : n + gone.length ≤ p) (rest : Text) :
    Splice.applyFrom (changes ++ later) n (gone ++ rest) =
      Splice.applyFrom (changes ++ later) (n + gone.length) rest := by
  apply Splice.applyFrom_deleted
  intro i hlow hhigh
  obtain ⟨hinserted, hdeleted⟩ := hsettled.between hlater hlow (by omega)
  exact ⟨hinserted, hdeleted.mpr (by omega)⟩

theorem Settled.keep (hsettled : Settled changes n 0)
    (hlater : ∀ change ∈ later, p ≤ change.start) {kept : Text} (hp : n + kept.length ≤ p)
    (rest : Text) :
    Splice.applyFrom (changes ++ later) n (kept ++ rest) =
      kept ++ Splice.applyFrom (changes ++ later) (n + kept.length) rest := by
  apply Splice.applyFrom_kept
  intro i hlow hhigh
  obtain ⟨hinserted, hdeleted⟩ := hsettled.between hlater hlow (by omega)
  refine ⟨hinserted, ?_⟩
  rw [Bool.eq_false_iff, ne_eq, hdeleted]
  omega

end

/-! ## Retains alone -/

def OnlyRetains (delta : List DeltaOp) : Prop :=
  ∀ op ∈ delta, ∃ length, op = .retain length

theorem OnlyRetains.changeSpecs_eq (honly : OnlyRetains delta) (n : Nat) :
    changeSpecs n delta = [] := by
  induction delta generalizing n with
  | nil => rfl
  | cons op rest ih =>
      obtain ⟨length, rfl⟩ := honly op List.mem_cons_self
      exact ih (fun op hop => honly op (List.mem_cons_of_mem _ hop)) (n + length)

theorem OnlyRetains.applyDelta_eq (honly : OnlyRetains delta) (text : Text) :
    applyDelta delta text = text := by
  induction delta generalizing text with
  | nil => rfl
  | cons op rest ih =>
      obtain ⟨length, rfl⟩ := honly op List.mem_cons_self
      rw [applyDelta, ih (fun op hop => honly op (List.mem_cons_of_mem _ hop)),
        List.take_append_drop]

/-- Nothing is changed any more once the insertions lead, or lag behind a retain. -/
theorem onlyRetains_of_ahead {ahead : Int} {afterDelete : Bool}
    (hkeeps : KeepsPositions ahead afterDelete delta)
    (hahead : 0 < ahead ∨ ahead < 0 ∧ afterDelete = false) : OnlyRetains delta := by
  induction delta generalizing afterDelete with
  | nil => nofun
  | cons op rest ih =>
      cases op with
      | retain length =>
          have hrest := ih hkeeps (hahead.imp_right fun hlag => ⟨hlag.1, rfl⟩)
          intro op hop
          rcases List.mem_cons.mp hop with rfl | hop
          · exact ⟨length, rfl⟩
          · exact hrest op hop
      | delete length =>
          have hlevel := hkeeps.1
          omega
      | insert text =>
          rcases hkeeps.1 with hlevel | ⟨hlag, hafter⟩
          · omega
          · rcases hahead with hlead | ⟨-, hnot⟩
            · omega
            · cases hafter.symm.trans hnot

/-! ## The positions are kept when the condition holds -/

theorem changeSpecs_ordered : ∀ change ∈ changeSpecs n delta, change.start ≤ change.stop := by
  induction delta generalizing n with
  | nil => nofun
  | cons op rest ih =>
      intro change hchange
      cases op with
      | retain length => exact ih change hchange
      | delete length =>
          rcases List.mem_cons.mp hchange with rfl | hchange
          · exact Nat.le_add_right n length
          · exact ih change hchange
      | insert text =>
          rcases List.mem_cons.mp hchange with rfl | hchange
          · exact Nat.le_refl n
          · exact ih change hchange

/-- With `k` deleted elements in front, the rest of the delta has its changes in range. -/
theorem changeSpecs_stop {afterDelete : Bool} {length : Nat}
    (hafter : k = 0 ∨ afterDelete = true) (hkeeps : KeepsPositions (-k) afterDelete delta)
    (hvalid : ValidOn length delta) :
    ∀ change ∈ changeSpecs n delta, change.stop ≤ n + k + length := by
  induction delta generalizing n k afterDelete length with
  | nil => nofun
  | cons op rest ih =>
      intro change hchange
      cases op with
      | retain kept =>
          obtain ⟨hpositive, hlength, hvalid⟩ := hvalid
          by_cases hlevel : k = 0
          · subst hlevel
            have hstop := ih (.inl rfl) hkeeps hvalid change hchange
            omega
          · have hkeeps : KeepsPositions (-k) false rest := hkeeps
            have honly := onlyRetains_of_ahead hkeeps (.inr ⟨by omega, rfl⟩)
            rw [changeSpecs, honly.changeSpecs_eq] at hchange
            cases hchange
      | delete gone =>
          obtain ⟨hpositive, hlength, hvalid⟩ := hvalid
          obtain ⟨hlevel, hkeeps⟩ := hkeeps
          have hk : k = 0 := by omega
          subst hk
          rcases List.mem_cons.mp hchange with rfl | hchange
          · simp only
            omega
          · rw [show ((-(0 : Nat) : Int) - gone) = -(gone : Nat) by omega] at hkeeps
            have hstop := ih (.inr rfl) hkeeps hvalid change hchange
            omega
      | insert text =>
          obtain ⟨hne, hvalid⟩ := hvalid
          obtain ⟨-, hkeeps⟩ := hkeeps
          rcases List.mem_cons.mp hchange with rfl | hchange
          · simp only
            omega
          · by_cases hlead : text.length ≤ k
            · rw [show (-(k : Int) + text.length) = -((k - text.length : Nat) : Int) by omega] at hkeeps
              have hpositive := List.length_pos_iff.mpr hne
              have hstop := ih (hafter.imp_left fun hk => by omega) hkeeps hvalid change hchange
              omega
            · have honly := onlyRetains_of_ahead hkeeps (.inl (by omega))
              rw [honly.changeSpecs_eq] at hchange
              cases hchange

/-- Where nothing follows, the settled changes are all there is. -/
theorem Settled.finish {changes : List ChangeSpec} (hsettled : Settled changes n k)
    {gone : Text} (hgone : gone.length = k) (text : Text) :
    Splice.applyFrom changes n (gone ++ text) = text := by
  have hnothing : ∀ change ∈ ([] : List ChangeSpec), n + k + text.length + 1 ≤ change.start := nofun
  have hskip := hsettled.skip hnothing (Nat.le_of_eq hgone) (by omega) text
  have hrest : Settled changes (n + gone.length) 0 := by
    have hadvanced := hsettled.advance gone.length
    rwa [hgone, Nat.sub_self, ← hgone] at hadvanced
  have hkeep := hrest.keep hnothing (by omega : n + gone.length + text.length ≤ _) []
  rw [List.append_nil] at hskip hkeep
  rw [hskip]
  simpa [Splice.applyFrom, (hrest _ (Nat.le_add_right _ text.length)).1] using hkeep

/-- With `k` deleted elements in front, the changes of the delta do what the delta does. -/
theorem applyFrom_changeSpecs {changes : List ChangeSpec} {afterDelete : Bool}
    {gone text : Text} (hsettled : Settled changes n k) (hgone : gone.length = k)
    (hafter : k = 0 ∨ afterDelete = true) (hkeeps : KeepsPositions (-k) afterDelete delta)
    (hvalid : ValidOn text.length delta) :
    Splice.applyFrom (changes ++ changeSpecs n delta) n (gone ++ text) =
      applyDelta delta text := by
  induction delta generalizing n k changes afterDelete gone text with
  | nil =>
      rw [changeSpecs, List.append_nil]
      exact hsettled.finish hgone text
  | cons op rest ih =>
      cases op with
      | retain kept =>
          obtain ⟨hpositive, hlength, hvalid⟩ := hvalid
          have hkeeps : KeepsPositions (-k) false rest := hkeeps
          by_cases hlevel : k = 0
          · subst hlevel
            cases List.length_eq_zero_iff.mp hgone
            have htake : (text.take kept).length = kept := List.length_take_of_le hlength
            have hstart : ∀ change ∈ changeSpecs (n + kept) rest, n + kept ≤ change.start :=
              changeSpecs_start
            have hkeep := hsettled.keep hstart (by omega : n + (text.take kept).length ≤ n + kept)
              (text.drop kept)
            rw [List.take_append_drop, htake] at hkeep
            rw [← List.length_drop] at hvalid
            have hrest := ih (k := 0) (Nat.zero_sub kept ▸ hsettled.advance kept) hgone (.inl rfl)
              hkeeps hvalid
            rw [changeSpecs, List.nil_append, hkeep, applyDelta]
            rw [List.nil_append] at hrest
            rw [hrest]
          · have honly := onlyRetains_of_ahead hkeeps (.inr ⟨by omega, rfl⟩)
            rw [changeSpecs, honly.changeSpecs_eq, List.append_nil, applyDelta,
              honly.applyDelta_eq, List.take_append_drop]
            exact hsettled.finish hgone text
      | delete length =>
          obtain ⟨hpositive, hlength, hvalid⟩ := hvalid
          obtain ⟨hlevel, hkeeps⟩ := hkeeps
          have hk : k = 0 := by omega
          subst hk
          cases List.length_eq_zero_iff.mp hgone
          rw [show ((-(0 : Nat) : Int) - length) = -(length : Nat) by omega] at hkeeps
          rw [← List.length_drop] at hvalid
          have hrest := ih (hsettled.deletion length) (List.length_take_of_le hlength) (.inr rfl)
            hkeeps hvalid
          rw [List.append_assoc, List.take_append_drop] at hrest
          exact hrest
      | insert inserted =>
          obtain ⟨hne, hvalid⟩ := hvalid
          obtain ⟨-, hkeeps⟩ := hkeeps
          have hpositive := List.length_pos_iff.mpr hne
          rw [changeSpecs, Splice.applyFrom_insert (hsettled n (Nat.le_refl n)).1, applyDelta]
          congr 1
          by_cases hlead : inserted.length ≤ k
          · -- the insertion stands among deleted elements, behind which the loop goes on
            rw [show (-(k : Int) + inserted.length) = -((k - inserted.length : Nat) : Int) by
              omega] at hkeeps
            have hstart : ∀ change ∈ changeSpecs (n + inserted.length) rest,
                n + inserted.length ≤ change.start := changeSpecs_start
            have htake : (gone.take inserted.length).length = inserted.length :=
              List.length_take_of_le (by omega)
            have hskip := hsettled.skip hstart (by omega : (gone.take inserted.length).length ≤ k)
              (by omega) (gone.drop inserted.length ++ text)
            rw [← List.append_assoc, List.take_append_drop, htake] at hskip
            rw [hskip]
            exact ih (hsettled.advance inserted.length) (by rw [List.length_drop, hgone])
              (hafter.imp_left fun hk => by omega) hkeeps hvalid
          · have honly := onlyRetains_of_ahead hkeeps (.inl (by omega))
            rw [honly.changeSpecs_eq, List.append_nil, honly.applyDelta_eq]
            exact hsettled.finish hgone text

/-! ## The deletes stand where they should -/

/-- The positions that the delta deletes. -/
def removed : Nat → List DeltaOp → Finset Nat
  | _, [] => ∅
  | start, .retain n :: rest => removed (start + n) rest
  | start, .delete n :: rest => Finset.Ico start (start + n) ∪ removed (start + n) rest
  | start, .insert _ :: rest => removed start rest

/-- Those that its changes delete. -/
def deleted : Nat → List DeltaOp → Finset Nat
  | _, [] => ∅
  | pos, .retain n :: rest => deleted (pos + n) rest
  | pos, .delete n :: rest => Finset.Ico pos (pos + n) ∪ deleted pos rest
  | pos, .insert text :: rest => deleted (pos + text.length) rest

/-- The part of `KeepsPositions` that is about deletes. -/
def DeletesAligned : Int → List DeltaOp → Prop
  | _, [] => True
  | ahead, .retain _ :: rest => DeletesAligned ahead rest
  | ahead, .delete n :: rest => ahead = 0 ∧ DeletesAligned (ahead - n) rest
  | ahead, .insert text :: rest => DeletesAligned (ahead + text.length) rest

theorem mem_deleted {j : Nat} :
    j ∈ deleted n delta ↔ Splice.deletedAt (changeSpecs n delta) j = true := by
  induction delta generalizing n with
  | nil => simp [deleted, changeSpecs]
  | cons op rest ih =>
      cases op with
      | retain length => exact ih
      | delete length => simp [deleted, changeSpecs, ih]
      | insert text =>
          have hnone : ¬(n ≤ j ∧ j < n) := by omega
          rw [deleted, changeSpecs, Splice.deletedAt_cons, ih]
          simp [hnone]

theorem removed_le {start j : Nat} (hj : j ∈ removed start delta) : start ≤ j := by
  induction delta generalizing start with
  | nil => cases hj
  | cons op rest ih =>
      cases op with
      | retain length => exact Nat.le_of_add_right_le (ih hj)
      | delete length =>
          rcases Finset.mem_union.mp hj with hj | hj
          · exact (Finset.mem_Ico.mp hj).1
          · exact Nat.le_of_add_right_le (ih hj)
      | insert text => exact ih hj

theorem removed_lt {start length j : Nat} (hvalid : ValidOn length delta)
    (hj : j ∈ removed start delta) : j < start + length := by
  induction delta generalizing start length with
  | nil => cases hj
  | cons op rest ih =>
      cases op with
      | retain kept =>
          have hlt := ih hvalid.2.2 hj
          have hle := hvalid.2.1
          omega
      | delete gone =>
          have hle := hvalid.2.1
          rcases Finset.mem_union.mp hj with hj | hj
          · have hlt := (Finset.mem_Ico.mp hj).2
            omega
          · have hlt := ih hvalid.2.2 hj
            omega
      | insert text => exact ih hvalid.2 hj

theorem deleted_le {j : Nat} (hj : j ∈ deleted n delta) : n ≤ j := by
  by_contra hlt
  have hstart : ∀ change ∈ changeSpecs n delta, n ≤ change.start := changeSpecs_start
  obtain ⟨-, hkept⟩ := Splice.untouched hstart (Nat.lt_of_not_le hlt)
  cases hkept.symm.trans (mem_deleted.mp hj)

/-- No position is deleted twice by the delta, some may be by the changes. -/
theorem card_deleted_le (start n : Nat) : (deleted n delta).card ≤ (removed start delta).card := by
  induction delta generalizing start n with
  | nil => exact Nat.le_refl 0
  | cons op rest ih =>
      cases op with
      | retain length => exact ih _ _
      | delete length =>
          have hdisjoint : Disjoint (Finset.Ico start (start + length))
              (removed (start + length) rest) := by
            rw [Finset.disjoint_left]
            intro j hj hlater
            exact absurd (removed_le hlater) (Nat.not_le.mpr (Finset.mem_Ico.mp hj).2)
          have hcard : (Finset.Ico start (start + length)).card =
              (Finset.Ico n (n + length)).card := by
            simp
          calc
            (deleted n (.delete length :: rest)).card
                ≤ (Finset.Ico n (n + length)).card + (deleted n rest).card :=
              Finset.card_union_le _ _
            _ ≤ (Finset.Ico start (start + length)).card + (removed (start + length) rest).card :=
              hcard ▸ Nat.add_le_add_left (ih _ _) _
            _ = (removed start (.delete length :: rest)).card :=
              (Finset.card_union_of_disjoint hdisjoint).symm
      | insert text => exact ih _ _

/-- When the changes delete what the delta deletes, each delete is where it should be. -/
theorem deletesAligned_of_subset {start length : Nat} (hvalid : ValidOn length delta)
    (hsubset : removed start delta ⊆ deleted n delta) :
    DeletesAligned (n - start) delta := by
  induction delta generalizing start n length with
  | nil => trivial
  | cons op rest ih =>
      cases op with
      | retain kept =>
          have hrest := ih hvalid.2.2 hsubset
          rwa [show ((n + kept : Nat) - (start + kept : Nat) : Int) = n - start by omega] at hrest
      | delete gone =>
          obtain ⟨hpositive, -, hvalid⟩ := hvalid
          have hequal := Finset.eq_of_subset_of_card_le hsubset (card_deleted_le start n)
          -- the first positions of the two sets
          have hfirst : start ∈ removed start (.delete gone :: rest) :=
            Finset.mem_union_left _ (Finset.mem_Ico.mpr ⟨Nat.le_refl _, by omega⟩)
          have hother : n ∈ deleted n (.delete gone :: rest) :=
            Finset.mem_union_left _ (Finset.mem_Ico.mpr ⟨Nat.le_refl _, by omega⟩)
          have hle := deleted_le (hequal ▸ hfirst)
          have hge := removed_le (hequal ▸ hother)
          have hlevel : n = start := Nat.le_antisymm hle hge
          subst hlevel
          refine ⟨by omega, ?_⟩
          have hrest : removed (n + gone) rest ⊆ deleted n rest := by
            intro j hj
            rcases Finset.mem_union.mp (hsubset (Finset.mem_union_right _ hj)) with hnow | hlater
            · exact absurd (removed_le hj) (Nat.not_le.mpr (Finset.mem_Ico.mp hnow).2)
            · exact hlater
          have haligned := ih hvalid hrest
          rwa [show ((n : Int) - (n + gone : Nat)) = n - n - gone by omega] at haligned
      | insert text =>
          have hrest := ih hvalid.2 hsubset
          rwa [show ((n + text.length : Nat) - (start : Int)) = n - start + text.length by omega]
            at hrest

/-- An element stays or goes, whatever it is. -/
theorem applyDelta_hole (delta : List DeltaOp) (start : Nat) (left right : Text) :
    ∃ front back, ∀ x, applyDelta delta (left ++ x :: right) =
      front ++ ((if start + left.length ∈ removed start delta then [] else [x]) ++ back) := by
  induction delta generalizing start left with
  | nil => exact ⟨left, right, fun x => by simp [applyDelta, removed]⟩
  | cons op rest ih =>
      cases op with
      | retain length =>
          by_cases hlength : length ≤ left.length
          · obtain ⟨front, back, hrest⟩ := ih (start + length) (left.drop length)
            refine ⟨left.take length ++ front, back, fun x => ?_⟩
            rw [applyDelta, List.take_append_of_le_length hlength,
              List.drop_append_of_le_length hlength, hrest, List.length_drop,
              show start + length + (left.length - length) = start + left.length by omega,
              List.append_assoc]
            rfl
          · -- the element is among the retained ones
            obtain ⟨more, rfl⟩ : ∃ more, length = left.length + (more + 1) :=
              ⟨length - left.length - 1, by omega⟩
            refine ⟨left, right.take more ++ applyDelta rest (right.drop more), fun x => ?_⟩
            have hkept : start + left.length ∉
                removed start (.retain (left.length + (more + 1)) :: rest) := by
              intro hgone
              have hle := removed_le (show _ ∈ removed (start + (left.length + (more + 1))) rest
                from hgone)
              omega
            rw [applyDelta, if_neg hkept, List.take_length_add_append, List.drop_length_add_append]
            simp
      | delete length =>
          by_cases hlength : length ≤ left.length
          · obtain ⟨front, back, hrest⟩ := ih (start + length) (left.drop length)
            refine ⟨front, back, fun x => ?_⟩
            have hpast : start + left.length ∉ Finset.Ico start (start + length) := by
              simp [hlength]
            rw [applyDelta, List.drop_append_of_le_length hlength, hrest, List.length_drop,
              show start + length + (left.length - length) = start + left.length by omega]
            simp only [removed, Finset.mem_union, hpast, false_or]
          · obtain ⟨more, rfl⟩ : ∃ more, length = left.length + (more + 1) :=
              ⟨length - left.length - 1, by omega⟩
            refine ⟨[], applyDelta rest (right.drop more), fun x => ?_⟩
            have hgone : start + left.length ∈
                removed start (.delete (left.length + (more + 1)) :: rest) :=
              Finset.mem_union_left _ (Finset.mem_Ico.mpr ⟨by omega, by omega⟩)
            rw [applyDelta, if_pos hgone, List.drop_length_add_append]
            simp
      | insert text =>
          obtain ⟨front, back, hrest⟩ := ih start left
          refine ⟨text ++ front, back, fun x => ?_⟩
          rw [applyDelta, hrest, removed, List.append_assoc]

/-- Some code unit is another one than the given one, and no carriage return. -/
theorem exists_other (c : Fin (2 ^ 16)) : ∃ other, other ≠ c ∧ other ≠ carriageReturn := by
  by_cases hzero : c = 0
  · exact ⟨1, by rw [hzero]; decide, by decide⟩
  · exact ⟨0, Ne.symm hzero, by decide⟩

/-- A part of a document of the editor. -/
def IsDocText (text : Text) (length : Nat) : Prop :=
  text.length = length ∧ carriageReturn ∉ text

theorem IsDocText.append {left right : Text} {m n : Nat} (hleft : IsDocText left m)
    (hright : IsDocText right n) : IsDocText (left ++ right) (m + n) := by
  refine ⟨by rw [List.length_append, hleft.1, hright.1], ?_⟩
  rw [List.mem_append, not_or]
  exact ⟨hleft.2, hright.2⟩

theorem IsDocText.split {text : Text} {m n : Nat} (htext : IsDocText text (m + n)) :
    ∃ left right, IsDocText left m ∧ IsDocText right n ∧ left ++ right = text := by
  refine ⟨text.take m, text.drop m, ⟨List.length_take_of_le ?_, ?_⟩, ⟨?_, ?_⟩,
    List.take_append_drop m text⟩
  · exact htext.1 ▸ Nat.le_add_right m n
  · exact fun hmem => htext.2 (List.mem_of_mem_take hmem)
  · rw [List.length_drop, htext.1, Nat.add_sub_cancel_left]
  · exact fun hmem => htext.2 (List.mem_of_mem_drop hmem)

theorem isDocText_replicate {c : Fin (2 ^ 16)} (hc : c ≠ carriageReturn) (m : Nat) :
    IsDocText (List.replicate m c) m :=
  ⟨List.length_replicate, fun hmem => hc (List.eq_of_mem_replicate hmem).symm⟩

/-- The changes delete what the delta deletes, since they do so in every text. -/
theorem removed_subset_deleted {length : Nat} (hvalid : ValidOn length delta)
    (happlied : ∀ text, IsDocText text length →
      Splice.applyAll (changeSpecs 0 delta) text = applyDelta delta text) :
    removed 0 delta ⊆ deleted 0 delta := by
  intro j hj
  have hlt := removed_lt hvalid hj
  by_contra hkept
  rw [mem_deleted, Bool.not_eq_true] at hkept
  obtain ⟨front, back, hchanges⟩ := Splice.applyFrom_hole (changeSpecs 0 delta) 0
    (List.replicate j 0) (List.replicate (length - j - 1) 0)
  obtain ⟨left, right, hdelta⟩ := applyDelta_hole delta 0 (List.replicate j 0)
    (List.replicate (length - j - 1) 0)
  simp only [List.length_replicate, Nat.zero_add, hkept, hj, if_true, Bool.false_eq_true,
    if_false, List.nil_append] at hchanges hdelta
  -- the changes keep the element that the delta deletes
  have hsame : ∀ x : Fin (2 ^ 16), x ≠ carriageReturn → front ++ ([x] ++ back) = left ++ right := by
    intro x hx
    rw [← hchanges, ← hdelta]
    apply happlied
    constructor
    · simp
      omega
    · have hzero : carriageReturn ≠ 0 := by decide
      simp [hx.symm, hzero]
  have hunequal : front ++ ([0] ++ back) = front ++ ([1] ++ back) :=
    (hsame 0 (by decide)).trans (hsame 1 (by decide)).symm
  have htwo := (List.cons.inj (List.append_cancel_left hunequal)).1
  exact absurd htwo (by decide)

/-! ## So do the inserts -/

theorem keepsPositions_of_onlyRetains {ahead : Int} {afterDelete : Bool}
    (honly : OnlyRetains delta) : KeepsPositions ahead afterDelete delta := by
  induction delta generalizing afterDelete with
  | nil => trivial
  | cons op rest ih =>
      obtain ⟨length, rfl⟩ := honly op List.mem_cons_self
      exact ih fun op hop => honly op (List.mem_cons_of_mem _ hop)

/-- Two texts that agree up to the first unit of an insertion. -/
theorem eq_of_replicate_append {c x : Fin (2 ^ 16)} (hne : x ≠ c) {q r : Nat}
    {left right : Text}
    (heq : List.replicate q c ++ x :: left = List.replicate r c ++ x :: right) : q = r := by
  induction q generalizing r with
  | zero =>
      cases r with
      | zero => rfl
      | succ r => exact absurd (List.cons.inj heq).1 hne
  | succ q ih =>
      cases r with
      | zero => exact absurd (List.cons.inj heq).1.symm hne
      | succ r => rw [ih (List.cons.inj heq).2]

/-- In a text of equal units, an insertion stands behind those that are kept in front of it. -/
theorem Settled.insertion {changes later : List ChangeSpec} (hsettled : Settled changes n k)
    {p m : Nat} (hn : n ≤ p) (hp : p ≤ n + k + m) (hlater : ∀ change ∈ later, p ≤ change.start)
    (c : Fin (2 ^ 16)) (text : Text) :
    ∃ back, Splice.applyFrom (changes ++ ⟨p, p, text⟩ :: later) n
        (List.replicate k c ++ List.replicate m c) =
      List.replicate (p - n - k) c ++ (text ++ back) := by
  have hstart : ∀ change ∈ (⟨p, p, text⟩ : ChangeSpec) :: later, p ≤ change.start :=
    List.forall_mem_cons.mpr ⟨Nat.le_refl p, hlater⟩
  by_cases hgone : p ≤ n + k
  · -- the insertion stands among the deleted units
    have hskip := hsettled.skip hstart (by simp; omega : (List.replicate (p - n) c).length ≤ k)
      (by simp; omega) (List.replicate (n + k - p) c ++ List.replicate m c)
    rw [← List.append_assoc, List.replicate_append_replicate,
      show p - n + (n + k - p) = k by omega, List.length_replicate,
      show n + (p - n) = p by omega] at hskip
    rw [hskip, Splice.applyFrom_insert (hsettled p hn).1, show p - n - k = 0 by omega]
    exact ⟨_, rfl⟩
  · have hskip := hsettled.skip hstart (by simp : (List.replicate k c).length ≤ k)
      (by simp; omega) (List.replicate m c)
    have hkept := (Nat.sub_self k ▸ hsettled.advance k : Settled changes (n + k) 0)
    have hkeep := hkept.keep hstart
      (by simp; omega : n + k + (List.replicate (p - n - k) c).length ≤ p)
      (List.replicate (n + k + m - p) c)
    rw [List.replicate_append_replicate, show p - n - k + (n + k + m - p) = m by omega,
      List.length_replicate, show n + k + (p - n - k) = p by omega] at hkeep
    rw [hskip, List.length_replicate, hkeep, Splice.applyFrom_insert (hsettled p hn).1]
    exact ⟨_, rfl⟩

/-- Where the loop has come to another number of kept units than the delta, and no delete
can follow, no insert follows either. -/
theorem onlyRetains_of_applied {changes : List ChangeSpec} (hsettled : Settled changes n k)
    {p r length : Nat} (hn : n ≤ p) (hoff : p - n - k ≠ r) {ahead : Int} (hahead : ahead ≠ 0)
    (haligned : DeletesAligned ahead delta) (hvalid : ValidOn length delta)
    (hstop : ∀ change ∈ changeSpecs p delta, change.stop ≤ n + k + (r + length))
    (happlied : ∀ gone kept text, IsDocText gone k → IsDocText kept r → IsDocText text length →
      Splice.applyFrom (changes ++ changeSpecs p delta) n (gone ++ (kept ++ text)) =
        kept ++ applyDelta delta text) : OnlyRetains delta := by
  induction delta generalizing p r length with
  | nil => nofun
  | cons op rest ih =>
      cases op with
      | retain more =>
          obtain ⟨hpositive, hlength, hvalid⟩ := hvalid
          have hrest : OnlyRetains rest := by
            refine ih (by omega : n ≤ p + more) (by omega : p + more - n - k ≠ r + more) haligned
              hvalid (fun change hchange => ?_) ?_
            · have hstop := hstop change hchange
              omega
            · intro gone kept text hgone hkept htext
              obtain ⟨first, second, hfirst, hsecond, rfl⟩ := hkept.split
              have htail := hsecond.append htext
              rw [Nat.add_sub_cancel' hlength] at htail
              have hparts := happlied gone first (second ++ text) hgone hfirst htail
              rw [changeSpecs, applyDelta, ← hsecond.1, List.take_left, List.drop_left,
                hsecond.1] at hparts
              simpa only [List.append_assoc] using hparts
          intro op hop
          rcases List.mem_cons.mp hop with rfl | hop
          · exact ⟨more, rfl⟩
          · exact hrest op hop
      | delete gone => exact absurd haligned.1 hahead
      | insert inserted =>
          obtain ⟨hne, hvalid⟩ := hvalid
          obtain ⟨x, units, rfl⟩ := List.exists_cons_of_ne_nil hne
          obtain ⟨c, hother, hc⟩ := exists_other x
          have hp := hstop _ List.mem_cons_self
          have hlater : ∀ change ∈ changeSpecs (p + (x :: units).length) rest, p ≤ change.start :=
            fun change hchange =>
              Nat.le_trans (Nat.le_add_right _ _) (changeSpecs_start change hchange)
          obtain ⟨back, hback⟩ := hsettled.insertion hn hp hlater c (x :: units)
          have hequal := happlied _ _ _ (isDocText_replicate hc k) (isDocText_replicate hc r)
            (isDocText_replicate hc length)
          rw [List.replicate_append_replicate, changeSpecs, hback, applyDelta] at hequal
          exact absurd (eq_of_replicate_append hother.symm hequal) hoff

/-- With `k` deleted units in front of any text, the changes do what the delta does. -/
def Follows (changes : List ChangeSpec) (n k length : Nat) (delta : List DeltaOp) : Prop :=
  ∀ gone text, IsDocText gone k → IsDocText text length →
    Splice.applyFrom (changes ++ changeSpecs n delta) n (gone ++ text) = applyDelta delta text

namespace Follows

variable {changes : List ChangeSpec} {length : Nat} {rest : List DeltaOp} {gone text : Text}

theorem retain {kept : Nat} {left : Text}
    (hfollows : Follows changes n k length (.retain kept :: rest)) (hlength : kept ≤ length)
    (hgone : IsDocText gone k) (hleft : IsDocText left kept)
    (htext : IsDocText text (length - kept)) :
    Splice.applyFrom (changes ++ changeSpecs (n + kept) rest) n (gone ++ (left ++ text)) =
      left ++ applyDelta rest text := by
  have hall := hleft.append htext
  rw [Nat.add_sub_cancel' hlength] at hall
  have hequal := hfollows gone (left ++ text) hgone hall
  rwa [changeSpecs, applyDelta, ← hleft.1, List.take_left, List.drop_left, hleft.1] at hequal

/-- Nothing stands in front, so the kept units can be left out on both sides. -/
theorem retain_level {kept : Nat}
    (hfollows : Follows changes n 0 length (.retain kept :: rest))
    (hsettled : Settled changes n 0) (hlength : kept ≤ length) :
    Follows changes (n + kept) 0 (length - kept) rest := by
  intro gone text hgone htext
  cases List.length_eq_zero_iff.mp hgone.1
  have hzero : (0 : Fin (2 ^ 16)) ≠ carriageReturn := by decide
  have hleft := isDocText_replicate hzero kept
  have hstart : ∀ change ∈ changeSpecs (n + kept) rest, n + kept ≤ change.start :=
    changeSpecs_start
  have hkeep := hsettled.keep hstart (Nat.le_of_eq (congrArg (n + ·) hleft.1)) text
  have hequal := hfollows.retain hlength hgone hleft htext
  rw [List.nil_append, hkeep, hleft.1] at hequal
  exact List.append_cancel_left hequal

theorem delete {count : Nat} (hfollows : Follows changes n 0 length (.delete count :: rest))
    (hlength : count ≤ length) :
    Follows (changes ++ [⟨n, n + count, []⟩]) n count (length - count) rest := by
  intro gone text hgone htext
  have hall := hgone.append htext
  rw [Nat.add_sub_cancel' hlength] at hall
  have hequal := hfollows [] (gone ++ text) ⟨rfl, nofun⟩ hall
  rw [changeSpecs, applyDelta, ← hgone.1, List.drop_left, hgone.1] at hequal
  rw [List.append_assoc]
  exact hequal

theorem insert {inserted : Text}
    (hfollows : Follows changes n k length (.insert inserted :: rest))
    (hsettled : Settled changes n k) (hgone : IsDocText gone k) (htext : IsDocText text length) :
    Splice.applyFrom (changes ++ changeSpecs (n + inserted.length) rest) n (gone ++ text) =
      applyDelta rest text := by
  have hequal := hfollows gone text hgone htext
  rw [changeSpecs, Splice.applyFrom_insert (hsettled n (Nat.le_refl n)).1, applyDelta] at hequal
  exact List.append_cancel_left hequal

/-- As many deleted units as there are inserted ones can be left out. -/
theorem insert_among {inserted : Text}
    (hfollows : Follows changes n k length (.insert inserted :: rest))
    (hsettled : Settled changes n k) (hlead : inserted.length ≤ k) :
    Follows changes (n + inserted.length) (k - inserted.length) length rest := by
  intro gone text hgone htext
  have hzero : (0 : Fin (2 ^ 16)) ≠ carriageReturn := by decide
  have hfront := isDocText_replicate hzero inserted.length
  have hall := hfront.append hgone
  rw [Nat.add_sub_cancel' hlead] at hall
  have hstart : ∀ change ∈ changeSpecs (n + inserted.length) rest,
      n + inserted.length ≤ change.start := changeSpecs_start
  have hskip := hsettled.skip hstart (hfront.1.symm ▸ hlead)
    (Nat.le_of_eq (congrArg (n + ·) hfront.1)) (gone ++ text)
  have hequal := hfollows.insert hsettled hall htext
  rw [List.append_assoc, hskip, hfront.1] at hequal
  exact hequal

end Follows

/-- If the changes do in every text what the delta does, its inserts are where they should be. -/
theorem keepsPositions_of_applied {changes : List ChangeSpec} {afterDelete : Bool} {length : Nat}
    (hsettled : Settled changes n k) (hafter : k = 0 ∨ afterDelete = true)
    (haligned : DeletesAligned (-k) delta) (hvalid : ValidOn length delta)
    (hstop : ∀ change ∈ changeSpecs n delta, change.stop ≤ n + k + length)
    (hfollows : Follows changes n k length delta) : KeepsPositions (-k) afterDelete delta := by
  induction delta generalizing n k changes afterDelete length with
  | nil => trivial
  | cons op rest ih =>
      cases op with
      | retain kept =>
          obtain ⟨hpositive, hlength, hvalid⟩ := hvalid
          by_cases hlevel : k = 0
          · subst hlevel
            have hadvanced : Settled changes (n + kept) 0 :=
              Nat.zero_sub kept ▸ hsettled.advance kept
            refine ih (k := 0) hadvanced (.inl rfl) haligned hvalid (fun change hchange => ?_)
              (hfollows.retain_level hsettled hlength)
            have hstop := hstop change hchange
            omega
          · -- a retain behind more deleted elements than inserted ones
            have honly : OnlyRetains rest := by
              refine onlyRetains_of_applied hsettled (by omega : n ≤ n + kept)
                (by omega : n + kept - n - k ≠ kept) (by omega : -(k : Int) ≠ 0) haligned hvalid
                (fun change hchange => ?_) ?_
              · have hstop := hstop change hchange
                omega
              · intro gone left text hgone hleft htext
                exact hfollows.retain hlength hgone hleft htext
            exact (keepsPositions_of_onlyRetains honly : KeepsPositions (-k) false rest)
      | delete count =>
          obtain ⟨hpositive, hlength, hvalid⟩ := hvalid
          obtain ⟨hlevel, haligned⟩ := haligned
          have hk : k = 0 := by omega
          subst hk
          refine ⟨hlevel, ?_⟩
          rw [show ((-(0 : Nat) : Int) - count) = -(count : Nat) by omega] at haligned ⊢
          refine ih (hsettled.deletion count) (.inr rfl) haligned hvalid
            (fun change hchange => ?_) (hfollows.delete hlength)
          have hstop := hstop change (List.mem_cons_of_mem _ hchange)
          omega
      | insert inserted =>
          obtain ⟨hne, hvalid⟩ := hvalid
          have hpositive := List.length_pos_iff.mpr hne
          have hhere : -(k : Int) = 0 ∨ -(k : Int) < 0 ∧ afterDelete = true := by
            rcases hafter with hk | hafter
            · exact .inl (by omega)
            · by_cases hk : k = 0
              · exact .inl (by omega)
              · exact .inr ⟨by omega, hafter⟩
          refine ⟨hhere, ?_⟩
          have haligned' : DeletesAligned (-(k : Int) + inserted.length) rest := haligned
          by_cases hlead : inserted.length ≤ k
          · rw [show (-(k : Int) + inserted.length) = -((k - inserted.length : Nat) : Int) by
              omega] at haligned' ⊢
            refine ih (hsettled.advance inserted.length) (hafter.imp_left fun hk => by omega)
              haligned' hvalid (fun change hchange => ?_) (hfollows.insert_among hsettled hlead)
            have hstop := hstop change (List.mem_cons_of_mem _ hchange)
            omega
          · -- more has been inserted than deleted
            have honly : OnlyRetains rest := by
              refine onlyRetains_of_applied hsettled (by omega : n ≤ n + inserted.length)
                (by omega : n + inserted.length - n - k ≠ 0)
                (by omega : -(k : Int) + inserted.length ≠ 0) haligned' hvalid
                (fun change hchange => ?_) ?_
              · have hstop := hstop change (List.mem_cons_of_mem _ hchange)
                omega
              · intro gone kept text hgone hkept htext
                cases List.length_eq_zero_iff.mp hkept.1
                exact hfollows.insert hsettled hgone htext
            exact keepsPositions_of_onlyRetains honly

/-! ## The editor follows the delta -/

theorem mem_applyDelta {c : Fin (2 ^ 16)} {text : Text} (hinsert : .insert text ∈ delta)
    (hc : c ∈ text) (doc : Text) : c ∈ applyDelta delta doc := by
  induction delta generalizing doc with
  | nil => cases hinsert
  | cons op rest ih =>
      cases op with
      | retain length =>
          rcases List.mem_cons.mp hinsert with hhere | hlater
          · cases hhere
          · exact List.mem_append_right _ (ih hlater _)
      | delete length =>
          rcases List.mem_cons.mp hinsert with hhere | hlater
          · cases hhere
          · exact ih hlater _
      | insert other =>
          rcases List.mem_cons.mp hinsert with hhere | hlater
          · cases hhere
            exact List.mem_append_left _ hc
          · exact List.mem_append_right _ (ih hlater _)

/-- What changes insert comes into the text, and nothing else does. -/
theorem mem_applyFrom {c : Fin (2 ^ 16)} {changes : List ChangeSpec} {doc : Text}
    (hc : c ∈ Splice.applyFrom changes n doc) :
    c ∈ doc ∨ ∃ change ∈ changes, c ∈ change.insert := by
  have hinserted : ∀ i, c ∈ Splice.insertedAt changes i → ∃ change ∈ changes, c ∈ change.insert := by
    intro i hi
    obtain ⟨change, hchange, hmem⟩ := List.mem_flatMap.mp hi
    split at hmem
    next => exact ⟨change, hchange, hmem⟩
    next => cases hmem
  induction doc generalizing n with
  | nil => exact .inr (hinserted n hc)
  | cons x rest ih =>
      rw [Splice.applyFrom, List.mem_append, List.mem_append] at hc
      rcases hc with hc | hc | hc
      · exact .inr (hinserted n hc)
      · split at hc
        next => cases hc
        next => exact .inl (List.mem_cons.mpr (.inl (List.mem_singleton.mp hc)))
      · exact (ih hc).imp_left (List.mem_cons_of_mem x)

theorem insert_of_mem_changeSpecs {change : ChangeSpec} (hchange : change ∈ changeSpecs n delta) :
    change.insert = [] ∨ .insert change.insert ∈ delta := by
  induction delta generalizing n with
  | nil => cases hchange
  | cons op rest ih =>
      cases op with
      | retain length => exact (ih hchange).imp_right (List.mem_cons_of_mem _)
      | delete length =>
          rcases List.mem_cons.mp hchange with rfl | hchange
          · exact .inl rfl
          · exact (ih hchange).imp_right (List.mem_cons_of_mem _)
      | insert text =>
          rcases List.mem_cons.mp hchange with rfl | hchange
          · exact .inr List.mem_cons_self
          · exact (ih hchange).imp_right (List.mem_cons_of_mem _)

namespace CodeMirror

variable {view : CodeMirror} {doc : Text}

/-- Line breaks that are line feeds are inserted as they are. -/
theorem map_toDocText (hclean : ∀ text, .insert text ∈ delta → carriageReturn ∉ text) :
    ((changeSpecs n delta).map fun change =>
      { change with insert := view.toDocText change.insert }) = changeSpecs n delta := by
  refine (List.map_congr_left fun change hchange => ?_).trans (List.map_id _)
  have hkept : view.toDocText change.insert = change.insert := by
    rcases insert_of_mem_changeSpecs hchange with hnone | hinsert
    · rw [hnone]
      exact view.toDocText_eq [] nofun
    · exact view.toDocText_eq _ (hclean _ hinsert)
  rw [hkept]
  rfl

theorem onDelta_eq (hrange : ∀ change ∈ changeSpecs 0 delta, change.stop ≤ doc.length) :
    view.onDelta doc delta .markdownYjsRemote = some (Splice.applyAll
      ((changeSpecs 0 delta).map fun change =>
        { change with insert := view.toDocText change.insert }) doc) := by
  unfold onDelta
  rw [if_neg (by decide)]
  split
  next hnone =>
      have hsame := Settled.nil.finish (rfl : ([] : Text).length = 0) doc
      rw [hnone]
      exact congrArg some hsame.symm
  next =>
      exact view.dispatch_some doc _ fun change hchange =>
        ⟨changeSpecs_ordered change hchange, hrange change hchange⟩

/-- A change behind the end of the document is an exception. -/
theorem inRange_of_onDelta {next : Text}
    (hnext : view.onDelta doc delta .markdownYjsRemote = some next) :
    ∀ change ∈ changeSpecs 0 delta, change.stop ≤ doc.length := by
  intro change hchange
  by_contra hpast
  unfold onDelta at hnext
  rw [if_neg (by decide), if_neg (List.ne_nil_of_mem hchange),
    view.dispatch_none doc _ ⟨change, hchange, Nat.lt_of_not_le hpast⟩] at hnext
  cases hnext

end CodeMirror

/-- In every document of the length that the delta is for, the listener makes of it what the
delta makes of the text, exactly when the delta keeps its positions and inserts no carriage
returns. -/
theorem onDelta_follows_iff (view : CodeMirror) {length : Nat} (hvalid : ValidOn length delta) :
    (∀ doc, IsDocText doc length →
      view.onDelta doc delta .markdownYjsRemote = some (applyDelta delta doc)) ↔
      KeepsPositions 0 false delta ∧
        ∀ text, .insert text ∈ delta → carriageReturn ∉ text := by
  constructor
  · intro hfollows
    have hsome := isDocText_replicate (by decide : (0 : Fin (2 ^ 16)) ≠ carriageReturn) length
    have hrange := CodeMirror.inRange_of_onDelta (hfollows _ hsome)
    rw [List.length_replicate] at hrange
    have hclean : ∀ text, .insert text ∈ delta → carriageReturn ∉ text := by
      intro text hinsert hc
      have hmem := mem_applyDelta hinsert hc (List.replicate length 0)
      have hequal := hfollows _ hsome
      rw [CodeMirror.onDelta_eq (by simpa using hrange), Option.some.injEq] at hequal
      rw [← hequal] at hmem
      rcases mem_applyFrom hmem with hdoc | ⟨change, hchange, hc⟩
      · exact hsome.2 hdoc
      · obtain ⟨original, -, rfl⟩ := List.mem_map.mp hchange
        exact view.toDocText_lines _ hc
    refine ⟨?_, hclean⟩
    have happlied : ∀ doc, IsDocText doc length →
        Splice.applyAll (changeSpecs 0 delta) doc = applyDelta delta doc := by
      intro doc hdoc
      have hequal := hfollows doc hdoc
      rw [CodeMirror.onDelta_eq (hdoc.1.symm ▸ hrange), CodeMirror.map_toDocText hclean] at hequal
      exact Option.some.inj hequal
    have haligned := deletesAligned_of_subset hvalid (removed_subset_deleted hvalid happlied)
    refine keepsPositions_of_applied (k := 0) Settled.nil (.inl rfl) (by simpa using haligned)
      hvalid (fun change hchange => ?_) ?_
    · have hstop := hrange change hchange
      omega
    · intro gone doc hgone hdoc
      cases List.length_eq_zero_iff.mp hgone.1
      exact happlied doc hdoc
  · rintro ⟨hkeeps, hclean⟩ doc hdoc
    have hrange := changeSpecs_stop (n := 0) (k := 0) (.inl rfl) hkeeps hvalid
    have hinRange : ∀ change ∈ changeSpecs 0 delta, change.stop ≤ doc.length := by
      intro change hchange
      have hstop := hrange change hchange
      rw [hdoc.1]
      omega
    rw [CodeMirror.onDelta_eq hinRange, CodeMirror.map_toDocText hclean]
    have hequal := applyFrom_changeSpecs (k := 0) Settled.nil (rfl : ([] : Text).length = 0)
      (.inl rfl) hkeeps (hdoc.1.symm ▸ hvalid)
    exact congrArg some hequal

/-! ## Examples of deltas -/

/-- Every line break becomes a line feed, after a carriage return or not. -/
def normalizeLines : (afterReturn : Bool) → Text → Text
  | _, [] => []
  | afterReturn, c :: rest =>
      if c = carriageReturn then 10 :: normalizeLines true rest
      else if afterReturn = true ∧ c = 10 then normalizeLines false rest
      else c :: normalizeLines false rest

theorem normalizeLines_eq {text : Text} (hclean : carriageReturn ∉ text) :
    normalizeLines false text = text := by
  induction text with
  | nil => rfl
  | cons c rest ih =>
      rw [List.mem_cons, not_or] at hclean
      rw [normalizeLines, if_neg (Ne.symm hclean.1), if_neg (by simp), ih hclean.2]

theorem carriageReturn_notMem_normalizeLines (afterReturn : Bool) (text : Text) :
    carriageReturn ∉ normalizeLines afterReturn text := by
  induction text generalizing afterReturn with
  | nil => nofun
  | cons c rest ih =>
      unfold normalizeLines
      split
      next =>
        rw [List.mem_cons, not_or]
        exact ⟨by decide, ih true⟩
      next hother =>
        split
        next => exact ih false
        next =>
          rw [List.mem_cons, not_or]
          exact ⟨Ne.symm hother, ih false⟩

/-- An editor that does what is assumed. -/
def CodeMirror.plain : CodeMirror where
  toDocText := normalizeLines false
  dispatch doc changes :=
    if ∀ change ∈ changes, change.start ≤ change.stop ∧ change.stop ≤ doc.length then
      some (Splice.applyAll
        (changes.map fun change => { change with insert := normalizeLines false change.insert }) doc)
    else none
  toDocText_eq _ := normalizeLines_eq
  toDocText_lines := carriageReturn_notMem_normalizeLines false
  dispatch_none := by
    rintro doc changes ⟨change, hchange, hpast⟩
    exact if_neg fun hrange => absurd (hrange change hchange).2 (Nat.not_le.mpr hpast)
  dispatch_some doc changes hrange := if_pos hrange

/-- Two hunks, the first of which replaces a unit by another one. -/
theorem onDelta_follows_replacement :
    CodeMirror.plain.onDelta [97, 98, 99, 100]
      [.retain 1, .delete 1, .insert [120], .retain 1, .insert [121]] .markdownYjsRemote =
        some [97, 120, 99, 121, 100] := by
  have hvalid : ValidOn 4 [.retain 1, .delete 1, .insert [120], .retain 1, .insert [121]] := by
    decide
  refine (onDelta_follows_iff .plain hvalid).mpr ⟨?_, ?_⟩ _ ⟨rfl, by decide⟩
  · simp [KeepsPositions]
  · intro text hinsert
    simp only [List.mem_cons, DeltaOp.insert.injEq, reduceCtorEq, false_or, List.not_mem_nil,
      or_false] at hinsert
    rcases hinsert with rfl | rfl <;> decide

/-- An insert and a delete behind it: the editor deletes another unit. -/
theorem insert_then_delete_fails :
    ¬ ∀ (view : CodeMirror) (doc : Text) (delta : List DeltaOp), carriageReturn ∉ doc →
      ValidOn doc.length delta →
        view.onDelta doc delta .markdownYjsRemote = some (applyDelta delta doc) := by
  intro hall
  have hequal := hall .plain [97, 98, 99] [.insert [120], .delete 1] (by decide) (by decide)
  revert hequal
  decide +kernel

end CollabEditor.Frontend
