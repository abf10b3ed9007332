import CollabEditor.Foundation.Traced
import CollabEditor.Frontend.RemoteDeltas
import CollabEditor.Frontend.SharedText

/-! # Local changes of the editor

A transaction reports its changed ranges by their positions in the old document. The
listener moves each range by what the ranges before it have lengthened the text, and so
does the session.
-/

namespace CollabEditor.Frontend

open Foundation Splice

/-- The loop of the listener over the changed ranges. -/
def localChanges : Int → List ChangeSpec → List MarkdownTextChange
  | _, [] => []
  | offset, change :: rest =>
      ⟨change.start + offset, change.stop + offset, change.insert⟩ ::
        localChanges (offset + (change.insert.length - (change.stop - change.start))) rest

structure MarkdownYjsEditor (Op : Type) where
  session : Option (MarkdownYjsSession Op)
  applyingRemotePatch : Bool
deriving DecidableEq

/-- The update listener, with the ranges that `iterChanges` reports. There are none when the
document has not changed. -/
def MarkdownYjsEditor.updateListener {Op : Type} [DecidableEq Op] (yjs : Yjs Op)
    (editor : MarkdownYjsEditor Op) (changes : List ChangeSpec) : MarkdownYjsEditor Op :=
  if changes = [] then editor
  else if editor.applyingRemotePatch = true ∨ editor.session = none then editor
  else
    { editor with
      session := editor.session.map fun session =>
        session.applyLocalChanges yjs (localChanges 0 changes) }

/-- From every old document that the ranges lie in, the session comes to the new one. -/
def MarkdownYjsEditor.Shows {Op : Type} [DecidableEq Op] (yjs : Yjs Op)
    (Ready : Finset Op → Prop) (changes : List ChangeSpec) : Prop :=
  ∀ session : MarkdownYjsSession Op, Ready session.doc →
    Within (session.getPlainText yjs).length changes →
    (updateListener yjs ⟨some session, false⟩ changes).session.map
        (fun session => session.getPlainText yjs) =
      some (applyAll changes (session.getPlainText yjs))

/-- Ranges as `iterChanges` reports them. Those that touch are one range, and each of them
changes something. -/
structure Reported (changes : List ChangeSpec) : Prop extends Ascending changes where
  apart : changes.Pairwise fun first second => first.stop < second.start
  changing : ∀ change ∈ changes, change.start < change.stop ∨ change.insert ≠ []

/-- Every range stands where as much has been inserted as deleted before it. `ahead` is by
how much the insertions lead. -/
def InPlace : (ahead : Int) → List ChangeSpec → Prop
  | _, [] => True
  | ahead, change :: rest =>
      ahead = 0 ∧ InPlace (ahead + (change.insert.length - (change.stop - change.start))) rest

/-! ## The edits of the session -/

/-- The changes one after the other, each at its position and moved twice. -/
def applyShifted {α : Type*} : Int → List (Splice α) → List α → List α
  | _, [], l => l
  | ahead, change :: rest, l =>
      applyShifted (ahead + (change.insert.length - (change.stop - change.start))) rest
        (replaceRange (change.start + 2 * ahead).toNat (change.stop - change.start)
          change.insert l)

section

variable {Op : Type} [DecidableEq Op] {yjs : Yjs Op} {Ready : Finset Op → Prop}
  {session : MarkdownYjsSession Op} {changes : List ChangeSpec} {offset : Int}

theorem Yjs.Plain.text_edits (hplain : yjs.Plain Ready) (textEdits : List TextEdit)
    {doc : Finset Op} (hready : Ready doc) :
    yjs.text (yjs.edits textEdits doc) = textEdits.foldl TextEdit.splice (yjs.text doc) := by
  induction textEdits generalizing doc with
  | nil => rfl
  | cons textEdit rest ih =>
      have hreturns := hplain.returns doc textEdit hready
      have htext := hplain.text_union doc textEdit hready
      have hnext := hplain.union doc textEdit hready
      rw [Yjs.edits]
      split
      next created hedit =>
        rw [hedit] at htext hnext
        rw [ih hnext, List.foldl_cons, ← htext]
      next created hedit =>
        rw [hedit] at hreturns
        cases hreturns

theorem localChanges_eq_nil : localChanges offset changes = [] ↔ changes = [] := by
  cases changes with
  | nil => simp [localChanges]
  | cons change rest => simp [localChanges]

theorem foldl_delete (position removed : Int) (text : Text) :
    (if 0 < removed then [TextEdit.delete position removed] else []).foldl TextEdit.splice text =
      replaceRange position.toNat removed.toNat [] text := by
  split
  · rfl
  next hnone =>
    have hzero : removed.toNat = 0 := by omega
    rw [hzero, replaceRange_nil]
    rfl

theorem foldl_insert (position : Int) (content text : Text) :
    (if 0 < content.length then [TextEdit.insert position content] else []).foldl
        TextEdit.splice text =
      replaceRange position.toNat 0 content text := by
  split
  · rfl
  next hnone =>
    have hnil : content = [] := by simpa using hnone
    rw [hnil, replaceRange_nil]
    rfl

/-- Both loops have moved a range by the same amount when they come to it. -/
theorem foldl_changeEdits (hforward : ∀ change ∈ changes, change.start ≤ change.stop)
    (text : Text) :
    (changeEdits offset (localChanges offset changes)).foldl TextEdit.splice text =
      applyShifted offset changes text := by
  induction changes generalizing offset text with
  | nil => rfl
  | cons change rest ih =>
      have hle := hforward change List.mem_cons_self
      have hrest : ∀ change ∈ rest, change.start ≤ change.stop := fun change hchange =>
        hforward change (List.mem_cons_of_mem _ hchange)
      have hposition : (change.start : Int) + offset + offset = change.start + 2 * offset := by
        omega
      have hremoved : (change.stop : Int) + offset - (change.start + offset) =
          change.stop - change.start := by
        omega
      have hlength : ((change.stop : Int) - change.start).toNat = change.stop - change.start := by
        omega
      have hoffset : offset + (change.insert.length : Int) - (change.stop - change.start) =
          offset + (change.insert.length - (change.stop - change.start)) := by
        omega
      simp only [localChanges, changeEdits, List.foldl_append, hposition, hremoved, hoffset]
      rw [foldl_delete, foldl_insert, hlength, replaceRange_replaceRange, ih hrest, applyShifted]

/-- Every text is the text of a session. -/
theorem Yjs.Plain.exists_session (hplain : yjs.Plain Ready) (text : Text) :
    ∃ session : MarkdownYjsSession Op, Ready session.doc ∧ session.getPlainText yjs = text := by
  have hready : Ready (MarkdownYjsSession.new yjs []).doc := hplain.empty
  refine ⟨(MarkdownYjsSession.new yjs []).applyLocalReplaceAll yjs text,
    Yjs.edits_ready hplain.union _ hready, ?_⟩
  refine (hplain.text_edits _ hready).trans ?_
  generalize hold : yjs.text (MarkdownYjsSession.new yjs []).doc = old
  have hempty : (if 0 < old.length then [TextEdit.delete 0 old.length] else []).foldl
      TextEdit.splice old = [] := by
    split
    · simp [TextEdit.splice, replaceRange]
    next hnone => simpa using hnone
  rw [MarkdownYjsSession.getPlainText, hold, replaceAllEdits, List.foldl_append, hempty,
    foldl_insert]
  simp [replaceRange]

theorem MarkdownYjsEditor.shows_iff_applyShifted (hplain : yjs.Plain Ready)
    (hforward : ∀ change ∈ changes, change.start ≤ change.stop) :
    Shows yjs Ready changes ↔ ∀ text : Text, Within text.length changes →
      applyShifted 0 changes text = applyAll changes text := by
  have htext : ∀ session : MarkdownYjsSession Op, Ready session.doc →
      (updateListener yjs ⟨some session, false⟩ changes).session.map
          (fun session => session.getPlainText yjs) =
        some (applyShifted 0 changes (session.getPlainText yjs)) := by
    intro session hready
    rw [updateListener]
    split
    next hnone =>
      rw [hnone]
      rfl
    next hsome =>
      have hchanges : ¬localChanges 0 changes = [] := fun h => hsome (localChanges_eq_nil.mp h)
      have hopen : ¬((false : Bool) = true ∨ (some session = none)) := by simp
      rw [if_neg hopen, Option.map_some, Option.map_some,
        MarkdownYjsSession.applyLocalChanges, if_neg hchanges]
      exact congrArg some ((hplain.text_edits _ hready).trans (foldl_changeEdits hforward _))
  constructor
  · intro hshows text hwithin
    obtain ⟨session, hready, rfl⟩ := hplain.exists_session text
    have h := hshows session hready hwithin
    rw [htext session hready] at h
    exact Option.some.inj h
  · intro hshown session hready hwithin
    rw [htext session hready, hshown _ hwithin]

end

/-! ## The last change -/

section

variable {α β : Type*} {changes : List (Splice α)} {l : List α}

theorem applyShifted_concat (ahead : Int) (changes : List (Splice α)) (change : Splice α)
    (l : List α) :
    applyShifted ahead (changes ++ [change]) l =
      replaceRange (change.start + 2 * (ahead + lead changes)).toNat (change.stop - change.start)
        change.insert (applyShifted ahead changes l) := by
  induction changes generalizing ahead l with
  | nil => rw [lead_nil, Int.add_zero]; rfl
  | cons first rest ih =>
      rw [List.cons_append, applyShifted, ih, applyShifted, lead_cons, Int.add_assoc ahead]

theorem applyShifted_map (f : α → β) (ahead : Int) (changes : List (Splice α)) (l : List α) :
    applyShifted ahead (changes.map (Splice.map f)) (l.map f) =
      (applyShifted ahead changes l).map f := by
  induction changes generalizing ahead l with
  | nil => rfl
  | cons change rest ih =>
      have hlength : (Splice.map f change).insert.length = change.insert.length :=
        List.length_map f
      rw [List.map_cons, applyShifted, hlength, applyShifted, ← ih, ← replaceRange_map]
      rfl

end

theorem inPlace_concat {ahead : Int} {changes : List ChangeSpec} {change : ChangeSpec} :
    InPlace ahead (changes ++ [change]) ↔ InPlace ahead changes ∧ ahead + lead changes = 0 := by
  induction changes generalizing ahead with
  | nil => simp [InPlace]
  | cons first rest ih =>
      rw [List.cons_append, InPlace, ih, InPlace, lead_cons, Int.add_assoc, and_assoc]

/-- A range that is not moved is where the new document has it. -/
theorem applyShifted_eq_of_inPlace {changes : List ChangeSpec} (hascending : Ascending changes)
    (hinPlace : InPlace 0 changes) {text : Text} (hwithin : Within text.length changes) :
    applyShifted 0 changes text = applyAll changes text := by
  induction changes using List.reverseRecOn with
  | nil => exact (applyAll_nil text).symm
  | append_singleton changes change ih =>
      obtain ⟨hchanges, hbefore, hforward⟩ := hascending.of_concat
      obtain ⟨hinPlace, hlead⟩ := inPlace_concat.mp hinPlace
      have hstop := (hwithin change (by simp)).2
      have hstart := hforward.trans hstop
      have hrest := ih hchanges hinPlace fun first hfirst =>
        hwithin first (List.mem_append_left _ hfirst)
      have hlength : (text.take change.start).length = change.start := by simp [hstart]
      have hfront := length_applyAll hchanges (hlength.symm ▸ hbefore)
      have hposition : (applyAll changes (text.take change.start)).length = change.start := by
        omega
      have hremoved : change.start + (change.stop - change.start) = change.stop := by omega
      rw [applyShifted_concat, hlead, hrest, applyAll_take hbefore hstart,
        applyAll_concat hbefore hforward hstop, replaceRange]
      rw [show ((change.start : Int) + 2 * 0).toNat = change.start by omega, hremoved,
        List.take_left' hposition, List.drop_append, hposition,
        List.drop_of_length_le (by omega), List.nil_append, List.drop_drop, hremoved]

/-! ## A range that is moved -/

open Traced

section

variable {α : Type*} {changes : List (Splice α)} {n p q length : Nat}

/-- The positions of a long list after the edits of the session. -/
structure Rewritten (length : Nat) (changes : List (Splice α)) (traced : List (Nat ⊕ α)) :
    Prop where
  length_eq : (traced.length : Int) = length + lead changes
  sorted : (olds traced).Pairwise (· < ·)
  news_le : news traced ≤ inserted changes

theorem rewritten_applyShifted (hascending : Ascending changes) (hwithin : Within n changes)
    (hroom : n + inserted changes < length) :
    Rewritten length changes (applyShifted 0 (marked changes) (positions α 0 length)) := by
  induction changes using List.reverseRecOn generalizing n with
  | nil => exact ⟨by simp [marked, applyShifted], by
      rw [marked, List.map_nil, applyShifted, olds_positions]
      exact List.pairwise_lt_range' 1, by simp [marked, applyShifted]⟩
  | append_singleton changes change ih =>
      obtain ⟨hchanges, hbefore, hforward⟩ := hascending.of_concat
      have hlast := hwithin change (by simp)
      rw [inserted_append, inserted_cons, inserted_nil, Nat.add_zero] at hroom
      have hrest := ih hchanges hbefore (by omega)
      have hlow := hchanges.lead_ge hbefore (n := 0) (fun _ _ => Nat.zero_le _) (Nat.zero_le _)
      have hhigh := lead_le_inserted hchanges
      rw [marked_concat, applyShifted_concat, Int.zero_add, lead_marked]
      generalize applyShifted 0 (marked changes) (positions α 0 length) = traced at hrest
      have hfits : (change.start + 2 * lead changes).toNat + (change.stop - change.start) ≤
          traced.length := by
        have hlength := hrest.length_eq
        omega
      constructor
      · have hlength := length_replaceRange (change.insert.map Sum.inr) hfits
        have htraced := hrest.length_eq
        rw [List.length_map] at hlength
        rw [lead_append, lead_cons, lead_nil]
        dsimp only [Splice.map]
        omega
      · exact hrest.sorted.sublist (olds_replaceRange _ _ _ _)
      · have hnews := news_replaceRange (change.start + 2 * lead changes).toNat
          (change.stop - change.start) change.insert traced
        have hbound := hrest.news_le
        rw [inserted_append, inserted_cons, inserted_nil]
        dsimp only [Splice.map]
        omega

variable {text : List α} {traced : List (Nat ⊕ α)}

/-- Where a rewritten list has all new elements in front of a range, the range has old ones. -/
theorem Rewritten.between (hrewritten : Rewritten length changes traced)
    {front back : List (Nat ⊕ α)} {start removed : Nat} (hfront : traced.take start = front)
    (hback : traced.drop (start + removed) = back) (hfits : start + removed ≤ traced.length)
    (hnews : news front = inserted changes) :
    ∃ middle : List Nat, traced = front ++ (middle.map Sum.inl ++ back) ∧
      middle.length = removed ∧ middle.Pairwise (· < ·) ∧
      ∀ n ∈ middle, (∀ m ∈ olds front, m < n) ∧ ∀ m ∈ olds back, n < m := by
  have hsplit : traced = front ++ ((traced.drop start).take removed ++ back) := by
    rw [← hfront, ← hback, ← List.drop_drop, List.take_append_drop,
      List.take_append_drop]
  have hmiddle : ((traced.drop start).take removed).length = removed := by
    rw [List.length_take, List.length_drop]
    omega
  have hsorted := hrewritten.sorted
  have hbound := hrewritten.news_le
  generalize (traced.drop start).take removed = middle at hsplit hmiddle
  rw [hsplit] at hsorted hbound
  obtain ⟨hinl, hascends, hbetween⟩ := Traced.between hsorted (hnews ▸ hbound)
  refine ⟨olds middle, by rw [← hinl]; exact hsplit, ?_, hascends, hbetween⟩
  rw [← hmiddle, hinl, List.length_map, ← hinl]

/-- A last change that is not moved is right only where the changes before it are. -/
theorem Rewritten.eq_fronts (hrewritten : Rewritten length changes traced)
    (hascending : Ascending changes) (hwithin : Within p changes)
    (hlow : 0 < p → Sum.inl (p - 1) ∈ fronts changes p) (hpq : p ≤ q) (hroom : q < length)
    (hlead : lead changes = 0)
    (h : replaceRange (p + 2 * lead changes).toNat (q - p) (text.map Sum.inr) traced =
      fronts changes p ++ (text.map Sum.inr ++ positions α q (length - q))) :
    traced = fronts changes length := by
  have htraced := hrewritten.length_eq
  have hfront := length_fronts hascending hwithin
  have hposition : (p + 2 * lead changes).toNat = p := by omega
  rw [hposition, replaceRange] at h
  obtain ⟨htake, hrest⟩ := List.append_inj h (by rw [List.length_take]; omega)
  obtain ⟨middle, hsplit, hlength, hascends, hbetween⟩ := hrewritten.between htake
    (List.append_cancel_left hrest) (by omega) (news_fronts hascending hwithin)
  have hall : middle = List.range' p (q - p) := by
    apply eq_range'_of_sorted hascends _ hlength
    intro n hn
    obtain ⟨hfirst, hlast⟩ := hbetween n hn
    have hq := hlast q (mem_olds.mpr (mem_positions.mpr ⟨Nat.le_refl q, by omega⟩))
    by_cases hp : 0 < p
    · have hbelow := hfirst (p - 1) (mem_olds.mpr (hlow hp))
      omega
    · omega
  have hpositions := positions_append (α := α) p (q - p) (length - q)
  rw [Nat.add_sub_cancel' hpq, show q - p + (length - q) = length - p by omega] at hpositions
  rw [hsplit, hall, fronts_eq_append hwithin (n := length) (by omega), ← hpositions]
  rfl

/-- Where a deletion is moved to the right, too many elements are left. -/
theorem Rewritten.deletion_not_moved_right (hrewritten : Rewritten length changes traced)
    (hascending : Ascending changes) (hwithin : Within p changes) (hpq : p < q) {k : Nat}
    (hroom : q + k < length) (hlead : lead changes = k) (hk : 0 < k) :
    traced.take (p + 2 * k) ++ traced.drop (p + 2 * k + (q - p)) ≠
      fronts changes p ++ positions α q (length - q) := by
  intro h
  have htraced := hrewritten.length_eq
  have hfront := length_fronts hascending hwithin
  have hpositions := positions_append (α := α) q k (length - (q + k))
  rw [show k + (length - (q + k)) = length - q by omega] at hpositions
  rw [← hpositions, ← List.append_assoc] at h
  obtain ⟨hleft, hright⟩ := List.append_inj h (by
    rw [List.length_take, List.length_append, length_positions]
    omega)
  have hfits : p + 2 * k + (q - p) ≤ traced.length := by omega
  obtain ⟨middle, -, hlength, -, hbetween⟩ := hrewritten.between hleft hright hfits (by
    rw [news_append, news_positions, news_fronts hascending hwithin, Nat.add_zero])
  -- nothing stands between two neighbours
  obtain ⟨n, hn⟩ := List.exists_mem_of_length_pos (l := middle) (by omega)
  obtain ⟨hfirst, hlast⟩ := hbetween n hn
  have hbelow := hfirst (q + (k - 1)) (mem_olds.mpr
    (List.mem_append_right _ (mem_positions.mpr ⟨by omega, by omega⟩)))
  have habove := hlast (q + k) (mem_olds.mpr (mem_positions.mpr ⟨by omega, by omega⟩))
  omega

/-- Where an insertion is moved to the right, its end stands behind an old element. -/
theorem insertion_not_moved_right {front back : List (Nat ⊕ α)} {start k : Nat}
    (hfront : front.length + k = start) (hk : 0 < k) (hstart : start ≤ traced.length)
    (htext : text ≠ []) :
    traced.take start ++ (text.map Sum.inr ++ back) ≠
      front ++ (text.map Sum.inr ++ positions α q length) := by
  intro h
  have hlength : 0 < text.length := List.length_pos_iff.mpr htext
  have htake : (traced.take start).length = start := by simp [hstart]
  have hat : (traced.take start ++ (text.map Sum.inr ++ back))[start + (text.length - 1)]? =
      (front ++ (text.map Sum.inr ++ positions α q length))[start + (text.length - 1)]? := by
    rw [h]
  rw [List.getElem?_append_right (by omega), htake, Nat.add_sub_cancel_left,
    List.getElem?_append_left (by rw [List.length_map]; omega),
    List.getElem?_append_right (by omega),
    List.getElem?_append_right (by rw [List.length_map]; omega), List.length_map,
    List.getElem?_map, positions, List.getElem?_map] at hat
  rw [List.getElem?_eq_getElem (by omega)] at hat
  cases hold : (List.range' q length)[start + (text.length - 1) - front.length - text.length]? with
  | none =>
      rw [hold] at hat
      cases hat
  | some old =>
      rw [hold] at hat
      cases hat

/-- A last change that is moved to the right is wrong. -/
theorem Rewritten.not_moved_right (hrewritten : Rewritten length changes traced)
    (hascending : Ascending changes) (hwithin : Within p changes)
    (hroom : q + inserted changes < length) (hpq : p ≤ q) (hchanging : p < q ∨ text ≠ [])
    (hlead : 0 < lead changes) :
    replaceRange (p + 2 * lead changes).toNat (q - p) (text.map Sum.inr) traced ≠
      fronts changes p ++ (text.map Sum.inr ++ positions α q (length - q)) := by
  obtain ⟨k, hk⟩ := Int.eq_ofNat_of_zero_le (Int.le_of_lt hlead)
  have htraced := hrewritten.length_eq
  have hfront := length_fronts hascending hwithin
  have hbound := lead_le_inserted hascending
  have hposition : (p + 2 * lead changes).toNat = p + 2 * k := by omega
  rw [hposition, replaceRange]
  by_cases htext : text = []
  · rw [htext]
    exact hrewritten.deletion_not_moved_right hascending hwithin
      (hchanging.resolve_right (not_not.mpr htext)) (by omega) hk (by omega)
  · exact insertion_not_moved_right (k := k) (by omega) (by omega) (by omega) htext

/-- From a position on the list is as before, or the position is gone. -/
def Keeps (length m : Nat) (traced : List (Nat ⊕ α)) : Prop :=
  (∃ front, traced = front ++ positions α m (length - m)) ∨ Sum.inl m ∉ traced

variable {m : Nat}

theorem notMem_of_sorted {front back : List (Nat ⊕ α)}
    (hsorted : (olds (front ++ back)).Pairwise (· < ·)) (hm : Sum.inl m ∈ back) :
    Sum.inl m ∉ front := by
  intro hfront
  rw [olds_append] at hsorted
  have hlt := (List.pairwise_append.mp hsorted).2.2 m (mem_olds.mpr hfront) m (mem_olds.mpr hm)
  exact absurd hlt (Nat.lt_irrefl m)

/-- A change that starts in front of the position or at it. -/
theorem Keeps.replaceRange (hkeeps : Keeps length m traced)
    (hsorted : (olds traced).Pairwise (· < ·)) (hm : m < length) {start removed : Nat}
    (hstart : start + (length - m) ≤ traced.length) :
    Keeps length m (replaceRange start removed (text.map Sum.inr) traced) := by
  rcases hkeeps with ⟨front, rfl⟩ | hgone
  · rw [List.length_append, length_positions] at hstart
    by_cases hbefore : start + removed ≤ front.length
    · exact .inl ⟨_, replaceRange_append _ hbefore _⟩
    · apply Or.inr
      have hfront := notMem_of_sorted hsorted (mem_positions.mpr ⟨Nat.le_refl m, by omega⟩)
      rw [Splice.replaceRange, List.take_append_of_le_length (by omega), List.drop_append,
        List.drop_of_length_le (by omega), List.nil_append, drop_positions]
      intro hmem
      rcases List.mem_append.mp hmem with hmem | hmem
      · exact hfront (List.mem_of_mem_take hmem)
      · rcases List.mem_append.mp hmem with hmem | hmem
        · obtain ⟨new, -, hnew⟩ := List.mem_map.mp hmem
          cases hnew
        · have hle := (mem_positions.mp hmem).1
          omega
  · apply Or.inr
    intro hmem
    exact hgone (mem_olds.mp ((olds_replaceRange start removed text traced).mem
      (mem_olds.mpr hmem)))

/-- The edits of the session, when none of them should be behind the position. -/
theorem keeps_applyShifted (hascending : Ascending changes) (hwithin : Within n changes)
    (hroom : n + inserted changes < length) (hm : m < length)
    (hearly : ∀ before change, before ++ [change] <+: changes →
      (change.start : Int) + lead before ≤ m ∧ 0 ≤ m + lead before) :
    Keeps length m (applyShifted 0 (marked changes) (positions α 0 length)) := by
  induction changes using List.reverseRecOn generalizing n with
  | nil =>
      have hpositions := positions_append (α := α) 0 m (length - m)
      rw [Nat.zero_add, Nat.add_sub_cancel' (Nat.le_of_lt hm)] at hpositions
      exact .inl ⟨positions α 0 m, hpositions.symm⟩
  | append_singleton changes change ih =>
      obtain ⟨hchanges, hbefore, hforward⟩ := hascending.of_concat
      have hlast := hwithin change (by simp)
      have hhere := hearly changes change (List.prefix_refl _)
      rw [inserted_append, inserted_cons, inserted_nil, Nat.add_zero] at hroom
      have hkeeps := ih hchanges hbefore (by omega) fun before earlier hfirsts =>
        hearly before earlier (hfirsts.trans (List.prefix_append _ _))
      have hrewritten : Rewritten length changes _ :=
        rewritten_applyShifted hchanges hbefore (by omega)
      rw [marked_concat, applyShifted_concat, Int.zero_add, lead_marked]
      apply hkeeps.replaceRange hrewritten.sorted hm
      have hlength := hrewritten.length_eq
      dsimp only [Splice.map]
      omega

/-- Where the changes come to, they come in their order. -/
theorem start_add_lead_le (hascending : Ascending changes) (hwithin : Within p changes)
    {before : List (Splice α)} {change : Splice α} (hfirsts : before ++ [change] <+: changes) :
    (change.start : Int) + lead before ≤ p + lead changes := by
  obtain ⟨after, rfl⟩ := hfirsts
  rw [List.append_assoc, List.singleton_append] at hascending hwithin ⊢
  obtain ⟨-, hordered, -⟩ := List.pairwise_append.mp hascending.ordered
  have hlater : Ascending (change :: after) :=
    ⟨fun later hlater => hascending.forward later (List.mem_append_right _ hlater), hordered⟩
  have hstart : ∀ later ∈ change :: after, change.start ≤ later.start := by
    intro later hlater'
    rcases List.mem_cons.mp hlater' with rfl | hmem
    · exact Nat.le_refl _
    · exact (hlater.forward change List.mem_cons_self).trans
        ((List.pairwise_cons.mp hordered).1 later hmem)
  have hbound := hlater.lead_ge (fun later hmem => hwithin later (List.mem_append_right _ hmem))
    hstart (hwithin change (by simp)).1
  rw [lead_append]
  omega

/-- A last change that is moved to the left comes to the position in front of it at most. -/
theorem keeps_moved_left (hascending : Ascending (changes ++ [⟨m + 1, q, text⟩]))
    (hbelow : Within m changes) (hwithin : Within q (changes ++ [⟨m + 1, q, text⟩]))
    (hroom : q + inserted (changes ++ [⟨m + 1, q, text⟩]) < length) (hm : m < length)
    (hlead : lead changes < 0) :
    Keeps length m
      (applyShifted 0 (marked (changes ++ [⟨m + 1, q, text⟩])) (positions α 0 length)) := by
  obtain ⟨hchanges, hbefore, hpq⟩ := hascending.of_concat
  have hleft : ∀ before : List (Splice α), Ascending before → Within m before →
      (0 : Int) ≤ m + lead before := fun before hascends hm =>
    hascends.lead_ge hm (n := 0) (fun _ _ => Nat.zero_le _) (Nat.zero_le _)
  refine keeps_applyShifted hascending hwithin hroom hm fun before change hfirsts => ?_
  rcases List.prefix_concat_iff.mp hfirsts with heq | hfirsts
  · obtain ⟨rfl, hlast⟩ := List.append_inj' heq rfl
    cases hlast
    exact ⟨by dsimp only; omega, hleft before hchanges hbelow⟩
  · have hle := start_add_lead_le hchanges hbefore hfirsts
    have hsub := (List.sublist_append_left before [change]).trans hfirsts.sublist
    dsimp only at hle
    refine ⟨by omega, hleft before (hchanges.sublist hsub) ?_⟩
    exact fun earlier hearlier => hbelow earlier (hsub.mem hearlier)

/-- A change right behind the position is not kept. -/
theorem Keeps.not_changed {front : List (Nat ⊕ α)} (hmq : m < q)
    (hroom : q + text.length < length) (hchanging : m + 1 < q ∨ text ≠ [])
    (hsorted : (olds (front ++ Sum.inl m :: (text.map Sum.inr ++
      positions α q (length - q)))).Pairwise (· < ·)) :
    ¬Keeps length m (front ++ Sum.inl m :: (text.map Sum.inr ++
      positions α q (length - q))) := by
  rintro (⟨kept, hkept⟩ | hgone)
  · have hrest : positions α m (length - m) =
        Sum.inl m :: positions α (m + 1) (length - (m + 1)) := by
      rw [show length - m = length - (m + 1) + 1 by omega]
      rfl
    have hfirst := notMem_of_sorted (m := m) hsorted List.mem_cons_self
    have hafter : Sum.inl m ∉ text.map Sum.inr ++ positions α q (length - q) := by
      intro hmem
      rcases List.mem_append.mp hmem with hmem | hmem
      · obtain ⟨new, -, hnew⟩ := List.mem_map.mp hmem
        cases hnew
      · have hle := (mem_positions.mp hmem).1
        omega
    rw [hrest] at hkept
    obtain ⟨-, -, hsame⟩ := (List.append_cons_inj_of_notMem hfirst hafter).mp hkept
    -- what is behind the element should have changed
    have hnews := congrArg news hsame
    have hlength := congrArg List.length hsame
    rw [news_append, news_inr, news_positions, news_positions] at hnews
    rw [List.length_append, List.length_map, length_positions, length_positions] at hlength
    have htext : text = [] := List.length_eq_zero_iff.mp (by omega)
    have hlt := hchanging.resolve_right (not_not.mpr htext)
    omega
  · exact hgone (List.mem_append_right _ List.mem_cons_self)

/-- A last change that is moved to the left is wrong. -/
theorem not_moved_left (hascending : Ascending (changes ++ [⟨p, q, text⟩]))
    (hapart : ∀ change ∈ changes, change.stop < p) (hroom : q + inserted changes +
      text.length < length) (hchanging : p < q ∨ text ≠ []) (hlead : lead changes < 0) :
    applyShifted 0 (marked (changes ++ [⟨p, q, text⟩])) (positions α 0 length) ≠
      fronts changes p ++ (text.map Sum.inr ++ positions α q (length - q)) := by
  intro h
  obtain ⟨hchanges, hbefore, hpq⟩ := hascending.of_concat
  dsimp only at hbefore hpq
  have hlow := hchanges.lead_ge hbefore (n := 0) (fun _ _ => Nat.zero_le _) (Nat.zero_le _)
  obtain ⟨m, rfl⟩ : ∃ m, p = m + 1 := ⟨p - 1, by omega⟩
  have hbelow : Within m changes := fun change hchange => by
    have hstop := hapart change hchange
    have hforward := hchanges.forward change hchange
    omega
  have hwithin : Within q (changes ++ [⟨m + 1, q, text⟩]) := by
    intro change hchange
    rcases List.mem_append.mp hchange with hchange | hchange
    · exact hbelow.mono (by omega) change hchange
    · rw [List.mem_singleton.mp hchange]
      exact ⟨hpq, Nat.le_refl q⟩
  have hinserted : q + inserted (changes ++ [⟨m + 1, q, text⟩]) < length := by
    rw [inserted_append, inserted_cons, inserted_nil]
    dsimp only
    omega
  have hkeeps := keeps_moved_left hascending hbelow hwithin hinserted (by omega) hlead
  have hsorted := (rewritten_applyShifted hascending hwithin hinserted).sorted
  have hone : positions α m (m + 1 - m) = [Sum.inl m] := by
    rw [Nat.add_sub_cancel_left]
    rfl
  rw [h, fronts_eq_append hbelow (Nat.le_add_right m 1), hone, List.append_assoc,
    List.singleton_append] at hkeeps hsorted
  exact Keeps.not_changed (by omega) (by omega) hchanging hsorted hkeeps

end

theorem Reported.of_concat {changes : List ChangeSpec} {change : ChangeSpec}
    (hreported : Reported (changes ++ [change])) :
    Reported changes ∧ ∀ first ∈ changes, first.stop < change.start := by
  obtain ⟨hbefore, -, hlast⟩ := List.pairwise_append.mp hreported.apart
  have hascending := hreported.toAscending.sublist (List.sublist_append_left changes [change])
  refine ⟨⟨hascending, hbefore, fun first hfirst => ?_⟩, fun first hfirst => ?_⟩
  · exact hreported.changing first (List.mem_append_left _ hfirst)
  · exact hlast first hfirst change (List.mem_singleton_self change)

/-- Where every position of a long document comes out right, no range has been moved. From
the last range back, each one has found the text in place. -/
theorem Reported.inPlace {changes : List ChangeSpec} (hreported : Reported changes) {n length : Nat}
    (hwithin : Within n changes) (hroom : n + inserted changes < length)
    (h : applyShifted 0 (marked changes) (positions _ 0 length) = fronts changes length) :
    InPlace 0 changes := by
  induction changes using List.reverseRecOn generalizing n with
  | nil => trivial
  | append_singleton changes change ih =>
      obtain ⟨hchanges, hapart⟩ := hreported.of_concat
      obtain ⟨hascending, hbefore, hpq⟩ := hreported.toAscending.of_concat
      have hchanging := hreported.changing change (by simp)
      have hlast := (hwithin change (by simp)).2
      have hall := hreported.toAscending
      obtain ⟨p, q, text⟩ := change
      dsimp only at hapart hbefore hpq hchanging hlast
      rw [inserted_append, inserted_cons, inserted_nil, Nat.add_zero] at hroom
      dsimp only at hroom
      rw [fronts_concat hbefore hpq (by omega)] at h
      have hrewritten : Rewritten length changes _ :=
        rewritten_applyShifted hascending hbefore (by omega)
      rcases Int.lt_trichotomy (lead changes) 0 with hleft | hzero | hright
      · exact absurd h (not_moved_left hall hapart (by omega) hchanging hleft)
      · rw [marked_concat, applyShifted_concat, Int.zero_add, lead_marked] at h
        have hlow : 0 < p → Sum.inl (p - 1) ∈ fronts changes p := by
          intro hp
          have hbelow : Within (p - 1) changes := fun first hfirst => by
            have hstop := hapart first hfirst
            have hforward := hascending.forward first hfirst
            omega
          rw [fronts_eq_append hbelow (Nat.sub_le p 1)]
          exact List.mem_append_right _ (mem_positions.mpr ⟨Nat.le_refl _, by omega⟩)
        have hsame := hrewritten.eq_fronts hascending hbefore hlow hpq (by omega) hzero h
        exact inPlace_concat.mpr ⟨ih hchanges hbefore (by omega) hsame, by rw [hzero]; rfl⟩
      · rw [marked_concat, applyShifted_concat, Int.zero_add, lead_marked] at h
        have hwrong := hrewritten.not_moved_right hascending hbefore (q := q) (by omega) hpq
          hchanging hright
        exact absurd h hwrong

/-! ## Transactions that come through -/

section

variable {Op : Type} [DecidableEq Op] {yjs : Yjs Op} {Ready : Finset Op → Prop}
  {changes : List ChangeSpec}

/-- The session follows the editor if no range is moved; it follows a transaction from every
old document only then. -/
theorem MarkdownYjsEditor.shows_iff_inPlace (hplain : yjs.Plain Ready)
    (hascending : Ascending changes) :
    (InPlace 0 changes → Shows yjs Ready changes) ∧
      (Reported changes → Shows yjs Ready changes → InPlace 0 changes) := by
  rw [shows_iff_applyShifted hplain hascending.forward]
  constructor
  · intro hinPlace text hwithin
    exact applyShifted_eq_of_inPlace hascending hinPlace hwithin
  · intro hreported hshown
    obtain ⟨n, hwithin⟩ := exists_within changes
    obtain ⟨length, hroom⟩ := exists_gt (n + inserted changes)
    apply hreported.inPlace hwithin hroom
    apply eq_of_map_elim
    intro element
    have h := hshown ((positions _ 0 length).map (Sum.elim element id)) (by
      rw [List.length_map, length_positions]
      exact hwithin.mono (by omega))
    rw [← map_marked element changes, applyShifted_map, applyAll_map] at h
    exact h

end

/-! ## Two transactions -/

/-- Two letters are replaced by two others. -/
theorem MarkdownYjsEditor.shows_replaced_letters :
    Shows (YjsDocs.sequence.doc 1) (YjsDocs.sequence.Ready 1) [⟨0, 1, [120]⟩, ⟨2, 3, [121]⟩] :=
  (shows_iff_inPlace (YjsDocs.sequence_plain 1) (by decide)).1 ⟨rfl, rfl, trivial⟩

/-- Two cursors write one letter each. -/
theorem MarkdownYjsEditor.two_cursors_not_shown :
    ¬∀ yjs : Yjs (Sequence.Operation (Fin (2 ^ 16))), ∀ Ready, yjs.Plain Ready →
      ∀ changes, Reported changes → Shows yjs Ready changes := by
  intro hall
  have hplain := YjsDocs.sequence_plain 1
  have hreported : Reported [⟨0, 0, [120]⟩, ⟨1, 1, [121]⟩] :=
    ⟨⟨by decide, by decide⟩, by decide, by decide⟩
  have hshown := hall _ _ hplain _ hreported (.new (YjsDocs.sequence.doc 1) [97, 98])
    (Yjs.edits_ready hplain.union _ hplain.empty)
  revert hshown
  decide +kernel

end CollabEditor.Frontend
