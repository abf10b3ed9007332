import CollabEditor.Frontend.CodeUnits

/-! # Inserting a code block

The editors put a selection between two code fences. Whether it then is the content of a
fenced block is said by a reader of backtick fences.
-/

namespace CollabEditor.Frontend

/-! ## Reading fences -/

/-- The lines of a text. An editor keeps every line break as a line feed. -/
def lines (text : Text) : List Text := text.splitOn (unit '\n')

/-- The length of lines with a line break after each. -/
def width (lines : List Text) : ℕ := (lines.map fun line => line.length + 1).sum

def isBacktick (u : Fin (2 ^ 16)) : Bool := u = unit '\x60'

/-- The number of backticks and the info string of an opening fence. -/
def openingFence (line : Text) : Option (ℕ × Text) :=
  if 3 ≤ (line.takeWhile isBacktick).length ∧ unit '\x60' ∉ line.dropWhile isBacktick then
    some ((line.takeWhile isBacktick).length, line.dropWhile isBacktick)
  else none

/-- A line that closes a fence of so many backticks. -/
def closesFence (count : ℕ) (line : Text) : Bool := line.all isBacktick && count ≤ line.length

/-- A block that a fence has opened. -/
structure OpenFence where
  count : ℕ
  info : Text
  start : ℕ
  content : List Text
deriving DecidableEq, Repr

structure FencedBlock where
  info : Text
  /-- The lines between the fences. -/
  content : List Text
  /-- The position of the opening fence. -/
  start : ℕ
  /-- The position after the closing fence, or the end of the text if there is none. -/
  stop : ℕ
deriving DecidableEq, Repr

structure FenceReader where
  /-- Where the next line starts. -/
  position : ℕ
  current : Option OpenFence
  blocks : List FencedBlock
deriving DecidableEq, Repr

namespace FenceReader

def readLine (reader : FenceReader) (line : Text) : FenceReader :=
  match reader.current with
  | none =>
      { reader with
        position := reader.position + (line.length + 1)
        current := (openingFence line).map fun fence => ⟨fence.1, fence.2, reader.position, []⟩ }
  | some fence =>
      if closesFence fence.count line then
        ⟨reader.position + (line.length + 1), none, reader.blocks ++
          [⟨fence.info, fence.content, fence.start, reader.position + line.length⟩]⟩
      else
        { reader with
          position := reader.position + (line.length + 1)
          current := some { fence with content := fence.content ++ [line] } }

/-- The reader after the first lines of a text. -/
def read (lines : List Text) : FenceReader := lines.foldl readLine ⟨0, none, []⟩

/-- A block without a closing fence goes up to the end of the text. -/
def finish (reader : FenceReader) : List FencedBlock :=
  match reader.current with
  | none => reader.blocks
  | some fence =>
      reader.blocks ++ [⟨fence.info, fence.content, fence.start, reader.position - 1⟩]

end FenceReader

def fencedBlocks (text : Text) : List FencedBlock := (FenceReader.read (lines text)).finish

/-- The end of the text is inside a block. -/
def fenceOpen (text : Text) : Bool := (FenceReader.read (lines text)).current.isSome

/-! ## The editors -/

/-- The document of an editor and the main selection in it. -/
structure EditorView where
  doc : Text
  fromIndex : ℕ
  toIndex : ℕ
  ordered : fromIndex ≤ toIndex
  inDoc : toIndex ≤ doc.length
deriving DecidableEq

namespace EditorView

def sliceDoc (view : EditorView) (fromIndex toIndex : ℕ) : Text :=
  (view.doc.drop fromIndex).take (toIndex - fromIndex)

/-- The text before the selection. -/
def before (view : EditorView) : Text := view.doc.take view.fromIndex

/-- The text after the selection. -/
def after (view : EditorView) : Text := view.doc.drop view.toIndex

def selected (view : EditorView) : Text := view.sliceDoc view.fromIndex view.toIndex

/-- `dispatch` of a replacement of the selection, with the cursor inside of what is inserted. -/
def dispatch (view : EditorView) (insert : Text) (cursor : ℕ) (hcursor : cursor ≤ insert.length) :
    EditorView where
  doc := view.before ++ insert ++ view.after
  fromIndex := view.fromIndex + cursor
  toIndex := view.fromIndex + cursor
  ordered := Nat.le_refl _
  inDoc := by
    have hfrom := Nat.le_trans view.ordered view.inDoc
    simp only [before, List.length_append, List.length_take, Nat.min_eq_left hfrom]
    omega

end EditorView

/-- `opener` -/
def opener (language : Text) : Text :=
  if language ≠ [] then units "```" ++ language ++ units "\n" else units "```\n"

/-- `insertCodeBlock`, which is the same in both components. -/
def codeBlockInserted (language : Text) : Option EditorView → Option EditorView
  | none => none
  | some view =>
      let selectedText := view.sliceDoc view.fromIndex view.toIndex
      let insert := opener language ++ selectedText ++ units "\n```"
      some (view.dispatch insert (opener language).length (by simp [insert]))

namespace MarkdownEditorComponent

def insertCodeBlock (view : Option EditorView) (language : Text) : Option EditorView :=
  codeBlockInserted language view

end MarkdownEditorComponent

namespace MarkdownYjsEditorComponent

def insertCodeBlock (view : Option EditorView) (language : Text) : Option EditorView :=
  codeBlockInserted language view

end MarkdownYjsEditorComponent

/-! ## Lines -/

@[simp] theorem width_nil : width [] = 0 := rfl

@[simp] theorem width_cons (line : Text) (rest : List Text) :
    width (line :: rest) = line.length + 1 + width rest := by
  simp [width]

@[simp] theorem width_append (front back : List Text) :
    width (front ++ back) = width front + width back := by
  simp [width]

theorem lines_ne_nil (text : Text) : lines text ≠ [] := List.splitOn_ne_nil _ _

theorem lines_cons (u : Fin (2 ^ 16)) (text : Text) :
    lines (u :: text) =
      if u = unit '\n' then [] :: lines text else (lines text).modifyHead (List.cons u) := by
  rw [lines, List.splitOn_cons_eq_if_modifyHead]
  simp only [beq_iff_eq]
  rfl

theorem lines_append_newline (front back : Text) :
    lines (front ++ unit '\n' :: back) = lines front ++ lines back :=
  List.splitOn_append_cons_self _ _

theorem lines_eq_singleton {text : Text} (htext : unit '\n' ∉ text) : lines text = [text] :=
  List.splitOn_eq_singleton htext

theorem width_lines (text : Text) : width (lines text) = text.length + 1 := by
  induction text with
  | nil => rfl
  | cons u text ih =>
      rw [lines_cons]
      split
      next =>
        rw [width_cons, ih, List.length_nil, List.length_cons]
        omega
      next =>
        obtain ⟨first, others, hlines⟩ := List.exists_cons_of_ne_nil (lines_ne_nil text)
        rw [hlines, width_cons] at ih
        rw [hlines, List.modifyHead_cons, width_cons, List.length_cons, List.length_cons]
        omega

theorem width_complete {text last : Text} {complete : List Text}
    (hlines : lines text = complete ++ [last]) : width complete + last.length = text.length := by
  have hwidth := width_lines text
  rw [hlines, width_append, width_cons, width_nil] at hwidth
  omega

/-- The last line of the front and the first of the back become one line. -/
theorem lines_append {front back last first : Text} {complete others : List Text}
    (hfront : lines front = complete ++ [last]) (hback : lines back = first :: others) :
    lines (front ++ back) = complete ++ (last ++ first) :: others := by
  induction front generalizing complete last with
  | nil =>
      obtain ⟨rfl, rfl⟩ : complete = [] ∧ last = [] := by
        have hsingle : [[]] = complete ++ [last] := hfront
        cases complete with
        | nil => simpa using hsingle.symm
        | cons line complete => simp at hsingle
      exact hback
  | cons u front ih =>
      rw [lines_cons] at hfront
      rw [List.cons_append, lines_cons]
      split at hfront
      next hnewline =>
        rw [if_pos hnewline]
        cases complete with
        | nil =>
            have hnil : lines front = [] := (List.cons.inj hfront).2
            exact absurd hnil (lines_ne_nil front)
        | cons line complete =>
            obtain ⟨rfl, hrest⟩ := List.cons.inj hfront
            rw [ih hrest]
            rfl
      next hnewline =>
        rw [if_neg hnewline]
        obtain ⟨head, rest, hlines⟩ := List.exists_cons_of_ne_nil (lines_ne_nil front)
        rw [hlines, List.modifyHead_cons] at hfront
        cases complete with
        | nil =>
            obtain ⟨rfl, rfl⟩ := List.cons.inj hfront
            have hhead : lines front = [] ++ [head] := hlines
            rw [ih hhead]
            rfl
        | cons line complete =>
            obtain ⟨rfl, rfl⟩ := List.cons.inj hfront
            have hhead : lines front = (head :: complete) ++ [last] := hlines
            rw [ih hhead]
            rfl

theorem last_eq_nil_iff {text last : Text} {complete : List Text}
    (hlines : lines text = complete ++ [last]) :
    last = [] ↔ text = [] ∨ [unit '\n'] <:+ text := by
  rcases List.eq_nil_or_concat text with rfl | ⟨init, u, rfl⟩
  · have hsingle : [] ++ [[]] = complete ++ [last] := hlines
    have hlast := (List.append_inj' hsingle rfl).2
    simp [(List.cons.inj hlast).1.symm]
  · rw [List.concat_eq_append] at hlines ⊢
    by_cases hnewline : u = unit '\n'
    · subst hnewline
      rw [lines_append_newline] at hlines
      have hempty : lines init ++ [[]] = complete ++ [last] := hlines
      have hlast := (List.append_inj' hempty rfl).2
      simp [(List.cons.inj hlast).1.symm]
    · obtain ⟨front, partialLine, hinit⟩ :=
        (List.eq_nil_or_concat (lines init)).resolve_left (lines_ne_nil init)
      rw [List.concat_eq_append] at hinit
      have hsingle : lines [u] = [u] :: [] := lines_eq_singleton (by simpa using Ne.symm hnewline)
      rw [lines_append hinit hsingle] at hlines
      have hlast := (List.cons.inj (List.append_inj' hlines rfl).2).1
      have hsuffix : ¬[unit '\n'] <:+ init ++ [u] := by
        rintro ⟨front, hfront⟩
        exact hnewline (List.cons.inj (List.append_inj' hfront rfl).2).1.symm
      simp [← hlast, hsuffix]

theorem first_eq_nil_iff {text first : Text} {others : List Text}
    (hlines : lines text = first :: others) :
    first = [] ↔ text = [] ∨ [unit '\n'] <+: text := by
  cases text with
  | nil =>
      have hsingle : [[]] = first :: others := hlines
      simp [(List.cons.inj hsingle).1.symm]
  | cons u text =>
      rw [lines_cons] at hlines
      split at hlines
      next hnewline =>
        obtain ⟨rfl, -⟩ := List.cons.inj hlines
        simp [hnewline]
      next hnewline =>
        obtain ⟨head, rest, hrest⟩ := List.exists_cons_of_ne_nil (lines_ne_nil text)
        rw [hrest, List.modifyHead_cons] at hlines
        obtain ⟨rfl, -⟩ := List.cons.inj hlines
        simp [eq_comm, hnewline]

/-! ## What is read -/

theorem openingFence_eq_some {line info : Text} {count : ℕ}
    (hopening : openingFence line = some (count, info)) :
    3 ≤ count ∧ line.length = count + info.length := by
  unfold openingFence at hopening
  obtain ⟨⟨hcount, -⟩, hpair⟩ := Option.ite_none_right_eq_some.mp hopening
  cases hpair
  refine ⟨hcount, ?_⟩
  rw [← List.length_append, List.takeWhile_append_dropWhile]

theorem openingFence_fence {info : Text} (hinfo : unit '\x60' ∉ info) :
    openingFence (units "```" ++ info) = some (3, info) := by
  have hfence : ∀ u ∈ units "```", isBacktick u = true := List.all_eq_true.mp rfl
  have hrest : info.takeWhile isBacktick = [] ∧ info.dropWhile isBacktick = info := by
    cases info with
    | nil => exact ⟨rfl, rfl⟩
    | cons u info =>
        have hu : isBacktick u = false := by
          simp only [List.mem_cons, not_or] at hinfo
          simpa [isBacktick] using Ne.symm hinfo.1
        simp [hu]
  have htake : (units "```" ++ info).takeWhile isBacktick = units "```" := by
    rw [List.takeWhile_append_of_pos hfence, hrest.1, List.append_nil]
  have hdrop : (units "```" ++ info).dropWhile isBacktick = info := by
    rw [List.dropWhile_append_of_pos hfence, hrest.2]
  rw [openingFence, htake, hdrop, if_pos ⟨Nat.le_refl 3, hinfo⟩]
  rfl

theorem count_le_of_closesFence {count : ℕ} {line : Text}
    (hcloses : closesFence count line = true) : count ≤ line.length := by
  simp only [closesFence, Bool.and_eq_true, decide_eq_true_eq] at hcloses
  exact hcloses.2

namespace FenceReader

theorem read_append (front back : List Text) :
    read (front ++ back) = back.foldl readLine (read front) :=
  List.foldl_append

theorem read_concat (front : List Text) (line : Text) :
    read (front ++ [line]) = (read front).readLine line :=
  read_append front [line]

/-- The lines that are read end with an opening fence and the content after it. -/
structure OpenedIn (all : List Text) (fence : OpenFence) (front : List Text) (opening : Text) :
    Prop where
  all_eq : all = front ++ opening :: fence.content
  outside : (read front).current = none
  opening : openingFence opening = some (fence.count, fence.info)
  start : fence.start = width front
  content : ∀ line ∈ fence.content, closesFence fence.count line = false

/-- The lines that are read contain a block with its closing fence. -/
def ClosedIn (all : List Text) (block : FencedBlock) : Prop :=
  ∃ fence opened closing back front opening, all = opened ++ closing :: back ∧
    OpenedIn opened fence front opening ∧ closesFence fence.count closing = true ∧
    block = ⟨fence.info, fence.content, fence.start, width opened + closing.length⟩

/-- What is known of the reader after some lines. -/
structure ReadOf (all : List Text) (reader : FenceReader) : Prop where
  position : reader.position = width all
  current : ∀ fence, reader.current = some fence → ∃ front opening, OpenedIn all fence front opening
  blocks : ∀ block ∈ reader.blocks, ClosedIn all block

theorem ClosedIn.concat {all : List Text} {block : FencedBlock} (hclosed : ClosedIn all block)
    (line : Text) : ClosedIn (all ++ [line]) block := by
  obtain ⟨fence, opened, closing, back, front, opening, rfl, hopened, hcloses, hblock⟩ := hclosed
  exact ⟨fence, opened, closing, back ++ [line], front, opening, by simp, hopened, hcloses, hblock⟩

theorem ReadOf.readLine {all : List Text} (hread : ReadOf all (read all)) (line : Text) :
    ReadOf (all ++ [line]) (read (all ++ [line])) := by
  obtain ⟨hposition, hcurrent, hblocks⟩ := hread
  rw [read_concat]
  unfold FenceReader.readLine
  cases hfence : (read all).current with
  | none =>
      refine ⟨by simp [hposition], ?_, fun block hblock => (hblocks block hblock).concat line⟩
      intro fence hopened
      obtain ⟨opening, hopening, rfl⟩ := Option.map_eq_some_iff.mp hopened
      exact ⟨all, line, rfl, hfence, hopening, hposition, nofun⟩
  | some fence =>
      obtain ⟨front, opening, hopened⟩ := hcurrent fence hfence
      dsimp only
      split
      next hcloses =>
        refine ⟨by simp [hposition], nofun, fun block hblock => ?_⟩
        rcases List.mem_append.mp hblock with hblock | hblock
        · exact (hblocks block hblock).concat line
        · rw [List.mem_singleton.mp hblock, hposition]
          exact ⟨fence, all, line, [], front, opening, rfl, hopened, hcloses, rfl⟩
      next hcloses =>
        refine ⟨by simp [hposition], ?_, fun block hblock => (hblocks block hblock).concat line⟩
        rintro longer hlonger
        cases hlonger
        refine ⟨front, opening, ?_, hopened.outside, hopened.opening, hopened.start, ?_⟩
        · simp [hopened.all_eq]
        · intro other hother
          rcases List.mem_append.mp hother with hother | hother
          · exact hopened.content other hother
          · rw [List.mem_singleton.mp hother]
            exact eq_false_of_ne_true hcloses

theorem readOf (all : List Text) : ReadOf all (read all) := by
  induction all using List.reverseRecOn with
  | nil => exact ⟨rfl, nofun, nofun⟩
  | append_singleton all line ih => exact ih.readLine line

/-- Content does not end a block. -/
theorem foldl_content {fence : OpenFence} {content : List Text}
    (hcontent : ∀ line ∈ content, closesFence fence.count line = false) {reader : FenceReader}
    (hcurrent : reader.current = some fence) :
    content.foldl readLine reader = ⟨reader.position + width content,
      some { fence with content := fence.content ++ content }, reader.blocks⟩ := by
  induction content generalizing fence reader with
  | nil =>
      obtain ⟨position, current, blocks⟩ := reader
      cases hcurrent
      simp
  | cons line content ih =>
      have hline := hcontent line List.mem_cons_self
      have hstep : reader.readLine line = ⟨reader.position + (line.length + 1),
          some { fence with content := fence.content ++ [line] }, reader.blocks⟩ := by
        rw [readLine, hcurrent]
        simp [hline]
      have hrest : ∀ other ∈ content,
          closesFence { fence with content := fence.content ++ [line] }.count other = false :=
        fun other hmem => hcontent other (List.mem_cons_of_mem _ hmem)
      rw [List.foldl_cons, hstep, ih hrest rfl]
      simp [Nat.add_assoc]

theorem blocks_mono {block : FencedBlock} (back : List Text) {reader : FenceReader}
    (hblock : block ∈ reader.blocks) : block ∈ (back.foldl readLine reader).blocks := by
  induction back generalizing reader with
  | nil => exact hblock
  | cons line back ih =>
      refine ih ?_
      unfold readLine
      split
      next => exact hblock
      next =>
        split
        next => exact List.mem_append_left _ hblock
        next => exact hblock

/-- A fence that is opened outside of a block, its content and a closing fence are a block. -/
theorem mem_finish {front content back : List Text} {opening closing info : Text} {count : ℕ}
    (houtside : (read front).current = none) (hopening : openingFence opening = some (count, info))
    (hcontent : ∀ line ∈ content, closesFence count line = false)
    (hcloses : closesFence count closing = true) :
    ⟨info, content, width front, width (front ++ opening :: content) + closing.length⟩ ∈
      (read (front ++ opening :: (content ++ closing :: back))).finish := by
  have hopened : (read front).readLine opening = ⟨width front + (opening.length + 1),
      some ⟨count, info, width front, []⟩, (read front).blocks⟩ := by
    rw [readLine, houtside]
    simp [hopening, (readOf front).position]
  have hread : read (front ++ opening :: (content ++ closing :: back)) =
      back.foldl readLine ((content.foldl readLine ((read front).readLine opening)).readLine
        closing) := by
    rw [read_append, List.foldl_cons, List.foldl_append, List.foldl_cons]
  have hblock : ⟨info, content, width front, width (front ++ opening :: content) + closing.length⟩ ∈
      ((content.foldl readLine ((read front).readLine opening)).readLine closing).blocks := by
    rw [hopened, foldl_content hcontent rfl, readLine]
    simp [hcloses, Nat.add_assoc]
  rw [hread]
  have hkept := blocks_mono back hblock
  unfold finish
  split
  next => exact hkept
  next => exact List.mem_append_left _ hkept

/-- A block is either closed or the one that is open at the end. -/
theorem mem_finish_cases {all : List Text} {block : FencedBlock}
    (hblock : block ∈ (read all).finish) :
    ClosedIn all block ∨ ∃ fence front opening, OpenedIn all fence front opening ∧
      block = ⟨fence.info, fence.content, fence.start, width all - 1⟩ := by
  obtain ⟨hposition, hcurrent, hblocks⟩ := readOf all
  unfold finish at hblock
  split at hblock
  next => exact Or.inl (hblocks block hblock)
  next fence hfence =>
    rcases List.mem_append.mp hblock with hblock | hblock
    · exact Or.inl (hblocks block hblock)
    · obtain ⟨front, opening, hopened⟩ := hcurrent fence hfence
      rw [List.mem_singleton.mp hblock, hposition]
      exact Or.inr ⟨fence, front, opening, hopened, rfl⟩

/-- An empty line opens no block and closes none. -/
theorem current_concat_empty (all : List Text) :
    (read (all ++ [[]])).current = none ↔ (read all).current = none := by
  rw [read_concat]
  unfold readLine
  cases hfence : (read all).current with
  | none =>
      have hopening : openingFence [] = none := by decide
      simp [hopening]
  | some fence =>
      obtain ⟨front, opening, hopened⟩ := (readOf all).current fence hfence
      have hcount := (openingFence_eq_some hopened.opening).1
      have hcloses : closesFence fence.count [] = false := by
        rw [← Bool.not_eq_true]
        intro hcloses
        have hlength := count_le_of_closesFence hcloses
        rw [List.length_nil] at hlength
        omega
      simp [hcloses]

end FenceReader

/-! ## The result -/

/-- The document after the insertion has a block with the selection as its content, and the
text around the selection is outside of the block. -/
def KeepsSelection (view : EditorView) (language : Text) (result : Option EditorView) : Prop :=
  ∃ next, result = some next ∧ view.before <+: next.doc ∧ view.after <:+ next.doc ∧
    ∃ block ∈ fencedBlocks next.doc, block.info = language ∧ block.content = lines view.selected ∧
      view.before.length ≤ block.start ∧ block.stop + view.after.length ≤ next.doc.length

/-- The selection consists of full lines outside of a block, none of which is a fence of
backticks only. -/
structure Insertable (view : EditorView) : Prop where
  lineStart : view.before = [] ∨ [unit '\n'] <:+ view.before
  lineEnd : view.after = [] ∨ [unit '\n'] <+: view.after
  outside : fenceOpen view.before = false
  noFence : ∀ line ∈ lines view.selected, closesFence 3 line = false

theorem opener_eq (language : Text) : opener language = units "```" ++ language ++ units "\n" := by
  unfold opener
  split
  next => rfl
  next hempty =>
    rw [not_not.mp hempty]
    rfl

/-- The lines of the document after the insertion. -/
theorem lines_inserted {before selected after language last first : Text}
    {complete others : List Text} (hlanguage : unit '\n' ∉ language)
    (hbefore : lines before = complete ++ [last]) (hafter : lines after = first :: others) :
    lines (before ++ (opener language ++ selected ++ units "\n```") ++ after) =
      complete ++ (last ++ (units "```" ++ language)) ::
        (lines selected ++ (units "```" ++ first) :: others) := by
  have hopening : lines (before ++ (units "```" ++ language)) =
      complete ++ [last ++ (units "```" ++ language)] := by
    refine lines_append hbefore (lines_eq_singleton ?_)
    rw [List.mem_append, not_or]
    exact ⟨by decide, hlanguage⟩
  have hfence : lines (units "```") = [] ++ [units "```"] := lines_eq_singleton (by decide)
  have hclosing : lines (units "```" ++ after) = (units "```" ++ first) :: others :=
    lines_append hfence hafter
  have hsplit : before ++ (opener language ++ selected ++ units "\n```") ++ after =
      (before ++ (units "```" ++ language)) ++ unit '\n' ::
        (selected ++ unit '\n' :: (units "```" ++ after)) := by
    have hend : units "\n```" = unit '\n' :: units "```" := rfl
    have hbreak : units "\n" = [unit '\n'] := rfl
    rw [opener_eq, hend, hbreak]
    simp
  rw [hsplit, lines_append_newline, hopening, lines_append_newline, hclosing]
  simp

/-- A line that does not start before another one is this line or comes after it. -/
theorem line_cases {front rest complete others : List Text} {opening line : Text}
    (hsame : front ++ opening :: rest = complete ++ line :: others)
    (hstart : width complete ≤ width front) :
    (front = complete ∧ opening = line ∧ rest = others) ∨
      ∃ more, front = complete ++ line :: more ∧ others = more ++ opening :: rest := by
  rcases List.append_eq_append_iff.mp hsame with ⟨more, rfl, hmore⟩ | ⟨more, rfl, hmore⟩
  · cases more with
    | nil =>
        obtain ⟨rfl, rfl⟩ := List.cons.inj hmore
        exact Or.inl ⟨(List.append_nil _).symm, rfl, rfl⟩
    | cons skipped more =>
        rw [width_append, width_cons] at hstart
        omega
  · cases more with
    | nil =>
        obtain ⟨rfl, rfl⟩ := List.cons.inj hmore
        exact Or.inl ⟨List.append_nil _, rfl, rfl⟩
    | cons skipped more =>
        obtain ⟨rfl, rfl⟩ := List.cons.inj hmore
        exact Or.inr ⟨more, rfl, rfl⟩

section Inserted

variable {before selected after language last first : Text} {complete others : List Text}

theorem length_fence_append (rest : Text) : (units "```" ++ rest).length = 3 + rest.length := by
  rw [List.length_append]
  rfl

/-- The text after the insertion. -/
def withCodeBlock (before selected after language : Text) : Text :=
  before ++ (opener language ++ selected ++ units "\n```") ++ after

theorem length_withCodeBlock : (withCodeBlock before selected after language).length =
    before.length + language.length + selected.length + after.length + 8 := by
  have hfence : (units "```").length = 3 := rfl
  have hbreak : (units "\n").length = 1 := rfl
  have hend : (units "\n```").length = 4 := rfl
  simp only [withCodeBlock, opener_eq, List.length_append, hfence, hbreak, hend]
  omega

/-- What a block in place of the selection takes, with its closing fence, is all that is
inserted, so that the block starts with it. -/
theorem closed_inPlace {block : FencedBlock} (hlanguage : unit '\n' ∉ language)
    (hinfo : unit '\x60' ∉ language)
    (hbefore : lines before = complete ++ [last]) (hafter : lines after = first :: others)
    (hclosed : FenceReader.ClosedIn (lines (withCodeBlock before selected after language)) block)
    (hblockInfo : block.info = language) (hcontent : block.content = lines selected)
    (hstart : before.length ≤ block.start)
    (hstop : block.stop + after.length ≤ (withCodeBlock before selected after language).length) :
    last = [] ∧ first = [] ∧ (FenceReader.read complete).current = none ∧
      ∀ line ∈ lines selected, closesFence 3 line = false := by
  obtain ⟨fence, opened, closing, back, front, opening, hall, hopened, hcloses, rfl⟩ := hclosed
  obtain ⟨rfl, houtside, hopening, hfront, hnoFence⟩ := hopened
  dsimp only at hblockInfo hcontent hstart hstop
  obtain ⟨hcount, hopeningLength⟩ := openingFence_eq_some hopening
  have hclosingLength := count_le_of_closesFence hcloses
  have hbeforeWidth := width_complete hbefore
  rw [length_withCodeBlock, width_append, width_cons, hcontent, width_lines, hopeningLength,
    hblockInfo] at hstop
  rw [hfront] at hstart
  rw [withCodeBlock, lines_inserted hlanguage hbefore hafter, List.append_assoc,
    List.cons_append] at hall
  rcases line_cases hall.symm (by omega) with ⟨rfl, rfl, hrest⟩ | ⟨more, rfl, -⟩
  · have hlast : last = [] := List.length_eq_zero_iff.mp (by omega)
    subst hlast
    rw [List.nil_append, openingFence_fence hinfo] at hopening
    obtain ⟨hthree, -⟩ := Prod.mk.inj (Option.some.inj hopening)
    rw [hcontent] at hrest hnoFence
    obtain ⟨rfl, -⟩ := List.cons.inj (List.append_cancel_left hrest)
    rw [length_fence_append] at hstop
    refine ⟨rfl, List.length_eq_zero_iff.mp (by omega), houtside, ?_⟩
    rwa [← hthree] at hnoFence
  · -- the rest of the insertion is too short for the block
    rw [width_append, width_cons, List.length_append, length_fence_append] at hstop
    omega

/-- A block without a closing fence has other lines than the selection, or no room. -/
theorem open_notInPlace {fence : OpenFence} {front : List Text} {opening : Text}
    (hlanguage : unit '\n' ∉ language)
    (hbefore : lines before = complete ++ [last]) (hafter : lines after = first :: others)
    (hopened : FenceReader.OpenedIn (lines (withCodeBlock before selected after language)) fence
      front opening)
    (hblockInfo : fence.info = language) (hcontent : fence.content = lines selected)
    (hstart : before.length ≤ fence.start)
    (hstop : width (lines (withCodeBlock before selected after language)) - 1 + after.length ≤
      (withCodeBlock before selected after language).length) : False := by
  obtain ⟨hall, -, hopening, hfront, hnoFence⟩ := hopened
  obtain ⟨hcount, hopeningLength⟩ := openingFence_eq_some hopening
  have hbeforeWidth := width_complete hbefore
  have hwhole := width_lines (withCodeBlock before selected after language)
  rw [hwhole] at hstop
  rw [hall, length_withCodeBlock, width_append, width_cons, hcontent, width_lines, hopeningLength,
    hblockInfo] at hwhole
  rw [hfront] at hstart
  have hempty : after = [] := List.length_eq_zero_iff.mp (by omega)
  subst hempty
  obtain ⟨rfl, rfl⟩ := List.cons.inj (show [] :: [] = first :: others from hafter)
  rw [withCodeBlock, lines_inserted hlanguage hbefore hafter] at hall
  rcases line_cases hall.symm (by omega) with ⟨rfl, rfl, hrest⟩ | ⟨more, rfl, hrest⟩
  · -- the last line of the text is not in the selection
    rw [hcontent] at hrest
    have hlength := congrArg List.length hrest
    rw [List.length_append, List.length_singleton] at hlength
    omega
  · -- an opening fence of three backticks is closed by the last line
    rw [width_append, width_cons, List.length_append, length_fence_append] at hwhole
    have hthree : fence.count = 3 := by omega
    have hlast : units "```" ∈ fence.content := by
      obtain ⟨init, line, hinit⟩ := (List.eq_nil_or_concat fence.content).resolve_left
        (hcontent ▸ lines_ne_nil selected)
      rw [List.concat_eq_append] at hinit
      rw [hinit, ← List.cons_append, ← List.append_assoc] at hrest
      rw [hinit, ← (List.cons.inj (List.append_inj' hrest rfl).2).1]
      simp
    have hcloses := hnoFence _ hlast
    rw [hthree] at hcloses
    revert hcloses
    decide

/-- The exact condition, by the lines around the selection. -/
theorem inserted_block_iff (hlanguage : unit '\n' ∉ language) (hinfo : unit '\x60' ∉ language)
    (hbefore : lines before = complete ++ [last]) (hafter : lines after = first :: others) :
    (∃ block ∈ fencedBlocks (withCodeBlock before selected after language), block.info = language ∧
      block.content = lines selected ∧ before.length ≤ block.start ∧
      block.stop + after.length ≤ (withCodeBlock before selected after language).length) ↔
    last = [] ∧ first = [] ∧ (FenceReader.read complete).current = none ∧
      ∀ line ∈ lines selected, closesFence 3 line = false := by
  constructor
  · rintro ⟨block, hblock, hblockInfo, hcontent, hstart, hstop⟩
    rcases FenceReader.mem_finish_cases hblock with hclosed | ⟨fence, front, opening, hopened, rfl⟩
    · exact closed_inPlace hlanguage hinfo hbefore hafter hclosed hblockInfo hcontent hstart hstop
    · exact absurd hstop fun hstop => open_notInPlace hlanguage hbefore hafter hopened hblockInfo
        hcontent hstart hstop
  · rintro ⟨rfl, rfl, houtside, hnoFence⟩
    have hopening : openingFence (units "```" ++ language) = some (3, language) :=
      openingFence_fence hinfo
    have hcloses : closesFence 3 (units "```") = true := by decide
    have hlines : lines (withCodeBlock before selected after language) =
        complete ++ (units "```" ++ language) :: (lines selected ++ units "```" :: others) :=
      lines_inserted hlanguage hbefore hafter
    refine ⟨⟨language, lines selected, width complete, width (complete ++
      (units "```" ++ language) :: lines selected) + (units "```").length⟩, ?_, rfl, rfl, ?_, ?_⟩
    · rw [fencedBlocks, hlines]
      exact FenceReader.mem_finish houtside hopening hnoFence hcloses
    · exact (width_complete hbefore).ge
    · have hbeforeWidth := width_complete hbefore
      have hfence : (units "```").length = 3 := rfl
      rw [List.length_nil] at hbeforeWidth
      dsimp only
      rw [length_withCodeBlock, width_append, width_cons, width_lines, length_fence_append, hfence]
      omega

end Inserted

theorem insertable_iff (view : EditorView) {last first : Text} {complete others : List Text}
    (hbefore : lines view.before = complete ++ [last])
    (hafter : lines view.after = first :: others) :
    Insertable view ↔ last = [] ∧ first = [] ∧ (FenceReader.read complete).current = none ∧
      ∀ line ∈ lines view.selected, closesFence 3 line = false := by
  have houtside : last = [] →
      (fenceOpen view.before = false ↔ (FenceReader.read complete).current = none) := by
    rintro rfl
    rw [fenceOpen, hbefore, Option.isSome_eq_false_iff, Option.isNone_iff_eq_none,
      FenceReader.current_concat_empty]
  constructor
  · rintro ⟨hstart, hend, hopen, hnoFence⟩
    have hlast := (last_eq_nil_iff hbefore).mpr hstart
    exact ⟨hlast, (first_eq_nil_iff hafter).mpr hend, (houtside hlast).mp hopen, hnoFence⟩
  · rintro ⟨hlast, hfirst, hopen, hnoFence⟩
    exact ⟨(last_eq_nil_iff hbefore).mp hlast, (first_eq_nil_iff hafter).mp hfirst,
      (houtside hlast).mpr hopen, hnoFence⟩

theorem codeBlockInserted_keeps_iff (view : EditorView) {language : Text}
    (hlanguage : unit '\n' ∉ language) (hinfo : unit '\x60' ∉ language) :
    KeepsSelection view language (codeBlockInserted language (some view)) ↔ Insertable view := by
  obtain ⟨complete, last, hbefore⟩ :=
    (List.eq_nil_or_concat (lines view.before)).resolve_left (lines_ne_nil _)
  rw [List.concat_eq_append] at hbefore
  obtain ⟨first, others, hafter⟩ := List.exists_cons_of_ne_nil (lines_ne_nil view.after)
  rw [insertable_iff view hbefore hafter,
    ← inserted_block_iff hlanguage hinfo hbefore hafter]
  constructor
  · rintro ⟨next, hnext, -, -, hblock⟩
    cases hnext
    exact hblock
  · intro hblock
    refine ⟨_, rfl, ?_, List.suffix_append _ _, hblock⟩
    exact (List.prefix_append _ _).trans (List.prefix_append _ _)

/-- The selection is kept as the content of a block exactly if it consists of full lines outside
of a block, and none of them closes the fence. -/
theorem insertCodeBlock_keeps_iff (view : EditorView) {language : Text}
    (hlanguage : ∀ u ∈ language, u ≠ unit '\n' ∧ u ≠ unit '\r' ∧ u ≠ unit '\x60') :
    (KeepsSelection view language
      (MarkdownEditorComponent.insertCodeBlock (some view) language) ↔ Insertable view) ∧
    (KeepsSelection view language
      (MarkdownYjsEditorComponent.insertCodeBlock (some view) language) ↔ Insertable view) := by
  have hbreak : unit '\n' ∉ language := fun hmem => (hlanguage _ hmem).1 rfl
  have hinfo : unit '\x60' ∉ language := fun hmem => (hlanguage _ hmem).2.2 rfl
  exact ⟨codeBlockInserted_keeps_iff view hbreak hinfo,
    codeBlockInserted_keeps_iff view hbreak hinfo⟩

/-- A full line. -/
def fullLine : EditorView := ⟨units "a\nb\nc", 2, 3, by decide, by decide⟩

theorem insertCodeBlock_keeps_fullLine :
    KeepsSelection fullLine (units "ts")
      (MarkdownEditorComponent.insertCodeBlock (some fullLine) (units "ts")) := by
  have hlanguage : ∀ u ∈ units "ts", u ≠ unit '\n' ∧ u ≠ unit '\r' ∧ u ≠ unit '\x60' := by
    intro u hu
    obtain rfl | rfl : u = unit 't' ∨ u = unit 's' := by simpa [units] using hu
    · decide
    · decide
  exact (insertCodeBlock_keeps_iff fullLine hlanguage).1.mpr
    ⟨by decide, by decide, by decide, by decide⟩

/-- The middle of a line. -/
def midLine : EditorView := ⟨units "say hi", 4, 6, by decide, by decide⟩

/-- No fence starts the line with the selection, so that the only block is one without content
that the last backticks open. -/
theorem insertCodeBlock_midLine :
    ¬KeepsSelection midLine (units "ts")
      (MarkdownEditorComponent.insertCodeBlock (some midLine) (units "ts")) ∧
    ¬KeepsSelection midLine (units "ts")
      (MarkdownYjsEditorComponent.insertCodeBlock (some midLine) (units "ts")) := by
  have hblocks : fencedBlocks (units "say ```ts\nhi\n```") = [⟨[], [], 13, 16⟩] := by
    decide +kernel
  have hkept : ¬KeepsSelection midLine (units "ts")
      (codeBlockInserted (units "ts") (some midLine)) := by
    rintro ⟨next, hnext, -, -, block, hblock, hinfo, -⟩
    cases hnext
    rw [List.mem_singleton.mp (hblocks ▸ hblock : block ∈ [⟨[], [], 13, 16⟩])] at hinfo
    revert hinfo
    decide
  exact ⟨hkept, hkept⟩

end CollabEditor.Frontend
