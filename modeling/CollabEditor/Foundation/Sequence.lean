import Mathlib.Data.Finset.Lattice.Fold
import Mathlib.Data.Finset.Union
import Mathlib.Data.List.Lex
import Mathlib.Data.List.Sort
import Mathlib.Data.Prod.Lex
import Mathlib.Order.Lattice.Nat
import CollabEditor.Foundation.Causal

/-! # A sequence that several clients edit

An element is inserted behind another one, and its path is the path of that one with a label
of its own. The clock of the label is ahead of all that the client has seen, and of the
elements behind one another the newest comes first, so that the new element stands where it
was put. What is deleted keeps its path.
-/

namespace Foundation

/-- A finite set as a list in order. -/
def arrange {β : Type*} [LinearOrder β] (s : Finset β) : List β :=
  Quot.liftOn s.val (List.insertionSort (· ≤ ·)) fun first second hperm =>
    List.Perm.eq_of_sortedLE List.sortedLE_insertionSort List.sortedLE_insertionSort
      (((List.perm_insertionSort _ first).trans hperm).trans
        (List.perm_insertionSort _ second).symm)

section Arrange

variable {β : Type*} [LinearOrder β] {s : Finset β}

theorem coe_arrange (s : Finset β) : (arrange s : Multiset β) = s.val := by
  obtain ⟨elements, hnodup⟩ := s
  induction elements using Quot.inductionOn with
  | h elements => exact Quot.sound (List.perm_insertionSort _ elements)

theorem mem_arrange {x : β} : x ∈ arrange s ↔ x ∈ s := by
  rw [← Multiset.mem_coe, coe_arrange, Finset.mem_val]

theorem nodup_arrange (s : Finset β) : (arrange s).Nodup := by
  rw [← Multiset.coe_nodup, coe_arrange]
  exact s.nodup

theorem pairwise_arrange (s : Finset β) : (arrange s).Pairwise (· < ·) := by
  have hsorted : (arrange s).SortedLE := by
    obtain ⟨elements, hnodup⟩ := s
    induction elements using Quot.inductionOn with
    | h elements => exact List.sortedLE_insertionSort
  exact (hsorted.sortedLT_of_nodup (nodup_arrange s)).pairwise

/-- There is one list in order with the elements of the set. -/
theorem arrange_eq {l : List β} (hsorted : l.Pairwise (· < ·)) (hmem : ∀ x, x ∈ l ↔ x ∈ s) :
    arrange s = l := by
  have hperm : (arrange s).Perm l := by
    rw [List.perm_ext_iff_of_nodup (nodup_arrange s) (hsorted.imp ne_of_lt)]
    intro x
    rw [mem_arrange, hmem]
  exact hperm.eq_of_sortedLE ((pairwise_arrange s).imp le_of_lt).sortedLE
    (hsorted.imp le_of_lt).sortedLE

end Arrange

namespace Sequence

/-- The clock, the client and the element. The newest label comes first. -/
abbrev Label (α : Type*) := (ℕ ×ₗ ℕ ×ₗ α)ᵒᵈ

/-- The labels of the elements that an element was inserted behind, and its own. -/
abbrev Path (α : Type*) := List (Label α)

section Label

variable {α : Type*}

def label (clock client : ℕ) (element : α) : Label α :=
  OrderDual.toDual (toLex (clock, toLex (client, element)))

def Label.clock (label : Label α) : ℕ := (ofLex (OrderDual.ofDual label)).1

def Label.client (label : Label α) : ℕ := (ofLex (ofLex (OrderDual.ofDual label)).2).1

def Label.element (label : Label α) : α := (ofLex (ofLex (OrderDual.ofDual label)).2).2

theorem Label.lt_of_clock [LinearOrder α] {newer older : Label α}
    (hclock : older.clock < newer.clock) : newer < older :=
  OrderDual.ofDual_lt_ofDual.mp (Prod.Lex.lt_iff.mpr (.inl hclock))

end Label

/-- Deletions carry the client that made them. -/
inductive Operation (α : Type*)
  | insert (parent : Path α) (label : Label α)
  | delete (client : ℕ) (path : Path α)
deriving DecidableEq

namespace Operation

variable {α : Type*}

def client : Operation α → ℕ
  | .insert _ label => label.client
  | .delete client _ => client

def path : Operation α → Path α
  | .insert parent label => parent ++ [label]
  | .delete _ path => path

end Operation

section

variable {α : Type*}

/-- The operation that inserts the element with this path. -/
def insertion (path : Path α) : Finset (Operation α) :=
  match path.getLast? with
  | none => ∅
  | some label => {.insert path.dropLast label}

@[simp] theorem insertion_concat (parent : Path α) (label : Label α) :
    insertion (parent ++ [label]) = {.insert parent label} := by
  simp [insertion]

/-- An element needs the one it was inserted behind, and a deletion what it deletes. -/
def dependencies : Operation α → Finset (Operation α)
  | .insert parent _ => insertion parent
  | .delete _ path => insertion path

end

section

variable {α : Type*} [LinearOrder α]

def inserted (operations : Finset (Operation α)) : Finset (Path α) :=
  operations.biUnion fun
    | .insert parent label => {parent ++ [label]}
    | .delete _ _ => ∅

def deleted (operations : Finset (Operation α)) : Finset (Path α) :=
  operations.biUnion fun
    | .insert _ _ => ∅
    | .delete _ path => {path}

/-- The elements that are there, in their order. -/
def elements (operations : Finset (Operation α)) : List (Path α) :=
  arrange (inserted operations \ deleted operations)

/-- The highest clock of a label. -/
def clock (operations : Finset (Operation α)) : ℕ :=
  operations.sup fun operation => (operation.path.map Label.clock).foldr max 0

variable (client : ℕ) (operations : Finset (Operation α))

/-- An element is inserted at an index. -/
def insertOne (index : ℕ) (element : α) : Operation α :=
  .insert (((elements operations).take index).getLastD [])
    (label (clock operations + 1) client element)

/-- Elements are inserted at an index, each behind the one before. -/
def insertAt : Finset (Operation α) → ℕ → List α → Finset (Operation α)
  | _, _, [] => ∅
  | operations, index, element :: rest =>
      let operation := insertOne client operations index element
      insert operation (insertAt (insert operation operations) (index + 1) rest)

/-- As many elements as there are, up to the given number, are deleted from an index on. -/
def deleteAt (index length : ℕ) : Finset (Operation α) :=
  (((elements operations).drop index).take length).toFinset.image (.delete client)

def value [Inhabited α] (path : Path α) : α := path.getLast?.elim default Label.element

def toList [Inhabited α] : List α := (elements operations).map value

variable {client operations}

/-! ## The order of the elements -/

theorem mem_inserted {path : Path α} :
    path ∈ inserted operations ↔
      ∃ parent label, .insert parent label ∈ operations ∧ parent ++ [label] = path := by
  simp only [inserted, Finset.mem_biUnion]
  constructor
  · rintro ⟨operation, hoperation, hpath⟩
    cases operation with
    | insert parent label => exact ⟨parent, label, hoperation, (Finset.mem_singleton.mp hpath).symm⟩
    | delete => exact absurd hpath (Finset.notMem_empty path)
  · rintro ⟨parent, label, hoperation, rfl⟩
    exact ⟨_, hoperation, Finset.mem_singleton_self _⟩

theorem mem_deleted {path : Path α} :
    path ∈ deleted operations ↔ ∃ client, .delete client path ∈ operations := by
  simp only [deleted, Finset.mem_biUnion]
  constructor
  · rintro ⟨operation, hoperation, hpath⟩
    cases operation with
    | insert => exact absurd hpath (Finset.notMem_empty path)
    | delete client other =>
        obtain rfl := Finset.mem_singleton.mp hpath
        exact ⟨client, hoperation⟩
  · rintro ⟨client, hoperation⟩
    exact ⟨_, hoperation, Finset.mem_singleton_self _⟩

theorem mem_elements {path : Path α} :
    path ∈ elements operations ↔ path ∈ inserted operations ∧ path ∉ deleted operations := by
  rw [elements, mem_arrange, Finset.mem_sdiff]

omit [LinearOrder α] in
theorem clock_le_of_mem {operation : Operation α} (hoperation : operation ∈ operations)
    {label : Label α} (hlabel : label ∈ operation.path) : label.clock ≤ clock operations := by
  have hmax : ∀ clocks : List ℕ, ∀ clock ∈ clocks, clock ≤ clocks.foldr max 0 := by
    intro clocks
    induction clocks with
    | nil => exact fun _ hclock => absurd hclock List.not_mem_nil
    | cons first rest ih =>
        intro clock hclock
        rcases List.mem_cons.mp hclock with rfl | hrest
        · exact le_max_left _ _
        · exact (ih clock hrest).trans (le_max_right _ _)
  refine (hmax _ _ (List.mem_map_of_mem hlabel)).trans ?_
  exact Finset.le_sup (f := fun operation : Operation α =>
    (operation.path.map Label.clock).foldr max 0) hoperation

theorem lt_concat (path : Path α) (label : Label α) : path < path ++ [label] := by
  induction path with
  | nil => exact List.nil_lt_cons label []
  | cons first rest ih => exact List.cons_lt_cons_iff.mpr (.inr ⟨rfl, ih⟩)

/-- A path with a newer label stands before what is behind the path. -/
theorem concat_lt {path other : Path α} {label : Label α} (hlt : path < other)
    (hnewest : ∀ older ∈ other, label < older) : path ++ [label] < other := by
  induction path generalizing other with
  | nil =>
      cases other with
      | nil => exact absurd hlt (lt_irrefl _)
      | cons older rest =>
          exact List.cons_lt_cons_iff.mpr (.inl (hnewest older List.mem_cons_self))
  | cons first rest ih =>
      cases other with
      | nil => exact absurd hlt (List.not_lt_nil _)
      | cons older others =>
          rcases List.cons_lt_cons_iff.mp hlt with hfirst | ⟨rfl, hrest⟩
          · exact List.cons_lt_cons_iff.mpr (.inl hfirst)
          · refine List.cons_lt_cons_iff.mpr (.inr ⟨rfl, ih hrest fun newer hnewer => ?_⟩)
            exact hnewest newer (List.mem_cons_of_mem _ hnewer)

/-- Behind a parent among them, or in front of all. -/
theorem getLastD_take_lt {index : ℕ} {path : Path α}
    (hpath : path ∈ (elements operations).drop index) :
    ((elements operations).take index).getLastD [] < path := by
  have hsorted := pairwise_arrange (inserted operations \ deleted operations)
  rw [← elements, ← List.take_append_drop index (elements operations), List.pairwise_append]
    at hsorted
  rcases List.eq_nil_or_concat ((elements operations).take index) with hnone | ⟨front, last, hlast⟩
  · rw [hnone, List.getLastD_nil]
    obtain ⟨parent, label, -, rfl⟩ :=
      mem_inserted.mp (mem_elements.mp (List.mem_of_mem_drop hpath)).1
    cases parent <;> exact List.nil_lt_cons _ _
  · rw [List.concat_eq_append] at hlast
    rw [hlast, List.getLastD_concat]
    exact hsorted.2.2 last (by rw [hlast]; exact List.mem_concat_self) path hpath

theorem le_getLastD_take {index : ℕ} {path : Path α}
    (hpath : path ∈ (elements operations).take index) :
    path ≤ ((elements operations).take index).getLastD [] := by
  have hsorted := (pairwise_arrange (inserted operations \ deleted operations)).sublist
    (List.take_sublist index _)
  rw [← elements] at hsorted
  rcases List.eq_nil_or_concat ((elements operations).take index) with hnone | ⟨front, last, hlast⟩
  · rw [hnone] at hpath
    exact absurd hpath List.not_mem_nil
  · rw [List.concat_eq_append] at hlast
    rw [hlast] at hpath hsorted ⊢
    rw [List.getLastD_concat]
    rcases List.mem_append.mp hpath with hfront | hsame
    · exact ((List.pairwise_append.mp hsorted).2.2 path hfront last (List.mem_singleton_self _)).le
    · exact (List.mem_singleton.mp hsame).le

/-- A new element stands at its index. -/
theorem elements_insertOne (client : ℕ) (operations : Finset (Operation α)) (index : ℕ)
    (element : α) :
    elements (insert (insertOne client operations index element) operations) =
      (elements operations).take index ++
        (insertOne client operations index element).path :: (elements operations).drop index := by
  generalize hparent : ((elements operations).take index).getLastD [] = parent
  generalize hlabel : label (clock operations + 1) client element = newest
  have hclock : newest.clock = clock operations + 1 := hlabel ▸ rfl
  have hone : insertOne client operations index element = .insert parent newest := by
    rw [insertOne, hparent, hlabel]
  have hnewest : ∀ operation ∈ operations, ∀ older ∈ operation.path, newest < older := by
    intro operation hoperation older holder
    refine Label.lt_of_clock ?_
    rw [hclock]
    exact Nat.lt_succ_of_le (clock_le_of_mem hoperation holder)
  have hfresh : ∀ operation ∈ operations, operation.path ≠ parent ++ [newest] := by
    intro operation hoperation hsame
    exact absurd (hnewest operation hoperation newest (by rw [hsame]; exact List.mem_concat_self))
      (lt_irrefl newest)
  rw [hone]
  refine arrange_eq ?_ fun path => ?_
  · have hsorted := pairwise_arrange (inserted operations \ deleted operations)
    rw [← elements, ← List.take_append_drop index (elements operations), List.pairwise_append]
      at hsorted
    refine List.pairwise_append.mpr ⟨hsorted.1, List.pairwise_cons.mpr ⟨?_, hsorted.2.1⟩, ?_⟩
    · -- in front of what was behind the parent
      intro path hpath
      obtain ⟨other, older, hinsert, rfl⟩ :=
        mem_inserted.mp (mem_elements.mp (List.mem_of_mem_drop hpath)).1
      exact concat_lt (hparent ▸ getLastD_take_lt hpath) (hnewest _ hinsert)
    · intro path hpath other hother
      rcases List.mem_cons.mp hother with rfl | hbehind
      · exact (hparent ▸ le_getLastD_take hpath).trans_lt (lt_concat parent newest)
      · exact hsorted.2.2 path hpath other hbehind
  · have hold : path ∈ (elements operations).take index ∨ path ∈ (elements operations).drop index ↔
        path ∈ elements operations := by
      rw [← List.mem_append, List.take_append_drop]
    rw [List.mem_append, List.mem_cons, or_left_comm, hold, mem_elements, Finset.mem_sdiff]
    simp only [mem_inserted, mem_deleted, Finset.mem_insert, Operation.path]
    constructor
    · rintro (rfl | ⟨⟨other, older, hinsert, rfl⟩, hkept⟩)
      · refine ⟨⟨parent, newest, .inl rfl, rfl⟩, ?_⟩
        rintro ⟨_, hdelete | hdelete⟩
        · cases hdelete
        · exact hfresh _ hdelete rfl
      · refine ⟨⟨other, older, .inr hinsert, rfl⟩, ?_⟩
        rintro ⟨_, hdelete | hdelete⟩
        · cases hdelete
        · exact hkept ⟨_, hdelete⟩
    · rintro ⟨⟨other, older, hinsert | hinsert, rfl⟩, hkept⟩
      · cases hinsert
        exact .inl rfl
      · refine .inr ⟨⟨other, older, hinsert, rfl⟩, ?_⟩
        rintro ⟨_, hdelete⟩
        exact hkept ⟨_, .inr hdelete⟩

/-- What is deleted is taken out. -/
theorem elements_deleteAt (client : ℕ) (operations : Finset (Operation α)) (index length : ℕ) :
    elements (operations ∪ deleteAt client operations index length) =
      (elements operations).take index ++ (elements operations).drop (index + length) := by
  have hsorted := pairwise_arrange (inserted operations \ deleted operations)
  rw [← elements] at hsorted
  have hsplit : elements operations = (elements operations).take index ++
      (((elements operations).drop index).take length ++
        (elements operations).drop (index + length)) := by
    rw [← List.drop_drop, List.take_append_drop, List.take_append_drop]
  generalize hfront : (elements operations).take index = front at hsplit ⊢
  generalize hgone : ((elements operations).drop index).take length = gone at hsplit
  generalize hback : (elements operations).drop (index + length) = back at hsplit ⊢
  have hdeleted : ∀ path, path ∈ deleted (operations ∪ deleteAt client operations index length) ↔
      path ∈ deleted operations ∨ path ∈ gone := by
    intro path
    simp only [mem_deleted, deleteAt, hgone, Finset.mem_union, Finset.mem_image, List.mem_toFinset]
    constructor
    · rintro ⟨_, hold | ⟨other, hother, hsame⟩⟩
      · exact .inl ⟨_, hold⟩
      · cases hsame
        exact .inr hother
    · rintro (⟨_, hold⟩ | hnew)
      · exact ⟨_, .inl hold⟩
      · exact ⟨client, .inr ⟨path, hnew, rfl⟩⟩
  have hinserted : ∀ path, path ∈ inserted (operations ∪ deleteAt client operations index length) ↔
      path ∈ inserted operations := by
    intro path
    simp only [mem_inserted, deleteAt, Finset.mem_union, Finset.mem_image, reduceCtorEq, and_false,
      exists_false, or_false]
  rw [hsplit] at hsorted
  refine arrange_eq (hsorted.sublist ?_) fun path => ?_
  · exact List.Sublist.append_left (List.sublist_append_right gone back) front
  · obtain ⟨-, hrest, hapart⟩ := List.pairwise_append.mp hsorted
    obtain ⟨-, -, hbehind⟩ := List.pairwise_append.mp hrest
    have hmem : path ∈ elements operations ↔ path ∈ front ∨ path ∈ gone ∨ path ∈ back := by
      rw [hsplit, List.mem_append, List.mem_append]
    rw [Finset.mem_sdiff, hinserted, hdeleted, not_or, ← and_assoc, ← mem_elements, hmem,
      List.mem_append]
    constructor
    · rintro (hfront | hback)
      · refine ⟨.inl hfront, fun hgone => ?_⟩
        exact lt_irrefl _ (hapart path hfront path (List.mem_append_left _ hgone))
      · exact ⟨.inr (.inr hback), fun hgone => lt_irrefl _ (hbehind path hgone path hback)⟩
    · rintro ⟨hfront | hgone | hback, hkept⟩
      · exact .inl hfront
      · exact absurd hgone hkept
      · exact .inr hback

/-! ## The text -/

section Text

variable [Inhabited α]

theorem toList_insertOne (client : ℕ) (operations : Finset (Operation α)) (index : ℕ)
    (element : α) :
    toList (insert (insertOne client operations index element) operations) =
      (toList operations).take index ++ element :: (toList operations).drop index := by
  have hvalue : value (insertOne client operations index element).path = element := by
    rw [insertOne, Operation.path, value, List.getLast?_concat, Option.elim_some]
    rfl
  rw [toList, elements_insertOne, List.map_append, List.map_cons, hvalue, List.map_take,
    List.map_drop, ← toList]

/-- Elements are inserted where they are told to be, or at the end. -/
theorem toList_insertAt (client : ℕ) (operations : Finset (Operation α)) (index : ℕ)
    (content : List α) :
    toList (operations ∪ insertAt client operations index content) =
      (toList operations).take index ++ (content ++ (toList operations).drop index) := by
  induction content generalizing operations index with
  | nil => rw [insertAt, Finset.union_empty, List.nil_append, List.take_append_drop]
  | cons element rest ih =>
      rw [insertAt, Finset.union_insert, ← Finset.insert_union, ih, toList_insertOne]
      generalize toList operations = text
      have hnew : (text.take index ++ element :: text.drop index).take (index + 1) =
            text.take index ++ [element] ∧
          (text.take index ++ element :: text.drop index).drop (index + 1) = text.drop index := by
        rcases le_total index text.length with hle | hle
        · have hlength : (text.take index).length = index := List.length_take_of_le hle
          have htake : (text.take index).take (index + 1) = text.take index :=
            List.take_of_length_le (by omega)
          have hdrop : (text.take index).drop (index + 1) = [] := List.drop_of_length_le (by omega)
          rw [List.take_append, List.drop_append, hlength, Nat.add_sub_cancel_left, htake, hdrop]
          exact ⟨rfl, rfl⟩
        · rw [List.take_of_length_le hle, List.drop_of_length_le hle]
          have hlength : (text ++ [element]).length ≤ index + 1 := by
            rw [List.length_append, List.length_singleton]
            omega
          exact ⟨List.take_of_length_le hlength, List.drop_of_length_le hlength⟩
      rw [hnew.1, hnew.2, List.append_assoc]
      rfl

theorem toList_deleteAt (client : ℕ) (operations : Finset (Operation α)) (index length : ℕ) :
    toList (operations ∪ deleteAt client operations index length) =
      (toList operations).take index ++ (toList operations).drop (index + length) := by
  rw [toList, elements_deleteAt, List.map_append, List.map_take, List.map_drop, ← toList]

end Text

/-! ## Whose operations they are, and what they need -/

theorem insertion_subset {path : Path α} (hpath : path ∈ elements operations) :
    insertion path ⊆ operations := by
  obtain ⟨parent, label, hinsert, rfl⟩ := mem_inserted.mp (mem_elements.mp hpath).1
  rw [insertion_concat]
  exact Finset.singleton_subset_iff.mpr hinsert

theorem client_of_mem_insertAt {index : ℕ} {content : List α} {operation : Operation α}
    (hoperation : operation ∈ insertAt client operations index content) :
    operation.client = client := by
  induction content generalizing operations index with
  | nil => exact absurd hoperation (Finset.notMem_empty _)
  | cons element rest ih =>
      rcases Finset.mem_insert.mp hoperation with rfl | hrest
      · rfl
      · exact ih hrest

theorem client_of_mem_deleteAt {index length : ℕ} {operation : Operation α}
    (hoperation : operation ∈ deleteAt client operations index length) :
    operation.client = client := by
  obtain ⟨path, -, rfl⟩ := Finset.mem_image.mp hoperation
  rfl

theorem closed_insertAt (hclosed : Causal.Closed dependencies operations) (client index : ℕ)
    (content : List α) :
    Causal.Closed dependencies (operations ∪ insertAt client operations index content) := by
  induction content generalizing operations index with
  | nil => rwa [insertAt, Finset.union_empty]
  | cons element rest ih =>
      rw [insertAt, Finset.union_insert, ← Finset.insert_union]
      refine ih ?_ (index + 1)
      rw [Finset.insert_eq, Finset.union_comm]
      refine hclosed.union fun operation hoperation => ?_
      rw [Finset.mem_singleton.mp hoperation, insertOne, dependencies]
      rcases List.eq_nil_or_concat ((elements operations).take index) with
        hnone | ⟨front, last, hlast⟩
      · rw [hnone]
        exact Finset.empty_subset _
      · rw [hlast, List.concat_eq_append, List.getLastD_concat]
        have hmem : last ∈ (elements operations).take index := by
          rw [hlast, List.concat_eq_append]
          exact List.mem_concat_self
        exact (insertion_subset (List.mem_of_mem_take hmem)).trans Finset.subset_union_left

theorem closed_deleteAt (hclosed : Causal.Closed dependencies operations)
    (client index length : ℕ) :
    Causal.Closed dependencies (operations ∪ deleteAt client operations index length) := by
  refine hclosed.union fun operation hoperation => ?_
  obtain ⟨path, hpath, rfl⟩ := Finset.mem_image.mp hoperation
  rw [dependencies]
  exact (insertion_subset (List.mem_of_mem_drop (List.mem_of_mem_take
    (List.mem_toFinset.mp hpath)))).trans Finset.subset_union_left

end

end Sequence

end Foundation
