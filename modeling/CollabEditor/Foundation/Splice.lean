import Mathlib.Data.List.Induction

/-! # Simultaneous changes of a list

Every position is one of the list before the changes. What several changes put at
one position comes in their order.
-/

namespace Foundation

/-- The elements from `start` up to `stop` are replaced. -/
structure Splice (α : Type*) where
  start : Nat
  stop : Nat
  insert : List α
deriving DecidableEq, Repr

namespace Splice

variable {α : Type*}

/-- What the changes put in front of a position. -/
def insertedAt (splices : List (Splice α)) (i : Nat) : List α :=
  splices.flatMap fun splice => if splice.start = i then splice.insert else []

def deletedAt (splices : List (Splice α)) (i : Nat) : Bool :=
  splices.any fun splice => splice.start ≤ i && i < splice.stop

/-- What becomes of a list whose first element has position `i`. -/
def applyFrom (splices : List (Splice α)) : Nat → List α → List α
  | i, [] => insertedAt splices i
  | i, x :: rest =>
      insertedAt splices i ++ ((if deletedAt splices i then [] else [x]) ++
        applyFrom splices (i + 1) rest)

def applyAll (splices : List (Splice α)) (l : List α) : List α := applyFrom splices 0 l

variable {before after splices : List (Splice α)} {i n : Nat}

@[simp] theorem insertedAt_nil (i : Nat) : insertedAt ([] : List (Splice α)) i = [] := rfl

@[simp] theorem deletedAt_nil (i : Nat) : deletedAt ([] : List (Splice α)) i = false := rfl

@[simp] theorem insertedAt_append :
    insertedAt (before ++ after) i = insertedAt before i ++ insertedAt after i :=
  List.flatMap_append

@[simp] theorem deletedAt_append :
    deletedAt (before ++ after) i = (deletedAt before i || deletedAt after i) :=
  List.any_append

@[simp] theorem insertedAt_cons (splice : Splice α) :
    insertedAt (splice :: splices) i =
      (if splice.start = i then splice.insert else []) ++ insertedAt splices i :=
  List.flatMap_cons

@[simp] theorem deletedAt_cons (splice : Splice α) :
    deletedAt (splice :: splices) i =
      ((splice.start ≤ i && i < splice.stop) || deletedAt splices i) :=
  List.any_cons

/-- Changes that start later do not touch a position. -/
theorem untouched (hstart : ∀ splice ∈ splices, n ≤ splice.start) (hi : i < n) :
    insertedAt splices i = [] ∧ deletedAt splices i = false := by
  constructor
  · rw [insertedAt, List.flatMap_eq_nil_iff]
    intro splice hsplice
    exact if_neg (Nat.ne_of_gt (Nat.lt_of_lt_of_le hi (hstart splice hsplice)))
  · rw [deletedAt, List.any_eq_false]
    intro splice hsplice htouched
    simp only [Bool.and_eq_true, decide_eq_true_eq] at htouched
    exact absurd (hstart splice hsplice) (by omega)

/-- Only what happens from the first position on matters. -/
theorem applyFrom_congr {others : List (Splice α)}
    (hsame : ∀ i, n ≤ i → insertedAt splices i = insertedAt others i ∧
      deletedAt splices i = deletedAt others i) (l : List α) :
    applyFrom splices n l = applyFrom others n l := by
  induction l generalizing n with
  | nil => exact (hsame n (Nat.le_refl n)).1
  | cons x rest ih =>
      obtain ⟨hinserted, hdeleted⟩ := hsame n (Nat.le_refl n)
      have hrest := ih fun i hi => hsame i (Nat.le_of_succ_le hi)
      simp only [applyFrom, hinserted, hdeleted, hrest]

theorem applyFrom_kept {l : List α} (hkept : ∀ i, n ≤ i → i < n + l.length →
    insertedAt splices i = [] ∧ deletedAt splices i = false) (rest : List α) :
    applyFrom splices n (l ++ rest) = l ++ applyFrom splices (n + l.length) rest := by
  induction l generalizing n with
  | nil => rfl
  | cons x l ih =>
      rw [List.length_cons] at hkept ⊢
      obtain ⟨hinserted, hdeleted⟩ := hkept n (Nat.le_refl n) (by omega)
      have htail := @ih (n + 1) fun i hlow hhigh => hkept i (by omega) (by omega)
      simp only [List.cons_append, applyFrom, hinserted, hdeleted, htail, List.nil_append,
        Bool.false_eq_true, if_false]
      rw [show n + 1 + l.length = n + (l.length + 1) by omega]

theorem applyFrom_deleted {l : List α} (hdeleted : ∀ i, n ≤ i → i < n + l.length →
    insertedAt splices i = [] ∧ deletedAt splices i = true) (rest : List α) :
    applyFrom splices n (l ++ rest) = applyFrom splices (n + l.length) rest := by
  induction l generalizing n with
  | nil => rfl
  | cons x l ih =>
      rw [List.length_cons] at hdeleted ⊢
      obtain ⟨hinserted, hgone⟩ := hdeleted n (Nat.le_refl n) (by omega)
      have htail := @ih (n + 1) fun i hlow hhigh => hdeleted i (by omega) (by omega)
      simp only [List.cons_append, applyFrom, hinserted, hgone, htail, List.nil_append, if_true]
      rw [show n + 1 + l.length = n + (l.length + 1) by omega]

/-- An insertion at the first position, behind changes that insert nothing there. -/
theorem applyFrom_insert (hbefore : insertedAt before n = []) (text l : List α) :
    applyFrom (before ++ ⟨n, n, text⟩ :: after) n l = text ++ applyFrom (before ++ after) n l := by
  have hinserted : insertedAt (before ++ ⟨n, n, text⟩ :: after) n =
      text ++ insertedAt (before ++ after) n := by
    simp [hbefore]
  cases l with
  | nil => exact hinserted
  | cons x rest =>
      have hdeleted : deletedAt (before ++ ⟨n, n, text⟩ :: after) n =
          deletedAt (before ++ after) n := by
        simp
      have hrest : applyFrom (before ++ ⟨n, n, text⟩ :: after) (n + 1) rest =
          applyFrom (before ++ after) (n + 1) rest := by
        refine applyFrom_congr (fun i hi => ?_) rest
        have hne : n ≠ i := by omega
        have hpast : ¬i < n := by omega
        simp [hne, hpast]
      rw [applyFrom, applyFrom, hinserted, hdeleted, hrest, List.append_assoc]

/-- An element stays or goes, whatever it is, and the rest does not depend on it. -/
theorem applyFrom_hole (splices : List (Splice α)) (n : Nat) (left right : List α) :
    ∃ front back, ∀ x, applyFrom splices n (left ++ x :: right) =
      front ++ ((if deletedAt splices (n + left.length) then [] else [x]) ++ back) := by
  induction left generalizing n with
  | nil =>
      exact ⟨insertedAt splices n, applyFrom splices (n + 1) right, fun x => rfl⟩
  | cons y left ih =>
      obtain ⟨front, back, hrest⟩ := ih (n + 1)
      refine ⟨insertedAt splices n ++ ((if deletedAt splices n then [] else [y]) ++ front), back,
        fun x => ?_⟩
      rw [List.cons_append, applyFrom, hrest, List.length_cons,
        show n + 1 + left.length = n + (left.length + 1) by omega]
      simp only [List.append_assoc]

/-! ## Changes in the order of their positions -/

structure Ascending (splices : List (Splice α)) : Prop where
  forward : ∀ splice ∈ splices, splice.start ≤ splice.stop
  ordered : splices.Pairwise fun first second => first.stop ≤ second.start

instance : Decidable (Ascending splices) :=
  decidable_of_iff ((∀ splice ∈ splices, splice.start ≤ splice.stop) ∧
      splices.Pairwise fun first second => first.stop ≤ second.start)
    ⟨fun h => ⟨h.1, h.2⟩, fun h => ⟨h.forward, h.ordered⟩⟩

/-- By how much the changes lengthen a list. -/
def lead : List (Splice α) → Int
  | [] => 0
  | splice :: rest => splice.insert.length - (splice.stop - splice.start : Int) + lead rest

@[simp] theorem lead_nil : lead ([] : List (Splice α)) = 0 := rfl

@[simp] theorem lead_cons (splice : Splice α) : lead (splice :: splices) =
    splice.insert.length - (splice.stop - splice.start : Int) + lead splices := rfl

@[simp] theorem lead_append : lead (before ++ after) = lead before + lead after := by
  induction before with
  | nil => simp
  | cons splice rest ih =>
      rw [List.cons_append, lead_cons, lead_cons, ih]
      omega

/-- How much the changes insert. -/
def inserted : List (Splice α) → Nat
  | [] => 0
  | splice :: rest => splice.insert.length + inserted rest

@[simp] theorem inserted_nil : inserted ([] : List (Splice α)) = 0 := rfl

@[simp] theorem inserted_cons (splice : Splice α) :
    inserted (splice :: splices) = splice.insert.length + inserted splices := rfl

@[simp] theorem inserted_append :
    inserted (before ++ after) = inserted before + inserted after := by
  induction before with
  | nil => simp
  | cons splice rest ih => rw [List.cons_append, inserted_cons, inserted_cons, ih, Nat.add_assoc]

/-- The changes touch nothing behind a position. -/
def Within (n : Nat) (splices : List (Splice α)) : Prop :=
  ∀ splice ∈ splices, splice.start ≤ n ∧ splice.stop ≤ n

instance : Decidable (Within n splices) :=
  inferInstanceAs (Decidable (∀ splice ∈ splices, splice.start ≤ n ∧ splice.stop ≤ n))

theorem Within.mono {m : Nat} (hwithin : Within n splices) (hle : n ≤ m) : Within m splices :=
  fun splice hsplice =>
    ⟨Nat.le_trans (hwithin splice hsplice).1 hle, Nat.le_trans (hwithin splice hsplice).2 hle⟩

theorem Within.untouched (hwithin : Within n splices) (hi : n < i) :
    insertedAt splices i = [] ∧ deletedAt splices i = false := by
  constructor
  · rw [insertedAt, List.flatMap_eq_nil_iff]
    intro splice hsplice
    exact if_neg (Nat.ne_of_lt (Nat.lt_of_le_of_lt (hwithin splice hsplice).1 hi))
  · rw [deletedAt, List.any_eq_false]
    intro splice hsplice htouched
    simp only [Bool.and_eq_true, decide_eq_true_eq] at htouched
    exact absurd (hwithin splice hsplice).2 (by omega)

theorem Within.kept (hwithin : Within n splices) : deletedAt splices n = false := by
  rw [deletedAt, List.any_eq_false]
  intro splice hsplice htouched
  simp only [Bool.and_eq_true, decide_eq_true_eq] at htouched
  exact absurd (hwithin splice hsplice).2 (by omega)

theorem Within.applyFrom (hwithin : Within n splices) (l : List α) :
    applyFrom splices n l = insertedAt splices n ++ l := by
  cases l with
  | nil => exact (List.append_nil _).symm
  | cons x rest =>
      have hrest : Splice.applyFrom splices (n + 1) (rest ++ []) = rest ++ [] := by
        rw [applyFrom_kept fun i hi _ => hwithin.untouched hi]
        exact congrArg (rest ++ ·) (hwithin.untouched (by omega)).1
      rw [List.append_nil] at hrest
      rw [Splice.applyFrom, hwithin.kept, hrest]
      rfl

section

variable {l removed : List α} {p q : Nat}

/-- What stands behind the changes stays. -/
theorem applyFrom_append (hp : n + l.length = p) (hwithin : Within p splices) (rest : List α) :
    applyFrom splices n (l ++ rest) = applyFrom splices n l ++ rest := by
  induction l generalizing n with
  | nil =>
      subst hp
      exact hwithin.applyFrom rest
  | cons x l ih =>
      rw [List.length_cons] at hp
      have htail := @ih (n + 1) (by omega)
      simp only [List.cons_append, applyFrom, htail, List.append_assoc]

/-- A range behind the changes is replaced. -/
theorem Within.applyFrom_concat (hwithin : Within p splices) (hq : p + removed.length = q)
    (text rest : List α) :
    Splice.applyFrom (splices ++ [⟨p, q, text⟩]) p (removed ++ rest) =
      insertedAt splices p ++ (text ++ rest) := by
  have hall : Within q (splices ++ [⟨p, q, text⟩]) := by
    intro splice hsplice
    rcases List.mem_append.mp hsplice with hsplice | hsplice
    · exact hwithin.mono (by omega) splice hsplice
    · rw [List.mem_singleton.mp hsplice]
      exact ⟨by dsimp only; omega, Nat.le_refl q⟩
  cases removed with
  | nil =>
      subst hq
      rw [List.length_nil, Nat.add_zero] at hall ⊢
      rw [List.nil_append, hall.applyFrom]
      simp
  | cons x removed =>
      rw [List.length_cons] at hq
      have hgone : Splice.applyFrom (splices ++ [⟨p, q, text⟩]) (p + 1) (removed ++ rest) =
          rest := by
        rw [applyFrom_deleted, show p + 1 + removed.length = q by omega, hall.applyFrom]
        · have hne : p ≠ q := by omega
          simp [(hwithin.untouched (show p < q by omega)).1, hne]
        · intro i hlow hhigh
          have hne : p ≠ i := by omega
          have hstart : p ≤ i := by omega
          have hstop : i < q := by omega
          simp [(hwithin.untouched (show p < i by omega)).1, hne, hstart, hstop]
      rw [List.cons_append, Splice.applyFrom, hgone]
      have hlt : p < q := by omega
      simp [hlt]

/-- The last change replaces a range behind the others. -/
theorem applyFrom_concat (hp : n + l.length = p) (hwithin : Within p splices)
    (hq : p + removed.length = q) (text rest : List α) :
    applyFrom (splices ++ [⟨p, q, text⟩]) n (l ++ (removed ++ rest)) =
      applyFrom splices n l ++ (text ++ rest) := by
  induction l generalizing n with
  | nil =>
      subst hp
      exact hwithin.applyFrom_concat hq text rest
  | cons x l ih =>
      rw [List.length_cons] at hp
      have htail := @ih (n + 1) (by omega)
      have hne : p ≠ n := by omega
      have hstart : ¬p ≤ n := by omega
      simp [applyFrom, htail, hne, hstart]

end

@[simp] theorem applyAll_nil (l : List α) : applyAll ([] : List (Splice α)) l = l :=
  Within.applyFrom (fun _ hsplice => absurd hsplice List.not_mem_nil) l

/-- What stands behind the changes stays. -/
theorem applyAll_take {p : Nat} (hwithin : Within p splices) {l : List α} (hp : p ≤ l.length) :
    applyAll splices l = applyAll splices (l.take p) ++ l.drop p := by
  have hlength : 0 + (l.take p).length = p := by simp [hp]
  have h := applyFrom_append hlength hwithin (l.drop p)
  rw [List.take_append_drop] at h
  exact h

theorem applyAll_concat {p q : Nat} (hwithin : Within p splices) {l : List α} (hpq : p ≤ q)
    (hq : q ≤ l.length) (text : List α) :
    applyAll (splices ++ [⟨p, q, text⟩]) l =
      applyAll splices (l.take p) ++ (text ++ l.drop q) := by
  have hlength : 0 + (l.take p).length = p := by
    rw [List.length_take]
    omega
  have hremoved : p + ((l.drop p).take (q - p)).length = q := by
    rw [List.length_take, List.length_drop]
    omega
  have hrest : l.drop q = (l.drop p).drop (q - p) := by
    rw [List.drop_drop, Nat.add_sub_cancel' hpq]
  have h := applyFrom_concat hlength hwithin hremoved text (l.drop q)
  rw [hrest, List.take_append_drop, List.take_append_drop] at h
  rw [hrest]
  exact h

theorem Ascending.sublist (hascending : Ascending after) (hsub : before.Sublist after) :
    Ascending before :=
  ⟨fun splice hsplice => hascending.forward splice (hsub.mem hsplice),
    hascending.ordered.sublist hsub⟩

theorem Ascending.of_concat {splice : Splice α} (hascending : Ascending (splices ++ [splice])) :
    Ascending splices ∧ Within splice.start splices ∧ splice.start ≤ splice.stop := by
  obtain ⟨-, -, hlast⟩ := List.pairwise_append.mp hascending.ordered
  have hsplices := hascending.sublist (List.sublist_append_left splices [splice])
  refine ⟨hsplices, ?_, hascending.forward splice (by simp)⟩
  intro first hfirst
  have hstop := hlast first hfirst splice (List.mem_singleton_self splice)
  exact ⟨Nat.le_trans (hsplices.forward first hfirst) hstop, hstop⟩

theorem exists_within : ∀ splices : List (Splice α), ∃ n, Within n splices
  | [] => ⟨0, nofun⟩
  | splice :: rest => by
      obtain ⟨n, hrest⟩ := exists_within rest
      refine ⟨splice.start + splice.stop + n, fun other hother => ?_⟩
      rcases List.mem_cons.mp hother with rfl | hother
      · constructor <;> omega
      · exact hrest.mono (by omega) other hother

theorem lead_le_inserted (hascending : Ascending splices) : lead splices ≤ inserted splices := by
  induction splices using List.reverseRecOn with
  | nil => exact Int.le_refl 0
  | append_singleton splices splice ih =>
      obtain ⟨hsplices, -, hforward⟩ := hascending.of_concat
      have hbefore := ih hsplices
      rw [lead_append, lead_cons, lead_nil, inserted_append, inserted_cons, inserted_nil]
      omega

/-- Changes between two positions delete no more than there is. -/
theorem Ascending.lead_ge {p : Nat} (hascending : Ascending splices) (hwithin : Within p splices)
    (hstart : ∀ splice ∈ splices, n ≤ splice.start) (hle : n ≤ p) :
    (n : Int) ≤ p + lead splices := by
  induction splices using List.reverseRecOn generalizing p with
  | nil =>
      rw [lead_nil]
      omega
  | append_singleton splices splice ih =>
      obtain ⟨hsplices, hbefore, hforward⟩ := hascending.of_concat
      have hlast := hwithin splice (by simp)
      have hfront := ih hsplices hbefore
        (fun first hfirst => hstart first (List.mem_append_left _ hfirst))
        (hstart splice (by simp))
      rw [lead_append, lead_cons, lead_nil]
      omega

theorem length_applyAll {l : List α} (hascending : Ascending splices)
    (hwithin : Within l.length splices) :
    ((applyAll splices l).length : Int) = l.length + lead splices := by
  induction splices using List.reverseRecOn generalizing l with
  | nil => simp
  | append_singleton splices splice ih =>
      obtain ⟨hsplices, hbefore, hforward⟩ := hascending.of_concat
      have hstop := (hwithin splice (by simp)).2
      have hlength : (l.take splice.start).length = splice.start := by
        rw [List.length_take]
        omega
      have hfront := ih hsplices (by rwa [hlength])
      rw [applyAll_concat hbefore hforward hstop, List.length_append, List.length_append,
        List.length_drop]
      rw [hlength] at hfront
      rw [lead_append, lead_cons, lead_nil]
      omega

/-! ## Changes of a mapped list -/

section

variable {β : Type*} (f : α → β)

def map (splice : Splice α) : Splice β where
  start := splice.start
  stop := splice.stop
  insert := splice.insert.map f

theorem Within.map (hwithin : Within n splices) : Within n (splices.map (Splice.map f)) := by
  intro other hother
  obtain ⟨splice, hsplice, rfl⟩ := List.mem_map.mp hother
  exact hwithin splice hsplice

theorem Ascending.map (hascending : Ascending splices) :
    Ascending (splices.map (Splice.map f)) where
  forward := by
    intro other hother
    obtain ⟨splice, hsplice, rfl⟩ := List.mem_map.mp hother
    exact hascending.forward splice hsplice
  ordered := List.pairwise_map.mpr hascending.ordered

theorem lead_map (splices : List (Splice α)) : lead (splices.map (map f)) = lead splices := by
  induction splices with
  | nil => rfl
  | cons splice rest ih =>
      rw [List.map_cons, lead_cons, lead_cons, ih]
      simp [map]

theorem insertedAt_map (splices : List (Splice α)) (i : Nat) :
    insertedAt (splices.map (map f)) i = (insertedAt splices i).map f := by
  induction splices with
  | nil => rfl
  | cons splice rest ih =>
      rw [List.map_cons, insertedAt_cons, insertedAt_cons, ih, List.map_append]
      by_cases hstart : splice.start = i
      · simp [map, hstart]
      · simp [map, hstart]

theorem deletedAt_map (splices : List (Splice α)) (i : Nat) :
    deletedAt (splices.map (map f)) i = deletedAt splices i := by
  rw [deletedAt, deletedAt, List.any_map]
  rfl

theorem applyAll_map (splices : List (Splice α)) (l : List α) :
    applyAll (splices.map (map f)) (l.map f) = (applyAll splices l).map f := by
  have hfrom : ∀ i, applyFrom (splices.map (map f)) i (l.map f) =
      (applyFrom splices i l).map f := by
    induction l with
    | nil => exact fun i => insertedAt_map f splices i
    | cons x rest ih =>
        intro i
        rw [List.map_cons, applyFrom, applyFrom, ih, insertedAt_map, deletedAt_map]
        by_cases hdeleted : deletedAt splices i = true
        · simp [hdeleted]
        · simp [hdeleted]
  exact hfrom 0

end

/-! ## One change after the other -/

/-- The elements from a position on are replaced. What lies behind the end is the end. -/
def replaceRange (start length : Nat) (insert l : List α) : List α :=
  l.take start ++ (insert ++ l.drop (start + length))

/-- A deletion, and an insertion where it was made. -/
theorem replaceRange_replaceRange (start length : Nat) (insert l : List α) :
    replaceRange start 0 insert (replaceRange start length [] l) =
      replaceRange start length insert l := by
  by_cases hstart : start ≤ l.length
  · have hlength : (l.take start).length = start := by simp [hstart]
    rw [replaceRange, replaceRange, List.nil_append, Nat.add_zero, List.take_left' hlength,
      List.drop_left' hlength, replaceRange]
  · have hlength : l.length ≤ start := by omega
    have hbehind : l.drop (start + length) = [] := List.drop_of_length_le (by omega)
    have htake : l.take start = l := List.take_of_length_le hlength
    have hdrop : l.drop start = [] := List.drop_of_length_le hlength
    simp [replaceRange, hbehind, htake, hdrop]

theorem replaceRange_nil (start : Nat) (l : List α) : replaceRange start 0 [] l = l :=
  List.take_append_drop start l

theorem length_replaceRange {start length : Nat} (insert : List α) {l : List α}
    (h : start + length ≤ l.length) :
    (replaceRange start length insert l).length + length = l.length + insert.length := by
  rw [replaceRange, List.length_append, List.length_append, List.length_take, List.length_drop]
  omega

/-- A change that ends before the rest of the list. -/
theorem replaceRange_append {start length : Nat} (insert : List α) {l : List α}
    (h : start + length ≤ l.length) (rest : List α) :
    replaceRange start length insert (l ++ rest) = replaceRange start length insert l ++ rest := by
  rw [replaceRange, replaceRange, List.take_append_of_le_length (by omega),
    List.drop_append_of_le_length h, List.append_assoc, List.append_assoc]

/-- A range at the front of the second part. -/
theorem replaceRange_length (insert front back : List α) (length : Nat) :
    replaceRange front.length length insert (front ++ back) =
      front ++ (insert ++ back.drop length) := by
  rw [replaceRange, List.take_left, List.drop_append, List.drop_of_length_le (by omega),
    Nat.add_sub_cancel_left, List.nil_append]

theorem replaceRange_map {β : Type*} (f : α → β) (start length : Nat) (insert l : List α) :
    replaceRange start length (insert.map f) (l.map f) =
      (replaceRange start length insert l).map f := by
  simp [replaceRange]

end Splice

end Foundation
