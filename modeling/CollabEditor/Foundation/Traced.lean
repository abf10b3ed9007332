import CollabEditor.Foundation.Splice
import Mathlib.Data.List.Perm.Subperm
import Mathlib.Data.List.Sort
import Mathlib.Logic.Nontrivial.Basic

/-! # Elements by where they come from

An element of a changed list is a position of the list before the changes, or it is new.
Changes that agree on every list agree on the positions.
-/

namespace Foundation

/-- The positions that are left of the list before the changes. -/
def olds {α : Type*} (traced : List (Nat ⊕ α)) : List Nat := traced.filterMap Sum.getLeft?

/-- How many elements are new. -/
def news {α : Type*} (traced : List (Nat ⊕ α)) : Nat := traced.countP Sum.isRight

/-- The positions from `start` on. -/
def positions (α : Type*) (start length : Nat) : List (Nat ⊕ α) :=
  (List.range' start length).map Sum.inl

namespace Traced

variable {α : Type*} {traced others : List (Nat ⊕ α)} {start length n : Nat}

@[simp] theorem olds_append : olds (traced ++ others) = olds traced ++ olds others :=
  List.filterMap_append

@[simp] theorem olds_inr (new : List α) : olds (new.map Sum.inr) = [] := by
  simp [olds, List.filterMap_map]

@[simp] theorem olds_positions : olds (positions α start length) = List.range' start length := by
  rw [olds, positions, List.filterMap_map]
  exact List.filterMap_some

@[simp] theorem news_append : news (traced ++ others) = news traced + news others :=
  List.countP_append

@[simp] theorem news_inr (new : List α) : news (new.map (Sum.inr : α → Nat ⊕ α)) = new.length := by
  simp [news, List.countP_map, Function.comp_def]

@[simp] theorem news_positions : news (positions α start length) = 0 := by
  simp [news, positions, List.countP_map, Function.comp_def]

@[simp] theorem length_positions : (positions α start length).length = length := by
  simp [positions]

theorem mem_positions : Sum.inl n ∈ positions α start length ↔ start ≤ n ∧ n < start + length := by
  simp [positions, List.mem_range'_1]

theorem take_positions (k : Nat) (h : k ≤ length) :
    (positions α start length).take k = positions α start k := by
  rw [positions, ← List.map_take, List.take_range'_of_length_ge h, positions]

theorem drop_positions (k : Nat) :
    (positions α start length).drop k = positions α (start + k) (length - k) := by
  rw [positions, ← List.map_drop, List.drop_range', Nat.mul_one, positions]

theorem mem_olds : n ∈ olds traced ↔ Sum.inl n ∈ traced := by
  rw [olds, List.mem_filterMap]
  constructor
  · rintro ⟨old | new, hmem, hold⟩
    · cases hold
      exact hmem
    · cases hold
  · intro hmem
    exact ⟨Sum.inl n, hmem, rfl⟩

/-- Without new elements a list is its positions. -/
theorem eq_inl_of_news (h : news traced = 0) : traced = (olds traced).map Sum.inl := by
  induction traced with
  | nil => rfl
  | cons element rest ih =>
      cases element with
      | inl n =>
          have hrest : news rest = 0 := by simpa [news] using h
          exact congrArg (Sum.inl n :: ·) (ih hrest)
      | inr new => simp [news] at h

theorem positions_append (start first second : Nat) :
    positions α start first ++ positions α (start + first) second =
      positions α start (first + second) := by
  rw [positions, positions, positions, ← List.map_append, List.range'_append_1]

theorem olds_replaceRange (start length : Nat) (new : List α) (traced : List (Nat ⊕ α)) :
    (olds (Splice.replaceRange start length (new.map Sum.inr) traced)).Sublist (olds traced) := by
  have hsub : (traced.take start ++ traced.drop (start + length)).Sublist traced := by
    rw [← List.drop_drop]
    have h := (List.Sublist.refl (traced.take start)).append
      (List.drop_sublist length (traced.drop start))
    rwa [List.take_append_drop] at h
  have holds := hsub.filterMap Sum.getLeft?
  rw [List.filterMap_append] at holds
  rw [Splice.replaceRange, olds_append, olds_append, olds_inr, List.nil_append]
  exact holds

theorem news_replaceRange (start length : Nat) (new : List α) (traced : List (Nat ⊕ α)) :
    news (Splice.replaceRange start length (new.map Sum.inr) traced) ≤
      news traced + new.length := by
  have hsplit := congrArg news (List.take_append_drop start traced)
  have hdrop : news (traced.drop (start + length)) ≤ news (traced.drop start) := by
    rw [← List.drop_drop]
    exact (List.drop_sublist length (traced.drop start)).countP_le
  rw [news_append] at hsplit
  rw [Splice.replaceRange, news_append, news_append, news_inr]
  omega

/-- What stands between elements of an ascending list, when all that is new stands before it. -/
theorem between {front middle back : List (Nat ⊕ α)}
    (hsorted : (olds (front ++ (middle ++ back))).Pairwise (· < ·))
    (hnews : news (front ++ (middle ++ back)) ≤ news front) :
    middle = (olds middle).map Sum.inl ∧ (olds middle).Pairwise (· < ·) ∧
      ∀ n ∈ olds middle, (∀ m ∈ olds front, m < n) ∧ ∀ m ∈ olds back, n < m := by
  rw [olds_append, olds_append] at hsorted
  rw [news_append, news_append] at hnews
  obtain ⟨-, hrest, hfront⟩ := List.pairwise_append.mp hsorted
  obtain ⟨hmiddle, -, hback⟩ := List.pairwise_append.mp hrest
  refine ⟨eq_inl_of_news (by omega), hmiddle, fun n hn => ⟨fun m hm => ?_, hback n hn⟩⟩
  exact hfront m hm n (List.mem_append_left _ hn)

/-- All the positions between two, in their order. -/
theorem eq_range'_of_sorted {l : List Nat} (hsorted : l.Pairwise (· < ·))
    (hmem : ∀ n ∈ l, start ≤ n ∧ n < start + length) (hlength : l.length = length) :
    l = List.range' start length := by
  have hsub : l.Subperm (List.range' start length) :=
    List.Nodup.subperm (hsorted.imp Nat.ne_of_lt) fun n hn => List.mem_range'_1.mpr (hmem n hn)
  have hsublist := List.sublist_of_subperm_of_pairwise hsub (hsorted.imp Nat.le_of_lt)
    ((List.pairwise_lt_range' 1).imp Nat.le_of_lt)
  exact hsublist.eq_of_length (by rw [hlength, List.length_range'])

/-- Lists that are the same whatever stands at the positions are the same. -/
theorem eq_of_map_elim [Nontrivial α]
    (h : ∀ element : Nat → α,
      traced.map (Sum.elim element id) = others.map (Sum.elim element id)) :
    traced = others := by
  induction traced generalizing others with
  | nil =>
      have hnil := h fun _ => Classical.choice inferInstance
      exact (List.map_eq_nil_iff.mp hnil.symm).symm
  | cons first rest ih =>
      cases others with
      | nil =>
          have hnil := h fun _ => Classical.choice inferInstance
          simp at hnil
      | cons other others =>
          have hhead : first = other := by
            have heq : ∀ element : Nat → α,
                Sum.elim element id first = Sum.elim element id other := fun element =>
              (List.cons.inj (h element)).1
            cases first with
            | inl n =>
                obtain ⟨x, y, hne⟩ := exists_pair_ne α
                cases other with
                | inl m =>
                    by_contra hother
                    have hm : m ≠ n := fun hm => hother (by rw [hm])
                    have hxy := heq fun i => if i = n then x else y
                    simp [hm] at hxy
                    exact hne hxy
                | inr new =>
                    exact absurd ((heq fun _ => x).trans (heq fun _ => y).symm) hne
            | inr new =>
                obtain ⟨x, y, hne⟩ := exists_pair_ne α
                cases other with
                | inl m => exact absurd ((heq fun _ => x).symm.trans (heq fun _ => y)) hne
                | inr other => exact congrArg Sum.inr (heq fun _ => x)
          rw [hhead, ih fun element => (List.cons.inj (h element)).2]

/-! ## Simultaneous changes of the positions -/

section

open Splice

variable {changes : List (Splice α)} {p q : Nat}

/-- The changes of a list of positions. -/
def marked (changes : List (Splice α)) : List (Splice (Nat ⊕ α)) :=
  changes.map (Splice.map Sum.inr)

theorem marked_concat (changes : List (Splice α)) (change : Splice α) :
    marked (changes ++ [change]) = marked changes ++ [Splice.map Sum.inr change] :=
  List.map_append

theorem map_marked (element : Nat → α) (changes : List (Splice α)) :
    (marked changes).map (Splice.map (Sum.elim element id)) = changes := by
  rw [marked, List.map_map]
  refine (List.map_congr_left fun change _ => ?_).trans (List.map_id changes)
  obtain ⟨start, stop, insert⟩ := change
  simp [Splice.map, Function.comp_def]

theorem lead_marked (changes : List (Splice α)) : lead (marked changes) = lead changes :=
  lead_map Sum.inr changes

/-- What the changes make of the first positions. -/
def fronts (changes : List (Splice α)) (p : Nat) : List (Nat ⊕ α) :=
  applyAll (marked changes) (positions α 0 p)

theorem length_fronts (hascending : Ascending changes) (hwithin : Within p changes) :
    ((fronts changes p).length : Int) = p + lead changes := by
  have h := length_applyAll (l := positions α 0 p) (hascending.map Sum.inr) (by
    rw [length_positions]
    exact hwithin.map Sum.inr)
  rw [length_positions, lead_map] at h
  exact h

theorem fronts_concat (hwithin : Within p changes) (hpq : p ≤ q) (hq : q ≤ n) (text : List α) :
    fronts (changes ++ [⟨p, q, text⟩]) n =
      fronts changes p ++ (text.map Sum.inr ++ positions α q (n - q)) := by
  have h := applyAll_concat (l := positions α 0 n) (hwithin.map Sum.inr) hpq (by simpa using hq)
    (text.map Sum.inr)
  rw [take_positions p (hpq.trans hq), drop_positions, Nat.zero_add] at h
  rw [fronts, marked_concat]
  exact h

theorem fronts_eq_append (hwithin : Within p changes) (hp : p ≤ n) :
    fronts changes n = fronts changes p ++ positions α p (n - p) := by
  have h := applyAll_take (l := positions α 0 n) (hwithin.map Sum.inr) (by simpa using hp)
  rw [take_positions p hp, drop_positions, Nat.zero_add] at h
  exact h

/-- All that is inserted is there. -/
theorem news_fronts (hascending : Ascending changes) (hwithin : Within p changes) :
    news (fronts changes p) = inserted changes := by
  induction changes using List.reverseRecOn generalizing p with
  | nil => simp [fronts, marked]
  | append_singleton changes change ih =>
      obtain ⟨hchanges, hbefore, hforward⟩ := hascending.of_concat
      have hlast := (hwithin change (by simp)).2
      rw [fronts_concat hbefore hforward hlast, news_append, news_append, news_inr,
        news_positions, ih hchanges hbefore, inserted_append, inserted_cons, inserted_nil]

end

end Traced

end Foundation
