import Mathlib.Data.List.Forall2

/-! # Lists that only grow, parallel lists, and tests that one element passes -/

namespace Foundation

variable {α β : Type*}

/-- An entry of a log stays where it is. -/
theorem List.getElem?_of_prefix {before after : List α} (hgrown : before <+: after) {index : Nat}
    {x : α} (hget : before[index]? = some x) : after[index]? = some x := by
  obtain ⟨rest, rfl⟩ := hgrown
  rw [List.getElem?_append_left (List.getElem?_eq_some_iff.mp hget).1]
  exact hget

/-- Two elements that pass a test only one element passes are equal. -/
theorem List.eq_of_countP_eq_one {p : α → Bool} {l : List α} (hone : l.countP p = 1)
    {x y : α} (hx : x ∈ l) (hy : y ∈ l) (hpx : p x = true) (hpy : p y = true) : x = y := by
  rw [List.countP_eq_length_filter, List.length_eq_one_iff] at hone
  obtain ⟨only, honly⟩ := hone
  have hx := honly ▸ List.mem_filter.mpr ⟨hx, hpx⟩
  have hy := honly ▸ List.mem_filter.mpr ⟨hy, hpy⟩
  exact (List.mem_singleton.mp hx).trans (List.mem_singleton.mp hy).symm

/-- Of elements that pairwise exclude each other, one at most passes a test that
only excluding elements pass. -/
theorem List.filter_length_le_one {R : α → α → Prop} {p : α → Bool} {l : List α}
    (hpairwise : l.Pairwise R) (hclash : ∀ x ∈ l, ∀ y ∈ l, p x = true → p y = true → ¬R x y) :
    (l.filter p).length ≤ 1 := by
  have hfiltered := hpairwise.filter p
  match hfilter : l.filter p with
  | [] | [_] => simp
  | x :: y :: rest =>
      rw [hfilter] at hfiltered
      have hx : x ∈ l.filter p := by simp [hfilter]
      have hy : y ∈ l.filter p := by simp [hfilter]
      rw [List.mem_filter] at hx hy
      exact absurd (List.rel_of_pairwise_cons hfiltered List.mem_cons_self)
        (hclash x hx.1 y hy.1 hx.2 hy.2)

theorem List.filter_eq_singleton {R : α → α → Prop} {p : α → Bool} {l : List α}
    (hpairwise : l.Pairwise R) (hclash : ∀ x ∈ l, ∀ y ∈ l, p x = true → p y = true → ¬R x y)
    {x : α} (hx : x ∈ l) (hp : p x = true) : l.filter p = [x] := by
  have hlength := List.filter_length_le_one hpairwise hclash
  have hmem : x ∈ l.filter p := List.mem_filter.mpr ⟨hx, hp⟩
  match hfilter : l.filter p with
  | [] => simp [hfilter] at hmem
  | [y] =>
      rw [hfilter, List.mem_singleton] at hmem
      rw [hmem]
  | _ :: _ :: _ => simp [hfilter] at hlength

/-- Related entries stand at the same position. -/
theorem List.forall₂_getElem? {R : α → β → Prop} {xs : List α} {ys : List β}
    (h : List.Forall₂ R xs ys) {index : Nat} {x : α} (hx : xs[index]? = some x) :
    ∃ y, ys[index]? = some y ∧ R x y := by
  induction h generalizing index with
  | nil => cases hx
  | @cons head other _ _ hhead htail ih =>
      cases index with
      | zero =>
          cases hx
          exact ⟨other, rfl, hhead⟩
      | succ index => exact ih hx

theorem List.forall₂_eraseIdx {R : α → β → Prop} {xs : List α} {ys : List β}
    (h : List.Forall₂ R xs ys) (index : Nat) :
    List.Forall₂ R (xs.eraseIdx index) (ys.eraseIdx index) := by
  induction h generalizing index with
  | nil => exact .nil
  | cons hhead htail ih =>
      cases index with
      | zero => exact htail
      | succ index => exact .cons hhead (ih index)

/-- A test on the arguments is one on the results that agrees with it. -/
theorem List.filterMap_filter_of_agree {f : α → Option β} {p : α → Bool} {q : β → Bool}
    (hagree : ∀ x y, f x = some y → q y = p x) (l : List α) :
    (l.filter p).filterMap f = (l.filterMap f).filter q := by
  induction l with
  | nil => rfl
  | cons x rest ih =>
      cases hfx : f x with
      | none => cases hp : p x <;> simp [hp, hfx, ih]
      | some y =>
          have hq := hagree x y hfx
          cases hp : p x <;> simp [hp, hfx, ih, hq]

end Foundation
