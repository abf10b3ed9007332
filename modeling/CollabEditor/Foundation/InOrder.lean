import CollabEditor.Foundation.List
import Mathlib.Data.List.Nodup
import Mathlib.Data.List.Sublists

/-! # Lists with common elements in the same order -/

namespace Foundation

variable {α : Type*} {l m : List α} {x y k : α}

/-- An `x` stands before a `y`. -/
def Precedes (l : List α) (x y : α) : Prop := [x, y].Sublist l

instance [DecidableEq α] : Decidable (Precedes l x y) :=
  inferInstanceAs (Decidable ([x, y].Sublist l))

/-- What `l` has of `m` stands in the order of `m`. -/
def InOrderOf (l m : List α) : Prop := ∀ x ∈ l, ∀ y ∈ l, Precedes m x y → Precedes l x y

namespace Precedes

theorem mem (h : Precedes l x y) : x ∈ l ∧ y ∈ l :=
  ⟨h.subset List.mem_cons_self, h.subset (List.mem_cons_of_mem x List.mem_cons_self)⟩

theorem append_right (h : Precedes l x y) (rest : List α) : Precedes (l ++ rest) x y :=
  List.Sublist.trans h (List.sublist_append_left l rest)

theorem append_left (h : Precedes l x y) (front : List α) : Precedes (front ++ l) x y :=
  List.Sublist.trans h (List.sublist_append_right front l)

theorem concat_iff : Precedes (l ++ [k]) x y ↔ Precedes l x y ∨ x ∈ l ∧ y = k := by
  constructor
  · intro h
    obtain ⟨first, last, hsplit, hfirst, hlast⟩ := List.sublist_append_iff.mp h
    rcases List.sublist_cons_iff.mp hlast with hnil | ⟨rest, rfl, hnil⟩
    · rw [List.sublist_nil.mp hnil, List.append_nil] at hsplit
      rw [← hsplit] at hfirst
      exact .inl hfirst
    · rw [List.sublist_nil.mp hnil] at hsplit
      obtain ⟨hx, hy⟩ := List.append_inj' (show [x] ++ [y] = first ++ [k] from hsplit) rfl
      rw [← hx] at hfirst
      exact .inr ⟨List.singleton_sublist.mp hfirst, (List.cons.inj hy).1⟩
  · rintro (h | ⟨hx, rfl⟩)
    · exact h.append_right [k]
    · exact (List.singleton_sublist.mpr hx).append (List.Sublist.refl [y])

/-- One of two elements stands before the other. -/
theorem total (hx : x ∈ l) (hy : y ∈ l) (hne : x ≠ y) : Precedes l x y ∨ Precedes l y x := by
  induction l with
  | nil => cases hx
  | cons z rest ih =>
      rcases List.mem_cons.mp hx with rfl | hxrest
      · have hyrest := (List.mem_cons.mp hy).resolve_left hne.symm
        exact .inl ((List.singleton_sublist.mpr hyrest).cons_cons x)
      · rcases List.mem_cons.mp hy with rfl | hyrest
        · exact .inr ((List.singleton_sublist.mpr hxrest).cons_cons y)
        · exact (ih hxrest hyrest).imp (fun h => h.cons z) fun h => h.cons z

theorem irrefl (hnodup : l.Nodup) : ¬Precedes l x x := List.nodup_iff_sublist.mp hnodup x

end Precedes

namespace InOrderOf

/-- Nothing that is to stand behind the new element has been there before it. -/
theorem concat_left (h : InOrderOf l m) (hm : m.Nodup) (hk : ∀ y ∈ l, ¬Precedes m k y) :
    InOrderOf (l ++ [k]) m := by
  intro x hx y hy hbefore
  rw [Precedes.concat_iff]
  rcases List.mem_append.mp hx with hx | hx
  · rcases List.mem_append.mp hy with hy | hy
    · exact .inl (h x hx y hy hbefore)
    · exact .inr ⟨hx, List.mem_singleton.mp hy⟩
  · rw [List.mem_singleton.mp hx] at hbefore
    rcases List.mem_append.mp hy with hy | hy
    · exact absurd hbefore (hk y hy)
    · rw [List.mem_singleton.mp hy] at hbefore
      exact absurd hbefore (Precedes.irrefl hm)

/-- Nothing that stands behind the new element already has been in the order before it. -/
theorem concat_right (h : InOrderOf l m) (hnew : k ∉ m) (hk : ∀ y ∈ m, ¬Precedes l k y) :
    InOrderOf l (m ++ [k]) := by
  intro x hx y hy hbefore
  rcases Precedes.concat_iff.mp hbefore with hbefore | ⟨hxm, rfl⟩
  · exact h x hx y hy hbefore
  · have hne : x ≠ y := fun heq => hnew (heq ▸ hxm)
    exact (Precedes.total hx hy hne).resolve_right (hk x hxm)

/-- All of the order comes first. -/
theorem self_append (m l : List α) : InOrderOf (m ++ l) m :=
  fun _ _ _ _ hbefore => hbefore.append_right l

/-- What comes first is not in the order. -/
theorem append_left {n : List α} (h : InOrderOf l m) (hapart : ∀ x ∈ n, x ∉ m) :
    InOrderOf (n ++ l) m := by
  intro x hx y hy hbefore
  obtain ⟨hxm, hym⟩ := hbefore.mem
  have hxl := (List.mem_append.mp hx).resolve_left fun hn => hapart x hn hxm
  have hyl := (List.mem_append.mp hy).resolve_left fun hn => hapart y hn hym
  exact (h x hxl y hyl hbefore).append_left n

end InOrderOf

end Foundation
