import Mathlib.Data.Finset.Card
import Mathlib.Data.Finset.Lattice.Lemmas

/-! # Sets of operations with causal dependencies

A replica integrates an operation when it has all that the operation depends on. Of a
set of operations it integrates the largest closed part; the others stay pending.
-/

namespace Foundation.Causal

variable {Op : Type*} [DecidableEq Op] (dependencies : Op → Finset Op)

/-- Every operation stands with all that it depends on. -/
def Closed (ops : Finset Op) : Prop := ∀ op ∈ ops, dependencies op ⊆ ops

/-- Set the operations with a missing dependency aside, and again those that miss them. -/
def settle : Nat → Finset Op → Finset Op
  | 0, ops => ops
  | fuel + 1, ops => settle fuel (ops.filter fun op => dependencies op ⊆ ops)

/-- The operations that can be integrated. -/
def integrable (ops : Finset Op) : Finset Op := settle dependencies ops.card ops

variable {dependencies}

/-- Operations that depend on a closed set and on each other extend it. -/
theorem Closed.union {ops created : Finset Op} (hclosed : Closed dependencies ops)
    (hcreated : ∀ op ∈ created, dependencies op ⊆ ops ∪ created) :
    Closed dependencies (ops ∪ created) := by
  intro op hop
  rcases Finset.mem_union.mp hop with hop | hop
  · exact (hclosed op hop).trans Finset.subset_union_left
  · exact hcreated op hop

theorem settle_subset (fuel : Nat) (ops : Finset Op) : settle dependencies fuel ops ⊆ ops := by
  induction fuel generalizing ops with
  | zero => exact Finset.Subset.refl _
  | succ fuel ih => exact (ih _).trans (Finset.filter_subset _ _)

/-- A closed set survives in all that it is a part of. -/
theorem Closed.subset_settle {ops : Finset Op} (hclosed : Closed dependencies ops) (fuel : Nat)
    {larger : Finset Op} (hsubset : ops ⊆ larger) : ops ⊆ settle dependencies fuel larger := by
  induction fuel generalizing larger with
  | zero => exact hsubset
  | succ fuel ih =>
      apply ih
      intro op hop
      exact Finset.mem_filter.mpr ⟨hsubset hop, (hclosed op hop).trans hsubset⟩

/-- Each round sets an operation aside, until no operation misses a dependency. -/
theorem closed_settle {fuel : Nat} {ops : Finset Op} (hfuel : ops.card ≤ fuel) :
    Closed dependencies (settle dependencies fuel ops) := by
  induction fuel generalizing ops with
  | zero =>
      have hempty : ops = ∅ := Finset.card_eq_zero.mp (Nat.le_zero.mp hfuel)
      subst hempty
      exact fun op hop => absurd hop (Finset.notMem_empty op)
  | succ fuel ih =>
      have hsubset : (ops.filter fun op => dependencies op ⊆ ops) ⊆ ops := Finset.filter_subset _ _
      rcases hsubset.eq_or_ssubset with hall | hless
      · have hclosed : Closed dependencies ops := Finset.filter_eq_self.mp hall
        have hkept : settle dependencies (fuel + 1) ops = ops :=
          (settle_subset _ _).antisymm (hclosed.subset_settle _ (Finset.Subset.refl _))
        rw [hkept]
        exact hclosed
      · apply ih
        have hcard := Finset.card_lt_card hless
        omega

theorem integrable_subset (ops : Finset Op) : integrable dependencies ops ⊆ ops :=
  settle_subset _ _

theorem closed_integrable (ops : Finset Op) : Closed dependencies (integrable dependencies ops) :=
  closed_settle (Nat.le_refl _)

theorem Closed.subset_integrable {ops larger : Finset Op} (hclosed : Closed dependencies ops)
    (hsubset : ops ⊆ larger) : ops ⊆ integrable dependencies larger :=
  hclosed.subset_settle _ hsubset

/-- What has been integrated stays integrated. -/
theorem integrable_mono {ops larger : Finset Op} (hsubset : ops ⊆ larger) :
    integrable dependencies ops ⊆ integrable dependencies larger :=
  (closed_integrable ops).subset_integrable ((integrable_subset ops).trans hsubset)

end Foundation.Causal
