import Mathlib.Logic.Basic

/-! # Resources with one owner each

Resources are acquired, handed over and released. Who owns which is a relation, and
the live resources are those that somebody owns, each of them one owner.
-/

namespace Foundation

universe uOwner uResource

/-- Every live resource has exactly one owner, and no other resource has any. -/
structure Ownership {Owner : Type uOwner} {Resource : Type uResource}
    (owns : Owner → Resource → Prop) (live : Resource → Prop) : Prop where
  lives : ∀ owner resource, owns owner resource → live resource
  unique : ∀ owner other resource, owns owner resource → owns other resource → owner = other
  owned : ∀ resource, live resource → ∃ owner, owns owner resource

namespace Ownership

variable {Owner : Type uOwner} {Resource : Type uResource}
variable {owns after : Owner → Resource → Prop} {live alive : Resource → Prop}

/-- Nothing is owned. -/
theorem of_none (hnone : ∀ owner resource, ¬ owns owner resource)
    (hdead : ∀ resource, ¬ live resource) : Ownership owns live where
  lives owner resource howns := absurd howns (hnone owner resource)
  unique owner _ resource howns := absurd howns (hnone owner resource)
  owned resource hlive := absurd hlive (hdead resource)

theorem congr (h : Ownership owns live)
    (howns : ∀ owner resource, after owner resource ↔ owns owner resource)
    (hlive : ∀ resource, alive resource ↔ live resource) : Ownership after alive where
  lives owner resource hafter :=
    (hlive resource).mpr (h.lives owner resource ((howns owner resource).mp hafter))
  unique owner other resource hfirst hsecond :=
    h.unique owner other resource ((howns owner resource).mp hfirst)
      ((howns other resource).mp hsecond)
  owned resource halive := by
    obtain ⟨owner, howner⟩ := h.owned resource ((hlive resource).mp halive)
    exact ⟨owner, (howns owner resource).mpr howner⟩

/-- A new resource gets an owner. -/
theorem acquire (h : Ownership owns live) (acquirer : Owner) {fresh : Resource}
    (hfresh : ¬ live fresh)
    (howns : ∀ owner resource, after owner resource ↔
      owns owner resource ∨ owner = acquirer ∧ resource = fresh)
    (hlive : ∀ resource, alive resource ↔ live resource ∨ resource = fresh) :
    Ownership after alive where
  lives owner resource hafter := by
    rcases (howns owner resource).mp hafter with hold | ⟨-, hnew⟩
    · exact (hlive resource).mpr (.inl (h.lives owner resource hold))
    · exact (hlive resource).mpr (.inr hnew)
  unique owner other resource hfirst hsecond := by
    rcases (howns owner resource).mp hfirst with hfirst | ⟨hfirst, hnew⟩
    · rcases (howns other resource).mp hsecond with hsecond | ⟨-, hnew⟩
      · exact h.unique owner other resource hfirst hsecond
      · exact absurd (hnew ▸ h.lives owner resource hfirst) hfresh
    · rcases (howns other resource).mp hsecond with hsecond | ⟨hsecond, -⟩
      · exact absurd (hnew ▸ h.lives other resource hsecond) hfresh
      · exact hfirst.trans hsecond.symm
  owned resource halive := by
    rcases (hlive resource).mp halive with hold | hnew
    · obtain ⟨owner, howner⟩ := h.owned resource hold
      exact ⟨owner, (howns owner resource).mpr (.inl howner)⟩
    · exact ⟨acquirer, (howns acquirer resource).mpr (.inr ⟨rfl, hnew⟩)⟩

/-- A live resource is handed over. -/
theorem transfer (h : Ownership owns live) (receiver : Owner) {handed : Resource}
    (hhanded : live handed)
    (howns : ∀ owner resource, after owner resource ↔
      owns owner resource ∧ resource ≠ handed ∨ owner = receiver ∧ resource = handed)
    (hlive : ∀ resource, alive resource ↔ live resource) : Ownership after alive where
  lives owner resource hafter := by
    rcases (howns owner resource).mp hafter with ⟨hold, -⟩ | ⟨-, hnew⟩
    · exact (hlive resource).mpr (h.lives owner resource hold)
    · exact (hlive resource).mpr (hnew ▸ hhanded)
  unique owner other resource hfirst hsecond := by
    rcases (howns owner resource).mp hfirst with ⟨hfirst, hne⟩ | ⟨hfirst, hnew⟩
    · rcases (howns other resource).mp hsecond with ⟨hsecond, -⟩ | ⟨-, hnew⟩
      · exact h.unique owner other resource hfirst hsecond
      · exact absurd hnew hne
    · rcases (howns other resource).mp hsecond with ⟨-, hne⟩ | ⟨hsecond, -⟩
      · exact absurd hnew hne
      · exact hfirst.trans hsecond.symm
  owned resource halive := by
    by_cases heq : resource = handed
    · exact ⟨receiver, (howns receiver resource).mpr (.inr ⟨rfl, heq⟩)⟩
    · obtain ⟨owner, howner⟩ := h.owned resource ((hlive resource).mp halive)
      exact ⟨owner, (howns owner resource).mpr (.inl ⟨howner, heq⟩)⟩

/-- A resource is given up. -/
theorem release (h : Ownership owns live) (released : Resource)
    (howns : ∀ owner resource, after owner resource ↔
      owns owner resource ∧ resource ≠ released)
    (hlive : ∀ resource, alive resource ↔ live resource ∧ resource ≠ released) :
    Ownership after alive where
  lives owner resource hafter := by
    obtain ⟨hold, hne⟩ := (howns owner resource).mp hafter
    exact (hlive resource).mpr ⟨h.lives owner resource hold, hne⟩
  unique owner other resource hfirst hsecond :=
    h.unique owner other resource ((howns owner resource).mp hfirst).1
      ((howns other resource).mp hsecond).1
  owned resource halive := by
    obtain ⟨hlived, hne⟩ := (hlive resource).mp halive
    obtain ⟨owner, howner⟩ := h.owned resource hlived
    exact ⟨owner, (howns owner resource).mpr ⟨howner, hne⟩⟩

end Ownership

end Foundation
