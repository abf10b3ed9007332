import Mathlib.Logic.Basic

/-! # Peeling a fallible computation apart -/

namespace Foundation

universe uError u

variable {ε : Type uError} {α β : Type u}

/-- A sequence succeeds when its first part does and its rest does on the result. -/
@[simp] theorem Except.bind_eq_ok_iff {x : Except ε α} {f : α → Except ε β} {b : β} :
    (x >>= f) = .ok b ↔ ∃ a, x = .ok a ∧ f a = .ok b := by
  cases x with
  | error e => simp [bind, Except.bind]
  | ok a => simp [bind, Except.bind]

@[simp] theorem Except.pure_eq_ok_iff {a b : α} :
    (pure a : Except ε α) = .ok b ↔ a = b := by
  simp [pure, Except.pure]

theorem Except.exists_of_isOk {x : Except ε α} (hok : x.isOk = true) :
    ∃ a, x = .ok a := by
  cases x with
  | error e => cases hok
  | ok a => exact ⟨a, rfl⟩

end Foundation
