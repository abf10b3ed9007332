import Mathlib.Data.Int.Log
import Mathlib.Data.Rat.Floor
import Mathlib.Tactic.Linarith
import Mathlib.Tactic.NormNum

/-! # Binary floating point

Rounding of rational numbers to the nearest value of a binary format, ties to even, and the
numbers that overflow or vanish.
-/

namespace Foundation

/-- The nearest integer; of two that are equally near, the even one. -/
def roundHalfEven (q : ℚ) : ℤ :=
  if q - ⌊q⌋ < 1 / 2 then ⌊q⌋
  else if 1 / 2 < q - ⌊q⌋ then ⌊q⌋ + 1
  else if ⌊q⌋ % 2 = 0 then ⌊q⌋ else ⌊q⌋ + 1

theorem roundHalfEven_mem (q : ℚ) : roundHalfEven q = ⌊q⌋ ∨ roundHalfEven q = ⌊q⌋ + 1 := by
  unfold roundHalfEven
  split_ifs <;> simp

/-- An even integer is above the rounded number if and only if it is more than one half above
the number. -/
theorem roundHalfEven_lt_iff {q : ℚ} {n : ℤ} (heven : n % 2 = 0) :
    roundHalfEven q < n ↔ q < n - 1 / 2 := by
  have hlow := Int.floor_le q
  have hhigh := Int.lt_floor_add_one q
  have hround := roundHalfEven_mem q
  rcases lt_trichotomy (⌊q⌋ + 1) n with hbelow | hnext | habove
  · have hcast : (⌊q⌋ : ℚ) + 1 + 1 ≤ n := by exact_mod_cast hbelow
    exact iff_of_true (by omega) (by linarith)
  · -- the floor is odd, so that a tie is rounded up
    have hcast : (⌊q⌋ : ℚ) + 1 = n := by exact_mod_cast hnext
    unfold roundHalfEven
    split_ifs with hsmall hlarge hfloor
    · exact iff_of_true (by omega) (by linarith)
    · exact iff_of_false (by omega) (by linarith)
    · omega
    · exact iff_of_false (by omega) (by linarith)
  · have hcast : (n : ℚ) ≤ ⌊q⌋ := by exact_mod_cast Int.lt_add_one_iff.mp habove
    exact iff_of_false (by omega) (by linarith)

theorem roundHalfEven_pos_iff {q : ℚ} (hq : 0 ≤ q) : 0 < roundHalfEven q ↔ 1 / 2 < q := by
  have hlow := Int.floor_le q
  have hhigh := Int.lt_floor_add_one q
  have hfloor : 0 ≤ ⌊q⌋ := Int.floor_nonneg.mpr hq
  have hround := roundHalfEven_mem q
  rcases eq_or_lt_of_le hfloor with hzero | hpos
  · -- the floor is even, so that a tie is rounded down
    have hcast : (⌊q⌋ : ℚ) = 0 := by exact_mod_cast hzero.symm
    unfold roundHalfEven
    split_ifs with hsmall hlarge hfloor
    · exact iff_of_false (by omega) (by linarith)
    · exact iff_of_true (by omega) (by linarith)
    · exact iff_of_false (by omega) (by linarith)
    · omega
  · have hcast : (1 : ℚ) ≤ ⌊q⌋ := by exact_mod_cast hpos
    exact iff_of_true (by omega) (by linarith)

/-- A binary format. Finite numbers are the multiples of a power of two, from `minExponent`
on, with at most `precision` bits, below the power of two to `maxExponent`. -/
structure FloatFormat where
  precision : ℕ
  minExponent : ℤ
  maxExponent : ℤ
  precision_pos : 0 < precision
  range : minExponent + precision ≤ maxExponent

namespace FloatFormat

/-- IEEE 754 `binary64`. -/
def binary64 : FloatFormat where
  precision := 53
  minExponent := -1074
  maxExponent := 1024
  precision_pos := by decide
  range := by decide

variable (format : FloatFormat)

/-- The exponent of the unit in the last place. -/
def lastPlace (q : ℚ) : ℤ := max (Int.log 2 q - (format.precision - 1)) format.minExponent

/-- The value of the format that is nearest to a number that is not negative; `none` when it
overflows. -/
def round (q : ℚ) : Option ℚ :=
  let value : ℚ := roundHalfEven (q / 2 ^ format.lastPlace q) * 2 ^ format.lastPlace q
  if value < 2 ^ format.maxExponent then some value else none

variable {format} {q value : ℚ}

theorem round_eq_some (hround : format.round q = some value) :
    value = roundHalfEven (q / 2 ^ format.lastPlace q) * 2 ^ format.lastPlace q := by
  obtain ⟨-, hsame⟩ := Option.ite_none_right_eq_some.mp hround
  exact (Option.some.inj hsame).symm

theorem round_zero (hround : format.round 0 = some value) : value = 0 := by
  have hzero : roundHalfEven 0 = 0 := by
    simp [roundHalfEven]
  rw [round_eq_some hround, zero_div, hzero, Int.cast_zero, zero_mul]

theorem log_le_self (hq : 0 < q) : (2 : ℚ) ^ Int.log 2 q ≤ q := by
  exact_mod_cast Int.zpow_log_le_self Nat.one_lt_two hq

theorem lt_succ_log_self (q : ℚ) : q < (2 : ℚ) ^ (Int.log 2 q + 1) := by
  exact_mod_cast Int.lt_zpow_succ_log_self Nat.one_lt_two q

theorem two_zpow_mono {low high : ℤ} (hle : low ≤ high) : (2 : ℚ) ^ low ≤ 2 ^ high :=
  zpow_le_zpow_right₀ (by norm_num) hle

theorem two_zpow_pred (exponent : ℤ) : (2 : ℚ) ^ (exponent - 1) = 2 ^ exponent / 2 := by
  rw [zpow_sub_one₀ (by norm_num), div_eq_mul_inv]

/-- A number vanishes up to half of the smallest positive value. -/
theorem round_pos_iff (hq : 0 < q) (hround : format.round q = some value) :
    0 < value ↔ (2 : ℚ) ^ (format.minExponent - 1) < q := by
  have hunit : (0 : ℚ) < 2 ^ format.lastPlace q := zpow_pos (by norm_num) _
  have hvalue : 0 < value ↔ (2 : ℚ) ^ (format.lastPlace q - 1) < q := by
    rw [round_eq_some hround, mul_pos_iff_of_pos_right hunit, Int.cast_pos,
      roundHalfEven_pos_iff (div_pos hq hunit).le, lt_div_iff₀ hunit, two_zpow_pred,
      one_div_mul_eq_div]
  rw [hvalue]
  rcases max_choice (Int.log 2 q - (format.precision - 1)) format.minExponent with hlog | hmin
  · have hpositive := format.precision_pos
    have hmin := le_max_right (Int.log 2 q - (format.precision - 1)) format.minExponent
    have hplace : format.lastPlace q = Int.log 2 q - (format.precision - 1) := hlog
    rw [hlog] at hmin
    have hbelow : (2 : ℚ) ^ (format.lastPlace q - 1) < q :=
      (zpow_lt_zpow_right₀ (by norm_num) (by omega)).trans_le (log_le_self hq)
    exact iff_of_true hbelow ((two_zpow_mono (by omega)).trans_lt hbelow)
  · rw [lastPlace, hmin]

/-- A number overflows from the middle between the largest value and the next power of two
on. -/
theorem round_isSome_iff (hq : 0 < q) :
    (format.round q).isSome ↔
      q < 2 ^ format.maxExponent - 2 ^ (format.maxExponent - format.precision - 1) := by
  have hrange := format.range
  have hpositive := format.precision_pos
  have hlow := log_le_self hq
  have hhigh := lt_succ_log_self q
  have hunit : (0 : ℚ) < 2 ^ format.lastPlace q := zpow_pos (by norm_num) _
  have hmin := le_max_right (Int.log 2 q - (format.precision - 1)) format.minExponent
  have hplace : format.lastPlace q =
    max (Int.log 2 q - (format.precision - 1)) format.minExponent := rfl
  have hsome : (format.round q).isSome ↔
      (roundHalfEven (q / 2 ^ format.lastPlace q) : ℚ) * 2 ^ format.lastPlace q <
        2 ^ format.maxExponent := by
    simp [round]
  rw [hsome]
  rcases lt_or_ge (format.lastPlace q) format.maxExponent with hinside | houtside
  · -- the power of two is an even multiple of the unit
    obtain ⟨difference, hdifference⟩ : ∃ difference : ℕ,
        format.maxExponent = format.lastPlace q + (difference + 1 : ℕ) :=
      ⟨(format.maxExponent - format.lastPlace q - 1).toNat, by omega⟩
    have hpower : (2 : ℚ) ^ format.maxExponent =
        ((2 ^ (difference + 1) : ℤ) : ℚ) * 2 ^ format.lastPlace q := by
      rw [hdifference, zpow_add₀ (by norm_num), zpow_natCast, mul_comm]
      push_cast
      rfl
    have heven : (2 ^ (difference + 1) : ℤ) % 2 = 0 := by
      rw [pow_succ]
      exact Int.mul_emod_left _ _
    have hbound : (roundHalfEven (q / 2 ^ format.lastPlace q) : ℚ) * 2 ^ format.lastPlace q <
        2 ^ format.maxExponent ↔ q < 2 ^ format.maxExponent - 2 ^ (format.lastPlace q - 1) := by
      rw [hpower, mul_lt_mul_iff_left₀ hunit, Int.cast_lt, roundHalfEven_lt_iff heven,
        div_lt_iff₀ hunit, sub_mul, two_zpow_pred, one_div_mul_eq_div]
    rw [hbound]
    have hhalf := two_zpow_pred format.maxExponent
    rcases lt_trichotomy (format.lastPlace q) (format.maxExponent - format.precision) with
      hbelow | hlast | habove
    · -- the number is below half of the power of two
      have hsmall : q < 2 ^ (format.maxExponent - 1) :=
        hhigh.trans_le (two_zpow_mono (by omega))
      have hplace := two_zpow_mono (by omega : format.lastPlace q - 1 ≤ format.maxExponent - 1)
      have hedge := two_zpow_mono (by omega :
        format.maxExponent - format.precision - 1 ≤ format.maxExponent - 1)
      exact iff_of_true (by linarith) (by linarith)
    · rw [hlast]
    · have hlarge : (2 : ℚ) ^ format.maxExponent ≤ q := (two_zpow_mono (by omega)).trans hlow
      have hplace : (0 : ℚ) < 2 ^ (format.lastPlace q - 1) := zpow_pos (by norm_num) _
      have hedge : (0 : ℚ) < 2 ^ (format.maxExponent - format.precision - 1) :=
        zpow_pos (by norm_num) _
      exact iff_of_false (by linarith) (by linarith)
  · have hlarge : (2 : ℚ) ^ format.maxExponent ≤ q := (two_zpow_mono (by omega)).trans hlow
    have hedge : (0 : ℚ) < 2 ^ (format.maxExponent - format.precision - 1) :=
      zpow_pos (by norm_num) _
    have hquotient : 1 ≤ q / 2 ^ format.lastPlace q := by
      rw [one_le_div hunit]
      exact (two_zpow_mono (by omega)).trans hlow
    have hpos : 0 < roundHalfEven (q / 2 ^ format.lastPlace q) :=
      (roundHalfEven_pos_iff (div_pos hq hunit).le).mpr (by linarith)
    have hone : (1 : ℚ) ≤ roundHalfEven (q / 2 ^ format.lastPlace q) := by exact_mod_cast hpos
    have hvalue := le_mul_of_one_le_left hunit.le hone
    have hover := two_zpow_mono houtside
    exact iff_of_false (by linarith) (by linarith)

end FloatFormat

end Foundation
