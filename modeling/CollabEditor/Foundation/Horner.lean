import Mathlib.NumberTheory.Multiplicity
import Mathlib.Algebra.Ring.Int.Parity
import Mathlib.Tactic.Ring

/-! # Positional numerals

Evaluation of a list of digits, and when a power of two divides what leading digits add.
-/

namespace Foundation

section Horner

variable {R : Type*} [CommRing R] (base : R)

/-- The value of the digits, the leading one first. -/
def horner (digits : List R) : R :=
  digits.foldl (fun value digit => base * value + digit) 0

@[simp] theorem horner_nil : horner base [] = 0 := rfl

theorem horner_concat (digits : List R) (digit : R) :
    horner base (digits ++ [digit]) = base * horner base digits + digit := by
  rw [horner, List.foldl_append]
  rfl

theorem horner_append (front back : List R) :
    horner base (front ++ back) = horner base front * base ^ back.length + horner base back := by
  induction back using List.reverseRecOn with
  | nil => simp
  | append_singleton back digit ih =>
      rw [← List.append_assoc, horner_concat, ih, horner_concat, List.length_append,
        List.length_singleton, pow_succ]
      ring

theorem horner_singleton (digit : R) : horner base [digit] = digit := by
  simpa using horner_concat base [] digit

theorem horner_cons (digit : R) (rest : List R) :
    horner base (digit :: rest) = digit * base ^ rest.length + horner base rest := by
  rw [← List.singleton_append, horner_append, horner_singleton]

/-- A geometric sum. -/
theorem horner_replicate (count : Nat) (digit : R) :
    (base - 1) * horner base (List.replicate count digit) = digit * (base ^ count - 1) := by
  induction count with
  | zero => simp
  | succ count ih =>
      rw [List.replicate_succ', horner_concat, mul_add, mul_left_comm, ih, pow_succ]
      ring

end Horner

/-! ## Powers of two -/

theorem odd_dvd_mul_iff {factor value : Int} (hfactor : Odd factor) (exponent : Nat) :
    (2 ^ exponent : Int) ∣ factor * value ↔ (2 ^ exponent : Int) ∣ value := by
  have hprime : ¬(2 : Int) ∣ factor := by
    rwa [← even_iff_two_dvd, Int.not_even_iff_odd]
  exact ⟨Int.prime_two.pow_dvd_of_dvd_mul_left exponent hprime, fun hdvd => hdvd.mul_left factor⟩

/-- An odd power of 31 leaves the remainder of -1. -/
theorem four_not_dvd_pow_sub_one {count : Nat} (hcount : Odd count) :
    ¬(4 : Int) ∣ 31 ^ count - 1 := by
  intro hdvd
  have hpower : (31 : Int) ^ count ≡ (-1) ^ count [ZMOD 4] := Int.ModEq.pow count (by decide)
  rw [hcount.neg_one_pow] at hpower
  have hdiff := hpower.dvd
  omega

/-- Lifting the exponent: the square of 31 is one above an odd multiple of 64. -/
theorem two_pow_dvd_square_pow_iff (exponent count : Nat) :
    (2 ^ (6 + exponent) : Int) ∣ 961 ^ count - 1 ↔ 2 ^ exponent ∣ count := by
  have hlift := Int.two_pow_sub_pow' (x := 961) (y := 1) count (by decide) (by decide)
  have hbase : emultiplicity (2 : Int) (961 - 1) = (6 : Nat) :=
    emultiplicity_eq_coe.mpr ⟨by decide, by decide⟩
  rw [one_pow, hbase] at hlift
  rw [pow_dvd_iff_le_emultiplicity, hlift, Nat.cast_add,
    ENat.add_le_add_iff_left (ENat.natCast_ne_top 6), ← pow_dvd_iff_le_emultiplicity]
  exact_mod_cast Iff.rfl

theorem two_pow_dvd_pow_sub_one_iff {exponent : Nat} (hexponent : 0 < exponent) (count : Nat) :
    (2 ^ (5 + exponent) : Int) ∣ 31 ^ count - 1 ↔ 2 ^ exponent ∣ count := by
  obtain ⟨lower, rfl⟩ := Nat.exists_eq_succ_of_ne_zero hexponent.ne'
  rcases Nat.even_or_odd' count with ⟨half, rfl | rfl⟩
  · have hexponents : 5 + (lower + 1) = 6 + lower := by omega
    rw [hexponents, pow_mul, pow_succ 2 lower, Nat.mul_comm 2 half,
      Nat.mul_dvd_mul_iff_right Nat.two_pos]
    exact two_pow_dvd_square_pow_iff lower half
  · have hodd : Odd (2 * half + 1) := ⟨half, rfl⟩
    refine iff_of_false (fun hdvd => four_not_dvd_pow_sub_one hodd (dvd_trans ?_ hdvd))
      fun hdvd => Nat.not_even_iff_odd.mpr hodd (even_iff_two_dvd.mpr (dvd_trans ?_ hdvd))
    · exact pow_dvd_pow (2 : Int) (by omega : 2 ≤ 5 + (lower + 1))
    · exact dvd_pow_self 2 (Nat.succ_ne_zero lower)

end Foundation
