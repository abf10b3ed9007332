import Mathlib.Data.Int.ModEq
import Std.Data.String.ToNat
import CollabEditor.Backend.DocumentWorkerProxyService

/-! # The worker of a path segment

The endpoint that starts a session reads the segment as a number and routes by its decimal
form; the endpoint for joining routes by the segment itself.
-/

namespace CollabEditor.Backend

open Foundation

/-- The zeros of the decimal digits in the basic plane. -/
def decimalZeros : List Nat :=
  [0x0030, 0x0660, 0x06F0, 0x07C0, 0x0966, 0x09E6, 0x0A66, 0x0AE6, 0x0B66, 0x0BE6, 0x0C66, 0x0CE6,
    0x0D66, 0x0DE6, 0x0E50, 0x0ED0, 0x0F20, 0x1040, 0x1090, 0x17E0, 0x1810, 0x1946, 0x19D0, 0x1A80,
    0x1A90, 0x1B50, 0x1BB0, 0x1C40, 0x1C50, 0xA620, 0xA8D0, 0xA900, 0xA9D0, 0xA9F0, 0xAA50, 0xABF0,
    0xFF10]

/-- `Character.digit(c, 10)` of a code unit. -/
def characterDigit (c : Char) : Option Nat :=
  (decimalZeros.find? fun first => first ≤ c.toNat && c.toNat ≤ first + 9).map (c.toNat - ·)

def digitValue (c : Char) : Int := ((characterDigit c).getD 0 : Nat)

/-- The digits of `Long.parseLong` after the sign. -/
def parseDigits (digits : List Char) : Option Int :=
  if digits ≠ [] ∧ digits.all fun c => (characterDigit c).isSome then
    some (horner 10 (digits.map digitValue))
  else none

/-- The range of a `Long`. -/
def inLongRange (value : Int) : Option Int :=
  if -2 ^ 63 ≤ value ∧ value < 2 ^ 63 then some value else none

/-- `Long.valueOf`; `none` when it throws. -/
def longValueOf (text : String) : Option Int :=
  match text.toList with
  | '-' :: digits => (parseDigits digits).bind fun value => inLongRange (-value)
  | '+' :: digits => (parseDigits digits).bind inLongRange
  | digits => (parseDigits digits).bind inLongRange

/-- The segments that are routed like the number they denote. Leading zeros add a multiple of
the modulus of the hash when their number is divisible by a large power of two. -/
def RoutedAlike (text : String) (value : Int) : Prop :=
  if text.toList.all fun c => c.toNat < 128 then
    if 0 ≤ value then
      ∃ zeros, 2 ^ 24 ∣ zeros ∧
        text.toList = List.replicate zeros '0' ++ (toString value).toList
    else
      ∃ zeros, 2 ^ 27 ∣ zeros ∧
        text.toList = '-' :: (List.replicate zeros '0' ++ (toString value.natAbs).toList)
  else
    -- other decimal digits can only happen to have the same hash
    horner 31 (codeUnits text.toList) ≡ horner 31 (codeUnits (toString value).toList)
      [ZMOD 2 ^ 32]

/-! ## Decimal numerals -/

/-- An ASCII digit is written as the digit of its value. -/
theorem characterDigit_ascii {c : Char} (hascii : c.toNat < 128)
    (hdigit : (characterDigit c).isSome) :
    ∃ digit : Nat, digit < 10 ∧ digitValue c = digit ∧ c = digit.digitChar := by
  have hzeros : ∀ first ∈ decimalZeros, first = 48 ∨ 128 ≤ first := by decide
  obtain ⟨digit, hsome⟩ := Option.isSome_iff_exists.mp hdigit
  obtain ⟨first, hfind, hvalue⟩ := Option.map_eq_some_iff.mp hsome
  have hrange := List.find?_some hfind
  simp only [Bool.and_eq_true, decide_eq_true_eq] at hrange
  have hfirst : first = 48 := by
    have hmem := hzeros first (List.mem_of_find?_eq_some hfind)
    omega
  subst hfirst hvalue
  refine ⟨c.toNat - 48, by omega, by simp [digitValue, hsome], ?_⟩
  apply Char.toNat_inj.mp
  rw [Nat.toNat_digitChar_of_lt_ten (by omega)]
  omega

/-- Digits are leading zeros and the decimal form of their value. -/
theorem digits_eq {digits : List Char} (hascii : ∀ c ∈ digits, c.toNat < 128)
    (hdigits : ∀ c ∈ digits, (characterDigit c).isSome) (hnonempty : digits ≠ []) :
    ∃ zeros, ∃ n : Nat, horner 10 (digits.map digitValue) = n ∧
      digits = List.replicate zeros '0' ++ n.repr.toList := by
  induction digits using List.reverseRecOn with
  | nil => exact absurd rfl hnonempty
  | append_singleton front c ih =>
      have hmem : c ∈ front ++ [c] := by simp
      obtain ⟨digit, hlt, hvalue, rfl⟩ := characterDigit_ascii (hascii c hmem) (hdigits c hmem)
      have hlast : digit.repr.toList = [digit.digitChar] := by
        rw [Nat.toList_repr, Nat.toDigits_of_lt_base hlt]
      rw [List.map_append, List.map_singleton, horner_concat, hvalue]
      by_cases hfront : front = []
      · subst hfront
        exact ⟨0, digit, by simp, by simp [hlast]⟩
      · obtain ⟨zeros, n, hn, heq⟩ := ih (fun c hc => hascii c (List.mem_append_left _ hc))
          (fun c hc => hdigits c (List.mem_append_left _ hc)) hfront
        rw [hn]
        rcases Nat.eq_zero_or_pos n with rfl | hpos
        · -- one more leading zero
          refine ⟨zeros + 1, digit, by simp, ?_⟩
          rw [hlast, heq, List.replicate_succ']
          rfl
        · refine ⟨zeros, 10 * n + digit, by push_cast; ring, ?_⟩
          rw [heq, List.append_assoc, ← hlast, Nat.toList_repr, Nat.toList_repr, Nat.toList_repr,
            Nat.toDigits_append_toDigits (by decide) hpos hlt]

/-- The three forms of an accepted segment. -/
theorem longValueOf_cases {text : String} {value : Int}
    (hascii : ∀ c ∈ text.toList, c.toNat < 128) (hparse : longValueOf text = some value) :
    ∃ zeros, ∃ n : Nat,
      (value = n ∧ text.toList = List.replicate zeros '0' ++ n.repr.toList) ∨
      (value = n ∧ text.toList = '+' :: (List.replicate zeros '0' ++ n.repr.toList)) ∨
      (value = -n ∧ text.toList = '-' :: (List.replicate zeros '0' ++ n.repr.toList)) := by
  have hdigits : ∀ {digits : List Char} {read : Int}, (∀ c ∈ digits, c.toNat < 128) →
      parseDigits digits = some read →
      ∃ zeros, ∃ n : Nat, read = n ∧ digits = List.replicate zeros '0' ++ n.repr.toList := by
    intro digits read hascii hread
    obtain ⟨⟨hnonempty, hall⟩, hsome⟩ := Option.ite_none_right_eq_some.mp hread
    cases hsome
    exact digits_eq hascii (List.all_eq_true.mp hall) hnonempty
  have hrange : ∀ {read value : Int}, inLongRange read = some value → value = read := by
    intro read value hsome
    obtain ⟨-, hsame⟩ := Option.ite_none_right_eq_some.mp hsome
    exact (Option.some.inj hsame).symm
  unfold longValueOf at hparse
  split at hparse
  next digits htext =>
    rw [htext] at hascii ⊢
    obtain ⟨read, hread, hvalue⟩ := Option.bind_eq_some_iff.mp hparse
    obtain ⟨zeros, n, rfl, rfl⟩ := hdigits (fun c hc => hascii c (List.mem_cons_of_mem _ hc)) hread
    exact ⟨zeros, n, .inr (.inr ⟨hrange hvalue, rfl⟩)⟩
  next digits htext =>
    rw [htext] at hascii ⊢
    obtain ⟨read, hread, hvalue⟩ := Option.bind_eq_some_iff.mp hparse
    obtain ⟨zeros, n, rfl, rfl⟩ := hdigits (fun c hc => hascii c (List.mem_cons_of_mem _ hc)) hread
    exact ⟨zeros, n, .inr (.inl ⟨hrange hvalue, rfl⟩)⟩
  next =>
    obtain ⟨read, hread, hvalue⟩ := Option.bind_eq_some_iff.mp hparse
    obtain ⟨zeros, n, rfl, heq⟩ := hdigits hascii hread
    exact ⟨zeros, n, .inl ⟨hrange hvalue, heq⟩⟩

/-! ## What the additional characters add to the hash -/

theorem odd_base_pow (exponent : Nat) : Odd ((31 : Int) ^ exponent) :=
  Odd.pow (by decide)

/-- The leading zeros, multiplied out. -/
theorem five_mul_zeros (zeros : Nat) :
    5 * horner (31 : Int) (List.replicate zeros 48) = 8 * (31 ^ zeros - 1) := by
  have hsum := horner_replicate (31 : Int) zeros 48
  omega

theorem zeros_dvd_iff (zeros tail : Nat) :
    (2 ^ 32 : Int) ∣ horner 31 (List.replicate zeros 48) * 31 ^ tail ↔ 2 ^ 24 ∣ zeros := by
  have hfive : Odd (5 : Int) := by decide
  have height : (2 ^ 32 : Int) = 8 * 2 ^ (5 + 24) := by norm_num
  rw [mul_comm, odd_dvd_mul_iff (odd_base_pow tail), ← odd_dvd_mul_iff hfive, five_mul_zeros,
    height, mul_dvd_mul_iff_left (by decide), two_pow_dvd_pow_sub_one_iff (by decide)]

theorem minus_zeros_dvd_iff (zeros tail : Nat) :
    (2 ^ 32 : Int) ∣ (45 * (31 ^ zeros - 1) + horner 31 (List.replicate zeros 48)) * 31 ^ tail ↔
      2 ^ 27 ∣ zeros := by
  have hfive : Odd (5 : Int) := by decide
  have hfactor : Odd (233 : Int) := by decide
  have hsum : 5 * (45 * (31 ^ zeros - 1) + horner (31 : Int) (List.replicate zeros 48)) =
      233 * (31 ^ zeros - 1) := by
    have hzeros := five_mul_zeros zeros
    omega
  rw [mul_comm, odd_dvd_mul_iff (odd_base_pow tail), ← odd_dvd_mul_iff hfive, hsum,
    odd_dvd_mul_iff hfactor, ← two_pow_dvd_pow_sub_one_iff (by decide)]

/-- A sign that the decimal form does not have is an odd number times an odd power. -/
theorem sign_not_dvd {sign : Int} (hsign : Odd sign) (zeros tail : Nat) :
    ¬(2 ^ 32 : Int) ∣
      (sign * 31 ^ zeros + horner 31 (List.replicate zeros 48)) * 31 ^ tail := by
  intro hdvd
  rw [mul_comm, odd_dvd_mul_iff (odd_base_pow tail)] at hdvd
  have hodd := hsign.mul (odd_base_pow zeros)
  have hzeros := five_mul_zeros zeros
  obtain ⟨half, hhalf⟩ := hodd
  rw [hhalf] at hdvd
  omega

theorem codeUnits_append (front back : List Char) :
    codeUnits (front ++ back) = codeUnits front ++ codeUnits back :=
  List.flatMap_append

theorem codeUnits_zeros (zeros : Nat) :
    codeUnits (List.replicate zeros '0') = List.replicate zeros 48 := by
  induction zeros with
  | zero => rfl
  | succ zeros ih =>
      rw [List.replicate_succ, List.replicate_succ, ← ih]
      rfl

/-- The hash of the leading zeros in front of a numeral. -/
theorem horner_zeros (zeros : Nat) (numeral : List Char) :
    horner 31 (codeUnits (List.replicate zeros '0' ++ numeral)) =
      horner 31 (List.replicate zeros 48) * 31 ^ (codeUnits numeral).length +
        horner 31 (codeUnits numeral) := by
  rw [codeUnits_append, codeUnits_zeros, horner_append]

/-- The hash of a sign and leading zeros in front of a numeral. -/
theorem horner_sign_zeros {sign : Char} (hsign : sign.toNat < 0x10000) (zeros : Nat)
    (numeral : List Char) :
    horner 31 (codeUnits (sign :: (List.replicate zeros '0' ++ numeral))) =
      (sign.toNat * 31 ^ zeros + horner 31 (List.replicate zeros 48)) *
          31 ^ (codeUnits numeral).length + horner 31 (codeUnits numeral) := by
  have hcons : codeUnits (sign :: (List.replicate zeros '0' ++ numeral)) =
      (sign.toNat : Int) :: codeUnits (List.replicate zeros '0' ++ numeral) := by
    rw [codeUnits, List.flatMap_cons, if_pos hsign]
    rfl
  rw [hcons, horner_cons, horner_zeros, codeUnits_append, codeUnits_zeros, List.length_append,
    List.length_replicate, pow_add]
  ring

theorem zeros_unique {zeros other : Nat} {numeral : List Char} :
    List.replicate zeros '0' ++ numeral = List.replicate other '0' ++ numeral ↔ zeros = other := by
  constructor
  · intro hsame
    have hlength := congrArg List.length hsame
    simpa using hlength
  · rintro rfl
    rfl

/-- No number of leading zeros makes up for a sign. -/
theorem sign_ne_zeros {sign : Char} (hsign : sign ≠ '0') {zeros other : Nat}
    {numeral : List Char} :
    sign :: (List.replicate zeros '0' ++ numeral) ≠ List.replicate other '0' ++ numeral := by
  intro hsame
  have hlength := congrArg List.length hsame
  simp only [List.length_cons, List.length_append, List.length_replicate] at hlength
  obtain ⟨lower, rfl⟩ : ∃ lower, other = lower + 1 := ⟨zeros, by omega⟩
  rw [List.replicate_succ, List.cons_append] at hsame
  exact hsign (List.cons_eq_cons.mp hsame).1

theorem toString_natCast (n : Nat) : toString (n : Int) = n.repr := by
  rw [Int.toString_eq_repr, Int.repr_eq_if, if_pos (Int.natCast_nonneg n), Int.toNat_natCast]

theorem toString_neg {n : Nat} (hpos : 0 < n) : toString (-(n : Int)) = "-" ++ n.repr := by
  rw [Int.toString_eq_repr, Int.repr_eq_if, if_neg (by omega), neg_neg, Int.toNat_natCast]

/-- The hash before it is cut to 32 bits. -/
def SameHash (text other : String) : Prop :=
  horner 31 (codeUnits text.toList) ≡ horner 31 (codeUnits other.toList) [ZMOD 2 ^ 32]

theorem sameHash_iff_dvd {text other : String} {added : Int}
    (hadded : horner 31 (codeUnits text.toList) =
      added + horner 31 (codeUnits other.toList)) :
    SameHash text other ↔ (2 ^ 32 : Int) ∣ added := by
  rw [SameHash, Int.modEq_comm, Int.modEq_iff_dvd, hadded, add_sub_cancel_right]

/-- The form of a segment decides whether its hash is that of the number. -/
theorem sameHash_iff_routedAlike {text : String} {value : Int}
    (hparse : longValueOf text = some value) :
    SameHash text (toString value) ↔ RoutedAlike text value := by
  unfold RoutedAlike
  split
  next hall =>
    have hascii : ∀ c ∈ text.toList, c.toNat < 128 := by simpa using hall
    obtain ⟨zeros, n, ⟨rfl, htext⟩ | ⟨rfl, htext⟩ | ⟨rfl, htext⟩⟩ := longValueOf_cases hascii hparse
    · rw [if_pos (Int.natCast_nonneg n), sameHash_iff_dvd (by
        rw [htext, toString_natCast, horner_zeros]), zeros_dvd_iff, htext, toString_natCast]
      simp only [zeros_unique, exists_eq_right']
    · rw [if_pos (Int.natCast_nonneg n), sameHash_iff_dvd (by
        rw [htext, toString_natCast, horner_sign_zeros (by decide)]), htext, toString_natCast]
      refine iff_of_false (sign_not_dvd (by decide) zeros _) ?_
      rintro ⟨other, -, hsame⟩
      exact sign_ne_zeros (by decide) hsame
    · rcases Nat.eq_zero_or_pos n with rfl | hpos
      · rw [Int.natCast_zero, neg_zero, if_pos (Int.le_refl 0), sameHash_iff_dvd (by
          rw [htext, ← Int.natCast_zero, toString_natCast, horner_sign_zeros (by decide)]), htext]
        refine iff_of_false (sign_not_dvd (by decide) zeros _) ?_
        rintro ⟨other, -, hsame⟩
        exact sign_ne_zeros (by decide) hsame
      · have hminus : (toString (-(n : Int))).toList =
            '-' :: (List.replicate 0 '0' ++ n.repr.toList) := by
          rw [toString_neg hpos, String.toList_append]
          rfl
        have hadded : horner 31 (codeUnits text.toList) =
            (45 * (31 ^ zeros - 1) + horner 31 (List.replicate zeros 48)) *
              31 ^ (codeUnits n.repr.toList).length +
            horner 31 (codeUnits (toString (-(n : Int))).toList) := by
          rw [htext, hminus, horner_sign_zeros (by decide), horner_sign_zeros (by decide)]
          simp only [List.replicate_zero, horner_nil, pow_zero]
          push_cast
          ring
        have hnumeral : toString n = n.repr := rfl
        rw [if_neg (by omega), sameHash_iff_dvd hadded, minus_zeros_dvd_iff, htext,
          Int.natAbs_neg, Int.natAbs_natCast, hnumeral]
        simp only [List.cons.injEq, true_and, zeros_unique, exists_eq_right']
  next => rfl

/-! ## Routing -/

theorem hashCode_eq_iff {text other : String} :
    hashCode text = hashCode other ↔ SameHash text other := by
  rw [hashCode, hashCode, Int.bmod_eq_bmod_iff_bmod_sub_eq_zero, ← Int.dvd_iff_bmod_eq_zero,
    SameHash, Int.modEq_comm, Int.modEq_iff_dvd]
  rfl

/-- `floorMod` stays within the list, also for a negative hash. -/
theorem workerForDocument_eq {router : RouterProperties} (hworkers : router.workers ≠ [])
    (documentId : String) :
    ∃ worker ∈ router.workers,
      router.workers[(hashCode documentId % router.workers.length).toNat]? = some worker ∧
        WorkerRoutingService.workerForDocument router documentId = .ok worker := by
  have hlength : (0 : Int) < router.workers.length := by
    exact_mod_cast List.length_pos_iff.mpr hworkers
  have hlow := Int.emod_nonneg (hashCode documentId) hlength.ne'
  have hhigh := Int.emod_lt_of_pos (hashCode documentId) hlength
  have hbound : (hashCode documentId % router.workers.length).toNat < router.workers.length := by
    omega
  have hentry := List.getElem?_eq_getElem hbound
  exact ⟨_, List.getElem_mem hbound, hentry,
    by rw [WorkerRoutingService.workerForDocument, hentry]⟩

/-- Workers that can be told apart. -/
def numberedRouter (count : Nat) : RouterProperties where
  workerBearerToken := none
  workers := (List.range count).map fun number => ⟨some number.repr⟩

theorem numberedRouter_index {count : Nat} {documentId : String} {worker : RouterWorker}
    (hworker : WorkerRoutingService.workerForDocument (numberedRouter count) documentId =
      .ok worker) :
    worker = ⟨some (hashCode documentId % count).toNat.repr⟩ := by
  unfold WorkerRoutingService.workerForDocument at hworker
  split at hworker
  next => cases hworker
  next found hfound =>
    cases hworker
    simp only [numberedRouter, List.length_map, List.length_range, List.getElem?_map,
      Option.map_eq_some_iff] at hfound
    obtain ⟨number, hnumber, rfl⟩ := hfound
    obtain ⟨hlt, hnumber⟩ := List.getElem?_eq_some_iff.mp hnumber
    rw [List.getElem_range] at hnumber
    rw [hnumber]

/-- Two hashes that differ are told apart by a list that is longer than their distance. -/
theorem same_worker_iff_hashCode {text other : String} :
    (∀ router : RouterProperties, router.workers ≠ [] → ∃ worker ∈ router.workers,
      WorkerRoutingService.workerForDocument router text = .ok worker ∧
        WorkerRoutingService.workerForDocument router other = .ok worker) ↔
      hashCode text = hashCode other := by
  constructor
  · intro hsame
    let count := (hashCode text - hashCode other).natAbs + 1
    obtain ⟨worker, -, hfirst, hsecond⟩ := hsame (numberedRouter count)
      (by simp [numberedRouter, count])
    have hrepr := (numberedRouter_index hfirst).symm.trans (numberedRouter_index hsecond)
    simp only [RouterWorker.mk.injEq, Option.some.injEq, Nat.repr_inj] at hrepr
    have hcount : (0 : Int) < count := by omega
    have hfirst := Int.emod_nonneg (hashCode text) hcount.ne'
    have hsecond := Int.emod_nonneg (hashCode other) hcount.ne'
    have hmod : hashCode other ≡ hashCode text [ZMOD count] := by
      rw [Int.ModEq]
      omega
    have hzero := Int.eq_zero_of_abs_lt_dvd hmod.dvd (by rw [Int.abs_eq_natAbs]; omega)
    omega
  · intro hhash router hworkers
    obtain ⟨worker, hmem, hentry, hworker⟩ := workerForDocument_eq hworkers text
    refine ⟨worker, hmem, hworker, ?_⟩
    rw [WorkerRoutingService.workerForDocument, ← hhash, hentry]

/-- Every document has a worker, and a segment has the worker of its number in every
configuration if and only if it is written like one. -/
theorem same_worker_iff {text : String} {value : Int} (hparse : longValueOf text = some value) :
    (∀ router : RouterProperties, router.workers ≠ [] → ∃ worker ∈ router.workers,
      WorkerRoutingService.workerForDocument router text = .ok worker ∧
        WorkerRoutingService.workerForDocument router (toString value) = .ok worker) ↔
      RoutedAlike text value :=
  same_worker_iff_hashCode.trans (hashCode_eq_iff.trans (sameHash_iff_routedAlike hparse))

/-- The decimal form itself. -/
theorem same_worker_iff_seven : longValueOf "7" = some 7 ∧ RoutedAlike "7" 7 ∧
    ∀ router : RouterProperties, router.workers ≠ [] → ∃ worker ∈ router.workers,
      WorkerRoutingService.workerForDocument router "7" = .ok worker ∧
        WorkerRoutingService.workerForDocument router (toString (7 : Int)) = .ok worker := by
  have hparse : longValueOf "7" = some 7 := by decide +kernel
  have halike : RoutedAlike "7" 7 := by
    rw [RoutedAlike, if_pos (by decide +kernel), if_pos (by decide)]
    exact ⟨0, Nat.dvd_zero _, by decide +kernel⟩
  exact ⟨hparse, halike, (same_worker_iff hparse).mpr halike⟩

/-- With a plus sign, document 7 goes to the other one of two workers. -/
theorem plus_sign_changes_worker :
    ¬ ∀ (router : RouterProperties) (text : String) (value : Int), router.workers ≠ [] →
      longValueOf text = some value → WorkerRoutingService.workerForDocument router text =
        WorkerRoutingService.workerForDocument router (toString value) := by
  intro hclaim
  have hsame := hclaim (numberedRouter 2) "+7" 7 (by decide) (by decide +kernel)
  revert hsame
  decide +kernel

end CollabEditor.Backend
