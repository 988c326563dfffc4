import SchemaCatalog.Json.Number
import SchemaCatalog.Proofs.Binary64.Rounding
import Mathlib.Tactic.SplitIfs

/-!
# The range of numbers

A literal counts as too large by a product of two rounded numbers, not by its exact magnitude. The
two agree up to sixteen digits of the largest magnitude.

* `Json.Literal.magnitude`: the exact magnitude.
* `Json.Literal.inRange_of_magnitude_le`: **up to `Binary64.decimalBound` every literal is in
  range**.
-/

namespace SchemaCatalog.Json.Literal

open Nat (ofDigitChars)

variable {n : Nat}

/-- The exponent, zero if there is none. -/
def power (l : Literal) : Int :=
  match l.exponent with
  | some (true, ds) => -(ofDigitChars 10 ds 0 : Int)
  | some (false, ds) => ofDigitChars 10 ds 0
  | none => 0

def magnitude (l : Literal) : ℚ :=
  ofDigitChars 10 (l.whole ++ l.fraction.getD []) 0 *
    10 ^ (l.power - (l.fraction.getD []).length)

/-! ## Leading digits -/

theorem mul_pow_le_ofDigitChars (n : Nat) (cs : List Char) :
    n * 10 ^ cs.length ≤ ofDigitChars 10 cs n := by
  rw [Nat.ofDigitChars_eq_ofDigitChars_zero, mul_comm]
  exact Nat.le_add_right _ _

theorem wholePart_spec (cs : List Char) (hn : n ≤ maxSignificand) :
    (wholePart n cs).1 ≤ maxSignificand ∧
      ((wholePart n cs).2 = 0 ∧ (wholePart n cs).1 = ofDigitChars 10 cs n ∨
        ∃ e, (wholePart n cs).2 = e + 1 ∧
          (wholePart n cs).1 * 10 ^ (e + 1) ≤ ofDigitChars 10 cs n ∧
          maxSignificand * 10 ^ e ≤ ofDigitChars 10 cs n) := by
  fun_induction wholePart n cs with
  | case1 n => exact ⟨hn, .inl ⟨rfl, rfl⟩⟩
  | case2 n c cs n' hle ih =>
    rw [Nat.ofDigitChars_cons]
    exact ih hle
  | case3 n c cs n' hgt =>
    refine ⟨hn, .inr ⟨cs.length, rfl, mul_pow_le_ofDigitChars n (c :: cs), ?_⟩⟩
    rw [Nat.ofDigitChars_cons]
    exact (Nat.mul_le_mul_right _ (Nat.le_of_not_le hgt)).trans (mul_pow_le_ofDigitChars n' cs)

theorem fractionPart_spec (k : Nat) (cs : List Char) (hn : n ≤ maxSignificand) :
    (fractionPart n k cs).1 ≤ maxSignificand ∧ ∃ j ≤ cs.length, (fractionPart n k cs).2 = k + j ∧
      (fractionPart n k cs).1 * 10 ^ (cs.length - j) ≤ ofDigitChars 10 cs n ∧
      (j = 0 → (fractionPart n k cs).1 = n) := by
  fun_induction fractionPart n k cs with
  | case1 n k => exact ⟨hn, 0, le_rfl, rfl, by simp, fun _ => rfl⟩
  | case2 n k c cs n' hle ih =>
    obtain ⟨hmax, j, hj, hk, hval, -⟩ := ih hle
    refine ⟨hmax, j + 1, ?_, ?_, ?_, ?_⟩
    · simpa using hj
    · omega
    · rw [Nat.ofDigitChars_cons, List.length_cons, Nat.add_sub_add_right]
      exact hval
    · omega
  | case3 n k c cs n' hgt =>
    exact ⟨hn, 0, Nat.zero_le _, rfl, mul_pow_le_ofDigitChars n (c :: cs), fun _ => rfl⟩

/-- The significand is cut off and never rounded up. -/
theorem exists_significand (l : Literal) :
    ∃ n e j : Nat, l.significand = (n, (e : Int) - j) ∧ n ≤ maxSignificand ∧
      j ≤ (l.fraction.getD []).length ∧
      n * 10 ^ (e + ((l.fraction.getD []).length - j)) ≤
        ofDigitChars 10 (l.whole ++ l.fraction.getD []) 0 := by
  obtain ⟨hmax, hwhole⟩ := wholePart_spec l.whole (Nat.zero_le maxSignificand)
  obtain ⟨hmax', j, hj, hcount, hfraction, hnone⟩ :=
    fractionPart_spec 0 (l.fraction.getD []) hmax
  rw [Nat.zero_add] at hcount
  have hsig : l.significand = ((fractionPart (wholePart 0 l.whole).1 0 (l.fraction.getD [])).1,
      ((wholePart 0 l.whole).2 : Int) - j) := by
    rw [← hcount]
    rfl
  refine ⟨_, _, j, hsig, hmax', hj, ?_⟩
  rw [Nat.ofDigitChars_append]
  obtain ⟨he, hm⟩ | ⟨e, he, hm, hnext⟩ := hwhole
  · rw [he, Nat.zero_add, ← hm]
    exact hfraction
  -- A digit before the point was left out, so one more place is to spare.
  · refine le_trans ?_ (mul_pow_le_ofDigitChars _ (l.fraction.getD []))
    rw [he]
    obtain rfl | hpos := Nat.eq_zero_or_pos j
    · rw [hnone rfl, Nat.sub_zero, pow_add, ← mul_assoc]
      exact Nat.mul_le_mul_right _ hm
    · calc _ ≤ maxSignificand * 10 ^ (e + (l.fraction.getD []).length) :=
          Nat.mul_le_mul hmax' (Nat.pow_le_pow_right (by omega) (by omega))
        _ = maxSignificand * 10 ^ e * 10 ^ (l.fraction.getD []).length := by
          rw [pow_add, mul_assoc]
        _ ≤ _ := Nat.mul_le_mul_right _ hnext

theorem significand_le (l : Literal) :
    l.significand.1 ≤ maxSignificand ∧
      (l.significand.1 : ℚ) * 10 ^ (l.significand.2 + l.power) ≤ l.magnitude := by
  obtain ⟨n, e, j, hsig, hmax, hj, hval⟩ := exists_significand l
  rw [hsig]
  refine ⟨hmax, ?_⟩
  have hcast : (n : ℚ) * 10 ^ (e + ((l.fraction.getD []).length - j)) ≤
      ofDigitChars 10 (l.whole ++ l.fraction.getD []) 0 := by
    exact_mod_cast hval
  have hexp : (e : Int) - j + l.power = ((e + ((l.fraction.getD []).length - j) : Nat) : Int) +
      (l.power - (l.fraction.getD []).length) := by
    omega
  rw [hexp, zpow_add₀ (by norm_num), zpow_natCast, ← mul_assoc, magnitude]
  exact mul_le_mul_of_nonneg_right hcast (by positivity)

theorem inRange_of_magnitude_le {l : Literal} (hle : l.magnitude ≤ Binary64.decimalBound)
    (hpower : l.power ≤ 2147483647) : l.inRange = true := by
  obtain ⟨hmax, hval⟩ := l.significand_le
  have hinRange : l.inRange =
      if l.significand.1 = 0 then true
      else if 2147483647 < l.power then false
      else if l.significand.2 + l.power < 0 then true
      else if 308 < l.significand.2 + l.power then false
      else ((Binary64.ofDecimal l.significand.1 0).mul
        (Binary64.ofDecimal 1 (l.significand.2 + l.power))).isFinite := rfl
  rw [hinRange]
  generalize l.significand.1 = n at *
  generalize l.significand.2 + l.power = e at *
  split_ifs with hzero hlarge hneg htop
  · rfl
  · omega
  · rfl
  · have hone : (1 : ℚ) ≤ n := by exact_mod_cast Nat.one_le_iff_ne_zero.2 hzero
    have hpow : (10 : ℚ) ^ (309 : Int) ≤ 10 ^ e := zpow_le_zpow_right₀ (by norm_num) (by omega)
    have hten : (10 : ℚ) ^ e ≤ n * 10 ^ e := le_mul_of_one_le_left (by positivity) hone
    exact absurd Binary64.decimalBound_lt (((hpow.trans hten).trans hval).trans hle).not_gt
  · obtain ⟨k, rfl⟩ := Int.eq_ofNat_of_zero_le (not_lt.1 hneg)
    rw [zpow_natCast] at hval
    rw [maxSignificand] at hmax
    exact Binary64.isFinite_product (Nat.pos_of_ne_zero hzero) (by omega) (by omega)
      (hval.trans hle)

/-! ## At the end of the range -/

/-- Whether the exact magnitude is at most the largest of a double. -/
def WithinDoubles (l : Literal) : Prop := l.magnitude ≤ Binary64.largest

/-- A literal between `Binary64.decimalBound` and the largest magnitude. -/
def nearLargest : Literal :=
  ⟨false, Nat.toDigits 10 17976931348623157000, none, some (false, Nat.toDigits 10 289)⟩

theorem magnitude_nearLargest : nearLargest.magnitude = 17976931348623157000 * 10 ^ 289 := by
  have hpower : nearLargest.power = 289 := by
    show ((ofDigitChars 10 (Nat.toDigits 10 289) 0 : Nat) : Int) = 289
    rw [Nat.ofDigitChars_ten_toDigits]
    rfl
  rw [magnitude, hpower, nearLargest, Option.getD_none, List.append_nil,
    Nat.ofDigitChars_ten_toDigits, List.length_nil, Nat.cast_zero, sub_zero, zpow_ofNat]
  rfl

theorem withinDoubles_nearLargest : nearLargest.WithinDoubles := by
  have hnat : 17976931348623157000 * 10 ^ 289 ≤ 9007199254740991 * 2 ^ 971 := by decide +kernel
  have hcast := (Nat.cast_le (α := ℚ)).2 hnat
  have htop : (2 ^ 53 - 1 : ℚ) = 9007199254740991 := by norm_num
  rw [Nat.cast_mul, Nat.cast_mul, Nat.cast_pow, Nat.cast_pow] at hcast
  rw [WithinDoubles, magnitude_nearLargest, Binary64.largest, htop, zpow_ofNat]
  exact hcast

end SchemaCatalog.Json.Literal
