import SchemaCatalog.Binary64
import Mathlib.Algebra.Order.Field.Power
import Mathlib.Data.Rat.Cast.Order
import Mathlib.Tactic.FieldSimp
import Mathlib.Tactic.Linarith
import Mathlib.Tactic.NormNum
import Mathlib.Tactic.Positivity
import Mathlib.Tactic.Ring

/-!
# How far rounding up goes

A rounded magnitude is above the exact one by at most half a unit in its last place, and nothing up
to the largest magnitude is rounded to infinity.

* `Binary64.largest`: the largest finite magnitude.
* `Binary64.exists_ofRatio`: the bound for one rounding.
* `Binary64.isFinite_product`: the bound for a product of two rounded numbers.
-/

namespace SchemaCatalog.Binary64

variable {b n num den : Nat} {e q : Int}

def largest : ℚ := (2 ^ 53 - 1) * 2 ^ (971 : Int)

/-! ## Quotients -/

theorem scale_spec (hb : 0 < b) (n : Nat) (e : Int) :
    0 < (scale b n e).2 ∧ ((scale b n e).1 : ℚ) = n * (b : ℚ) ^ e * (scale b n e).2 := by
  have hb' : (b : ℚ) ≠ 0 := by positivity
  unfold scale
  split
  · next he =>
    obtain ⟨k, rfl⟩ := Int.eq_ofNat_of_zero_le he
    simp
  · next he =>
    obtain ⟨k, hk⟩ := Int.eq_ofNat_of_zero_le (show 0 ≤ -e by omega)
    obtain rfl : e = -(k : Int) := by omega
    refine ⟨by simp; positivity, ?_⟩
    simp [zpow_neg, hb']

theorem roundDiv_le (num : Nat) (hden : 0 < den) : (roundDiv num den : ℚ) ≤ num / den + 1 / 2 := by
  have hsplit := Nat.div_add_mod num den
  have hnat : 2 * (den * roundDiv num den) ≤ 2 * num + den := by
    unfold roundDiv
    dsimp only
    have hc : den * (num / den + 1) = den * (num / den) + den := Nat.mul_succ _ _
    split_ifs with hup htie
    · omega
    · have hmod : den * (num / den + num / den % 2) ≤ den * (num / den + 1) :=
        Nat.mul_le_mul_left _ (by omega)
      omega
    · omega
  have hrat : 2 * ((den : ℚ) * roundDiv num den) ≤ 2 * num + den := by exact_mod_cast hnat
  have hpos : (0 : ℚ) < den := by exact_mod_cast hden
  rw [div_add_div _ _ hpos.ne' two_ne_zero, le_div_iff₀ (by positivity)]
  linarith

theorem log2_bounds (hn : 0 < n) :
    (2 : ℚ) ^ (n.log2 : Int) ≤ n ∧ (n : ℚ) < 2 ^ ((n.log2 : Int) + 1) := by
  constructor
  · exact_mod_cast Nat.log2_self_le hn.ne'
  · exact_mod_cast Nat.lt_log2_self (n := n)

theorem floorLog2_spec (hnum : 0 < num) (hden : 0 < den) :
    (2 : ℚ) ^ floorLog2 num den * den ≤ num ∧ (num : ℚ) < 2 ^ (floorLog2 num den + 1) * den := by
  obtain ⟨hnum₁, hnum₂⟩ := log2_bounds hnum
  obtain ⟨hden₁, hden₂⟩ := log2_bounds hden
  obtain ⟨e, he⟩ : ∃ e : Int, e = (num.log2 : Int) - den.log2 := ⟨_, rfl⟩
  obtain ⟨hr, hp⟩ := scale_spec (b := 2) (by omega) den e
  have hr' : (0 : ℚ) < (scale 2 den e).2 := by exact_mod_cast hr
  have hcond : (scale 2 den e).1 ≤ num * (scale 2 den e).2 ↔ (2 : ℚ) ^ e * den ≤ num := by
    rw [← Nat.cast_le (α := ℚ), hp, Nat.cast_mul, mul_le_mul_iff_left₀ hr', mul_comm]
    rfl
  have hfloor : floorLog2 num den = if (2 : ℚ) ^ e * den ≤ num then e else e - 1 := by
    unfold floorLog2
    dsimp only
    rw [← he]
    exact if_congr hcond rfl rfl
  have hpow (k : Int) : (0 : ℚ) < 2 ^ k := by positivity
  rw [hfloor]
  split_ifs with hle
  · refine ⟨hle, ?_⟩
    calc (num : ℚ) < 2 ^ ((num.log2 : Int) + 1) := hnum₂
      _ = 2 ^ (e + 1) * 2 ^ (den.log2 : Int) := by
        rw [← zpow_add₀ two_ne_zero, he]
        congr 1
        omega
      _ ≤ 2 ^ (e + 1) * den := mul_le_mul_of_nonneg_left hden₁ (hpow _).le
  · rw [not_le] at hle
    rw [sub_add_cancel]
    refine ⟨?_, hle⟩
    calc (2 : ℚ) ^ (e - 1) * den ≤ 2 ^ (e - 1) * 2 ^ ((den.log2 : Int) + 1) :=
        mul_le_mul_of_nonneg_left hden₂.le (hpow _).le
      _ = 2 ^ (num.log2 : Int) := by
        rw [← zpow_add₀ two_ne_zero, he]
        congr 1
        omega
      _ ≤ num := hnum₁

/-! ## Rounding -/

theorem exists_ofScaled {m : Nat} (hq : q ≤ 971) (hm : m = 2 ^ 53 → q < 971) :
    ∃ m' q', ofScaled m q = finite m' q' ∧ (m' : ℚ) * 2 ^ q' = m * 2 ^ q := by
  simp only [ofScaled, Nat.pow_eq]
  by_cases htop : m = 2 ^ 53
  · have hlt := hm htop
    rw [if_pos htop, if_neg (by omega)]
    refine ⟨2 ^ 52, q + 1, rfl, ?_⟩
    rw [htop, zpow_add₀ two_ne_zero]
    push_cast
    ring
  · rw [if_neg htop, if_neg (by omega)]
    exact ⟨m, q, rfl, rfl⟩

theorem floorLog2_lt (hnum : 0 < num) (hden : 0 < den) (hle : (num : ℚ) ≤ largest * den) :
    floorLog2 num den < 1024 := by
  have hpos : (0 : ℚ) < den := by exact_mod_cast hden
  have hpow : (2 : ℚ) ^ floorLog2 num den ≤ largest :=
    le_of_mul_le_mul_right ((floorLog2_spec hnum hden).1.trans hle) hpos
  have htop : largest < (2 : ℚ) ^ (1024 : Int) := by
    rw [largest, show (1024 : Int) = 53 + 971 from rfl, zpow_add₀ two_ne_zero]
    exact mul_lt_mul_of_pos_right (by norm_num) (by positivity)
  exact (zpow_lt_zpow_iff_right₀ one_lt_two).1 (hpow.trans_lt htop)

/-- The significand of `num / den` in units of `2 ^ q`. -/
def inUnits (num den : Nat) (q : Int) : Nat :=
  roundDiv (num * (scale 2 den q).2) (scale 2 den q).1

theorem ofRatio_eq (hnum : 0 < num) : ofRatio num den =
    ofScaled (inUnits num den (max (floorLog2 num den - 52) (-1074)))
      (max (floorLog2 num den - 52) (-1074)) := by
  rw [ofRatio, if_neg hnum.ne']
  rfl

theorem inUnits_le (num : Nat) (hden : 0 < den) (q : Int) :
    (inUnits num den q : ℚ) ≤ num / (den * 2 ^ q) + 1 / 2 := by
  obtain ⟨hr, hp⟩ := scale_spec (b := 2) (by omega) den q
  have hden' : (0 : ℚ) < den := by exact_mod_cast hden
  have hr' : (0 : ℚ) < (scale 2 den q).2 := by exact_mod_cast hr
  have hp' : (0 : ℚ) < (scale 2 den q).1 := by
    rw [hp]
    positivity
  have hround := roundDiv_le (num * (scale 2 den q).2) (Nat.cast_pos.1 hp')
  rw [hp, Nat.cast_mul, Nat.cast_ofNat, mul_div_mul_right _ _ hr'.ne'] at hround
  exact hround

/-- At the last exponent the rounded number stays below the next power of two. -/
theorem inUnits_ne (hden : 0 < den) (hle : (num : ℚ) ≤ largest * den) :
    inUnits num den 971 ≠ 2 ^ 53 := by
  intro heq
  have hden' : (0 : ℚ) < den := by exact_mod_cast hden
  have hexact : (num : ℚ) / (den * 2 ^ (971 : Int)) ≤ 2 ^ 53 - 1 := by
    rw [div_le_iff₀ (by positivity)]
    calc (num : ℚ) ≤ largest * den := hle
      _ = (2 ^ 53 - 1) * (den * 2 ^ (971 : Int)) := by
        rw [largest, mul_assoc, mul_comm (den : ℚ)]
  have hround := inUnits_le num hden 971
  rw [heq, Nat.cast_pow, Nat.cast_ofNat] at hround
  linarith only [hround, hexact]

theorem exists_ofRatio (hnum : 0 < num) (hden : 0 < den) (hle : (num : ℚ) ≤ largest * den) :
    ∃ m q, ofRatio num den = finite m q ∧
      (m : ℚ) * 2 ^ q ≤ num / den + 2 ^ max (floorLog2 num den - 52) (-1074) / 2 := by
  have hlog := floorLog2_lt hnum hden hle
  have hratio := @ofRatio_eq num den hnum
  have hq : max (floorLog2 num den - 52) (-1074) ≤ 971 := by omega
  generalize max (floorLog2 num den - 52) (-1074) = q at *
  have htop (heq : inUnits num den q = 2 ^ 53) : q < 971 := by
    by_contra hge
    obtain rfl : q = 971 := by omega
    exact inUnits_ne hden hle heq
  obtain ⟨m, q', hscaled, hval⟩ := exists_ofScaled hq htop
  have hden' : (0 : ℚ) < den := by exact_mod_cast hden
  have hq' : (0 : ℚ) < 2 ^ q := by positivity
  refine ⟨m, q', hratio.trans hscaled, ?_⟩
  calc (m : ℚ) * 2 ^ q' = inUnits num den q * 2 ^ q := hval
    _ ≤ (num / (den * 2 ^ q) + 1 / 2) * 2 ^ q :=
      mul_le_mul_of_nonneg_right (inUnits_le num hden q) hq'.le
    _ = num / den + 2 ^ q / 2 := by
      field_simp

theorem isFinite_ofRatio (hden : 0 < den) (hle : (num : ℚ) ≤ largest * den) :
    (ofRatio num den).isFinite = true := by
  obtain rfl | hnum := Nat.eq_zero_or_pos num
  · rfl
  · obtain ⟨m, q, heq, -⟩ := exists_ofRatio hnum hden hle
    rw [heq]
    rfl

/-- A whole number is rounded by less than one part in `2^53`. -/
theorem exists_ofRatio_one (hn : 0 < n) (hle : (n : ℚ) ≤ largest) :
    ∃ m q, ofRatio n 1 = finite m q ∧ (m : ℚ) * 2 ^ q ≤ n * (1 + 2 ^ (-53 : Int)) := by
  obtain ⟨m, q, heq, hval⟩ := exists_ofRatio hn one_pos (by simpa using hle)
  refine ⟨m, q, heq, hval.trans ?_⟩
  obtain ⟨hlow, hhigh⟩ := floorLog2_spec hn one_pos
  rw [Nat.cast_one, mul_one] at hlow hhigh
  have hlog : 0 ≤ floorLog2 n 1 := by
    have hone : (2 : ℚ) ^ (0 : Int) < 2 ^ (floorLog2 n 1 + 1) := by
      refine lt_of_le_of_lt ?_ hhigh
      rw [zpow_zero]
      exact_mod_cast hn
    have := (zpow_lt_zpow_iff_right₀ one_lt_two).1 hone
    omega
  have hunit : (2 : ℚ) ^ (floorLog2 n 1 - 52) / 2 = 2 ^ floorLog2 n 1 * 2 ^ (-53 : Int) := by
    rw [← zpow_add₀ two_ne_zero, show floorLog2 n 1 - 52 = floorLog2 n 1 + -53 + 1 by omega,
      zpow_add_one₀ two_ne_zero, mul_div_cancel_right₀ _ two_ne_zero]
  rw [max_eq_left (by omega), hunit, Nat.cast_one, div_one, mul_add, mul_one]
  exact add_le_add_right (mul_le_mul_of_nonneg_right hlow (by positivity)) _

/-! ## Decimals -/

theorem ofDecimal_eq (hn : 0 < n) {k : Nat} (hlen : n < 10 ^ 20) (hk : k ≤ 308) :
    ofDecimal n k = ofRatio (n * 10 ^ k) 1 := by
  have hdigits : (Nat.toDigits 10 n).length ≤ 20 :=
    (Nat.length_toDigits_le_iff (by omega) (by omega)).2 hlen
  rw [ofDecimal, if_neg hn.ne']
  dsimp only
  rw [if_neg (by omega), if_neg (by omega), scale, if_pos (by omega)]
  rfl

theorem isFinite_mul {m m' : Nat} {q q' : Int}
    (hle : (m : ℚ) * 2 ^ q * (m' * 2 ^ q') ≤ largest) :
    ((finite m q).mul (finite m' q')).isFinite = true := by
  obtain ⟨hden, hnum⟩ := scale_spec (b := 2) (by omega) (m * m') (q + q')
  have hden' : (0 : ℚ) < (scale 2 (m * m') (q + q')).2 := by exact_mod_cast hden
  have hmul : (finite m q).mul (finite m' q') =
      ofRatio (scale 2 (m * m') (q + q')).1 (scale 2 (m * m') (q + q')).2 := rfl
  rw [hmul]
  refine isFinite_ofRatio hden ?_
  rw [hnum, Nat.cast_mul, Nat.cast_ofNat, zpow_add₀ two_ne_zero, mul_mul_mul_comm]
  exact mul_le_mul_of_nonneg_right hle hden'.le

/-- Sixteen digits of the largest magnitude. -/
def decimalBound : ℚ := 1797693134862315 * 10 ^ 293

theorem decimalBound_le : decimalBound * (1 + 2 ^ (-53 : Int)) ^ 2 ≤ largest := by
  have hnat : 1797693134862315 * 10 ^ 293 * 9007199254740993 ^ 2 ≤
      9007199254740991 * 2 ^ 971 * (2 ^ 53) ^ 2 := by
    decide +kernel
  have hrat : (1797693134862315 * 10 ^ 293 * 9007199254740993 ^ 2 : ℚ) ≤
      9007199254740991 * 2 ^ 971 * (2 ^ 53) ^ 2 := by
    have hcast := (Nat.cast_le (α := ℚ)).2 hnat
    rw [Nat.cast_mul, Nat.cast_mul, Nat.cast_mul, Nat.cast_mul, Nat.cast_pow, Nat.cast_pow,
      Nat.cast_pow, Nat.cast_pow, Nat.cast_pow] at hcast
    exact hcast
  have hunit : (1 + 2 ^ (-53 : Int) : ℚ) = 9007199254740993 / 2 ^ 53 := by norm_num
  have htop : (2 ^ 53 - 1 : ℚ) = 9007199254740991 := by norm_num
  rw [hunit, div_pow, mul_div_assoc', div_le_iff₀ (by positivity), decimalBound, largest, htop,
    zpow_ofNat]
  exact hrat

theorem decimalBound_le_largest : decimalBound ≤ largest := by
  refine le_trans ?_ decimalBound_le
  have hpos : 0 ≤ decimalBound := by
    rw [decimalBound]
    positivity
  have hunit : (1 : ℚ) ≤ (1 + 2 ^ (-53 : Int)) ^ 2 :=
    one_le_pow₀ (le_add_of_nonneg_right (by positivity))
  exact le_mul_of_one_le_right hpos hunit

theorem decimalBound_lt : decimalBound < 10 ^ (309 : Int) := by
  rw [decimalBound, show (309 : Int) = 16 + 293 from rfl, zpow_add₀ (by norm_num), zpow_ofNat,
    zpow_ofNat]
  exact mul_lt_mul_of_pos_right (by norm_num) (by positivity)

/-- A product of a number and a power of ten, all three rounded, is finite up to that bound. -/
theorem isFinite_product (hn : 0 < n) (hlen : n < 10 ^ 20) {k : Nat} (hk : k ≤ 308)
    (hle : (n : ℚ) * 10 ^ k ≤ decimalBound) :
    ((ofDecimal n 0).mul (ofDecimal 1 k)).isFinite = true := by
  have hone : (1 : ℚ) ≤ n := by exact_mod_cast hn
  have hten : (1 : ℚ) ≤ 10 ^ k := one_le_pow₀ (by norm_num)
  have hpow : ((10 ^ k : Nat) : ℚ) = 10 ^ k := by rw [Nat.cast_pow, Nat.cast_ofNat]
  have hn' : (n : ℚ) ≤ largest :=
    ((le_mul_of_one_le_right (by positivity) hten).trans hle).trans decimalBound_le_largest
  have hk' : ((10 ^ k : Nat) : ℚ) ≤ largest := by
    rw [hpow]
    exact ((le_mul_of_one_le_left (by positivity) hone).trans hle).trans decimalBound_le_largest
  obtain ⟨m, q, hm, hmval⟩ := exists_ofRatio_one hn hn'
  obtain ⟨m', q', hm', hmval'⟩ := exists_ofRatio_one (by positivity) hk'
  have hfirst : ofDecimal n 0 = finite m q := by
    have h := ofDecimal_eq hn hlen (Nat.zero_le 308)
    rw [pow_zero, mul_one, hm] at h
    exact h
  have hsecond : ofDecimal 1 k = finite m' q' := by
    rw [ofDecimal_eq one_pos (by omega) hk, one_mul, hm']
  rw [hfirst, hsecond]
  refine isFinite_mul ?_
  rw [hpow] at hmval'
  calc (m : ℚ) * 2 ^ q * (m' * 2 ^ q') ≤
      n * (1 + 2 ^ (-53 : Int)) * (10 ^ k * (1 + 2 ^ (-53 : Int))) :=
        mul_le_mul hmval hmval' (by positivity) (by positivity)
    _ = n * 10 ^ k * (1 + 2 ^ (-53 : Int)) ^ 2 := by ring
    _ ≤ decimalBound * (1 + 2 ^ (-53 : Int)) ^ 2 := mul_le_mul_of_nonneg_right hle (by positivity)
    _ ≤ largest := decimalBound_le

end SchemaCatalog.Binary64
