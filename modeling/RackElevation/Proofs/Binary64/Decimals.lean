import Mathlib.Algebra.Order.Field.Power
import RackElevation.Binary64.Shortest
import RackElevation.Proofs.Binary64.Error
import RackElevation.Proofs.Number.Digits

/-!
# Reading decimals

Rounding depends on a quotient only, not on how it is written, so a decimal is read by its value.  A
decimal whose value is a magnitude is read as that magnitude.  The shortest decimal of a number is
found by trial, and when no trial succeeds it is the exact expansion, so it reads back in any case.
-/

namespace RackElevation

namespace Binary64

/-! ## Equal quotients -/

section Quotients

variable {n d n' d' k : ℕ}

/-- Rounding depends on a quotient only, not on its terms. -/
theorem halfEven_mul_mul (n d : ℕ) (hk : 0 < k) : halfEven (n * k) (d * k) = halfEven n d := by
  have hlt (a b : ℕ) : 2 * (a * k) < b * k ↔ 2 * a < b := by
    rw [← mul_assoc]
    exact Nat.mul_lt_mul_right hk
  have hgt (a b : ℕ) : b * k < 2 * (a * k) ↔ b < 2 * a := by
    rw [← mul_assoc]
    exact Nat.mul_lt_mul_right hk
  simp only [halfEven, Nat.mul_div_mul_right n d hk, Nat.mul_mod_mul_right, hlt, hgt]

/-- The nearest steps depend on a quotient only, not on its terms. -/
theorem nearestSteps_mul_mul (n d : ℕ) (hk : 0 < k) :
    nearestSteps (n * k) (d * k) = nearestSteps n d := by
  simp only [nearestSteps, Nat.mul_div_mul_right n d hk]
  rw [mul_right_comm, halfEven_mul_mul _ _ hk]

/-- Equal quotients are rounded alike. -/
theorem nearestSteps_congr (hd : 0 < d) (hd' : 0 < d') (h : n * d' = n' * d) :
    nearestSteps n d = nearestSteps n' d' := by
  rw [← nearestSteps_mul_mul n d hd', h, mul_comm d d', nearestSteps_mul_mul n' d' hd]

end Quotients

end Binary64

namespace Decimal

/-- The value of a decimal. -/
def val (d : Decimal) : ℚ :=
  d.digits * 10 ^ d.exponent

/-- The exponent of the first power of ten above a decimal. -/
def order (d : Decimal) : ℤ :=
  d.exponent + width d.digits

theorem quotient_pos (d : Decimal) : 0 < d.quotient.2 := by
  rw [quotient]
  split
  · exact Nat.one_pos
  · exact Nat.pow_pos (by decide)

/-- The value of a decimal is its quotient. -/
theorem quotient_eq (d : Decimal) : (d.quotient.1 : ℚ) / d.quotient.2 = d.val := by
  obtain ⟨digits, exponent⟩ := d
  cases exponent with
  | ofNat e => simp [quotient, val, Nat.pow_eq]
  | negSucc e =>
      simp only [quotient, val, Nat.pow_eq, zpow_negSucc, div_eq_mul_inv]
      push_cast
      rfl

/-- A decimal is zero when its digits are. -/
theorem val_eq_zero_iff {d : Decimal} : d.val = 0 ↔ d.digits = 0 := by
  rw [val, mul_eq_zero, Nat.cast_eq_zero, or_iff_left (zpow_ne_zero _ (by norm_num))]

theorem val_nonneg (d : Decimal) : 0 ≤ d.val :=
  mul_nonneg (Nat.cast_nonneg _) (zpow_nonneg (by norm_num) _)

section Order

variable {d d' : Decimal}

theorem width_pos (n : ℕ) : 0 < width n :=
  List.length_pos_iff.2 (decimalDigits_ne_nil n)

/-- A number has at most so many digits when it lies below that power of ten. -/
theorem width_le_iff {n k : ℕ} (hk : 0 < k) : width n ≤ k ↔ n < 10 ^ k :=
  Nat.length_toDigits_le_iff (by decide) hk

/-- A number that is not zero reaches the power of ten of its first digit. -/
theorem pow_width_le {n : ℕ} (hn : n ≠ 0) : 10 ^ (width n - 1) ≤ n := by
  rcases Nat.eq_zero_or_pos (width n - 1) with hzero | hpos
  · rw [hzero]
    exact Nat.pos_of_ne_zero hn
  · by_contra hlt
    have hle := (width_le_iff hpos).2 (Nat.lt_of_not_le hlt)
    omega

/-- A number lies below the power of ten after its first digit. -/
theorem lt_pow_width (n : ℕ) : n < 10 ^ width n :=
  (width_le_iff (width_pos n)).1 le_rfl

/-- A decimal lies below the power of ten of its order. -/
theorem val_lt (d : Decimal) : d.val < 10 ^ d.order := by
  have hdigits : (d.digits : ℚ) < 10 ^ width d.digits := mod_cast lt_pow_width d.digits
  rw [val, order, zpow_add₀ (by norm_num), mul_comm, zpow_natCast]
  exact mul_lt_mul_of_pos_left hdigits (by positivity)

/-- A decimal that is not zero is at least a tenth of the power of its order. -/
theorem le_val (h : d.digits ≠ 0) : 10 ^ (d.order - 1) ≤ d.val := by
  have hdigits : ((10 : ℚ) ^ (width d.digits - 1)) ≤ d.digits := mod_cast pow_width_le h
  have hexponent : d.order - 1 = d.exponent + (width d.digits - 1 : ℕ) := by
    rw [order, Nat.cast_sub (width_pos _), Nat.cast_one]
    ring
  rw [val, hexponent, zpow_add₀ (by norm_num), mul_comm, zpow_natCast]
  exact mul_le_mul_of_nonneg_right hdigits (by positivity)

/-- The order of a decimal is that of its value. -/
theorem order_congr (hne : d.digits ≠ 0) (h : d.val = d'.val) : d.order = d'.order := by
  have hne' : d'.digits ≠ 0 := by rwa [Ne, ← val_eq_zero_iff, ← h, val_eq_zero_iff]
  have hten : (1 : ℚ) < 10 := by norm_num
  have hlt := (le_val hne).trans_lt (h ▸ val_lt d')
  have hlt' := (le_val hne').trans_lt (h ▸ val_lt d)
  rw [zpow_lt_zpow_iff_right₀ hten] at hlt hlt'
  omega

end Order

/-! ## Reading by value -/

/-- A decimal becomes zero or infinite when its order is far out of range, and is rounded otherwise.
-/
theorem toBinary64_eq (s : Bool) (d : Decimal) :
    d.toBinary64 s =
      if d.digits = 0 ∨ d.order < -400 then Binary64.zero s
      else if 400 < d.order then .infinite s
      else Binary64.ofRatio s (d.quotient.1 * Binary64.unit) d.quotient.2 := by
  rw [toBinary64]
  refine if_congr ?_ rfl rfl
  rw [Bool.or_eq_true, decide_eq_true_eq, decide_eq_true_eq, order]

/-- Decimals of one value are read as one number. -/
theorem toBinary64_congr {d d' : Decimal} (h : d.val = d'.val) (s : Bool) :
    d.toBinary64 s = d'.toBinary64 s := by
  have hzero : d.digits = 0 ↔ d'.digits = 0 := by rw [← val_eq_zero_iff, h, val_eq_zero_iff]
  rw [toBinary64_eq, toBinary64_eq]
  by_cases hdigits : d.digits = 0
  · rw [if_pos (Or.inl hdigits), if_pos (Or.inl (hzero.1 hdigits))]
  · have hratio : d.quotient.1 * d'.quotient.2 = d'.quotient.1 * d.quotient.2 := by
      rw [← quotient_eq, ← quotient_eq, div_eq_div_iff (mod_cast (quotient_pos d).ne')
        (mod_cast (quotient_pos d').ne')] at h
      exact mod_cast h
    have hsteps : Binary64.nearestSteps (d.quotient.1 * Binary64.unit) d.quotient.2 =
        Binary64.nearestSteps (d'.quotient.1 * Binary64.unit) d'.quotient.2 := by
      refine Binary64.nearestSteps_congr (quotient_pos d) (quotient_pos d') ?_
      rw [mul_right_comm, hratio, mul_right_comm]
    simp only [hzero, order_congr hdigits h, Binary64.ofRatio, hsteps]

/-- Any power of two in range lies below the decimals that count as infinite. -/
theorem two_pow_le {e : ℕ} (he : e ≤ 1200) : (2 : ℚ) ^ e ≤ 10 ^ 400 := by
  calc (2 : ℚ) ^ e ≤ 2 ^ (3 * 400) := pow_le_pow_right₀ (by norm_num) he
    _ = (2 ^ 3) ^ 400 := pow_mul 2 3 400
    _ ≤ 10 ^ 400 := pow_le_pow_left₀ (by norm_num) (by norm_num) 400

/-- The orders of the magnitudes above zero. -/
theorem order_bounds {d : Decimal} {m : ℕ} (hm : Binary64.Fits m) (hne : d.digits ≠ 0)
    (h : d.val = m / Binary64.unit) : -400 ≤ d.order ∧ d.order ≤ 400 := by
  have hten : (1 : ℚ) < 10 := by norm_num
  have hpow : (0 : ℚ) < 2 ^ 1074 := by positivity
  have hzero : m ≠ 0 := by
    rintro rfl
    rw [Nat.cast_zero, zero_div, val_eq_zero_iff] at h
    exact hne h
  rw [Binary64.unit_cast] at h
  -- the least magnitude is one step and the greatest lies below 2^1024, both far within 400 digits
  constructor
  · have hlow : (10 : ℚ) ^ (-400 : ℤ) ≤ d.val := by
      have hone : (1 : ℚ) ≤ m := mod_cast Nat.one_le_iff_ne_zero.2 hzero
      rw [h, zpow_neg, ← one_div]
      exact div_le_div₀ (Nat.cast_nonneg m) hone hpow (two_pow_le (by norm_num))
    have hlt := hlow.trans_lt (val_lt d)
    rw [zpow_lt_zpow_iff_right₀ hten] at hlt
    exact hlt.le
  · have hhigh : d.val < 10 ^ (400 : ℤ) := by
      have hlimit : (m : ℚ) < 2 ^ 1024 * 2 ^ 1074 := by
        have hfits := (Binary64.fits_iff.1 hm).2
        rw [Binary64.limit_eq, ← Nat.cast_lt (α := ℚ), Nat.cast_pow, Nat.cast_ofNat] at hfits
        rwa [← pow_add]
      rw [h]
      exact ((div_lt_iff₀ hpow).2 hlimit).trans_le (two_pow_le (by norm_num))
    have hlt := (le_val hne).trans_lt hhigh
    rw [zpow_lt_zpow_iff_right₀ hten] at hlt
    omega

/-- A decimal whose value is a magnitude is read as that magnitude. -/
theorem toBinary64_of_val_eq {d : Decimal} {m : ℕ} (hm : Binary64.Fits m)
    (h : d.val = m / Binary64.unit) (s : Bool) : d.toBinary64 s = .finite s m hm := by
  have hunit : (Binary64.unit : ℚ) ≠ 0 := mod_cast Binary64.unit_pos.ne'
  rw [toBinary64_eq]
  by_cases hdigits : d.digits = 0
  · obtain rfl : m = 0 := by
      rw [val_eq_zero_iff.2 hdigits, eq_comm, div_eq_zero_iff, or_iff_left hunit] at h
      exact mod_cast h
    rw [if_pos (Or.inl hdigits), Binary64.zero_eq]
  · obtain ⟨hlow, hhigh⟩ := order_bounds hm hdigits h
    have hratio : d.quotient.1 * Binary64.unit = m * d.quotient.2 := by
      rw [← quotient_eq, div_eq_div_iff (mod_cast (quotient_pos d).ne') hunit] at h
      exact mod_cast h
    rw [if_neg (not_or.2 ⟨hdigits, not_lt.2 hlow⟩), if_neg (not_lt.2 hhigh), hratio,
      Binary64.ofRatio, Binary64.nearestSteps_mul_of_fits hm (quotient_pos d),
      Binary64.ofSteps_of_fits]

/-- A decimal of moderate size is read as a number of that size. -/
theorem toBinary64_of_val_le {d : Decimal} {k : ℕ} (hk : k ≤ 1022) (h : d.val ≤ 2 ^ k) :
    0 ≤ (d.toBinary64 false).val ∧ (d.toBinary64 false).IsWithin (k + 1) := by
  rw [toBinary64_eq]
  split
  · have hpow : (0 : ℚ) ≤ 2 ^ (k + 1) := by positivity
    rw [Binary64.val_zero]
    exact ⟨le_rfl, by rw [Binary64.zero_eq]; rfl, by rwa [Binary64.val_zero, abs_zero]⟩
  · next hlarge =>
      rw [not_or] at hlarge
      have hten : (1 : ℚ) < 10 := by norm_num
      -- a decimal that lies below a power of two in range has an order in range
      have horder : ¬ 400 < d.order := by
        have hlt : (10 : ℚ) ^ (d.order - 1) < 10 ^ (400 : ℤ) :=
          calc (10 : ℚ) ^ (d.order - 1) ≤ 2 ^ k := (le_val hlarge.1).trans h
            _ < 2 ^ 1200 := pow_lt_pow_right₀ (by norm_num) (by omega)
            _ ≤ 10 ^ (400 : ℤ) := two_pow_le le_rfl
        rw [zpow_lt_zpow_iff_right₀ hten] at hlt
        omega
      rw [if_neg horder]
      have hvalue : (Binary64.signedSteps false (d.quotient.1 * Binary64.unit) : ℚ) /
          d.quotient.2 / Binary64.unit = d.val := by
        rw [Binary64.signedSteps_mul, Int.cast_mul, Int.cast_natCast, mul_div_right_comm,
          mul_div_cancel_right₀ _ Binary64.unit_cast_pos.ne', ← quotient_eq]
        rfl
      have habs : |d.val| ≤ 2 ^ k := by rwa [abs_of_nonneg (val_nonneg d)]
      have hnear := Binary64.isNear_ofRatio hk (quotient_pos d) hvalue habs
      refine ⟨?_, hnear.isWithin habs⟩
      obtain ⟨_, hfinite⟩ := Binary64.ofRatio_of_isFinite hnear.isFinite
      rw [hfinite, Binary64.val_finite, Binary64.signedSteps_cast, if_neg Bool.false_ne_true]
      positivity

/-- The sign does not matter for the magnitude that a decimal is read as. -/
theorem toBinary64_sign {d : Decimal} {m : ℕ} {hm : Binary64.Fits m}
    (h : d.toBinary64 false = .finite false m hm) (s : Bool) :
    d.toBinary64 s = .finite s m hm := by
  rw [toBinary64_eq] at h ⊢
  split at h
  · next hsmall =>
      rw [if_pos hsmall, Binary64.zero_eq]
      rw [Binary64.zero_eq] at h
      cases h
      rfl
  · next hlarge =>
      rw [if_neg hlarge]
      split at h
      · contradiction
      · next hbound =>
          obtain ⟨_, hfinite⟩ := Binary64.ofRatio_of_isFinite (by rw [h]; rfl)
          rw [hfinite] at h
          rw [if_neg hbound, Binary64.ofRatio]
          cases h
          exact Binary64.ofSteps_of_fits s hm

end Decimal

namespace Binary64

/-! ## The shortest decimal -/

/-- A power of two in the denominator is a power of five over one of ten. -/
theorem val_mul_pow_five (m e : ℕ) : (⟨m * 5 ^ e, -e⟩ : Decimal).val = m / 2 ^ e := by
  have hten : (10 : ℚ) ^ e = 2 ^ e * 5 ^ e := by rw [← mul_pow]; norm_num
  rw [Decimal.val, zpow_neg, zpow_natCast, hten]
  push_cast
  field_simp

/-- The exact decimal of some steps has their value. -/
theorem val_exactDecimal (m : ℕ) : (exactDecimal m).val = m / unit := by
  have hval (e : ℕ) : (⟨m * Nat.pow 5 e, -e⟩ : Decimal).val = m / 2 ^ e := val_mul_pow_five m e
  have hexponent : (-1074 : ℤ) = -((1074 : ℕ) : ℤ) := rfl
  simp only [exactDecimal, hexponent, hval, unit_cast]

/-- Zeros that are dropped from digits go into the exponent. -/
theorem dropZeros_spec (fuel n : ℕ) :
    (dropZeros fuel n).1 * 10 ^ (dropZeros fuel n).2 = n := by
  induction fuel generalizing n with
  | zero => exact Nat.mul_one n
  | succ fuel ih =>
      rw [dropZeros]
      split
      · next h =>
          rw [Bool.and_eq_true, decide_eq_true_eq, decide_eq_true_eq] at h
          rw [pow_succ, ← mul_assoc, ih]
          omega
      · exact Nat.mul_one n

/-- Trimming a decimal does not change its value. -/
theorem val_trimmed (d : Decimal) : (trimmed d).val = d.val := by
  have hdigits : (d.digits : ℚ) = (dropZeros (Decimal.width d.digits) d.digits).1 *
      10 ^ (dropZeros (Decimal.width d.digits) d.digits).2 := by
    conv_lhs => rw [← dropZeros_spec (Decimal.width d.digits) d.digits]
    push_cast
    rfl
  rw [trimmed, Decimal.val, Decimal.val, zpow_add₀ (by norm_num), hdigits, zpow_natCast]
  ring

/-- The first of two candidates that passes a test passes it. -/
theorem holds_of_first_or_second {p : Decimal → Bool} {a b d : Decimal}
    (h : (if p a then some a else if p b then some b else none) = some d) : p d = true := by
  split at h
  · next ha => rwa [← Option.some.inj h]
  · split at h
    · next hb => rwa [← Option.some.inj h]
    · contradiction

/-- A neighbour on the decimal grid is taken only if it reads back. -/
theorem readsBack_of_gridNeighbour? {m : ℕ} {e : ℤ} {d : Decimal}
    (h : gridNeighbour? m e = some d) : readsBack m d = true := by
  simp only [gridNeighbour?] at h
  split at h
  · exact holds_of_first_or_second h
  · exact holds_of_first_or_second h

/-- The shortest decimal of a number reads back to it. -/
theorem toBinary64_shortestDecimal {m : ℕ} (hm : Fits m) (s : Bool) :
    (shortestDecimal m).toBinary64 s = .finite s m hm := by
  rw [shortestDecimal, Decimal.toBinary64_congr (val_trimmed _)]
  cases hgrid : ((List.range 17).map fun (k : ℕ) => decimalOrder m - (k : ℤ)).findSome?
      (gridNeighbour? m) with
  | none => exact Decimal.toBinary64_of_val_eq hm (val_exactDecimal m) s
  | some d =>
      obtain ⟨e, -, hd⟩ := List.exists_of_findSome?_eq_some hgrid
      have hread := readsBack_of_gridNeighbour? hd
      rw [readsBack, decide_eq_true_eq, ofSteps_of_fits false hm] at hread
      exact Decimal.toBinary64_sign hread s

end Binary64

end RackElevation
