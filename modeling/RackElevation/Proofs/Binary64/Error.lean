import Mathlib.Algebra.Order.Archimedean.Basic
import Mathlib.Tactic.FieldSimp
import Mathlib.Tactic.Linarith
import RackElevation.Proofs.Number.Scaling

/-!
# Rounding errors

One operation on finite numbers whose exact result is within a power of two has a finite result, and
that result is off by at most the part 2^-53 of the power.
-/

namespace RackElevation.Binary64

/-- The value of a finite number; zero for the others. -/
def val : Binary64 → ℚ
  | .finite s m _ => signedSteps s m / unit
  | .infinite _ => 0
  | .nan => 0

/-- A finite number that is off a value by at most the part 2^-53 of a power of two. -/
structure IsNear (x : Binary64) (r : ℚ) (k : ℕ) : Prop where
  isFinite : x.isFinite = true
  error : |x.val - r| ≤ 2 ^ k / 2 ^ 53

theorem unit_cast_pos : (0 : ℚ) < unit :=
  Nat.cast_pos.2 unit_pos

/-- A step is 2^-1074, so that many of them make one. -/
theorem unit_cast : (unit : ℚ) = 2 ^ 1074 := by
  rw [unit_eq_pow, Nat.cast_pow, Nat.cast_ofNat]

/-- The value of a finite number, in steps. -/
theorem val_finite (s : Bool) (m : ℕ) (h : Fits m) : (finite s m h).val = signedSteps s m / unit :=
  rfl

/-- Signed steps as a rational number. -/
theorem signedSteps_cast (s : Bool) (m : ℕ) :
    (signedSteps s m : ℚ) = if s then -(m : ℚ) else m := by
  cases s <;> simp [signedSteps]

/-- The size of signed steps is their number. -/
theorem abs_signedSteps (s : Bool) (m : ℕ) : |(signedSteps s m : ℚ)| = m := by
  rw [signedSteps_cast]
  split
  · rw [abs_neg, Nat.abs_cast]
  · rw [Nat.abs_cast]

/-! ## One rounding -/

section Rounding

variable {n d k : ℕ}

/-- A quotient is rounded down when its remainder is at most half of the divisor, and up when it is
at least half. -/
theorem halfEven_cases (n d : ℕ) :
    halfEven n d = n / d ∧ 2 * (n % d) ≤ d ∨ halfEven n d = n / d + 1 ∧ d ≤ 2 * (n % d) := by
  simp only [halfEven]
  split_ifs <;> omega

/-- Rounding a quotient to a natural number is off by at most one half. -/
theorem halfEven_error (n : ℕ) (hd : 0 < d) :
    2 * (halfEven n d * d) ≤ 2 * n + d ∧ 2 * n ≤ 2 * (halfEven n d * d) + d := by
  have hn := Nat.div_add_mod' n d
  have hr := Nat.mod_lt n hd
  rcases halfEven_cases n d with ⟨heq, hrem⟩ | ⟨heq, hrem⟩
  · rw [heq]
    omega
  · rw [heq, Nat.add_mul, Nat.one_mul]
    omega

/-- Rounding a quotient to a count of steps is off by at most half a step of its grid. -/
theorem nearestSteps_error (n : ℕ) (hd : 0 < d) :
    |(nearestSteps n d : ℚ) - n / d| ≤ 2 ^ gridLog n d / 2 := by
  have hdrat : (0 : ℚ) < d := Nat.cast_pos.2 hd
  obtain ⟨hle, hge⟩ := halfEven_error n (d := d * 2 ^ gridLog n d) (by positivity)
  have hsteps :
      halfEven n (d * 2 ^ gridLog n d) * (d * 2 ^ gridLog n d) = nearestSteps n d * d := by
    rw [nearestSteps_eq]
    ring
  rw [hsteps] at hle hge
  have hle' : (2 : ℚ) * (nearestSteps n d * d) ≤ 2 * n + d * 2 ^ gridLog n d := by
    exact_mod_cast hle
  have hge' : (2 : ℚ) * n ≤ 2 * (nearestSteps n d * d) + d * 2 ^ gridLog n d := by
    exact_mod_cast hge
  have hsub : (nearestSteps n d : ℚ) - n / d = (nearestSteps n d * d - n) / d := by
    field_simp
  rw [hsub, abs_div, abs_of_pos hdrat, div_le_iff₀ hdrat, abs_le]
  constructor <;> linarith

/-- A quotient within a power of two is rounded to a finite number close by. -/
theorem isNear_ofRatio {s : Bool} {r : ℚ} (hk : k ≤ 1022) (hd : 0 < d)
    (hr : (signedSteps s n : ℚ) / d / unit = r) (h : |r| ≤ 2 ^ k) : (ofRatio s n d).IsNear r k := by
  have hdrat : (0 : ℚ) < d := Nat.cast_pos.2 hd
  have hbound : n ≤ 2 ^ (1074 + k) * d := by
    rw [← hr, abs_div, abs_div, abs_signedSteps, abs_of_pos hdrat, abs_of_pos unit_cast_pos,
      div_le_iff₀ unit_cast_pos, div_le_iff₀ hdrat, unit_cast, ← pow_add, add_comm k] at h
    exact_mod_cast h
  -- the steps stay below the midpoint, so the result is finite
  have hfinite : (ofRatio s n d).isFinite = true := by
    refine (isFinite_ofRatio_iff hd).2 (lt_of_le_of_lt hbound (Nat.mul_lt_mul_of_pos_right ?_ hd))
    exact (Nat.pow_lt_pow_right (by decide) (by omega)).trans_le le_overflow
  have hgrid : gridLog n d ≤ 1022 + k := by
    refine gridLog_le ((Nat.div_le_of_le_mul (mul_comm d _ ▸ hbound)).trans_lt ?_)
    exact Nat.pow_lt_pow_right (by decide) (by omega)
  refine ⟨hfinite, ?_⟩
  obtain ⟨hfits, hofRatio⟩ := ofRatio_of_isFinite hfinite
  have herror := nearestSteps_error n hd
  have hpow : (2 : ℚ) ^ gridLog n d / 2 ≤ 2 ^ (1022 + k) / 2 :=
    div_le_div_of_nonneg_right (pow_le_pow_right₀ (by norm_num) hgrid) (by norm_num)
  -- what is left is the error of the nearest steps, under the sign and in the unit
  have hval : (ofRatio s n d).val - r = (if s then -1 else 1) *
      ((nearestSteps n d : ℚ) - n / d) / unit := by
    rw [hofRatio, val_finite, ← hr, signedSteps_cast, signedSteps_cast]
    split <;> ring
  have hunit : (2 : ℚ) ^ (1022 + k) / 2 = 2 ^ k / 2 ^ 53 * unit := by
    have hlow : (2 : ℚ) ^ (1022 + k) = 2 ^ 1021 * 2 * 2 ^ k := by rw [← pow_succ, ← pow_add]
    have hhigh : (2 : ℚ) ^ 1074 = 2 ^ 53 * 2 ^ 1021 := by rw [← pow_add]
    rw [unit_cast, hlow, hhigh]
    generalize (2 : ℚ) ^ 1021 = c
    ring
  rw [hval, abs_div, abs_mul, abs_of_pos unit_cast_pos, div_le_iff₀ unit_cast_pos, ← hunit]
  have hsign : |(if s then -1 else 1 : ℚ)| = 1 := by cases s <;> simp
  rw [hsign, one_mul]
  exact herror.trans hpow

end Rounding

/-- What is close to a value for every power of two is off by at most a small part of the value. -/
theorem relative_error {x : Binary64} {r : ℚ}
    (h : ∀ k, k ≤ 1022 → |r| ≤ 2 ^ k → x.IsNear r k) (hr : 1 ≤ r) (hr' : r ≤ 2 ^ 1021) :
    |x.val - r| ≤ r / 2 ^ 52 := by
  obtain ⟨j, hj, hj'⟩ := exists_nat_pow_near hr (one_lt_two (α := ℚ))
  have hjle : j ≤ 1021 := (pow_le_pow_iff_right₀ (one_lt_two (α := ℚ))).1 (hj.trans hr')
  have habs : |r| ≤ 2 ^ (j + 1) := by
    rw [abs_of_nonneg (zero_le_one.trans hr)]
    exact hj'.le
  refine (h (j + 1) (Nat.succ_le_succ hjle) habs).error.trans ?_
  rw [pow_succ, show (2 : ℚ) ^ 53 = 2 ^ 52 * 2 from pow_succ 2 52,
    mul_div_mul_right _ _ (two_ne_zero)]
  exact div_le_div_of_nonneg_right hj (by positivity)

/-! ## One operation -/

section Operations

variable {x y : Binary64} {k : ℕ}

/-- The sign of a product differs from plus exactly when the signs of its factors differ. -/
theorem signedSteps_bne (s t : Bool) (m n : ℕ) :
    signedSteps (s != t) (m * n) = signedSteps s m * signedSteps t n := by
  cases s <;> cases t <;> simp [signedSteps]

theorem val_zero (s : Bool) : (zero s).val = 0 := by
  rw [zero_eq, val_finite, signedSteps_zero, Int.cast_zero, zero_div]

/-- Negation is exact, also for the infinities and for what is no number, which have the value zero.
-/
theorem val_neg (x : Binary64) : x.neg.val = -x.val := by
  cases x with
  | nan => exact neg_zero.symm
  | infinite s => exact neg_zero.symm
  | finite s m hm => rw [neg, val_finite, val_finite, signedSteps_not, Int.cast_neg, neg_div]

/-- Zero is near itself, to any precision. -/
theorem isNear_zero (s : Bool) (k : ℕ) : (zero s).IsNear 0 k := by
  refine ⟨by rw [zero_eq]; rfl, ?_⟩
  rw [val_zero, sub_zero, abs_zero]
  positivity

/-- A sum of finite numbers. -/
theorem isNear_add (hx : x.isFinite = true) (hy : y.isFinite = true) (hk : k ≤ 1022)
    (h : |x.val + y.val| ≤ 2 ^ k) : (x.add y).IsNear (x.val + y.val) k := by
  cases x with
  | nan => contradiction
  | infinite s => contradiction
  | finite s m hm =>
      cases y with
      | nan => contradiction
      | infinite t => contradiction
      | finite t n hn =>
          have hsum : (finite s m hm).val + (finite t n hn).val =
              ((signedSteps s m + signedSteps t n : ℤ) : ℚ) / unit := by
            rw [val_finite, val_finite, Int.cast_add, add_div]
          rw [hsum] at h ⊢
          simp only [add]
          split
          · next hzero =>
              rw [hzero, Int.cast_zero, zero_div]
              exact isNear_zero _ k
          · refine isNear_ofRatio hk one_pos ?_ h
            rw [signedSteps_decide, Nat.cast_one, div_one]

/-- A difference of finite numbers. -/
theorem isNear_sub (hx : x.isFinite = true) (hy : y.isFinite = true) (hk : k ≤ 1022)
    (h : |x.val - y.val| ≤ 2 ^ k) : (x.sub y).IsNear (x.val - y.val) k := by
  rw [sub_eq_add_neg, ← val_neg] at h ⊢
  exact isNear_add hx ((isFinite_neg y).trans hy) hk h

/-- A product of finite numbers. -/
theorem isNear_mul (hx : x.isFinite = true) (hy : y.isFinite = true) (hk : k ≤ 1022)
    (h : |x.val * y.val| ≤ 2 ^ k) : (x.mul y).IsNear (x.val * y.val) k := by
  cases x with
  | nan => contradiction
  | infinite s => contradiction
  | finite s m hm =>
      cases y with
      | nan => contradiction
      | infinite t => contradiction
      | finite t n hn =>
          refine isNear_ofRatio hk unit_pos ?_ h
          rw [signedSteps_bne, val_finite, val_finite, Int.cast_mul, div_div, div_mul_div_comm]

/-- A quotient of finite numbers. -/
theorem isNear_div (hx : x.isFinite = true) (hy : y.isFinite = true) (hne : y.val ≠ 0)
    (hk : k ≤ 1022) (h : |x.val / y.val| ≤ 2 ^ k) : (x.div y).IsNear (x.val / y.val) k := by
  cases x with
  | nan => contradiction
  | infinite s => contradiction
  | finite s m hm =>
      cases y with
      | nan => contradiction
      | infinite t => contradiction
      | finite t n hn =>
          have hn0 : n ≠ 0 := by
            rintro rfl
            rw [val_finite, signedSteps_zero, Int.cast_zero, zero_div] at hne
            exact hne rfl
          have hsteps : (signedSteps t n : ℚ) ≠ 0 := by
            rw [← abs_ne_zero, abs_signedSteps]
            exact Nat.cast_ne_zero.2 hn0
          rw [div, if_neg hn0]
          -- the quotient of the values is that of the steps, in units
          refine isNear_ofRatio hk (Nat.pos_of_ne_zero hn0) ?_ h
          have hdiv : (signedSteps (s != t) (m * unit) : ℚ) / n =
              signedSteps s m * unit / signedSteps t n := by
            rw [div_eq_div_iff (Nat.cast_ne_zero.2 hn0) hsteps]
            cases s <;> cases t <;> simp [signedSteps]
          rw [hdiv, val_finite, val_finite, div_div_div_cancel_right₀ unit_cast_pos.ne',
            div_right_comm, mul_div_cancel_right₀ _ unit_cast_pos.ne']

/-- An integer that is a magnitude is not rounded. -/
theorem ofInt_of_fits {i : ℤ} (h : Fits (i.natAbs * unit)) :
    (ofInt i).isFinite = true ∧ (ofInt i).val = i := by
  rw [ofInt, ofRatio_of_fits _ h, val_finite, signedSteps_mul, signedSteps_decide, Int.cast_mul,
    Int.cast_natCast, mul_div_cancel_right₀ _ unit_cast_pos.ne']
  exact ⟨rfl, rfl⟩

/-- A natural number of at most 53 binary digits is not rounded. -/
theorem ofNat_of_lt {n : ℕ} (hn : n < 2 ^ 53) : (ofNat n).isFinite = true ∧ (ofNat n).val = n := by
  refine ofInt_of_fits (i := n) ?_
  rw [Int.natAbs_natCast, unit_eq_pow]
  exact fits_mul_pow hn (by decide)

/-- An integer up to 2^k is rounded to a number off by at most 2^(k - 53). -/
theorem isNear_ofInt {i : ℤ} (hk : k ≤ 1022) (h : |(i : ℚ)| ≤ 2 ^ k) : (ofInt i).IsNear i k := by
  refine isNear_ofRatio hk one_pos ?_ h
  rw [signedSteps_mul, signedSteps_decide, Nat.cast_one, div_one, Int.cast_mul, Int.cast_natCast,
    mul_div_cancel_right₀ _ unit_cast_pos.ne']

/-- A natural number up to 2^k is rounded to a number off by at most 2^(k - 53). -/
theorem isNear_ofNat {n : ℕ} (hk : k ≤ 1022) (h : (n : ℚ) ≤ 2 ^ k) : (ofNat n).IsNear n k := by
  have hint : ((n : ℤ) : ℚ) = n := Int.cast_natCast n
  rw [← hint]
  refine isNear_ofInt hk ?_
  rwa [hint, Nat.abs_cast]

/-- A quotient up to 2^k is rounded once, to a number off by at most 2^(k - 53). -/
theorem isNear_ofQuotient {n d : ℕ} (hk : k ≤ 1022) (hd : 0 < d) (h : (n / d : ℚ) ≤ 2 ^ k) :
    (ofQuotient n d).IsNear (n / d) k := by
  refine isNear_ofRatio hk hd ?_ (by rwa [abs_of_nonneg (by positivity)])
  rw [signedSteps_mul, Int.cast_mul, Int.cast_natCast, mul_div_right_comm,
    mul_div_cancel_right₀ _ unit_cast_pos.ne']
  rfl

end Operations

/-! ## Signs -/

section Signs

variable {x y : Binary64} {s : Bool} {m n d : ℕ}

/-- A finite number is not negative when its steps are not. -/
theorem val_finite_nonneg_iff {h : Fits m} : 0 ≤ (finite s m h).val ↔ 0 ≤ signedSteps s m := by
  rw [val_finite, le_div_iff₀ unit_cast_pos, zero_mul, Int.cast_nonneg_iff]

/-- Rounding keeps a sign. -/
theorem val_ofRatio_nonneg (h : 0 ≤ signedSteps s n) : 0 ≤ (ofRatio s n d).val := by
  cases s with
  | false =>
      rw [ofRatio, ofSteps]
      split
      · exact val_finite_nonneg_iff.2 (Int.natCast_nonneg _)
      · exact le_rfl
  | true =>
      obtain rfl : n = 0 := by
        rw [signedSteps, if_pos rfl] at h
        omega
      rw [ofRatio_zero, val_finite_nonneg_iff, signedSteps_zero]

/-- A product of numbers that are not negative is not negative, even when it overflows. -/
theorem val_mul_nonneg (hx : x.isFinite = true) (hy : y.isFinite = true) (hx0 : 0 ≤ x.val)
    (hy0 : 0 ≤ y.val) : 0 ≤ (x.mul y).val := by
  cases x with
  | nan => contradiction
  | infinite s => contradiction
  | finite s m hm =>
      cases y with
      | nan => contradiction
      | infinite t => contradiction
      | finite t n hn =>
          rw [val_finite_nonneg_iff] at hx0 hy0
          refine val_ofRatio_nonneg ?_
          rw [signedSteps_bne]
          exact mul_nonneg hx0 hy0

/-- A quotient of numbers that are not negative is not negative, even by zero. -/
theorem val_div_nonneg (hx : x.isFinite = true) (hy : y.isFinite = true) (hx0 : 0 ≤ x.val)
    (hy0 : 0 ≤ y.val) : 0 ≤ (x.div y).val := by
  cases x with
  | nan => contradiction
  | infinite s => contradiction
  | finite s m hm =>
      cases y with
      | nan => contradiction
      | infinite t => contradiction
      | finite t n hn =>
          rw [val_finite_nonneg_iff] at hx0 hy0
          rw [div]
          split
          · split <;> exact le_rfl
          · next hne =>
              -- a divisor that is not zero and not negative has a plus sign
              obtain rfl : t = false := by
                cases t with
                | false => rfl
                | true => rw [signedSteps, if_pos rfl] at hy0; omega
              refine val_ofRatio_nonneg ?_
              rw [Bool.bne_false, signedSteps_mul]
              exact mul_nonneg hx0 (Int.natCast_nonneg _)

end Signs

/-! ## Sizes -/

section Sizes

variable {x y : Binary64} {r : ℚ} {j k : ℕ}

/-- A finite number whose size is at most a power of two. -/
structure IsWithin (x : Binary64) (k : ℕ) : Prop where
  isFinite : x.isFinite = true
  bound : |x.val| ≤ 2 ^ k

/-- A bound on the size may be raised. -/
theorem IsWithin.mono (h : x.IsWithin j) (hjk : j ≤ k) : x.IsWithin k :=
  ⟨h.isFinite, h.bound.trans (pow_le_pow_right₀ (by norm_num) hjk)⟩

/-- A rounding error is far below the next power of two. -/
theorem IsNear.isWithin (h : x.IsNear r k) (hr : |r| ≤ 2 ^ k) : x.IsWithin (k + 1) := by
  refine ⟨h.isFinite, ?_⟩
  have hpow : (0 : ℚ) < 2 ^ k := by positivity
  have herror : |x.val - r| ≤ 2 ^ k :=
    h.error.trans (div_le_self hpow.le (by norm_num))
  calc |x.val| = |r + (x.val - r)| := by rw [add_sub_cancel]
    _ ≤ |r| + |x.val - r| := abs_add_le _ _
    _ ≤ 2 ^ k + 2 ^ k := add_le_add hr herror
    _ = 2 ^ (k + 1) := by rw [pow_succ, mul_two]

/-- A sum of two numbers up to 2^k stays below 2^(k + 2), rounding included. -/
theorem IsWithin.add (hx : x.IsWithin k) (hy : y.IsWithin k) (hk : k ≤ 1021) :
    (x.add y).IsWithin (k + 2) := by
  have hsum : |x.val + y.val| ≤ 2 ^ (k + 1) := by
    rw [pow_succ, mul_two]
    exact (abs_add_le _ _).trans (add_le_add hx.bound hy.bound)
  exact (isNear_add hx.isFinite hy.isFinite (by omega) hsum).isWithin hsum

/-- A difference of two numbers up to 2^k stays below 2^(k + 2), rounding included. -/
theorem IsWithin.sub (hx : x.IsWithin k) (hy : y.IsWithin k) (hk : k ≤ 1021) :
    (x.sub y).IsWithin (k + 2) := by
  refine hx.add ⟨(isFinite_neg y).trans hy.isFinite, ?_⟩ hk
  rw [val_neg, abs_neg]
  exact hy.bound

/-- The bounds of the factors add up in a product, with one more place for the rounding. -/
theorem IsWithin.mul (hx : x.IsWithin j) (hy : y.IsWithin k) (hjk : j + k ≤ 1022) :
    (x.mul y).IsWithin (j + k + 1) := by
  have hproduct : |x.val * y.val| ≤ 2 ^ (j + k) := by
    rw [abs_mul, pow_add]
    exact mul_le_mul hx.bound hy.bound (abs_nonneg _) (by positivity)
  exact (isNear_mul hx.isFinite hy.isFinite hjk hproduct).isWithin hproduct

/-- A natural number of at most 53 binary digits is as large after rounding as before. -/
theorem isWithin_ofNat {n : ℕ} (hn : n < 2 ^ k) (hk : k ≤ 53) : (ofNat n).IsWithin k := by
  obtain ⟨hfinite, hval⟩ := ofNat_of_lt (hn.trans_le (Nat.pow_le_pow_right two_pos hk))
  refine ⟨hfinite, ?_⟩
  rw [hval, Nat.abs_cast]
  exact_mod_cast hn.le

end Sizes

/-! ## Comparisons -/

section Comparisons

variable {x y : Binary64}

/-- Finite numbers compare as their values do. -/
theorem lt_iff_val_lt (hx : x.isFinite = true) (hy : y.isFinite = true) :
    x.lt y = true ↔ x.val < y.val := by
  cases x with
  | nan => contradiction
  | infinite s => contradiction
  | finite s m hm =>
      cases y with
      | nan => contradiction
      | infinite t => contradiction
      | finite t n hn =>
          rw [lt, decide_eq_true_eq, val_finite, val_finite,
            div_lt_div_iff_of_pos_right unit_cast_pos, Int.cast_lt]

/-- Finite numbers compare as their values do, equality included. -/
theorem le_iff_val_le (hx : x.isFinite = true) (hy : y.isFinite = true) :
    x.le y = true ↔ x.val ≤ y.val := by
  cases x with
  | nan => contradiction
  | infinite s => contradiction
  | finite s m hm =>
      cases y with
      | nan => contradiction
      | infinite t => contradiction
      | finite t n hn =>
          rw [le, lt, eqv, Bool.or_eq_true, decide_eq_true_eq, decide_eq_true_eq, val_finite,
            val_finite, div_le_div_iff_of_pos_right unit_cast_pos, Int.cast_le, le_iff_lt_or_eq]

end Comparisons

end RackElevation.Binary64
