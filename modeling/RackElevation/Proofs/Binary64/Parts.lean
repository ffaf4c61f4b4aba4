import RackElevation.Proofs.Binary64.Error

/-!
# Integer and fractional parts

The steps of a number beyond its integer part lie on the grid of the number, so the integer part and
the fractional part of a finite number are numbers of the format themselves.
-/

namespace RackElevation.Binary64

/-! ## Parts of a magnitude -/

section Magnitudes

variable {m n : ℕ}

/-- A smaller count on the grid of a magnitude is a magnitude. -/
theorem fits_of_dvd_of_le (hm : Fits m) (hdvd : 2 ^ (m.log2 + 1 - 53) ∣ n) (hle : n ≤ m) :
    Fits n := by
  have hgrid := gridLog_mono (d := 1) hle
  rw [gridLog, gridLog, Nat.div_one, Nat.div_one] at hgrid
  exact fits_iff.2 ⟨(pow_dvd_pow 2 hgrid).trans hdvd, hle.trans_lt (fits_iff.1 hm).2⟩

theorem dvd_mod_unit (hm : Fits m) : 2 ^ (m.log2 + 1 - 53) ∣ m % unit := by
  obtain ⟨hdvd, -⟩ := fits_iff.1 hm
  rw [unit_eq_pow]
  rcases le_total (m.log2 + 1 - 53) 1074 with hfine | hcoarse
  · exact (Nat.dvd_mod_iff (pow_dvd_pow 2 hfine)).2 hdvd
  · rw [Nat.mod_eq_zero_of_dvd ((pow_dvd_pow 2 hcoarse).trans hdvd)]
    exact dvd_zero _

theorem fits_mod_unit (hm : Fits m) : Fits (m % unit) :=
  fits_of_dvd_of_le hm (dvd_mod_unit hm) (Nat.mod_le m unit)

theorem fits_div_mul_unit (hm : Fits m) : Fits (m / unit * unit) := by
  refine fits_of_dvd_of_le hm ?_ (Nat.div_mul_le_self m unit)
  rw [Nat.dvd_add_iff_left (dvd_mod_unit hm), Nat.div_add_mod']
  exact (fits_iff.1 hm).1

/-- A count is its whole number of units and a share of a unit. -/
theorem div_unit_eq (m : ℕ) : (m : ℚ) / unit = (m / unit : ℕ) + (m % unit : ℕ) / (unit : ℚ) := by
  rw [div_eq_iff unit_cast_pos.ne', add_mul, div_mul_cancel₀ _ unit_cast_pos.ne', ← Nat.cast_mul,
    ← Nat.cast_add, Nat.div_add_mod']

theorem mod_unit_lt (m : ℕ) : (m % unit : ℕ) / (unit : ℚ) < 1 := by
  rw [div_lt_one unit_cast_pos, Nat.cast_lt]
  exact Nat.mod_lt m unit_pos

end Magnitudes

/-! ## The integer part -/

section Integers

variable {x : Binary64} {n : ℤ}

theorem exists_truncateToInt? (hx : x.isFinite = true) : ∃ n, x.truncateToInt? = some n := by
  cases x with
  | nan => contradiction
  | infinite s => contradiction
  | finite s m hm => exact ⟨_, rfl⟩

/-- The integer part of a number is closer to zero, and less than one away. -/
theorem truncateToInt?_spec (h : x.truncateToInt? = some n) :
    |x.val - n| < 1 ∧ |(n : ℚ)| ≤ |x.val| := by
  cases x with
  | nan => contradiction
  | infinite s => contradiction
  | finite s m hm =>
      obtain rfl := Option.some.inj h
      -- what is cut off is the remainder of the steps, less than one whole
      have hshare : (0 : ℚ) ≤ (m % unit : ℕ) / (unit : ℚ) := by positivity
      have hval : (finite s m hm).val =
          signedSteps s (m / unit) + (if s then -1 else 1) * ((m % unit : ℕ) / (unit : ℚ)) := by
        rw [val_finite, signedSteps_cast, signedSteps_cast]
        split
        · rw [neg_div, div_unit_eq]
          ring
        · rw [div_unit_eq, one_mul]
      have hsize : |(finite s m hm).val| = (m / unit : ℕ) + (m % unit : ℕ) / (unit : ℚ) := by
        rw [val_finite, abs_div, abs_signedSteps, abs_of_pos unit_cast_pos, div_unit_eq]
      rw [hsize, hval, add_sub_cancel_left, abs_signedSteps, abs_mul, abs_of_nonneg hshare]
      refine ⟨?_, le_add_of_nonneg_right hshare⟩
      have hsign : |(if s then -1 else 1 : ℚ)| = 1 := by cases s <;> simp
      rw [hsign, one_mul]
      exact mod_unit_lt m

/-- A number above minus one has no negative integer part. -/
theorem truncateToInt?_nonneg (h : x.truncateToInt? = some n) (hlow : -1 < x.val) : 0 ≤ n := by
  obtain ⟨hclose, hle⟩ := truncateToInt?_spec h
  by_contra hneg
  have hn : (n : ℚ) ≤ -1 := by exact_mod_cast Int.le_sub_one_of_lt (not_le.1 hneg)
  rw [abs_of_nonpos (by linarith : (n : ℚ) ≤ 0)] at hle
  rcases le_total 0 x.val with hsign | hsign
  · linarith [(abs_lt.1 hclose).2]
  · rw [abs_of_nonpos hsign] at hle
    linarith

/-- The integer part of a number that is below a positive integer is below it too. -/
theorem truncateToInt?_lt (h : x.truncateToInt? = some n) {m : ℤ} (hm : 0 < m) (hlt : x.val < m) :
    n < m := by
  obtain ⟨hclose, hle⟩ := truncateToInt?_spec h
  by_contra hge
  have hn : (m : ℚ) ≤ n := by exact_mod_cast not_lt.1 hge
  have hm' : (1 : ℚ) ≤ m := by exact_mod_cast hm
  rw [abs_of_nonneg (by linarith : (0 : ℚ) ≤ n)] at hle
  rcases le_total 0 x.val with hsign | hsign
  · rw [abs_of_nonneg hsign] at hle
    linarith
  · linarith [(abs_lt.1 hclose).1]

/-- The integer part of a number reaches every integer that the number reaches. -/
theorem le_truncateToInt? (h : x.truncateToInt? = some n) {m : ℤ} (hle : m ≤ x.val) : m ≤ n := by
  obtain ⟨hclose, -⟩ := truncateToInt?_spec h
  have hlt : (m : ℚ) < n + 1 := by linarith [(abs_lt.1 hclose).2]
  exact Int.lt_add_one_iff.1 (by exact_mod_cast hlt)

/-- The integer part of a number is a number of the format. -/
theorem ofInt_truncateToInt? (h : x.truncateToInt? = some n) :
    (ofInt n).isFinite = true ∧ (ofInt n).val = n := by
  cases x with
  | nan => contradiction
  | infinite s => contradiction
  | finite s m hm =>
      obtain rfl := Option.some.inj h
      refine ofInt_of_fits ?_
      rw [natAbs_signedSteps]
      exact fits_div_mul_unit hm

end Integers

/-! ## The fractional part -/

/-- The fractional part of a finite number lies between zero and one, up to one rounding. -/
theorem fractionalPart_bounds {x : Binary64} (hx : x.isFinite = true) :
    x.fractionalPart.isFinite = true ∧ -(1 / 2 ^ 53) ≤ x.fractionalPart.val ∧
      x.fractionalPart.val ≤ 1 + 1 / 2 ^ 53 := by
  cases x with
  | nan => contradiction
  | infinite s => contradiction
  | finite s m hm =>
      have hshare : (0 : ℚ) ≤ (m % unit : ℕ) / (unit : ℚ) := by positivity
      have hlt := mod_unit_lt m
      cases s with
      | false =>
          rw [fractionalPart, ofSteps_of_fits _ (fits_mod_unit hm), val_finite, signedSteps_cast,
            if_neg Bool.false_ne_true]
          exact ⟨rfl, by linarith, by linarith⟩
      | true =>
          rw [fractionalPart]
          split
          · rw [val_zero, zero_eq]
            exact ⟨rfl, by norm_num, by norm_num⟩
          · rw [ofSteps_of_fits _ (fits_mod_unit hm)]
            obtain ⟨honefin, hone⟩ := ofNat_of_lt (n := 1) (by norm_num)
            rw [Nat.cast_one] at hone
            have hsum : (finite true (m % unit) (fits_mod_unit hm)).val + (ofNat 1).val =
                1 - (m % unit : ℕ) / (unit : ℚ) := by
              rw [hone, val_finite, signedSteps_cast, if_pos rfl, neg_div]
              ring
            -- the fraction of a negative number is counted from the next number below, with one
            -- rounding
            have hnear := isNear_add (k := 0) rfl honefin (Nat.zero_le _) (by
              rw [hsum, pow_zero, abs_le]
              constructor <;> linarith)
            rw [hsum] at hnear
            have herror := abs_le.1 hnear.error
            rw [pow_zero] at herror
            exact ⟨hnear.isFinite, by linarith, by linarith⟩

end RackElevation.Binary64
