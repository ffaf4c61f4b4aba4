import RackElevation.Proofs.Binary64.Rounding

/-!
# The range of rounding

Rounding is monotone, and every rounded count below the limit is a magnitude.  So a quotient is
rounded to a finite number exactly when it lies below the midpoint between the greatest magnitude
and the limit.
-/

namespace RackElevation.Binary64

/-! ## The grid of a quotient -/

section Grid

variable {n n' d : ℕ}

/-- Rounding does not go below the whole part of a quotient. -/
theorem le_halfEven (n d : ℕ) : n / d ≤ halfEven n d := by
  simp only [halfEven]
  split_ifs <;> omega

/-- Rounding goes at most one above the whole part of a quotient. -/
theorem halfEven_le (n d : ℕ) : halfEven n d ≤ n / d + 1 := by
  simp only [halfEven]
  split_ifs <;> omega

/-- Rounding keeps the order of the dividends. -/
theorem halfEven_mono (h : n ≤ n') : halfEven n d ≤ halfEven n' d := by
  rcases Nat.lt_or_eq_of_le (Nat.div_le_div_right (c := d) h) with hlt | heq
  · exact (halfEven_le n d).trans (Nat.le_trans hlt (le_halfEven n' d))
  · -- the quotients agree, so the remainders decide
    have hrem : n % d ≤ n' % d := by
      have hn := Nat.div_add_mod n d
      have hn' := Nat.div_add_mod n' d
      rw [heq] at hn
      omega
    simp only [halfEven, heq]
    split_ifs <;> omega

/-- The exponent of the grid on which a quotient is rounded. -/
def gridLog (n d : ℕ) : ℕ :=
  (n / d).log2 + 1 - 53

/-- The nearest steps are the nearest multiple of the grid. -/
theorem nearestSteps_eq (n d : ℕ) :
    nearestSteps n d = halfEven n (d * 2 ^ gridLog n d) * 2 ^ gridLog n d := by
  simp only [nearestSteps, gridLog, Nat.pow_eq]

/-- A quotient below 2^(53 + e) is rounded on a grid no coarser than 2^e. -/
theorem gridLog_le {e : ℕ} (h : n / d < 2 ^ (53 + e)) : gridLog n d ≤ e := by
  rw [gridLog]
  by_cases hne : n / d = 0
  · rw [hne]
    exact Nat.zero_le e
  · have hlog := (Nat.log2_lt hne).2 h
    omega

/-- A quotient of at least 2^(52 + e) is rounded on a grid no finer than 2^e. -/
theorem le_gridLog {e : ℕ} (h : 2 ^ (52 + e) ≤ n / d) : e ≤ gridLog n d := by
  have hne : n / d ≠ 0 := (lt_of_lt_of_le (by positivity) h).ne'
  have hlog := (Nat.le_log2 hne).2 h
  rw [gridLog]
  omega

/-- A quotient has at most 53 significant bits on its grid. -/
theorem div_grid_lt (n d : ℕ) : n / (d * 2 ^ gridLog n d) < 2 ^ 53 := by
  rw [← Nat.div_div_eq_div_mul, Nat.div_lt_iff_lt_mul (by positivity), ← pow_add]
  refine lt_of_lt_of_le Nat.lt_log2_self (Nat.pow_le_pow_right (by decide) ?_)
  rw [gridLog]
  omega

/-- On a grid coarser than the steps, a quotient has exactly 53 significant bits. -/
theorem le_div_grid (h : 0 < gridLog n d) : 2 ^ 52 ≤ n / (d * 2 ^ gridLog n d) := by
  have hlog : 52 + gridLog n d = (n / d).log2 := by
    rw [gridLog] at h ⊢
    omega
  have hne : n / d ≠ 0 := by
    intro hzero
    rw [gridLog, hzero] at h
    exact absurd h (by decide)
  rw [← Nat.div_div_eq_div_mul, Nat.le_div_iff_mul_le (by positivity), ← pow_add, hlog]
  exact Nat.log2_self_le hne

/-- On its grid a quotient is rounded to at most 2^53. -/
theorem halfEven_grid_le (n d : ℕ) : halfEven n (d * 2 ^ gridLog n d) ≤ 2 ^ 53 :=
  (halfEven_le _ _).trans (div_grid_lt n d)

/-- The nearest steps are at most 2^53 times the grid. -/
theorem nearestSteps_le (n d : ℕ) : nearestSteps n d ≤ 2 ^ (53 + gridLog n d) := by
  rw [nearestSteps_eq, pow_add]
  exact Nat.mul_le_mul_right _ (halfEven_grid_le n d)

/-- The nearest steps are at least 2^52 times a grid that is coarser than one step. -/
theorem le_nearestSteps (h : 0 < gridLog n d) : 2 ^ (52 + gridLog n d) ≤ nearestSteps n d := by
  rw [nearestSteps_eq, pow_add]
  exact Nat.mul_le_mul_right _ ((le_div_grid h).trans (le_halfEven _ _))

/-- A greater dividend is rounded on a grid no finer. -/
theorem gridLog_mono (h : n ≤ n') : gridLog n d ≤ gridLog n' d := by
  have hle : n / d ≤ n' / d := Nat.div_le_div_right h
  have hlog : (n / d).log2 ≤ (n' / d).log2 := by
    by_cases hne : n / d = 0
    · rw [hne]
      exact Nat.zero_le _
    · have hne' : n' / d ≠ 0 := fun hzero => hne (Nat.le_zero.1 (hzero ▸ hle))
      exact (Nat.le_log2 hne').2 ((Nat.log2_self_le hne).trans hle)
  rw [gridLog, gridLog]
  omega

/-- A greater quotient is not rounded to a smaller count. -/
theorem nearestSteps_mono (h : n ≤ n') : nearestSteps n d ≤ nearestSteps n' d := by
  rcases Nat.lt_or_eq_of_le (gridLog_mono (d := d) h) with hlt | heq
  · -- the greater quotient has a coarser grid, and a power of two lies between the counts
    have hpow : 2 ^ (53 + gridLog n d) ≤ 2 ^ (52 + gridLog n' d) :=
      Nat.pow_le_pow_right (by decide) (by omega)
    exact (nearestSteps_le n d).trans (hpow.trans (le_nearestSteps (by omega)))
  · rw [nearestSteps_eq, nearestSteps_eq, heq]
    exact Nat.mul_le_mul_right _ (halfEven_mono h)

/-! ## Magnitudes -/

/-- A rounded count below the limit is a magnitude. -/
theorem fits_nearestSteps_iff : Fits (nearestSteps n d) ↔ nearestSteps n d < limit := by
  rw [fits_iff, and_iff_right_iff_imp]
  intro _
  rw [nearestSteps_eq]
  rcases Nat.lt_or_eq_of_le (halfEven_grid_le n d) with hlt | heq
  · exact dvd_mul_pow hlt _
  · -- rounding went up to the next power of two
    rw [heq, ← pow_add, Nat.log2_two_pow]
    exact pow_dvd_pow 2 (by omega)

/-- A quotient is rounded to a finite number when its nearest steps are below the limit. -/
theorem isFinite_ofRatio {s : Bool} :
    (ofRatio s n d).isFinite = true ↔ nearestSteps n d < limit := by
  rw [← fits_nearestSteps_iff, ofRatio, ofSteps]
  split
  · next hfits => exact iff_of_true rfl hfits
  · next hfits => exact iff_of_false Bool.false_ne_true hfits

/-! ## The overflow threshold -/

/-- Below the midpoint after a count, a quotient is rounded to that count at most. -/
theorem halfEven_le_of_lt {k : ℕ} (h : 2 * n < (2 * k + 1) * d) : halfEven n d ≤ k := by
  have hn := Nat.div_add_mod n d
  have hle : n / d ≤ k := by
    by_contra hlt
    have hmul : d * (k + 1) ≤ d * (n / d) := Nat.mul_le_mul_left d (by omega)
    rw [Nat.mul_succ] at hmul
    rw [Nat.add_mul, Nat.mul_assoc, Nat.mul_comm k d] at h
    omega
  rcases Nat.lt_or_eq_of_le hle with hlt | heq
  · exact (halfEven_le n d).trans hlt
  · have hrem : 2 * (n % d) < d := by
      rw [heq] at hn
      rw [Nat.add_mul, Nat.mul_assoc, Nat.mul_comm k d] at h
      omega
    simp only [halfEven, heq, if_pos hrem, le_refl]

/-- At the midpoint after a count, a quotient is rounded to the even one. -/
theorem halfEven_midpoint (k : ℕ) (hd : 0 < d) :
    halfEven ((2 * k + 1) * d) (2 * d) = k + k % 2 := by
  have hn : (2 * k + 1) * d = 2 * d * k + d := by ring
  have hquot : (2 * k + 1) * d / (2 * d) = k := by
    rw [hn, Nat.mul_add_div (by omega), Nat.div_eq_of_lt (by omega), Nat.add_zero]
  have hrem : (2 * k + 1) * d % (2 * d) = d := by
    rw [hn, Nat.mul_add_mod, Nat.mod_eq_of_lt (by omega)]
  simp only [halfEven, hquot, hrem, lt_irrefl, if_false]

/-- The midpoint between the greatest magnitude and the limit, in steps. -/
def overflow : ℕ :=
  (2 * (2 ^ 53 - 1) + 1) * 2 ^ 2044

/-- The limit is on the coarsest grid. -/
theorem limit_eq_mul : limit = 2 ^ 53 * 2 ^ 2045 := by
  rw [limit_eq, ← pow_add]

/-- The midpoint before the limit is rounded on the coarsest grid: the upper bound for it. -/
theorem overflow_lt : overflow < 2 ^ (53 + 2045) := by
  rw [overflow, show 53 + 2045 = 54 + 2044 from rfl, pow_add]
  exact Nat.mul_lt_mul_of_pos_right (by norm_num) (by positivity)

/-- The midpoint before the limit is rounded on the coarsest grid: the lower bound for it. -/
theorem le_overflow : 2 ^ (52 + 2045) ≤ overflow := by
  rw [overflow, show 52 + 2045 = 53 + 2044 from rfl, pow_add]
  exact Nat.mul_le_mul_right _ (by norm_num)

/-- The midpoint lies half a grid step above the greatest magnitude. -/
theorem two_mul_overflow : 2 * overflow = (2 * (2 ^ 53 - 1) + 1) * 2 ^ 2045 := by
  rw [overflow, pow_succ 2 2044, mul_comm (2 ^ 2044) 2, mul_left_comm]

theorem limit_le_mul_overflow : limit ≤ overflow * 2 := by
  rw [limit_eq_mul, mul_comm overflow, two_mul_overflow]
  exact Nat.mul_le_mul_right _ (by norm_num)

/-- Below the midpoint a quotient is rounded below the limit. -/
theorem nearestSteps_lt_of_lt_overflow (h : n < overflow * d) : nearestSteps n d < limit := by
  have hquot : n / d < 2 ^ (53 + 2045) := by
    rw [mul_comm] at h
    exact lt_trans (Nat.div_lt_of_lt_mul h) overflow_lt
  rw [limit_eq_mul]
  rcases Nat.lt_or_eq_of_le (gridLog_le hquot) with hlt | heq
  · refine (nearestSteps_le n d).trans_lt ?_
    rw [← pow_add]
    exact pow_lt_pow_right₀ (by decide) (by omega)
  · -- on the coarsest grid, the count stays below the last power of two
    have hmid : 2 * n < (2 * (2 ^ 53 - 1) + 1) * (d * 2 ^ 2045) := by
      rw [mul_comm d, ← mul_assoc, ← two_mul_overflow, mul_assoc]
      omega
    have hle := halfEven_le_of_lt hmid
    rw [nearestSteps_eq, heq]
    exact Nat.mul_lt_mul_of_pos_right (lt_of_le_of_lt hle (by norm_num)) (by positivity)

/-- The midpoint itself is rounded to the limit, which is the even one of its neighbours. -/
theorem nearestSteps_overflow (hd : 0 < d) : nearestSteps (overflow * d) d = limit := by
  have hquot : overflow * d / d = overflow := Nat.mul_div_cancel _ hd
  have hlog : gridLog (overflow * d) d = 2045 := by
    refine le_antisymm (gridLog_le ?_) (le_gridLog ?_)
    · rw [hquot]
      exact overflow_lt
    · rw [hquot]
      exact le_overflow
  have hgrid : d * 2 ^ 2045 = 2 * (2 ^ 2044 * d) := by
    rw [pow_succ, mul_comm d, mul_comm (2 ^ 2044) 2, mul_assoc]
  have heven : 2 ^ 53 - 1 + (2 ^ 53 - 1) % 2 = 2 ^ 53 := by norm_num
  rw [nearestSteps_eq, hlog, limit_eq_mul, hgrid, overflow, mul_assoc,
    halfEven_midpoint _ (by positivity), heven]

/-- A quotient is rounded to a finite number exactly when it lies below the midpoint. -/
theorem isFinite_ofRatio_iff {s : Bool} (hd : 0 < d) :
    (ofRatio s n d).isFinite = true ↔ n < overflow * d := by
  rw [isFinite_ofRatio]
  refine ⟨fun h => ?_, nearestSteps_lt_of_lt_overflow⟩
  by_contra hle
  have hmono := nearestSteps_mono (d := d) (Nat.le_of_not_lt hle)
  rw [nearestSteps_overflow hd] at hmono
  exact absurd h (Nat.not_lt.2 hmono)

end Grid

end RackElevation.Binary64
