import Mathlib.Algebra.Order.Ring.Int
import Mathlib.Tactic.NormNum
import Mathlib.Tactic.Positivity
import Mathlib.Tactic.Ring
import RackElevation.Number

/-!
# Exact rounding

A count of steps that is a magnitude is its own rounding, so an operation is exact whenever its
exact result is a magnitude.  The counts of at most 53 significant bits below the limit are
magnitudes.
-/

namespace RackElevation.Binary64

private theorem two_pow_eq (n : ℕ) : Nat.pow 2 n = 2 ^ n :=
  Nat.pow_eq

/-- The limit of finite numbers is 2^1024, or 2^2098 steps. -/
theorem limit_eq : limit = 2 ^ 2098 := by
  unfold limit
  exact two_pow_eq 2098

/-- One is 2^1074 steps. -/
theorem unit_eq_pow : unit = 2 ^ 1074 := by
  unfold unit
  exact two_pow_eq 1074

/-- The magnitudes, in the notation for powers. -/
theorem fits_iff {m : ℕ} : Fits m ↔ 2 ^ (m.log2 + 1 - 53) ∣ m ∧ m < limit := by
  rw [Fits, Nat.pow_eq, Nat.dvd_iff_mod_eq_zero]

/-- A quotient without a rest is not rounded. -/
theorem halfEven_of_mod_eq_zero {n d : ℕ} (hd : 0 < d) (h : n % d = 0) : halfEven n d = n / d := by
  simp only [halfEven, h]
  rw [if_pos (by omega)]

theorem halfEven_zero (d : ℕ) : halfEven 0 d = 0 := by
  by_cases hd : 0 < d
  · rw [halfEven_of_mod_eq_zero hd (Nat.zero_mod d), Nat.zero_div]
  · obtain rfl : d = 0 := by omega
    rfl

/-- A multiple is divided without rounding. -/
theorem halfEven_mul_right (n : ℕ) {d : ℕ} (hd : 0 < d) : halfEven (n * d) d = n := by
  rw [halfEven_of_mod_eq_zero hd (Nat.mul_mod_left n d), Nat.mul_div_cancel n hd]

/-- A quotient that is a magnitude is its own rounding. -/
theorem nearestSteps_mul_of_fits {m d : ℕ} (h : Fits m) (hd : 0 < d) :
    nearestSteps (m * d) d = m := by
  obtain ⟨q, hq⟩ := (fits_iff.1 h).1
  simp only [nearestSteps, Nat.mul_div_cancel m hd, Nat.pow_eq]
  set grid := 2 ^ (m.log2 + 1 - 53) with hgrid
  have hpos : 0 < grid := by positivity
  have hmul : m * d = q * (d * grid) := by
    rw [hq]
    ring
  rw [hmul, halfEven_mul_right q (by positivity), hq, mul_comm]

/-- A magnitude is its own rounding. -/
theorem nearestSteps_of_fits {m : ℕ} (h : Fits m) : nearestSteps m 1 = m := by
  simpa using nearestSteps_mul_of_fits h one_pos

/-- Steps that fit are a finite number. -/
theorem ofSteps_of_fits (s : Bool) {m : ℕ} (h : Fits m) : ofSteps s m = .finite s m h :=
  dif_pos h

/-- Steps that fit are not rounded. -/
theorem ofRatio_of_fits (s : Bool) {m : ℕ} (h : Fits m) : ofRatio s m 1 = .finite s m h := by
  simp only [ofRatio, nearestSteps_of_fits h]
  exact ofSteps_of_fits s h

theorem fits_zero : Fits 0 := by
  refine fits_iff.2 ⟨dvd_zero _, ?_⟩
  rw [limit_eq]
  positivity

/-- Zero is the number of no steps, with either sign. -/
theorem zero_eq (s : Bool) : zero s = .finite s 0 fits_zero :=
  ofSteps_of_fits s fits_zero

theorem nearestSteps_zero (d : ℕ) : nearestSteps 0 d = 0 := by
  simp [nearestSteps, halfEven_zero]

/-- Nothing is divided without rounding. -/
theorem ofRatio_zero (s : Bool) (d : ℕ) : ofRatio s 0 d = .finite s 0 fits_zero := by
  rw [ofRatio, nearestSteps_zero]
  exact ofSteps_of_fits s fits_zero

theorem ofInt_zero : ofInt 0 = .finite false 0 fits_zero := by
  rw [ofInt, Int.natAbs_zero, Nat.zero_mul, ofRatio_zero, decide_eq_false (lt_irrefl _)]

/-- A count of at most 53 significant bits on a grid of powers of two lies on its own grid. -/
theorem dvd_mul_pow {k : ℕ} (hk : k < 2 ^ 53) (e : ℕ) :
    2 ^ ((k * 2 ^ e).log2 + 1 - 53) ∣ k * 2 ^ e := by
  rcases Nat.eq_zero_or_pos k with rfl | hpos
  · rw [Nat.zero_mul]
    exact dvd_zero _
  · -- the grid of the number is no coarser than the one it was given on
    have hne : k * 2 ^ e ≠ 0 := by positivity
    have hlt : k * 2 ^ e < 2 ^ (53 + e) := by
      rw [pow_add]
      exact Nat.mul_lt_mul_of_pos_right hk (by positivity)
    have hlog : (k * 2 ^ e).log2 < 53 + e := (Nat.log2_lt hne).2 hlt
    exact dvd_mul_of_dvd_right (pow_dvd_pow 2 (by omega)) k

/-- A count of at most 53 significant bits on a grid of powers of two is a magnitude. -/
theorem fits_mul_pow {k e : ℕ} (hk : k < 2 ^ 53) (he : e + 53 ≤ 2098) : Fits (k * 2 ^ e) := by
  refine fits_iff.2 ⟨dvd_mul_pow hk e, ?_⟩
  rw [limit_eq]
  calc k * 2 ^ e < 2 ^ 53 * 2 ^ e := Nat.mul_lt_mul_of_pos_right hk (by positivity)
    _ = 2 ^ (53 + e) := (pow_add 2 53 e).symm
    _ ≤ 2 ^ 2098 := pow_le_pow_right₀ (by decide) (by omega)

/-- An integer is its sign and its size. -/
theorem signedSteps_decide (z : ℤ) : signedSteps (decide (z < 0)) z.natAbs = z := by
  rcases lt_or_ge z 0 with h | h
  · rw [signedSteps, decide_eq_true h, if_pos rfl]
    omega
  · rw [signedSteps, decide_eq_false (not_lt.2 h), if_neg (by decide)]
    omega

theorem signedSteps_zero (s : Bool) : signedSteps s 0 = 0 := by
  cases s <;> rfl

/-- Signed steps are multiplied under their sign. -/
theorem signedSteps_mul (s : Bool) (m u : ℕ) : signedSteps s (m * u) = signedSteps s m * u := by
  cases s <;> simp [signedSteps]

/-- The other sign gives the opposite steps. -/
theorem signedSteps_not (s : Bool) (m : ℕ) : signedSteps (!s) m = -signedSteps s m := by
  cases s <;> simp [signedSteps]

/-- The sum of two finite numbers is exact when the exact sum is a magnitude. -/
theorem add_finite {s t : Bool} {m n : ℕ} (hm : Fits m) (hn : Fits n)
    (hsum : Fits (signedSteps s m + signedSteps t n).natAbs) :
    ∃ r, (finite s m hm).add (finite t n hn) = finite r _ hsum ∧
      signedSteps r (signedSteps s m + signedSteps t n).natAbs =
        signedSteps s m + signedSteps t n := by
  by_cases hne : signedSteps s m + signedSteps t n = 0
  · refine ⟨s && t, ?_, ?_⟩
    · simp only [add, zero_eq, hne, Int.natAbs_zero, if_true]
    · rw [hne, Int.natAbs_zero, signedSteps_zero]
  · refine ⟨_, ?_, signedSteps_decide _⟩
    simp only [add, if_neg hne]
    exact ofRatio_of_fits _ hsum

end RackElevation.Binary64
