import RackElevation.Proofs.Number.Arithmetic

/-!
# Arithmetic on halves

Halves of integers of at most 53 bits are binary64 numbers, so halving an integer, and taking
integers and halves from one another, is exact among them. -/

namespace RackElevation

namespace Binary64

/-- The number of steps in one half. -/
@[irreducible]
def halfUnit : ℕ := 2 ^ 1073

theorem halfUnit_eq : halfUnit = 2 ^ 1073 := by
  unfold halfUnit
  exact Eq.refl (2 ^ 1073)

theorem unit_eq : unit = halfUnit * 2 := by
  rw [unit_eq_pow, halfUnit_eq]
  exact pow_succ 2 1073

/-- A number that is exactly half of an integer. -/
def IsHalf (x : Binary64) (z : ℤ) : Prop :=
  ∃ s m h, x = .finite s m h ∧ signedSteps s m = z * halfUnit

/-- The halves of integers of at most 53 bits are magnitudes. -/
theorem fits_half {k : ℕ} (hk : k < 2 ^ 53) : Fits (k * halfUnit) := by
  rw [halfUnit_eq]
  exact fits_mul_pow hk (by norm_num)

/-- A half of an integer of at most 53 binary digits is not rounded. -/
theorem isHalf_ofRatio {z : ℤ} {d : ℕ} (hz : z.natAbs < 2 ^ 53) (hd : 0 < d) :
    IsHalf (ofRatio (decide (z < 0)) (z.natAbs * halfUnit * d) d) z := by
  refine ⟨decide (z < 0), _, fits_half hz, ?_, ?_⟩
  · rw [ofRatio, nearestSteps_mul_of_fits (fits_half hz) hd, ofSteps_of_fits]
  · rw [signedSteps_mul, signedSteps_decide]

/-- An integer of at most 52 binary digits is an even number of halves. -/
theorem isHalf_ofInt {n : ℤ} (hn : n.natAbs < 2 ^ 52) : IsHalf (ofInt n) (2 * n) := by
  have h := isHalf_ofRatio (z := 2 * n) (d := 1) (by omega) one_pos
  have hsign : decide (2 * n < 0) = decide (n < 0) := by
    rw [decide_eq_decide]
    omega
  have hcount : (2 * n).natAbs * halfUnit * 1 = n.natAbs * unit := by
    rw [unit_eq, Int.natAbs_mul, show (2 : ℤ).natAbs = 2 from rfl]
    ring
  rwa [hsign, hcount] at h

/-- Halves are added without rounding. -/
theorem IsHalf.add {x y : Binary64} {a b : ℤ} (hx : IsHalf x a) (hy : IsHalf y b)
    (h : (a + b).natAbs < 2 ^ 53) : IsHalf (x.add y) (a + b) := by
  obtain ⟨s, m, hm, rfl, hsm⟩ := hx
  obtain ⟨t, n, hn, rfl, htn⟩ := hy
  have hsum : signedSteps s m + signedSteps t n = (a + b) * halfUnit := by rw [hsm, htn, add_mul]
  have hfits : Fits (signedSteps s m + signedSteps t n).natAbs := by
    rw [hsum, Int.natAbs_mul, Int.natAbs_natCast]
    exact fits_half h
  obtain ⟨r, hr, hrs⟩ := add_finite hm hn hfits
  exact ⟨r, _, hfits, hr, hrs.trans hsum⟩

/-- The negative of a half is a half. -/
theorem IsHalf.neg {x : Binary64} {a : ℤ} (hx : IsHalf x a) : IsHalf x.neg (-a) := by
  obtain ⟨s, m, hm, rfl, hsm⟩ := hx
  refine ⟨!s, m, hm, rfl, ?_⟩
  rw [signedSteps_not, hsm, neg_mul]

/-- Halves are subtracted without rounding. -/
theorem IsHalf.sub {x y : Binary64} {a b : ℤ} (hx : IsHalf x a) (hy : IsHalf y b)
    (h : (a - b).natAbs < 2 ^ 53) : IsHalf (x.sub y) (a - b) := by
  rw [sub_eq_add_neg] at h ⊢
  exact hx.add hy.neg h

/-- A half is finite. -/
theorem IsHalf.isFinite {x : Binary64} {a : ℤ} (hx : IsHalf x a) : x.isFinite = true := by
  obtain ⟨s, m, hm, rfl, -⟩ := hx
  rfl

end Binary64

namespace Number

/-- A binary64 number that is exactly half of an integer. -/
def IsHalf (a : Number) (z : ℤ) : Prop :=
  ∃ x, a = .real x ∧ x.IsHalf z

/-- An integer that is an exact number of halves has a binary64 form. -/
theorem toReal_of_isHalf {n : ℤ} (h : (Binary64.ofInt n).IsHalf (2 * n)) :
    (Number.int n).toReal = .ok (Binary64.ofInt n) := by
  rw [toReal_int]
  exact if_pos h.isFinite

/-- An integer is halved by one rounding. -/
theorem half_int_eq {n : ℤ}
    (h : (Binary64.ofRatio (decide (n < 0)) (n.natAbs * Binary64.unit) 2).isFinite = true) :
    (Number.int n).half =
      .ok (.real (Binary64.ofRatio (decide (n < 0)) (n.natAbs * Binary64.unit) 2)) := by
  rw [half, if_pos h]

/-- An integer of at most 53 binary digits is halved exactly. -/
theorem half_int {n : ℤ} (hn : n.natAbs < 2 ^ 53) :
    ∃ a, (Number.int n).half = .ok a ∧ a.IsHalf n := by
  have h := Binary64.isHalf_ofRatio hn two_pos
  rw [mul_assoc, ← Binary64.unit_eq] at h
  exact ⟨_, half_int_eq h.isFinite, _, rfl, h⟩

/-- An integer less half of another one. -/
theorem int_sub_isHalf {n : ℤ} {a : Number} {z : ℤ} (ha : a.IsHalf z) (hn : n.natAbs < 2 ^ 52)
    (h : (2 * n - z).natAbs < 2 ^ 53) :
    ∃ b, (Number.int n).sub a = .ok b ∧ b.IsHalf (2 * n - z) := by
  obtain ⟨x, rfl, hx⟩ := ha
  have hreal := Binary64.isHalf_ofInt hn
  refine ⟨_, ?_, _, rfl, hreal.sub hx h⟩
  rw [sub, combine_real_right, toReal_of_isHalf hreal, ok_bind, pure_eq_ok]

/-- Half of an integer less another one. -/
theorem isHalf_sub_int {n : ℤ} {a : Number} {z : ℤ} (ha : a.IsHalf z) (hn : n.natAbs < 2 ^ 52)
    (h : (z - 2 * n).natAbs < 2 ^ 53) :
    ∃ b, a.sub (.int n) = .ok b ∧ b.IsHalf (z - 2 * n) := by
  obtain ⟨x, rfl, hx⟩ := ha
  have hreal := Binary64.isHalf_ofInt hn
  refine ⟨_, ?_, _, rfl, hx.sub hreal h⟩
  rw [sub, combine_real_left, toReal_of_isHalf hreal, ok_bind, pure_eq_ok]

end Number

end RackElevation
