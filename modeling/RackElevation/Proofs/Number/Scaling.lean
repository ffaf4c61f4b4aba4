import RackElevation.Proofs.Number.Half
import RackElevation.Proofs.Number.Range

/-!
# Scaled numbers

Half of an integer of few bits stays in range when it is multiplied.  A greater number leaves the
range at the midpoint between the greatest magnitude and the limit.  The greatest magnitude itself
is whole, so a number that is rounded to an integer at all is rounded to one in range.
-/

namespace RackElevation

namespace Binary64

/-- The size of signed steps, without the sign. -/
theorem natAbs_signedSteps (s : Bool) (m : ℕ) : (signedSteps s m).natAbs = m := by
  cases s
  · rfl
  · exact Int.natAbs_neg _

/-- A count on its grid is at most the greatest one of 53 bits on the grid below a power of two. -/
theorem le_of_dvd_of_lt {m e : ℕ} (hdvd : 2 ^ (m.log2 + 1 - 53) ∣ m) (hlt : m < 2 ^ 53 * 2 ^ e) :
    m ≤ (2 ^ 53 - 1) * 2 ^ e := by
  rw [← pow_add] at hlt
  by_cases hsmall : m < 2 ^ (52 + e)
  · refine hsmall.le.trans ?_
    rw [pow_add]
    exact Nat.mul_le_mul_right _ (by norm_num)
  · -- the count has all bits, so the grid is its own one
    have hne : m ≠ 0 := by
      rintro rfl
      exact hsmall (Nat.two_pow_pos _)
    have hlog : m.log2 = 52 + e := by
      refine (Nat.log2_eq_iff hne).2 ⟨not_lt.1 hsmall, ?_⟩
      rwa [show 52 + e + 1 = 53 + e by omega]
    rw [hlog, show 52 + e + 1 - 53 = e by omega] at hdvd
    obtain ⟨c, rfl⟩ := hdvd
    rw [Nat.mul_comm] at hlt ⊢
    rw [pow_add] at hlt
    exact Nat.mul_le_mul_right _ (Nat.le_sub_one_of_lt (Nat.lt_of_mul_lt_mul_right hlt))

/-- No magnitude exceeds the one of 53 bits that ends at the limit. -/
theorem le_of_fits {m : ℕ} (h : Fits m) : m ≤ (2 ^ 53 - 1) * 2 ^ 2045 := by
  obtain ⟨hdvd, hlimit⟩ := fits_iff.1 h
  rw [limit_eq_mul] at hlimit
  exact le_of_dvd_of_lt hdvd hlimit

/-- Steps that fit lie below the midpoint before the limit. -/
theorem lt_overflow_of_fits {m : ℕ} (h : Fits m) : m < overflow := by
  refine (le_of_fits h).trans_lt (Nat.lt_of_mul_lt_mul_left (a := 2) ?_)
  rw [two_mul_overflow, ← mul_assoc]
  have hcount : 2 * (2 ^ 53 - 1) < 2 * (2 ^ 53 - 1) + 1 := Nat.lt_succ_self _
  exact Nat.mul_lt_mul_of_pos_right hcount (by positivity)

/-- Numbers of different signs have a finite sum. -/
theorem isFinite_add_of_ne {s t : Bool} {m n : ℕ} (hm : Fits m) (hn : Fits n) (hne : s ≠ t) :
    ((finite s m hm).add (finite t n hn)).isFinite = true := by
  simp only [add]
  split_ifs with hzero
  · rw [zero_eq]
    rfl
  · have hm := lt_overflow_of_fits hm
    have hn := lt_overflow_of_fits hn
    obtain rfl : t = !s := Bool.eq_not_of_ne hne.symm
    rw [isFinite_ofRatio_iff one_pos, mul_one, signedSteps_not]
    cases s <;> simp only [signedSteps, Bool.false_eq_true, if_true, if_false] <;> omega

/-- Half of an integer times an integer is finite when the product has few bits. -/
theorem IsHalf.isFinite_mul_ofInt {x : Binary64} {z n : ℤ} (hx : IsHalf x z)
    (hn : n.natAbs < 2 ^ 52) (h : (z * n).natAbs < 2 ^ 53) :
    (x.mul (ofInt n)).isFinite = true := by
  obtain ⟨s, m, hm, rfl, hsm⟩ := hx
  obtain ⟨t, l, hl, hofInt, htl⟩ := isHalf_ofInt hn
  have hm' : m = z.natAbs * halfUnit := by
    rw [← natAbs_signedSteps s m, hsm, Int.natAbs_mul, Int.natAbs_natCast]
  have hl' : l = n.natAbs * unit := by
    rw [← natAbs_signedSteps t l, htl, Int.natAbs_mul, Int.natAbs_mul, Int.natAbs_natCast, unit_eq]
    ring
  rw [hofInt, mul, isFinite_ofRatio_iff unit_pos, hm', hl']
  have hfits := lt_overflow_of_fits (fits_half h)
  rw [Int.natAbs_mul] at hfits
  calc z.natAbs * halfUnit * (n.natAbs * unit) = z.natAbs * n.natAbs * halfUnit * unit := by ring
    _ < overflow * unit := Nat.mul_lt_mul_of_pos_right hfits unit_pos

/-- One is one unit of steps. -/
theorem ofInt_one : ∃ hfits, ofInt 1 = .finite false unit hfits := by
  have hfits : Fits unit := by
    rw [unit_eq_pow, ← one_mul (2 ^ 1074)]
    exact fits_mul_pow (by norm_num) (by norm_num)
  refine ⟨hfits, ?_⟩
  rw [ofInt, Int.natAbs_one, one_mul, ofRatio_of_fits _ hfits]
  rfl

/-- A finite number is not rounded when it is multiplied by one. -/
theorem mul_ofInt_one {x : Binary64} (hx : x.isFinite = true) : x.mul (ofInt 1) = x := by
  cases x with
  | nan => contradiction
  | infinite s => contradiction
  | finite s m hm =>
      obtain ⟨_, hone⟩ := ofInt_one
      rw [hone, mul, ofRatio, nearestSteps_mul_of_fits hm unit_pos, ofSteps_of_fits _ hm,
        Bool.bne_false]

/-- Rounding a number gives an integer in range. -/
theorem isFinite_ofInt_of_round {x : Binary64} {n : ℤ} (h : x.roundToInt? = some n) :
    (ofInt n).isFinite = true := by
  cases x with
  | nan => contradiction
  | infinite s => contradiction
  | finite s m hm =>
      obtain rfl := Option.some.inj h
      rw [isFinite_ofInt_iff, natAbs_signedSteps]
      have hle := halfEven_mono (d := unit) (le_of_fits hm)
      have hwhole : (2 ^ 53 - 1) * 2 ^ 2045 = (2 ^ 53 - 1) * 2 ^ 971 * unit := by
        rw [unit_eq_pow, mul_assoc, ← pow_add]
      rw [hwhole, halfEven_mul_right _ unit_pos] at hle
      refine hle.trans_lt ?_
      rw [show 971 = 1 + 970 from rfl, pow_add, ← mul_assoc]
      exact Nat.mul_lt_mul_of_pos_right (by norm_num) (by positivity)

end Binary64

namespace Number

/-- A number with a value is the same at the scale one. -/
theorem times_one {a : Number} (ha : a.HasValue) : a.times 1 = a := by
  cases a with
  | int n => exact congrArg Number.int (mul_one n)
  | real x => exact congrArg Number.real (Binary64.mul_ofInt_one ha)

/-- A half of an integer can be multiplied exactly as long as the product is small. -/
theorem hasValue_times_of_isHalf {a : Number} {z n : ℤ} (ha : a.IsHalf z) (hn : n.natAbs < 2 ^ 52)
    (h : (z * n).natAbs < 2 ^ 53) : (a.times (.int n)).HasValue := by
  obtain ⟨x, rfl, hx⟩ := ha
  exact hx.isFinite_mul_ofInt hn h

/-- Half of an integer of few bits. -/
theorem isHalf_halved {n : ℤ} (hn : n.natAbs < 2 ^ 53) : (Number.int n).halved.IsHalf n := by
  obtain ⟨a, ha, hhalf⟩ := half_int hn
  rwa [(computes_half (.int n)).eq_of_ok a ha] at hhalf

/-- The sum of an integer and of half of another one. -/
theorem int_add_halved {m n : ℤ} (hm : m.natAbs < 2 ^ 52) (hn : n.natAbs < 2 ^ 53)
    (h : (2 * m + n).natAbs < 2 ^ 53) :
    ∃ a, (Number.int m).add (Number.int n).halved = .ok a ∧ a.IsHalf (2 * m + n) := by
  obtain ⟨x, hx, hhalf⟩ := isHalf_halved hn
  have hreal := Binary64.isHalf_ofInt hm
  refine ⟨_, ?_, _, rfl, hreal.add hhalf h⟩
  rw [hx, add, combine_real_right, toReal_of_isHalf hreal, ok_bind, pure_eq_ok]

/-- So is its multiple when it is small. -/
theorem exists_int_add_halved_times {m n scale : ℤ} (hm : 0 ≤ m) (hn : 0 ≤ n) (hscale : 1 ≤ scale)
    (hle : scale ≤ 2 ^ 31) (h : (m + n) * scale ≤ 2 ^ 31) :
    ∃ x, (Number.int m).add (Number.int n).halved = .ok (.real x) ∧
      ((Number.real x).times (.int scale)).HasValue := by
  have hsum : m + n ≤ (m + n) * scale := le_mul_of_one_le_right (add_nonneg hm hn) hscale
  have hnonneg : 0 ≤ n * scale := mul_nonneg hn (by omega)
  have hlow : 0 ≤ (2 * m + n) * scale := mul_nonneg (by omega) (by omega)
  have hdouble : (2 * m + n) * scale = 2 * ((m + n) * scale) - n * scale := by ring
  obtain ⟨a, ha, hhalf⟩ := @int_add_halved m n (by omega) (by omega) (by omega)
  have hvalue := hasValue_times_of_isHalf hhalf (n := scale) (by omega) (by omega)
  obtain ⟨x, rfl, -⟩ := hhalf
  exact ⟨x, ha, hvalue⟩

/-- An integer that can be halved has a half with a value. -/
theorem hasValue_of_half_int {n : ℤ} {a : Number} (h : (Number.int n).half = .ok a) :
    (Number.int n).halved.HasValue := by
  rw [half] at h
  split at h
  · next hfinite => exact hfinite
  · contradiction

/-- A negative integer and half of a positive one have a sum as soon as both are in range. -/
theorem hasValue_plus_halved {m n : ℤ} (hm : m < 0) (hn : 0 ≤ n)
    (hint : (Binary64.ofInt m).isFinite = true) (hhalf : (Number.int n).halved.HasValue) :
    ((Number.int m).plus (Number.int n).halved).HasValue := by
  rw [halved, decide_eq_false (not_lt.2 hn)] at hhalf ⊢
  obtain ⟨hfits, hofInt⟩ := Binary64.ofRatio_of_isFinite hint
  obtain ⟨hfits', hofRatio⟩ := Binary64.ofRatio_of_isFinite hhalf
  rw [plus, join_real_right, rounded, Binary64.ofInt, hofInt, hofRatio, decide_eq_true hm]
  exact Binary64.isFinite_add_of_ne hfits hfits' (by decide)

end Number

end RackElevation
