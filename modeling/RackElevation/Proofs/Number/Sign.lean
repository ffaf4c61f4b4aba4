import RackElevation.Proofs.Number.Range

/-!
# Signs of numbers

A finite number has an exact value, counted in steps of binary64, whether it is an integer or a
binary64 number.  Comparing with zero decides the sign of that value.  What is left are the values
that are not finite: negative infinity counts as below zero, positive infinity does not, and a value
that is not a number compares with nothing.
-/

namespace RackElevation.Number

/-- The value of a finite number, counted in steps. -/
def steps? : Number → Option ℤ
  | .int n => some (n * Binary64.unit)
  | .real (.finite s m _) => some (Binary64.signedSteps s m)
  | .real (.infinite _) => none
  | .real .nan => none

/-- A finite number above zero. -/
def IsPositive (n : Number) : Prop :=
  ∃ k ∈ n.steps?, 0 < k

/-- A finite number that is not below zero. -/
def IsNonnegative (n : Number) : Prop :=
  ∃ k ∈ n.steps?, 0 ≤ k

variable {n : Number}

/-- A number has steps when it has a value. -/
theorem isSome_steps?_iff : n.steps?.isSome = true ↔ n.HasValue := by
  cases n with
  | int m => exact iff_of_true rfl trivial
  | real x => cases x <;> exact Iff.rfl

/-- A number with steps has a value. -/
theorem hasValue_of_mem_steps? {k : ℤ} (h : k ∈ n.steps?) : n.HasValue := by
  rw [← isSome_steps?_iff, Option.mem_def.1 h]
  rfl

/-- A positive number has a value. -/
theorem IsPositive.hasValue (h : n.IsPositive) : n.HasValue := by
  obtain ⟨k, hk, -⟩ := h
  exact hasValue_of_mem_steps? hk

/-- A number that is not negative has a value. -/
theorem IsNonnegative.hasValue (h : n.IsNonnegative) : n.HasValue := by
  obtain ⟨k, hk, -⟩ := h
  exact hasValue_of_mem_steps? hk

theorem isPositive_int_iff {m : ℤ} : (int m).IsPositive ↔ 0 < m := by
  have hunit : (0 : ℤ) < Binary64.unit := Int.natCast_pos.2 Binary64.unit_pos
  constructor
  · rintro ⟨k, hk, hpositive⟩
    obtain rfl := Option.some.inj hk
    exact pos_of_mul_pos_left hpositive hunit.le
  · exact fun h => ⟨_, rfl, mul_pos h hunit⟩

theorem isNonnegative_int_iff {m : ℤ} : (int m).IsNonnegative ↔ 0 ≤ m := by
  have hunit : (0 : ℤ) < Binary64.unit := Int.natCast_pos.2 Binary64.unit_pos
  constructor
  · rintro ⟨k, hk, hnonnegative⟩
    obtain rfl := Option.some.inj hk
    exact nonneg_of_mul_nonneg_left hnonnegative hunit
  · exact fun h => ⟨_, rfl, mul_nonneg h hunit.le⟩

/-- A number counts as below zero when its value is, or when it is infinite on that side. -/
theorem lt_zero_iff :
    n.lt 0 = true ↔ (∃ k ∈ n.steps?, k < 0) ∨ n = .real (.infinite true) := by
  have hunit : (0 : ℤ) < Binary64.unit := Int.natCast_pos.2 Binary64.unit_pos
  rw [zero_eq_int]
  cases n with
  | int m =>
      have hsign : m * Binary64.unit < 0 ↔ m < 0 :=
        ⟨fun h => neg_of_mul_neg_left h hunit.le, fun h => mul_neg_of_neg_of_pos h hunit⟩
      simp [lt, steps?, hsign]
  | real x =>
      cases x with
      | finite s m h => simp [lt, realLtInt, steps?]
      | infinite s => simp [lt, realLtInt, steps?]
      | nan => simp [lt, realLtInt, steps?]

/-- A number counts as zero when its value is. -/
theorem eqv_zero_iff : n.eqv 0 = true ↔ 0 ∈ n.steps? := by
  have hunit : Binary64.unit ≠ 0 := Binary64.unit_pos.ne'
  rw [zero_eq_int]
  cases n with
  | int m => simp [eqv, steps?, hunit]
  | real x =>
      cases x with
      | finite s m h => simp [eqv, intEqvReal, steps?, eq_comm]
      | infinite s => simp [eqv, intEqvReal, steps?]
      | nan => simp [eqv, intEqvReal, steps?]

/-- A number is at most zero when its steps are, or when it is minus infinity. -/
theorem le_zero_iff :
    n.le 0 = true ↔ (∃ k ∈ n.steps?, k ≤ 0) ∨ n = .real (.infinite true) := by
  rw [le, Bool.or_eq_true, lt_zero_iff, eqv_zero_iff]
  constructor
  · rintro ((⟨k, hk, hlt⟩ | rfl) | hzero)
    · exact Or.inl ⟨k, hk, hlt.le⟩
    · exact Or.inr rfl
    · exact Or.inl ⟨0, hzero, le_rfl⟩
  · rintro (⟨k, hk, hle⟩ | rfl)
    · rcases hle.lt_or_eq with hlt | rfl
      · exact Or.inl (Or.inl ⟨k, hk, hlt⟩)
      · exact Or.inr hk
    · exact Or.inl (Or.inr rfl)

/-- Among the finite numbers, those that do not count as zero or less are the positive ones. -/
theorem isPositive_iff (h : n.HasValue) : n.IsPositive ↔ n.le 0 = false := by
  obtain ⟨k, hk⟩ := Option.isSome_iff_exists.1 (isSome_steps?_iff.2 h)
  have hfinite : n ≠ .real (.infinite true) := by
    rintro rfl
    contradiction
  rw [← Bool.not_eq_true, le_zero_iff, IsPositive, hk]
  simp [hfinite]

/-- Among the finite numbers, those that do not count as less than zero are the nonnegative ones. -/
theorem isNonnegative_iff (h : n.HasValue) : n.IsNonnegative ↔ n.lt 0 = false := by
  obtain ⟨k, hk⟩ := Option.isSome_iff_exists.1 (isSome_steps?_iff.2 h)
  have hfinite : n ≠ .real (.infinite true) := by
    rintro rfl
    contradiction
  rw [← Bool.not_eq_true, lt_zero_iff, IsNonnegative, hk]
  simp [hfinite]

/-- A number that does not count as zero or less is positive, unless it is not finite. -/
theorem isPositive_of_le_zero (h : n.le 0 = false) (hnan : n ≠ .real .nan)
    (hinfinite : n ≠ .real (.infinite false)) : n.IsPositive := by
  cases n with
  | int m =>
      have hvalue : (int m).HasValue := trivial
      exact (isPositive_iff hvalue).2 h
  | real x =>
      cases x with
      | finite s m hfits =>
          have hvalue : (real (.finite s m hfits)).HasValue := rfl
          exact (isPositive_iff hvalue).2 h
      | infinite s =>
          cases s with
          | false => contradiction
          | true => contradiction
      | nan => contradiction

end RackElevation.Number
