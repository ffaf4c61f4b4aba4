import RackElevation.Proofs.Number.Arithmetic

/-!
# Adding zero

Adding the integer zero changes a number at most in the sign of a zero.  Numbers that differ at most
in that sign are `Alike`; sums keep them alike, and they have the same products with an integer up
to rounding. -/

namespace RackElevation.Number

/-- Two numbers that are equal, or zeros of either sign. -/
def Alike (a b : Number) : Prop :=
  a = b ∨ ∃ s t, a = .real (.finite s 0 Binary64.fits_zero) ∧
    b = .real (.finite t 0 Binary64.fits_zero)

theorem Alike.refl (a : Number) : Alike a a :=
  Or.inl rfl

theorem Alike.symm {a b : Number} (h : Alike a b) : Alike b a := by
  rcases h with rfl | ⟨s, t, rfl, rfl⟩
  · exact .refl a
  · exact Or.inr ⟨t, s, rfl, rfl⟩

theorem Alike.trans {a b c : Number} (hab : Alike a b) (hbc : Alike b c) : Alike a c := by
  rcases hab with rfl | ⟨s, t, rfl, rfl⟩
  · exact hbc
  · rcases hbc with rfl | ⟨_, u, _, rfl⟩
    · exact Or.inr ⟨s, t, rfl, rfl⟩
    · exact Or.inr ⟨s, u, rfl, rfl⟩

/-- A binary64 zero added to a binary64 number. -/
theorem alike_zero_add_real (s : Bool) (x : Binary64) :
    Alike (.real ((Binary64.finite s 0 Binary64.fits_zero).add x)) (.real x) := by
  cases x with
  | nan => exact .refl _
  | infinite t => exact .refl _
  | finite t n hn =>
      -- the sum of two zeros may change its sign, any other number stays as it is
      rcases Nat.eq_zero_or_pos n with rfl | hpos
      · refine Or.inr ⟨s && t, t, ?_, rfl⟩
        rw [Binary64.add]
        simp only [Binary64.signedSteps_zero, add_zero, if_true, Binary64.zero_eq]
      · have hsum : Binary64.signedSteps s 0 + Binary64.signedSteps t n =
            Binary64.signedSteps t n := by
          rw [Binary64.signedSteps_zero, zero_add]
        have habs : (Binary64.signedSteps t n).natAbs = n := by
          cases t <;> simp [Binary64.signedSteps]
        have hne : Binary64.signedSteps t n ≠ 0 := by omega
        have hneg : decide (Binary64.signedSteps t n < 0) = t := by
          cases t with
          | false => simp [Binary64.signedSteps]
          | true => simp [Binary64.signedSteps]; omega
        refine Or.inl (congrArg Number.real ?_)
        rw [Binary64.add]
        simp only [hsum, if_neg hne, habs, hneg]
        exact Binary64.ofRatio_of_fits t hn

/-- The integer zero added to a number. -/
theorem zero_add_alike (a : Number) : ∃ b, (0 : Number).add a = .ok b ∧ Alike b a := by
  cases a with
  | int n =>
      refine ⟨.int n, ?_, .refl _⟩
      rw [zero_eq_int, add, combine_int, zero_add]
  | real x =>
      refine ⟨.real ((Binary64.finite false 0 Binary64.fits_zero).add x), ?_,
        alike_zero_add_real false x⟩
      rw [add, combine_real_right, toReal_zero, ok_bind, pure_eq_ok]

/-- Adding one number keeps numbers alike. -/
theorem Alike.add {a b : Number} (h : Alike a b) {c r : Number} (hb : b.add c = .ok r) :
    ∃ r', a.add c = .ok r' ∧ Alike r' r := by
  rcases h with rfl | ⟨s, t, rfl, rfl⟩
  · exact ⟨r, hb, .refl r⟩
  · -- both sums are the second term, up to the sign of a zero
    rw [Number.add, combine_real_left] at hb
    simp only [bind_eq_ok, pure_eq_ok] at hb
    obtain ⟨x, hx, rfl⟩ := hb
    refine ⟨.real ((Binary64.finite s 0 Binary64.fits_zero).add x), ?_, ?_⟩
    · rw [Number.add, combine_real_left, hx, ok_bind, pure_eq_ok]
    · exact (alike_zero_add_real s x).trans (alike_zero_add_real t x).symm

end RackElevation.Number
