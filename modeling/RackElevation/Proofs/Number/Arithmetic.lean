import RackElevation.Proofs.Binary64.Rounding
import RackElevation.Proofs.Outcome

/-!
# Arithmetic of numbers

Two integers are combined exactly; as soon as one operand is binary64, the other one is rounded to
binary64 first.
-/

namespace RackElevation.Number

theorem zero_eq_int : (0 : Number) = .int 0 := rfl

theorem toReal_real (x : Binary64) : (Number.real x).toReal = .ok x := rfl

theorem toReal_int (n : ℤ) : (Number.int n).toReal =
    if (Binary64.ofInt n).isFinite then .ok (Binary64.ofInt n) else .error .integerTooLarge := rfl

theorem toReal_zero : (0 : Number).toReal = .ok (.finite false 0 Binary64.fits_zero) := by
  rw [zero_eq_int, toReal_int, Binary64.ofInt_zero]
  exact if_pos rfl

/-- An integer that is rounded to binary64 at all is rounded to a finite number. -/
theorem isFinite_of_toReal_int {n : ℤ} {x : Binary64} (h : (Number.int n).toReal = .ok x) :
    x.isFinite = true := by
  rw [toReal_int] at h
  split at h
  · next hfinite => rwa [← Except.ok.inj h]
  · contradiction

section Combine

variable (f : ℤ → ℤ → ℤ) (g : Binary64 → Binary64 → Binary64)

theorem combine_int (m n : ℤ) : combine f g (.int m) (.int n) = .ok (.int (f m n)) := rfl

/-- A binary64 number on the left rounds the operand on the right. -/
theorem combine_real_left (x : Binary64) (a : Number) :
    combine f g (.real x) a = a.toReal >>= fun y => pure (.real (g x y)) := by
  rw [combine, toReal_real, ok_bind]
  rintro m n ⟨⟩

/-- A binary64 number on the right rounds the operand on the left. -/
theorem combine_real_right (a : Number) (x : Binary64) :
    combine f g a (.real x) = a.toReal >>= fun y => pure (.real (g y x)) := by
  rw [combine]
  · simp only [toReal_real, ok_bind]
  · rintro m n - ⟨⟩

end Combine

end RackElevation.Number
