import Mathlib.Data.Int.Notation
import Mathlib.Data.List.Basic
import RackElevation.Number.Text
import RackElevation.Proofs.Outcome

/-!
# Characters of written numbers

A written number is made of digits and a few signs and letters.
-/

namespace RackElevation

open Text

/-- A digit, or a sign or letter of a written number. -/
def IsNumberChar (c : Char) : Prop :=
  c.isDigit = true ∨ c ∈ "-+.einfa".toList

/-- A natural number is written with characters of numbers. -/
theorem isNumberChar_decimalDigits (n : ℕ) : ∀ c ∈ decimalDigits n, IsNumberChar c :=
  fun _ hc => Or.inl (Nat.isDigit_of_mem_toDigits (by decide) (by decide) hc)

theorem isNumberChar_replicate (n : ℕ) : ∀ c ∈ List.replicate n '0', IsNumberChar c := by
  intro c hc
  rw [List.eq_of_mem_replicate hc]
  exact Or.inl (by decide)

theorem isNumberChar_zero : IsNumberChar '0' :=
  Or.inl (by decide)

/-- The marks of numbers and the letters of infinities are characters of numbers. -/
theorem isNumberChar_mark {c : Char} (h : c ∈ "-+.einfa".toList) : IsNumberChar c :=
  Or.inr h

section Decimals

variable {ds : List Char}

/-- Digits around a point are characters of numbers. -/
theorem isNumberChar_positionalChars (hds : ∀ c ∈ ds, IsNumberChar c) (order : ℤ) :
    ∀ c ∈ positionalChars ds order, IsNumberChar c := by
  have htake (n : ℕ) : ∀ c ∈ ds.take n, IsNumberChar c :=
    fun c hc => hds c (List.mem_of_mem_take hc)
  have hdrop (n : ℕ) : ∀ c ∈ ds.drop n, IsNumberChar c :=
    fun c hc => hds c (List.mem_of_mem_drop hc)
  rw [positionalChars]
  split
  · simp only [List.forall_mem_cons, List.forall_mem_append]
    exact ⟨isNumberChar_zero, isNumberChar_mark (by decide), isNumberChar_replicate _, hds⟩
  · simp only [List.forall_mem_cons, List.forall_mem_append]
    refine ⟨⟨htake _, isNumberChar_replicate _⟩, isNumberChar_mark (by decide), ?_⟩
    split
    · exact List.forall_mem_singleton.2 isNumberChar_zero
    · exact hdrop _

/-- Digits with an exponent are characters of numbers. -/
theorem isNumberChar_scientificChars (hds : ∀ c ∈ ds, IsNumberChar c) (order : ℤ) :
    ∀ c ∈ scientificChars ds order, IsNumberChar c := by
  simp only [scientificChars, List.forall_mem_cons, List.forall_mem_append]
  refine ⟨⟨fun c hc => hds c (List.mem_of_mem_take hc), ?_⟩, isNumberChar_mark (by decide), ?_,
    isNumberChar_replicate _, isNumberChar_decimalDigits _⟩
  · split
    · exact fun _ hc => absurd hc List.not_mem_nil
    · exact List.forall_mem_cons.2 ⟨isNumberChar_mark (by decide),
        fun c hc => hds c (List.mem_of_mem_drop hc)⟩
  · split
    · exact isNumberChar_mark (by decide)
    · exact isNumberChar_mark (by decide)

/-- A magnitude is written with characters of numbers. -/
theorem isNumberChar_magnitudeChars (steps : ℕ) : ∀ c ∈ magnitudeChars steps, IsNumberChar c := by
  rw [magnitudeChars]
  split
  · simp only [List.forall_mem_cons]
    exact ⟨isNumberChar_zero, isNumberChar_mark (by decide), isNumberChar_zero,
      fun _ hc => absurd hc List.not_mem_nil⟩
  · rw [decimalChars]
    split
    · exact isNumberChar_positionalChars (isNumberChar_decimalDigits _) _
    · exact isNumberChar_scientificChars (isNumberChar_decimalDigits _) _

end Decimals

/-- A binary64 number is written with characters of numbers. -/
theorem isNumberChar_realText (x : Binary64) : ∀ c ∈ (realText x).toList, IsNumberChar c := by
  cases x with
  | nan =>
      have hmarks : "nan".toList ⊆ "-+.einfa".toList := by decide
      exact fun _ hc => isNumberChar_mark (hmarks hc)
  | infinite negative =>
      cases negative with
      | true =>
          have hmarks : "-inf".toList ⊆ "-+.einfa".toList := by decide
          exact fun _ hc => isNumberChar_mark (hmarks hc)
      | false =>
          have hmarks : "inf".toList ⊆ "-+.einfa".toList := by decide
          exact fun _ hc => isNumberChar_mark (hmarks hc)
  | finite negative steps fits =>
      rw [realText, String.toList_ofList]
      split
      · exact List.forall_mem_cons.2
          ⟨isNumberChar_mark (by decide), isNumberChar_magnitudeChars steps⟩
      · exact isNumberChar_magnitudeChars steps

/-- An integer is written with characters of numbers. -/
theorem isNumberChar_integerText {n : ℤ} {s : String} (h : integerText n = .ok s) :
    ∀ c ∈ s.toList, IsNumberChar c := by
  rw [integerText] at h
  split at h
  · rw [← Except.ok.inj h, String.toList_ofList, integerChars]
    split
    · exact List.forall_mem_cons.2 ⟨isNumberChar_mark (by decide), isNumberChar_decimalDigits _⟩
    · exact isNumberChar_decimalDigits _
  · contradiction

/-- The characters of a coordinate. -/
theorem isNumberChar_coordinateText {n : Number} {s : String} (h : n.coordinateText = .ok s) :
    ∀ c ∈ s.toList, IsNumberChar c := by
  cases n with
  | int n => exact isNumberChar_integerText h
  | real x =>
      rw [Number.coordinateText] at h
      split at h
      · exact isNumberChar_integerText h
      · rw [← Except.ok.inj h]
        exact isNumberChar_realText x

end RackElevation
