import Mathlib.Algebra.Group.Nat.Defs
import Mathlib.Data.Int.Notation
import Mathlib.Data.List.TakeWhile
import RackElevation.Number.Numeral

/-!
# Reading leading integers

The integer that a text starts with is read from its leading digits, and only their number decides
whether reading fails.
-/

namespace RackElevation

open Text

/-- The digits that a text starts with, after blank characters and a sign. -/
def leadingDigits (s : String) : List Char :=
  (takeSign (trimLeft s.toList)).2.takeWhile isDigit

/-- The positive integer that an optional text starts with, however many digits it has. -/
def leadingInteger? : Option String → Option ℤ
  | none => none
  | some s =>
      let n : ℤ := value (leadingDigits s)
      if (takeSign (trimLeft s.toList)).1 || n = 0 then none else some n

/-- A text whose leading digits are within the limit on integer text. -/
def IsReadable (text : Option String) : Prop :=
  ∀ s ∈ text, (leadingDigits s).length ≤ integerTextLimit

/-- A numeral within the limit on integer text is read. -/
theorem leadingPositive_of_length_le {s : String}
    (h : (leadingDigits s).length ≤ integerTextLimit) :
    leadingPositive s.toList = .ok (leadingInteger? (some s)) := by
  rw [leadingPositive, leadingInteger?, ← leadingDigits]
  split
  · next hempty =>
      rw [List.isEmpty_iff.1 hempty, if_pos (by rw [Bool.or_eq_true]; exact Or.inr rfl)]
  · rw [boundedValue, if_pos h]
    rfl

/-- A numeral with too many digits is refused, and their number is told. -/
theorem leadingPositive_of_lt_length {s : String}
    (h : integerTextLimit < (leadingDigits s).length) :
    leadingPositive s.toList = .error (.numeralTooLong (leadingDigits s).length) := by
  have hne : (leadingDigits s).isEmpty = false := by
    cases hds : leadingDigits s with
    | nil => rw [hds] at h; contradiction
    | cons d ds => rfl
  rw [leadingPositive, ← leadingDigits, hne, if_neg Bool.false_ne_true, boundedValue,
    if_neg (Nat.not_le.2 h)]
  rfl

/-- Reading an optional text has a result exactly when the text is readable. -/
theorem leadingPositive?_eq_ok {text : Option String} {n? : Option ℤ} :
    leadingPositive? text = .ok n? ↔ IsReadable text ∧ leadingInteger? text = n? := by
  cases text with
  | none =>
      have hnone : IsReadable none := fun _ hs => absurd hs (Option.not_mem_none _)
      exact ⟨fun h => ⟨hnone, Except.ok.inj h⟩, fun h => congrArg Except.ok h.2⟩
  | some s =>
      rw [leadingPositive?]
      by_cases hlength : (leadingDigits s).length ≤ integerTextLimit
      · have hsome : IsReadable (some s) := fun t ht => Option.some.inj ht ▸ hlength
        rw [leadingPositive_of_length_le hlength]
        exact ⟨fun h => ⟨hsome, Except.ok.inj h⟩, fun h => congrArg Except.ok h.2⟩
      · rw [leadingPositive_of_lt_length (Nat.lt_of_not_le hlength)]
        constructor
        · rintro ⟨⟩
        · rintro ⟨h, -⟩
          exact absurd (h s rfl) hlength

/-- A leading integer that is usable is positive. -/
theorem leadingInteger?_pos {text : Option String} {n : ℤ} (h : leadingInteger? text = some n) :
    0 < n := by
  cases text with
  | none => contradiction
  | some s =>
      simp only [leadingInteger?] at h
      split at h
      · contradiction
      · next hne =>
          rw [Bool.or_eq_true, not_or, decide_eq_true_eq] at hne
          obtain rfl := Option.some.inj h
          omega

/-! ## Rows of digits -/

/-- The digits from `0` to `9`. -/
def plainDigits : List Char :=
  "0123456789".toList

/-- A text that begins with a plain digit has no sign. -/
theorem takeSign_of_mem_plainDigits {d : Char} (h : d ∈ plainDigits) (ds : List Char) :
    takeSign (d :: ds) = (false, d :: ds) := by
  have hplus : d ≠ '+' := ne_of_mem_of_not_mem h (by decide)
  have hminus : d ≠ '-' := ne_of_mem_of_not_mem h (by decide)
  rw [takeSign]
  · rintro rest ⟨⟩
    exact hplus rfl
  · rintro rest ⟨⟩
    exact hminus rfl

/-- A row of digits is a text without blanks and sign before its digits. -/
theorem takeSign_ofList {ds : List Char} (h : ∀ d ∈ ds, d ∈ plainDigits) :
    takeSign (trimLeft (String.ofList ds).toList) = (false, ds) := by
  have hblank : ∀ d ∈ plainDigits, (!isBlank d) = true := List.all_eq_true.1 (by decide)
  rw [String.toList_ofList]
  cases ds with
  | nil => rfl
  | cons d ds =>
      have hd := h d (.head _)
      rw [trimLeft, List.dropWhile_cons_of_neg (by simpa using hblank d hd),
        takeSign_of_mem_plainDigits hd]

/-- The leading digits of a text of plain digits are all of it. -/
theorem leadingDigits_ofList {ds : List Char} (h : ∀ d ∈ ds, d ∈ plainDigits) :
    leadingDigits (String.ofList ds) = ds := by
  have hdigit : ∀ d ∈ plainDigits, isDigit d = true := List.all_eq_true.1 (by decide)
  rw [leadingDigits, takeSign_ofList h]
  exact List.takeWhile_eq_self_iff.2 fun d hd => hdigit d (h d hd)

/-- A text of plain digits that is not zero is its value. -/
theorem leadingInteger?_ofList {ds : List Char} (h : ∀ d ∈ ds, d ∈ plainDigits)
    (hvalue : value ds ≠ 0) : leadingInteger? (some (String.ofList ds)) = some (value ds : ℤ) := by
  simp only [leadingInteger?, leadingDigits_ofList h, takeSign_ofList h, Bool.false_or]
  rw [if_neg (by rw [decide_eq_true_eq]; exact Int.natCast_ne_zero.2 hvalue)]

/-- A row of digits within the limit on integer text is read as the number it denotes. -/
theorem leadingPositive?_ofList {ds : List Char} (h : ∀ d ∈ ds, d ∈ plainDigits)
    (hlength : ds.length ≤ integerTextLimit) (hvalue : value ds ≠ 0) :
    leadingPositive? (some (String.ofList ds)) = .ok (some (value ds : ℤ)) := by
  refine leadingPositive?_eq_ok.2 ⟨fun s hs => ?_, leadingInteger?_ofList h hvalue⟩
  obtain rfl := Option.some.inj hs
  rwa [leadingDigits_ofList h]

/-- Zeros move the digits before them up. -/
theorem valueFrom_zeros (n k : ℕ) : valueFrom n (List.replicate k '0') = 10 ^ k * n := by
  have hzero : (digitValue? '0').getD 0 = 0 := by decide
  induction k generalizing n with
  | zero => rw [Nat.pow_zero, Nat.one_mul]; rfl
  | succ k ih =>
      rw [List.replicate_succ, valueFrom, List.foldl_cons, hzero, ← valueFrom, ih, Nat.add_zero,
        Nat.pow_succ, Nat.mul_assoc]

/-- A one with zeros behind it is a power of ten. -/
theorem value_one_zeros (k : ℕ) : value ('1' :: List.replicate k '0') = 10 ^ k := by
  have hone : (digitValue? '1').getD 0 = 1 := by decide
  rw [value, valueFrom, List.foldl_cons, hone, ← valueFrom, valueFrom_zeros, Nat.mul_zero,
    Nat.zero_add, Nat.mul_one]

end RackElevation
