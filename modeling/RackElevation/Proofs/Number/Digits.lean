import Mathlib.Data.Nat.Digits.Lemmas
import RackElevation.Proofs.Number.Numeral

/-!
# Rows of digits

A digit stands in one script only, so its value is its distance from the zero of that script.  A row
of digits denotes the number with these values as its decimal digits, whatever scripts they are in,
and the row that is written for a number denotes that number.
-/

namespace RackElevation

open Text

/-! ## Digits -/

/-- A character that stands so many places after the zero of its script, as a digit does. -/
def IsDigitOf (c : Char) (v : ℕ) : Prop :=
  v < 10 ∧ ∃ z ∈ zeros, c.toNat = z + v

/-- No two scripts share a digit. -/
theorem zeros_spread : ∀ z ∈ zeros, ∀ z' ∈ zeros, z = z' ∨ z + 10 ≤ z' ∨ z' + 10 ≤ z := by
  decide +kernel

/-- The value of a digit is its distance from the zero of its script. -/
theorem digitValue?_eq_some_iff {c : Char} {v : ℕ} : digitValue? c = some v ↔ IsDigitOf c v := by
  rw [digitValue?, Option.map_eq_some_iff]
  constructor
  · rintro ⟨z, hz, rfl⟩
    have hplace := List.find?_some hz
    rw [Bool.and_eq_true, decide_eq_true_eq, decide_eq_true_eq] at hplace
    exact ⟨by omega, z, List.mem_of_find?_eq_some hz, by omega⟩
  · rintro ⟨hv, z, hz, hc⟩
    obtain ⟨z', hz'⟩ : ∃ z', zeros.find? (fun z => z ≤ c.toNat && c.toNat < z + 10) = some z' := by
      rw [← Option.isSome_iff_exists, List.find?_isSome]
      refine ⟨z, hz, ?_⟩
      rw [Bool.and_eq_true, decide_eq_true_eq, decide_eq_true_eq]
      omega
    have hplace' := List.find?_some hz'
    rw [Bool.and_eq_true, decide_eq_true_eq, decide_eq_true_eq] at hplace'
    -- both zeros lie at most nine places before the character
    obtain rfl : z = z' := by
      have hspread := zeros_spread z hz z' (List.mem_of_find?_eq_some hz')
      omega
    exact ⟨z, hz', by omega⟩

/-- A character is a digit when it is the digit of some value. -/
theorem isDigit_iff {c : Char} : isDigit c = true ↔ ∃ v, IsDigitOf c v := by
  rw [isDigit, Option.isSome_iff_exists]
  exact exists_congr fun _ => digitValue?_eq_some_iff

/-- The value of a digit. -/
def digit (c : Char) : ℕ :=
  (digitValue? c).getD 0

/-- A digit is below ten. -/
theorem digit_lt (c : Char) : digit c < 10 := by
  rw [digit]
  cases hc : digitValue? c with
  | none => exact Nat.zero_lt_succ 9
  | some v => exact (digitValue?_eq_some_iff.1 hc).1

/-- A character that is a digit is given by its script and its value. -/
theorem exists_of_isDigit {c : Char} (h : isDigit c = true) :
    ∃ z ∈ zeros, ∃ v ∈ List.range 10, c = Char.ofNat (z + v) := by
  obtain ⟨v, hv, z, hz, hc⟩ := isDigit_iff.1 h
  exact ⟨z, hz, v, List.mem_range.2 hv, by rw [← hc, Char.ofNat_toNat]⟩

/-- No digit is a blank. -/
theorem not_blank_of_isDigit {c : Char} (h : isDigit c = true) : isBlank c = false := by
  have hall : ∀ z ∈ zeros, ∀ v ∈ List.range 10, isBlank (Char.ofNat (z + v)) = false := by
    decide +kernel
  obtain ⟨z, hz, v, hv, rfl⟩ := exists_of_isDigit h
  exact hall z hz v hv

/-- Digits have no case. -/
theorem toLower_of_isDigit {c : Char} (h : isDigit c = true) : c.toLower = c := by
  have hall : ∀ z ∈ zeros, ∀ v ∈ List.range 10,
      (Char.ofNat (z + v)).toLower = Char.ofNat (z + v) := by
    decide +kernel
  obtain ⟨z, hz, v, hv, rfl⟩ := exists_of_isDigit h
  exact hall z hz v hv

/-! ## Rows -/

/-- Digits that are read after others move these up by one place each. -/
theorem valueFrom_eq (n : ℕ) (ds : List Char) :
    valueFrom n ds = n * 10 ^ ds.length + value ds := by
  induction ds generalizing n with
  | nil => rw [List.length_nil, pow_zero, mul_one]; rfl
  | cons d ds ih =>
      have hcons (k : ℕ) : valueFrom k (d :: ds) = valueFrom (10 * k + digit d) ds := rfl
      rw [value, hcons, hcons, ih, ih, List.length_cons]
      ring

/-- The first of some digits counts by its place. -/
theorem value_cons (d : Char) (ds : List Char) :
    value (d :: ds) = digit d * 10 ^ ds.length + value ds := by
  have hcons : value (d :: ds) = valueFrom (10 * 0 + digit d) ds := rfl
  rw [hcons, valueFrom_eq, mul_zero, zero_add]

/-- Digits in a row count as many places up as there are digits behind them. -/
theorem value_append (as bs : List Char) :
    value (as ++ bs) = value as * 10 ^ bs.length + value bs := by
  have happend : value (as ++ bs) = valueFrom (value as) bs := List.foldl_append
  rw [happend, valueFrom_eq]

/-- A row denotes the number whose decimal digits are the values of its digits. -/
theorem value_eq_ofDigits (ds : List Char) :
    value ds = Nat.ofDigits 10 (ds.reverse.map digit) := by
  induction ds with
  | nil => rfl
  | cons d ds ih =>
      rw [value_cons, ih, List.reverse_cons, List.map_append, Nat.ofDigits_append, List.length_map,
        List.length_reverse, List.map_singleton, Nat.ofDigits_singleton]
      ring

/-- The value of digits is below the power of ten of their number. -/
theorem value_lt (ds : List Char) : value ds < 10 ^ ds.length := by
  induction ds with
  | nil => exact Nat.one_pos
  | cons d ds ih =>
      have hd : (digit d + 1) * 10 ^ ds.length ≤ 10 * 10 ^ ds.length :=
        Nat.mul_le_mul_right _ (digit_lt d)
      rw [value_cons, List.length_cons, pow_succ]
      linarith

/-- Zeros have the value zero. -/
theorem value_zeros (k : ℕ) : value (List.replicate k '0') = 0 := by
  rw [value, valueFrom_zeros, mul_zero]

/-! ## Ends of rows -/

section Ends

variable {p : Char → Bool} {as bs : List Char}

/-- What is taken from a list ends where the condition first fails. -/
theorem takeWhile_append_eq (has : ∀ c ∈ as, p c = true) (hbs : ∀ c ∈ bs.head?, p c = false) :
    (as ++ bs).takeWhile p = as := by
  rw [List.takeWhile_append_of_pos has]
  cases bs with
  | nil => exact List.append_nil as
  | cons b bs =>
      rw [List.takeWhile_cons, hbs b rfl, if_neg Bool.false_ne_true, List.append_nil]

/-- What is left of a list begins where the condition first fails. -/
theorem dropWhile_append_eq (has : ∀ c ∈ as, p c = true) (hbs : ∀ c ∈ bs.head?, p c = false) :
    (as ++ bs).dropWhile p = bs := by
  rw [List.dropWhile_append_of_pos has]
  cases bs with
  | nil => rfl
  | cons b bs => rw [List.dropWhile_cons, hbs b rfl, if_neg Bool.false_ne_true]

/-- The first element that is not dropped does not meet the condition. -/
theorem head?_dropWhile_eq (p : Char → Bool) (cs : List Char) :
    ∀ c ∈ (cs.dropWhile p).head?, p c = false := by
  intro c hc
  have hhead := List.head?_dropWhile_not p cs
  rw [Option.mem_def.1 hc] at hhead
  exact Bool.eq_false_iff.2 (Bool.eq_false_iff.1 hhead)

end Ends

/-! ## Written numbers -/

/-- The plain digit of a value below ten has that value. -/
theorem digitChar_spec : ∀ v < 10, Nat.digitChar v ∈ plainDigits ∧ digit (Nat.digitChar v) = v := by
  decide

/-- A natural number is written with plain digits. -/
theorem mem_plainDigits_of_mem_decimalDigits (n : ℕ) : ∀ d ∈ decimalDigits n, d ∈ plainDigits := by
  induction n using Nat.strong_induction_on with
  | _ n ih =>
      rw [decimalDigits, Nat.toDigits_eq_if (by decide)]
      split
      · next hlt => exact List.forall_mem_singleton.2 (digitChar_spec n hlt).1
      · exact List.forall_mem_append.2 ⟨ih _ (Nat.div_lt_self (by omega) (by decide)),
          List.forall_mem_singleton.2 (digitChar_spec _ (Nat.mod_lt _ (by decide))).1⟩

theorem isDigit_of_mem_plainDigits : ∀ d ∈ plainDigits, isDigit d = true :=
  List.all_eq_true.1 (by decide)

/-- A natural number is written with digits. -/
theorem isDigit_of_mem_decimalDigits {n : ℕ} {d : Char} (h : d ∈ decimalDigits n) :
    isDigit d = true :=
  isDigit_of_mem_plainDigits d (mem_plainDigits_of_mem_decimalDigits n d h)

/-- The row that is written for a number denotes it. -/
theorem value_decimalDigits (n : ℕ) : value (decimalDigits n) = n := by
  induction n using Nat.strong_induction_on with
  | _ n ih =>
      rw [decimalDigits, Nat.toDigits_eq_if (by decide)]
      split
      · next hlt =>
          rw [value_cons, (digitChar_spec n hlt).2]
          exact (Nat.add_zero _).trans (Nat.mul_one n)
      · have hdigit := (digitChar_spec (n % 10) (Nat.mod_lt _ (by decide))).2
        have hrest : value (Nat.toDigits 10 (n / 10)) = n / 10 :=
          ih _ (Nat.div_lt_self (by omega) (by decide))
        rw [value_append, hrest, value_cons, hdigit]
        exact (congrArg _ ((Nat.add_zero _).trans (Nat.mul_one _))).trans (Nat.div_add_mod' n 10)

theorem decimalDigits_ne_nil (n : ℕ) : decimalDigits n ≠ [] :=
  Nat.toDigits_ne_nil

/-- The row that is written for a number has no zero in front. -/
theorem head_decimalDigits {n : ℕ} (hn : n ≠ 0) : (decimalDigits n).head? ≠ some '0' := by
  have hzero : ∀ v < 10, v ≠ 0 → Nat.digitChar v ≠ '0' := by decide
  induction n using Nat.strong_induction_on with
  | _ n ih =>
      rw [decimalDigits, Nat.toDigits_eq_if (by decide)]
      split
      · next hlt => exact fun h => hzero n hlt hn (Option.some.inj h)
      · have hrest := ih (n / 10) (Nat.div_lt_self (by omega) (by decide)) (by omega)
        rwa [List.head?_append_of_ne_nil _ Nat.toDigits_ne_nil]

end RackElevation
