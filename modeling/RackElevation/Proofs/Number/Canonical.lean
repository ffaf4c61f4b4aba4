import RackElevation.Proofs.Drawing.Printing
import RackElevation.Proofs.Number.Literals
import RackElevation.Proofs.Number.Scaling
import RackElevation.Proofs.Number.Sign

/-!
# The spelling of coordinates

A coordinate that is a whole number is written as an integer, be it an integer or a binary64 number,
and any other one as a decimal literal.  Integers are written in one way only and without a mark of
a literal, and a literal is read back to the number that it was written for.  So two coordinates
have the same text exactly when they have the same value.
-/

namespace RackElevation

open Text

namespace Number

/-! ## Values -/

variable {a b : Number}

/-- Finite numbers count as equal when their values are. -/
theorem eqv_iff (ha : a.HasValue) : a.eqv b = true ↔ a.steps? = b.steps? := by
  have hunit : Binary64.unit ≠ 0 := Binary64.unit_pos.ne'
  cases a with
  | int m =>
      cases b with
      | int n => simp [eqv, steps?, hunit]
      | real y => cases y <;> simp [eqv, intEqvReal, steps?]
  | real x =>
      cases x with
      | nan => contradiction
      | infinite s => contradiction
      | finite s m hm =>
          cases b with
          | int n => simp [eqv, intEqvReal, steps?, eq_comm]
          | real y => cases y <;> simp [eqv, Binary64.eqv, steps?]

/-- The integer that a number is equal to. -/
def whole? : Number → Option ℤ
  | .int n => some n
  | .real x => x.whole?

/-- Signed steps are a whole number when nothing is left below the unit, and then it is their whole
part. -/
theorem signedSteps_eq_iff {s : Bool} {m : ℕ} {n : ℤ} :
    Binary64.signedSteps s m = n * Binary64.unit ↔
      m % Binary64.unit = 0 ∧ Binary64.signedSteps s (m / Binary64.unit) = n := by
  have hunit : (Binary64.unit : ℤ) ≠ 0 := Int.natCast_ne_zero.2 Binary64.unit_pos.ne'
  have hsplit (h : m % Binary64.unit = 0) : Binary64.signedSteps s m =
      Binary64.signedSteps s (m / Binary64.unit) * Binary64.unit := by
    rw [← Binary64.signedSteps_mul, Nat.div_mul_cancel (Nat.dvd_of_mod_eq_zero h)]
  constructor
  · intro h
    have habs := congrArg Int.natAbs h
    rw [Binary64.natAbs_signedSteps, Int.natAbs_mul, Int.natAbs_natCast] at habs
    have hmod := Nat.mod_eq_zero_of_dvd (Dvd.intro_left _ habs.symm)
    rw [hsplit hmod] at h
    exact ⟨hmod, mul_right_cancel₀ hunit h⟩
  · rintro ⟨hmod, rfl⟩
    exact hsplit hmod

/-- A number is whole when its steps are a multiple of the unit. -/
theorem whole?_eq_some_iff {n : ℤ} : a.whole? = some n ↔ a.steps? = some (n * Binary64.unit) := by
  have hunit : Binary64.unit ≠ 0 := Binary64.unit_pos.ne'
  cases a with
  | int m => simp [whole?, steps?, hunit]
  | real x =>
      cases x with
      | nan => exact iff_of_false (Option.some_ne_none _).symm (Option.some_ne_none _).symm
      | infinite s => exact iff_of_false (Option.some_ne_none _).symm (Option.some_ne_none _).symm
      | finite s m hm =>
          rw [whole?, Binary64.whole?, steps?, Option.some_inj, signedSteps_eq_iff]
          split
          · next hmod => rw [Option.some_inj, and_iff_right hmod]
          · next hmod => exact iff_of_false (Option.some_ne_none n).symm fun h => hmod h.1

/-- A number is equal to an integer exactly when it is that whole number. -/
theorem eqv_int_iff {n : ℤ} (ha : a.HasValue) : a.eqv (.int n) = true ↔ a.whole? = some n := by
  rw [eqv_iff ha, whole?_eq_some_iff, steps?]

/-- A whole number is written as an integer, whether it is one or a binary64 number. -/
theorem coordinateText_of_whole {n : ℤ} (h : a.whole? = some n) :
    a.coordinateText = integerText n := by
  cases a with
  | int m => rw [← Option.some.inj h, coordinateText]
  | real x => rw [coordinateText, show x.whole? = some n from h]

/-- Any other number is written as a binary64 number. -/
theorem coordinateText_of_not_whole {x : Binary64} (h : x.whole? = none) :
    (Number.real x).coordinateText = .ok (realText x) := by
  rw [coordinateText, h]

end Number

/-! ## Integers -/

/-- The plain decimal notation of an integer: digits without a zero in front, and a minus only
before the digits of a number below zero. -/
def IsPlainInteger (cs : List Char) (n : ℤ) : Prop :=
  ∃ ds : List Char, cs = (if n < 0 then '-' :: ds else ds) ∧ ds ≠ [] ∧
    (∀ d ∈ ds, d ∈ plainDigits) ∧ (ds.head? = some '0' → ds = ['0']) ∧ value ds = n.natAbs

/-- A written integer is plain. -/
theorem isPlainInteger_integerChars (n : ℤ) : IsPlainInteger (integerChars n) n := by
  refine ⟨decimalDigits n.natAbs, rfl, decimalDigits_ne_nil _,
    mem_plainDigits_of_mem_decimalDigits _, fun hhead => ?_, value_decimalDigits _⟩
  by_cases hn : n.natAbs = 0
  · rw [hn]
    rfl
  · exact absurd hhead (head_decimalDigits hn)

/-- The sign of a written integer is taken off its digits. -/
theorem takeSign_integerChars (n : ℤ) :
    takeSign (integerChars n) = (decide (n < 0), decimalDigits n.natAbs) := by
  rw [integerChars]
  split
  · next hn =>
      rw [decide_eq_true hn]
      rfl
  · next hn =>
      obtain ⟨d, ds, hds⟩ := List.exists_cons_of_ne_nil (decimalDigits_ne_nil n.natAbs)
      have hd := mem_plainDigits_of_mem_decimalDigits n.natAbs d (by rw [hds]; exact .head _)
      rw [hds, takeSign_of_mem_plainDigits hd, decide_eq_false hn]

/-- A written integer is made of digits and at most a sign. -/
theorem mem_integerChars (n : ℤ) : ∀ c ∈ integerChars n, c = '-' ∨ c ∈ plainDigits := by
  have hdigits := mem_plainDigits_of_mem_decimalDigits n.natAbs
  rw [integerChars]
  split
  · exact List.forall_mem_cons.2 ⟨Or.inl rfl, fun c hc => Or.inr (hdigits c hc)⟩
  · exact fun c hc => Or.inr (hdigits c hc)

/-- The text of an integer is read back, within the limit on integer text. -/
theorem integerNumeral?_integerChars {n : ℤ} (hn : n.natAbs < 10 ^ integerTextLimit) :
    integerNumeral? (integerChars n) = some n := by
  have htrim : trimBy isNumeralBlank (integerChars n) = integerChars n := by
    refine trimBy_of_not fun c hc => Literal.not_numeralBlank_of_isLiteralChar ?_
    rcases mem_integerChars n c hc with rfl | hdigit
    · exact Or.inr (by decide)
    · exact Or.inl hdigit
  have hlength : (decimalDigits n.natAbs).length ≤ integerTextLimit :=
    (Nat.length_toDigits_le_iff (by decide) (by decide)).2 hn
  have hgrouped := groupedDigits?_of_digits (decimalDigits_ne_nil n.natAbs)
    fun d hd => isDigit_of_mem_decimalDigits hd
  simp only [integerNumeral?, htrim, takeSign_integerChars, hgrouped, if_pos hlength,
    value_decimalDigits, decide_eq_true_eq]
  congr 1
  split <;> omega

/-- An integer that does not have too many digits can be written. -/
theorem integerText_eq {n : ℤ} (hn : n.natAbs < 10 ^ integerTextLimit) :
    integerText n = .ok (String.ofList (integerChars n)) :=
  if_pos ((Nat.length_toDigits_le_iff (by decide) (by decide)).2 hn)

/-- Different integers are written differently. -/
theorem integerChars_inj {m n : ℤ} (hm : m.natAbs < 10 ^ integerTextLimit)
    (hn : n.natAbs < 10 ^ integerTextLimit) :
    String.ofList (integerChars m) = String.ofList (integerChars n) ↔ m = n := by
  refine ⟨fun h => ?_, fun h => h ▸ rfl⟩
  have hread := integerNumeral?_integerChars hm
  rw [String.ofList_injective h, integerNumeral?_integerChars hn] at hread
  exact (Option.some.inj hread).symm

/-! ## Other numbers -/

/-- The text of a decimal has a point or an exponent. -/
theorem exists_mark_decimalChars (d : Decimal) : '.' ∈ decimalChars d ∨ 'e' ∈ decimalChars d := by
  simp only [decimalChars]
  split
  · refine Or.inl ?_
    rw [positionalChars]
    split
    · exact .tail _ (.head _)
    · exact List.mem_append_right _ (.head _)
  · exact Or.inr (List.mem_append_right _ (.head _))

/-- So has the text of a finite binary64 number. -/
theorem exists_mark_realText {x : Binary64} (hx : x.isFinite = true) :
    '.' ∈ (realText x).toList ∨ 'e' ∈ (realText x).toList := by
  cases x with
  | nan => contradiction
  | infinite s => contradiction
  | finite s m hm =>
      have hmagnitude : '.' ∈ magnitudeChars m ∨ 'e' ∈ magnitudeChars m := by
        rw [magnitudeChars]
        split
        · exact Or.inl (by decide)
        · exact exists_mark_decimalChars _
      rw [realText, String.toList_ofList]
      split
      · exact hmagnitude.imp (.tail _) (.tail _)
      · exact hmagnitude

/-- An integer is never written as a binary64 number is, for that has a point or an exponent. -/
theorem integerChars_ne_realText {n : ℤ} {x : Binary64} (hx : x.isFinite = true) :
    String.ofList (integerChars n) ≠ realText x := by
  intro h
  have hchars : integerChars n = (realText x).toList := by rw [← h, String.toList_ofList]
  rcases exists_mark_realText hx with hmark | hmark
  · rcases mem_integerChars n _ (hchars ▸ hmark) with hminus | hdigit
    · exact absurd hminus (by decide)
    · exact absurd hdigit (by decide)
  · rcases mem_integerChars n _ (hchars ▸ hmark) with hminus | hdigit
    · exact absurd hminus (by decide)
    · exact absurd hdigit (by decide)

/-- Different binary64 numbers are written differently, the two zeros included. -/
theorem realText_inj {x y : Binary64} : realText x = realText y ↔ x = y := by
  refine ⟨fun h => ?_, fun h => h ▸ rfl⟩
  have hread := realNumeral?_realText x
  rw [h, realNumeral?_realText] at hread
  exact (Option.some.inj hread).symm

/-! ## Coordinates -/

namespace Number

/-- A finite number, within the limit on integer text if it is an integer. -/
def IsSpellable : Number → Prop
  | .int n => n.natAbs < 10 ^ integerTextLimit
  | .real x => x.isFinite = true

/-- The spelling of a number: a whole number is written plainly as the integer that it is equal to,
and any other one as a literal, which is read back to it. -/
structure IsSpelling (a : Number) (s : String) : Prop where
  whole : ∀ n : ℤ, a.eqv (.int n) = true →
    IsPlainInteger s.toList n ∧ integerNumeral? s.toList = some n
  broken : (∀ n : ℤ, a.eqv (.int n) = false) →
    ∃ x, a = .real x ∧ (∃ l : Literal, l.text = s.toList) ∧ realNumeral? s.toList = some x

variable {a b : Number}

/-- A number that can be spelled has a value. -/
theorem IsSpellable.hasValue (ha : a.IsSpellable) : a.HasValue := by
  cases a with
  | int n => trivial
  | real x => exact ha

/-- Whole numbers have few digits. -/
theorem IsSpellable.natAbs_lt {n : ℤ} (ha : a.IsSpellable) (h : a.whole? = some n) :
    n.natAbs < 10 ^ integerTextLimit := by
  cases a with
  | int m => exact Option.some.inj h ▸ ha
  | real x => exact natAbs_lt_of_whole? h

/-- A number is written as the integer that it is equal to, or else as a binary64 number. -/
theorem IsSpellable.text_cases (ha : a.IsSpellable) :
    (∃ n, a.whole? = some n ∧ n.natAbs < 10 ^ integerTextLimit ∧
      a.coordinateText = .ok (String.ofList (integerChars n))) ∨
    ∃ x, a = .real x ∧ x.isFinite = true ∧ a.whole? = none ∧
      a.coordinateText = .ok (realText x) := by
  cases hwhole : a.whole? with
  | some n =>
      have hn := ha.natAbs_lt hwhole
      exact Or.inl ⟨n, rfl, hn, (coordinateText_of_whole hwhole).trans (integerText_eq hn)⟩
  | none =>
      cases a with
      | int m => exact absurd hwhole (Option.some_ne_none m)
      | real x => exact Or.inr ⟨x, rfl, ha, rfl, coordinateText_of_not_whole hwhole⟩

/-- Numbers that are not whole have equal values only when they are the same. -/
theorem eqv_real_iff {x y : Binary64} (hx : x.isFinite = true) (hwhole : x.whole? = none) :
    (Number.real x).eqv (.real y) = true ↔ x = y := by
  refine ⟨fun h => ?_, fun h => ?_⟩
  · cases x with
    | nan => contradiction
    | infinite s => contradiction
    | finite s m hm =>
        cases y with
        | nan => contradiction
        | infinite t => contradiction
        | finite t n hn =>
            have hpos : 0 < m := by
              rw [Nat.pos_iff_ne_zero]
              rintro rfl
              rw [Binary64.whole?, if_pos (Nat.zero_mod _)] at hwhole
              contradiction
            have hsteps : Binary64.signedSteps s m = Binary64.signedSteps t n := of_decide_eq_true h
            obtain rfl : m = n := by
              rw [← Binary64.natAbs_signedSteps s m, hsteps, Binary64.natAbs_signedSteps]
            -- a number that is not zero has one sign
            obtain rfl : s = t := by
              cases s <;> cases t <;> simp [Binary64.signedSteps] at hsteps ⊢ <;> omega
            rfl
  · rw [h, eqv_iff (h ▸ hx)]

/-- What is written for a number is its spelling. -/
theorem isSpelling_of_coordinateText {s : String} (ha : a.IsSpellable)
    (h : a.coordinateText = .ok s) : a.IsSpelling s := by
  -- a whole number is written as an integer, any other one as a literal
  rcases ha.text_cases with ⟨n, hwhole, hn, htext⟩ | ⟨x, rfl, hx, hwhole, htext⟩
  · obtain rfl := Except.ok.inj (htext.symm.trans h)
    constructor
    · intro m hm
      rw [eqv_int_iff ha.hasValue, hwhole] at hm
      obtain rfl := Option.some.inj hm
      rw [String.toList_ofList]
      exact ⟨isPlainInteger_integerChars n, integerNumeral?_integerChars hn⟩
    · intro hbroken
      have heq := (eqv_int_iff ha.hasValue).2 hwhole
      rw [hbroken n] at heq
      exact absurd heq Bool.false_ne_true
  · obtain rfl := Except.ok.inj (htext.symm.trans h)
    constructor
    · intro m hm
      rw [eqv_int_iff ha.hasValue, hwhole] at hm
      contradiction
    · intro _
      cases x with
      | nan => contradiction
      | infinite s => contradiction
      | finite s m hm =>
          obtain ⟨l, hl, -⟩ := exists_literal (s := s) hm
          exact ⟨_, rfl, ⟨l, hl⟩, realNumeral?_realText _⟩

/-- Texts are equal exactly when the values are. -/
theorem text_eq_iff {s t : String} (ha : a.IsSpellable) (hb : b.IsSpellable)
    (hs : a.coordinateText = .ok s) (ht : b.coordinateText = .ok t) :
    s = t ↔ a.eqv b = true := by
  have hdiffer {n : ℤ} {c d : Number} (hc : c.whole? = some n) (hd : d.whole? = none) :
      c.steps? ≠ d.steps? := by
    rw [whole?_eq_some_iff] at hc
    rw [hc]
    intro h
    rw [whole?_eq_some_iff.2 h.symm] at hd
    contradiction
  rw [eqv_iff ha.hasValue]
  -- two whole numbers are compared as integers and two others by their steps; one of each never
  -- agree
  rcases ha.text_cases with ⟨m, hm, hmlt, hstext⟩ | ⟨x, rfl, hx, hxwhole, hstext⟩
  · obtain rfl := Except.ok.inj (hstext.symm.trans hs)
    rcases hb.text_cases with ⟨n, hn, hnlt, httext⟩ | ⟨y, rfl, hy, hywhole, httext⟩
    · obtain rfl := Except.ok.inj (httext.symm.trans ht)
      rw [integerChars_inj hmlt hnlt, whole?_eq_some_iff.1 hn, ← whole?_eq_some_iff, hm,
        Option.some_inj]
    · obtain rfl := Except.ok.inj (httext.symm.trans ht)
      exact iff_of_false (integerChars_ne_realText hy) (hdiffer hm hywhole)
  · obtain rfl := Except.ok.inj (hstext.symm.trans hs)
    rcases hb.text_cases with ⟨n, hn, hnlt, httext⟩ | ⟨y, rfl, hy, hywhole, httext⟩
    · obtain rfl := Except.ok.inj (httext.symm.trans ht)
      exact iff_of_false (integerChars_ne_realText hx).symm (hdiffer hn hxwhole).symm
    · obtain rfl := Except.ok.inj (httext.symm.trans ht)
      rw [realText_inj, ← eqv_iff ha.hasValue, eqv_real_iff hx hxwhole]

/-- The text of a coordinate.  Every finite number has one, an integer within the limit on integer
text.  Two numbers have the same text exactly when they have the same value.  A whole number is
written plainly, as the integer that it is equal to, and any other one as a decimal literal that is
read back to it. -/
theorem coordinateText_canonical (ha : a.IsSpellable) (hb : b.IsSpellable) :
    ∃ s t, a.coordinateText = .ok s ∧ b.coordinateText = .ok t ∧ (s = t ↔ a.eqv b = true) ∧
      a.IsSpelling s ∧ b.IsSpelling t := by
  have hexists {c : Number} (hc : c.IsSpellable) : ∃ s, c.coordinateText = .ok s := by
    rcases hc.text_cases with ⟨n, -, -, htext⟩ | ⟨x, -, -, -, htext⟩
    · exact ⟨_, htext⟩
    · exact ⟨_, htext⟩
  obtain ⟨s, hs⟩ := hexists ha
  obtain ⟨t, ht⟩ := hexists hb
  exact ⟨s, t, hs, ht, text_eq_iff ha hb hs ht, isSpelling_of_coordinateText ha hs,
    isSpelling_of_coordinateText hb ht⟩

/-- The steps of 10^22 fit. -/
theorem fits_wholeReal : Binary64.Fits (5 ^ 22 * 2 ^ 1096) :=
  Binary64.fits_mul_pow (by norm_num) (by norm_num)

/-- The binary64 number 10^22, which its shortest digits would write with an exponent. -/
def wholeReal : Number :=
  .real (.finite false (5 ^ 22 * 2 ^ 1096) fits_wholeReal)

/-- Both numbers are 10^22. -/
theorem wholeReal_eqv : (Number.int (10 ^ 22)).eqv wholeReal = true := by
  have hten : 10 ^ 22 = 5 ^ 22 * 2 ^ 22 := by norm_num
  have hcount : 10 ^ 22 * Binary64.unit = 5 ^ 22 * 2 ^ 1096 := by
    rw [hten, Binary64.unit_eq_pow, mul_assoc, ← pow_add]
  have hsteps : (10 ^ 22 : ℤ) * Binary64.unit = (5 ^ 22 * 2 ^ 1096 : ℕ) := by
    rw [← hcount, Nat.cast_mul, Nat.cast_pow, Nat.cast_ofNat]
  exact decide_eq_true hsteps

theorem coordinateText_canonical_wholeReal :
    (Number.int (10 ^ 22)).IsSpellable ∧ wholeReal.IsSpellable ∧
      (Number.int (10 ^ 22)).coordinateText = .ok "10000000000000000000000" ∧
      wholeReal.coordinateText = .ok "10000000000000000000000" := by
  have hint : (Number.int (10 ^ 22)).IsSpellable := by
    rw [IsSpellable, Int.natAbs_pow, show (10 : ℤ).natAbs = 10 from rfl]
    exact Nat.pow_lt_pow_right (by decide) (by decide)
  have hreal : wholeReal.IsSpellable := rfl
  have hwritten : (Number.int (10 ^ 22)).coordinateText = .ok "10000000000000000000000" := by
    decide +kernel
  obtain ⟨s, t, hs, ht, heq, -, -⟩ := coordinateText_canonical hint hreal
  rw [← heq.2 wholeReal_eqv] at ht
  rw [hs] at hwritten
  exact ⟨hint, hreal, hs.trans hwritten, ht.trans hwritten⟩

end Number

end RackElevation
