import RackElevation.Number.Text
import RackElevation.Proofs.Binary64.Decimals

/-!
# Decimal literals

A literal has a sign, digits before and after a point, and an exponent; each of the latter two may
be missing.  Its reader takes it apart again and finds the decimal that it denotes, which it rounds
to binary64.  Every finite binary64 number is written as a literal whose decimal has the value of
the shortest decimal of the number, so it is read back.
-/

namespace RackElevation

open Text

/-- A decimal literal, with the sign and the digits of an exponent that it may have. -/
structure Literal where
  negative : Bool
  whole : List Char
  fraction : List Char
  exponent : Option (Bool × List Char)
  whole_ne_nil : whole ≠ []
  whole_digits : ∀ d ∈ whole, d ∈ plainDigits
  fraction_digits : ∀ d ∈ fraction, d ∈ plainDigits
  exponent_ne_nil : ∀ e ∈ exponent, e.2 ≠ []
  exponent_digits : ∀ e ∈ exponent, ∀ d ∈ e.2, d ∈ plainDigits

namespace Literal

/-- The text of an exponent. -/
def exponentChars : Option (Bool × List Char) → List Char
  | none => []
  | some (negative, ds) => 'e' :: (if negative then '-' else '+') :: ds

/-- The text before the exponent. -/
def mantissa (l : Literal) : List Char :=
  l.whole ++ if l.fraction = [] then [] else '.' :: l.fraction

/-- The text without the sign. -/
def magnitude (l : Literal) : List Char :=
  l.mantissa ++ exponentChars l.exponent

/-- The text of a literal. -/
def text (l : Literal) : List Char :=
  if l.negative then '-' :: l.magnitude else l.magnitude

/-- The exponent of the last digit before the point. -/
def power (l : Literal) : ℤ :=
  match l.exponent with
  | none => 0
  | some (negative, ds) => if negative then -(value ds : ℤ) else value ds

/-- The decimal that a literal denotes, without its sign. -/
def decimal (l : Literal) : Decimal :=
  ⟨value (l.whole ++ l.fraction), l.power - l.fraction.length⟩

end Literal

/-! ## Parts of a text -/

section Parts

variable {p : Char → Bool} {as bs : List Char} {c : Char}

/-- A list is split at the first element that a condition holds of. -/
theorem splitAtFirst_append_cons (has : ∀ a ∈ as, p a = false) (hc : p c = true) :
    splitAtFirst p (as ++ c :: bs) = (as, some bs) := by
  have hnot : ∀ a ∈ as, (!p a) = true := fun a ha => by rw [has a ha]; rfl
  have hend : ∀ d ∈ (c :: bs).head?, (!p d) = false := by
    rintro d ⟨⟩
    rw [hc]
    rfl
  rw [splitAtFirst, dropWhile_append_eq hnot hend]
  dsimp only
  rw [takeWhile_append_eq hnot hend]

/-- A list without such an element is not split. -/
theorem splitAtFirst_of_not (has : ∀ a ∈ as, p a = false) : splitAtFirst p as = (as, none) := by
  have hnot : ∀ a ∈ as, (!p a) = true := fun a ha => by rw [has a ha]; rfl
  rw [splitAtFirst, List.dropWhile_eq_nil_iff.2 hnot]

/-- A text without the character, or cut at its first occurrence. -/
theorem splitAtFirst_cases (p : Char → Bool) (cs : List Char) :
    (splitAtFirst p cs = (cs, none) ∧ ∀ c ∈ cs, p c = false) ∨
      ∃ as c bs, cs = as ++ c :: bs ∧ p c = true ∧ splitAtFirst p cs = (as, some bs) := by
  rw [splitAtFirst]
  cases hrest : cs.dropWhile (fun c => !p c) with
  | nil =>
      refine Or.inl ⟨rfl, fun c hc => ?_⟩
      rw [← Bool.not_eq_true']
      exact List.dropWhile_eq_nil_iff.1 hrest c hc
  | cons c bs =>
      refine Or.inr ⟨_, c, bs, ?_, ?_, rfl⟩
      · rw [← hrest, List.takeWhile_append_dropWhile]
      · have hhead := head?_dropWhile_eq (fun c => !p c) cs c (by rw [hrest]; rfl)
        rwa [Bool.not_eq_false'] at hhead

/-- A list is not trimmed when nothing in it can go. -/
theorem trimBy_of_not (has : ∀ a ∈ as, p a = false) : trimBy p as = as := by
  have hdrop {cs : List Char} (h : ∀ a ∈ cs, p a = false) : cs.dropWhile p = cs :=
    dropWhile_append_eq (List.forall_mem_nil _) fun a ha => h a (List.mem_of_head? ha)
  rw [trimBy, hdrop has, hdrop fun a ha => has a (List.mem_reverse.1 ha), List.reverse_reverse]

end Parts

section Digits

variable {ds : List Char}

/-- Digits without separators are read as they are. -/
theorem groupedDigits?_of_digits (hne : ds ≠ []) (h : ∀ d ∈ ds, isDigit d = true) :
    groupedDigits? ds = some ds := by
  induction ds with
  | nil => exact absurd rfl hne
  | cons d ds ih =>
      obtain ⟨hd, hds⟩ := List.forall_mem_cons.1 h
      cases ds with
      | nil => rw [groupedDigits?, if_pos hd]
      | cons e ds =>
          rw [groupedDigits?, if_pos hd, ih (List.cons_ne_nil e ds) hds, Option.map_some]
          · rintro ⟨⟩
          · rintro rest ⟨⟩
            exact absurd (hds '_' (.head _)) (by decide)

/-- Digits without separators are read as they are, also if there are none. -/
theorem optionalDigits?_of_digits (h : ∀ d ∈ ds, isDigit d = true) :
    optionalDigits? ds = some ds := by
  cases ds with
  | nil => rfl
  | cons d ds => exact groupedDigits?_of_digits (List.cons_ne_nil d ds) h

/-- The decimal of a text that is cut at the mark of its exponent and at its point. -/
theorem decimalNumeral?_eq {cs mantissa whole : List Char} {mark fraction : Option (List Char)}
    {e : ℤ} (hmark : splitAtFirst (fun c => c = 'e' || c = 'E') cs = (mantissa, mark))
    (hpoint : splitAtFirst (· = '.') mantissa = (whole, fraction)) (hne : whole ≠ [])
    (hwhole : ∀ d ∈ whole, isDigit d = true) (hfraction : ∀ d ∈ fraction.getD [], isDigit d = true)
    (hexponent : exponent? mark = some e) :
    decimalNumeral? cs =
      some ⟨value (whole ++ fraction.getD []), e - (fraction.getD []).length⟩ := by
  have hnonempty : ¬ (whole.isEmpty && (fraction.getD []).isEmpty) = true := by
    rw [Bool.and_eq_true, List.isEmpty_iff]
    exact fun h => hne h.1
  simp only [decimalNumeral?, hmark, hpoint, optionalDigits?_of_digits hwhole,
    optionalDigits?_of_digits hfraction, Option.bind_eq_bind, Option.bind_some, if_neg hnonempty,
    hexponent]
  rfl

/-- A text that begins with a digit has no sign. -/
theorem takeSign_of_isDigit {d : Char} (h : isDigit d = true) (ds : List Char) :
    takeSign (d :: ds) = (false, d :: ds) := by
  rw [takeSign]
  · rintro rest ⟨⟩
    exact absurd h (by decide)
  · rintro rest ⟨⟩
    exact absurd h (by decide)

/-- A text that starts with a digit after its sign is no word. -/
theorem realNumeral?_of_takeSign {cs : List Char} {d : Char} {negative : Bool}
    (hblank : ∀ c ∈ cs, isNumeralBlank c = false) (hsign : takeSign cs = (negative, d :: ds))
    (hd : isDigit d = true) :
    realNumeral? cs = (decimalNumeral? (d :: ds)).map (Decimal.toBinary64 negative) := by
  have hword {c : Char} {word : List Char} (hc : isDigit c = false) :
      (d :: ds).map Char.toLower ≠ c :: word := by
    rw [List.map_cons, toLower_of_isDigit hd]
    rintro ⟨⟩
    rw [hd] at hc
    contradiction
  simp only [realNumeral?, trimBy_of_not hblank, hsign]
  rw [if_neg, if_neg]
  · exact hword (by decide)
  · rw [Bool.or_eq_true, decide_eq_true_eq, decide_eq_true_eq, not_or]
    exact ⟨hword (by decide), hword (by decide)⟩

/-- Digits with a point among them or after them, of any script. -/
theorem realNumeral?_of_digits {cs whole : List Char} {fraction : Option (List Char)}
    (hpoint : splitAtFirst (· = '.') cs = (whole, fraction)) (hne : whole ≠ [])
    (hwhole : ∀ d ∈ whole, isDigit d = true)
    (hfraction : ∀ d ∈ fraction.getD [], isDigit d = true) :
    realNumeral? cs = some (Decimal.toBinary64 false
      ⟨value (whole ++ fraction.getD []), 0 - (fraction.getD []).length⟩) := by
  -- the text is made of digits and at most one point, and it begins with its whole part
  obtain ⟨hchars, rest, hrest⟩ : (∀ c ∈ cs, isDigit c = true ∨ c = '.') ∧ whole <+: cs := by
    rcases splitAtFirst_cases (· = '.') cs with ⟨hsplit, -⟩ | ⟨as, c, bs, rfl, hc, hsplit⟩
    · obtain ⟨rfl, rfl⟩ := Prod.mk.inj (hpoint.symm.trans hsplit)
      exact ⟨fun c hc => Or.inl (hwhole c hc), List.prefix_refl _⟩
    · obtain ⟨rfl, rfl⟩ := Prod.mk.inj (hpoint.symm.trans hsplit)
      refine ⟨List.forall_mem_append.2 ⟨fun d hd => Or.inl (hwhole d hd), ?_⟩,
        List.prefix_append _ _⟩
      exact List.forall_mem_cons.2
        ⟨Or.inr (of_decide_eq_true hc), fun d hd => Or.inl (hfraction d hd)⟩
  have hblank : ∀ c ∈ cs, isNumeralBlank c = false := by
    intro c hc
    rcases hchars c hc with hdigit | rfl
    · rw [isNumeralBlank, not_blank_of_isDigit hdigit, Bool.false_and]
    · decide
  -- so it has no exponent
  have hmark : ∀ c ∈ cs, (decide (c = 'e') || decide (c = 'E')) = false := by
    intro c hc
    rw [Bool.or_eq_false_iff, decide_eq_false_iff_not, decide_eq_false_iff_not]
    constructor
    · rintro rfl
      exact absurd (hchars _ hc) (by decide)
    · rintro rfl
      exact absurd (hchars _ hc) (by decide)
  obtain ⟨d, ds, rfl⟩ := List.exists_cons_of_ne_nil hne
  have hd : isDigit d = true := hwhole d (.head _)
  have hread := decimalNumeral?_eq (splitAtFirst_of_not hmark) hpoint hne hwhole hfraction rfl
  rw [← hrest, List.cons_append] at hblank hread ⊢
  rw [realNumeral?_of_takeSign hblank (takeSign_of_isDigit hd _) hd, hread, Option.map_some]

end Digits

namespace Literal

/-! ## Reading literals -/

/-- A digit or a mark of a literal. -/
def IsLiteralChar (c : Char) : Prop :=
  c ∈ plainDigits ∨ c ∈ "-+.e".toList

/-- No character of a literal is taken for a blank around it. -/
theorem not_numeralBlank_of_isLiteralChar {c : Char} (h : IsLiteralChar c) :
    isNumeralBlank c = false := by
  have hmarks : ∀ d ∈ "-+.e".toList, (!isBlank d) = true := List.all_eq_true.1 (by decide)
  have hblank : isBlank c = false :=
    h.elim (fun hc => not_blank_of_isDigit (isDigit_of_mem_plainDigits c hc))
      fun hc => by rw [← Bool.not_eq_true']; exact hmarks c hc
  rw [isNumeralBlank, hblank, Bool.false_and]

variable (l : Literal)

theorem whole_isDigit : ∀ d ∈ l.whole, isDigit d = true :=
  fun d hd => isDigit_of_mem_plainDigits d (l.whole_digits d hd)

theorem fraction_isDigit : ∀ d ∈ l.fraction, isDigit d = true :=
  fun d hd => isDigit_of_mem_plainDigits d (l.fraction_digits d hd)

/-- The digits and the point of a literal are characters of a literal. -/
theorem isLiteralChar_mantissa : ∀ c ∈ l.mantissa, IsLiteralChar c := by
  refine List.forall_mem_append.2 ⟨fun d hd => Or.inl (l.whole_digits d hd), ?_⟩
  split
  · exact List.forall_mem_nil _
  · exact List.forall_mem_cons.2
      ⟨Or.inr (by decide), fun d hd => Or.inl (l.fraction_digits d hd)⟩

/-- The exponent of a literal is made of characters of a literal. -/
theorem isLiteralChar_exponentChars : ∀ c ∈ exponentChars l.exponent, IsLiteralChar c := by
  cases hexponent : l.exponent with
  | none => exact List.forall_mem_nil _
  | some e =>
      refine List.forall_mem_cons.2 ⟨Or.inr (by decide), List.forall_mem_cons.2 ⟨?_, ?_⟩⟩
      · split
        · exact Or.inr (by decide)
        · exact Or.inr (by decide)
      · exact fun d hd => Or.inl (l.exponent_digits e hexponent d hd)

/-- A literal is made of characters of a literal. -/
theorem isLiteralChar_text : ∀ c ∈ l.text, IsLiteralChar c := by
  have hmagnitude : ∀ c ∈ l.magnitude, IsLiteralChar c :=
    List.forall_mem_append.2 ⟨l.isLiteralChar_mantissa, l.isLiteralChar_exponentChars⟩
  rw [text]
  split
  · exact List.forall_mem_cons.2 ⟨Or.inr (by decide), hmagnitude⟩
  · exact hmagnitude

/-- The exponent with its sign, without its mark. -/
def mark : Option (List Char) :=
  l.exponent.map fun e => (if e.1 then '-' else '+') :: e.2

/-- The mark of the exponent ends the mantissa. -/
theorem splitAtFirst_magnitude :
    splitAtFirst (fun c => c = 'e' || c = 'E') l.magnitude = (l.mantissa, l.mark) := by
  have hdigits : ∀ d ∈ plainDigits, (decide (d = 'e') || decide (d = 'E')) = false := by
    intro d hd
    rw [decide_eq_false (ne_of_mem_of_not_mem hd (by decide)),
      decide_eq_false (ne_of_mem_of_not_mem hd (by decide)), Bool.or_false]
  have hmantissa : ∀ c ∈ l.mantissa, (decide (c = 'e') || decide (c = 'E')) = false := by
    refine List.forall_mem_append.2 ⟨fun d hd => hdigits d (l.whole_digits d hd), ?_⟩
    split
    · exact List.forall_mem_nil _
    · exact List.forall_mem_cons.2 ⟨by decide, fun d hd => hdigits d (l.fraction_digits d hd)⟩
  rw [magnitude, mark]
  cases l.exponent with
  | none => rw [exponentChars, List.append_nil, splitAtFirst_of_not hmantissa, Option.map_none]
  | some e =>
      rw [exponentChars, splitAtFirst_append_cons hmantissa (by decide), Option.map_some]

/-- The point ends the digits before it. -/
theorem splitAtFirst_mantissa : splitAtFirst (· = '.') l.mantissa =
    (l.whole, if l.fraction = [] then none else some l.fraction) := by
  have hwhole : ∀ d ∈ l.whole, decide (d = '.') = false :=
    fun d hd => decide_eq_false (ne_of_mem_of_not_mem (l.whole_digits d hd) (by decide))
  rw [mantissa]
  split
  · rw [List.append_nil, splitAtFirst_of_not hwhole]
  · rw [splitAtFirst_append_cons hwhole (by decide)]

/-- The exponent that is written is the exponent that is read. -/
theorem exponent?_mark : exponent? l.mark = some l.power := by
  rw [mark, power]
  cases hexponent : l.exponent with
  | none => rfl
  | some e =>
      have hgrouped := groupedDigits?_of_digits (l.exponent_ne_nil e hexponent)
        fun d hd => isDigit_of_mem_plainDigits d (l.exponent_digits e hexponent d hd)
      obtain ⟨negative, ds⟩ := e
      cases negative with
      | true => simp only [Option.map_some, exponent?, takeSign, hgrouped, if_true]
      | false =>
          simp only [Option.map_some, exponent?, takeSign, hgrouped, Bool.false_eq_true, if_false]

/-- A literal without its sign is read as its decimal. -/
theorem decimalNumeral?_magnitude : decimalNumeral? l.magnitude = some l.decimal := by
  have hfraction : (if l.fraction = [] then none else some l.fraction).getD [] = l.fraction := by
    split
    · next hnil => exact hnil.symm
    · rfl
  have hread := decimalNumeral?_eq l.splitAtFirst_magnitude l.splitAtFirst_mantissa l.whole_ne_nil
    l.whole_isDigit (by rw [hfraction]; exact l.fraction_isDigit) l.exponent?_mark
  rwa [hfraction] at hread

/-- The magnitude starts with a digit. -/
theorem exists_magnitude_eq : ∃ d cs, isDigit d = true ∧ l.magnitude = d :: cs := by
  obtain ⟨d, ds, hds⟩ := List.exists_cons_of_ne_nil l.whole_ne_nil
  have hd : isDigit d = true := l.whole_isDigit d (by rw [hds]; exact .head _)
  rw [magnitude, mantissa, hds, List.cons_append, List.cons_append]
  exact ⟨d, _, hd, rfl⟩

/-- The sign of a literal is taken off its text. -/
theorem takeSign_text : takeSign l.text = (l.negative, l.magnitude) := by
  rw [text]
  cases l.negative with
  | true => rfl
  | false =>
      obtain ⟨d, cs, hd, hcs⟩ := l.exists_magnitude_eq
      rw [if_neg Bool.false_ne_true, hcs, takeSign_of_isDigit hd]

/-- A literal is read as the number nearest to the decimal that it denotes. -/
theorem realNumeral?_text : realNumeral? l.text = some (l.decimal.toBinary64 l.negative) := by
  obtain ⟨d, cs, hd, hcs⟩ := l.exists_magnitude_eq
  have hblank : ∀ c ∈ l.text, isNumeralBlank c = false :=
    fun c hc => not_numeralBlank_of_isLiteralChar (l.isLiteralChar_text c hc)
  have hsign := l.takeSign_text
  rw [hcs] at hsign
  rw [realNumeral?_of_takeSign hblank hsign hd, ← hcs, decimalNumeral?_magnitude, Option.map_some]

end Literal

/-! ## Written numbers -/

section Written

variable {ds : List Char}

theorem zero_mem_plainDigits : '0' ∈ plainDigits := by
  decide

theorem zeros_mem_plainDigits (k : ℕ) : ∀ d ∈ List.replicate k '0', d ∈ plainDigits :=
  fun _ hd => List.eq_of_mem_replicate hd ▸ zero_mem_plainDigits

/-- Zeros in front do not change the number that a row denotes. -/
theorem value_zeros_append (k : ℕ) (ds : List Char) :
    value (List.replicate k '0' ++ ds) = value ds := by
  rw [value_append, value_zeros, zero_mul, zero_add]

/-- A literal without an exponent. -/
def Literal.positional (negative : Bool) (whole fraction : List Char) (hne : whole ≠ [])
    (hwhole : ∀ d ∈ whole, d ∈ plainDigits) (hfraction : ∀ d ∈ fraction, d ∈ plainDigits) :
    Literal :=
  ⟨negative, whole, fraction, none, hne, hwhole, hfraction,
    fun e he => absurd he (Option.not_mem_none e), fun e he => absurd he (Option.not_mem_none e)⟩

section Positional

variable {negative : Bool} {whole fraction : List Char} {hne : whole ≠ []}
  {hwhole : ∀ d ∈ whole, d ∈ plainDigits} {hfraction : ∀ d ∈ fraction, d ∈ plainDigits}

/-- A literal without an exponent has its digits around the point, and no point without a fraction.
-/
theorem Literal.magnitude_positional :
    (Literal.positional negative whole fraction hne hwhole hfraction).magnitude =
      whole ++ if fraction = [] then [] else '.' :: fraction :=
  List.append_nil _

/-- A literal without an exponent means its digits, scaled by the length of its fraction. -/
theorem Literal.decimal_positional :
    (Literal.positional negative whole fraction hne hwhole hfraction).decimal =
      ⟨value (whole ++ fraction), -(fraction.length : ℤ)⟩ :=
  congrArg (Decimal.mk _) (zero_sub _)

end Positional

/-- Digits after zeros after a point. -/
theorem exists_literal_below_one (hne : ds ≠ []) (hds : ∀ d ∈ ds, d ∈ plainDigits) (k : ℕ)
    (negative : Bool) :
    ∃ l : Literal, l.negative = negative ∧
      l.magnitude = '0' :: '.' :: (List.replicate k '0' ++ ds) ∧
      l.decimal = ⟨value ds, -(k + ds.length : ℕ)⟩ := by
  refine ⟨.positional negative ['0'] (List.replicate k '0' ++ ds) (List.cons_ne_nil _ _)
    (List.forall_mem_singleton.2 zero_mem_plainDigits)
    (List.forall_mem_append.2 ⟨zeros_mem_plainDigits k, hds⟩), rfl, ?_, ?_⟩
  · rw [Literal.magnitude_positional, if_neg (List.append_ne_nil_of_right_ne_nil _ hne)]
    rfl
  · have hvalue : value (['0'] ++ (List.replicate k '0' ++ ds)) = value ds :=
      (value_zeros_append 1 _).trans (value_zeros_append k ds)
    rw [Literal.decimal_positional, hvalue, List.length_append, List.length_replicate]

/-- Digits with a point after some of them, not all. -/
theorem exists_literal_split {n : ℕ} (hn : 0 < n) (hlength : n < ds.length)
    (hds : ∀ d ∈ ds, d ∈ plainDigits) (negative : Bool) :
    ∃ l : Literal, l.negative = negative ∧ l.magnitude = ds.take n ++ '.' :: ds.drop n ∧
      l.decimal = ⟨value ds, -(ds.length - n : ℕ)⟩ := by
  have htake : ds.take n ≠ [] := by
    rw [← List.length_pos_iff, List.length_take]
    omega
  have hdrop : ds.drop n ≠ [] := by
    rw [← List.length_pos_iff, List.length_drop]
    omega
  refine ⟨.positional negative (ds.take n) (ds.drop n) htake
    (fun d hd => hds d (List.mem_of_mem_take hd)) (fun d hd => hds d (List.mem_of_mem_drop hd)),
    rfl, ?_, ?_⟩
  · rw [Literal.magnitude_positional, if_neg hdrop]
  · rw [Literal.decimal_positional, List.take_append_drop, List.length_drop]

/-- Digits with zeros after them, a point and one more zero. -/
theorem exists_literal_whole (hne : ds ≠ []) (hds : ∀ d ∈ ds, d ∈ plainDigits) (k : ℕ)
    (negative : Bool) :
    ∃ l : Literal, l.negative = negative ∧
      l.magnitude = ds ++ List.replicate k '0' ++ ['.', '0'] ∧
      l.decimal = ⟨value ds * 10 ^ (k + 1), -1⟩ := by
  refine ⟨.positional negative (ds ++ List.replicate k '0') ['0']
    (List.append_ne_nil_of_left_ne_nil hne _)
    (List.forall_mem_append.2 ⟨hds, zeros_mem_plainDigits k⟩)
    (List.forall_mem_singleton.2 zero_mem_plainDigits), rfl, ?_, ?_⟩
  · rw [Literal.magnitude_positional]
    rfl
  · have hzeros : ds ++ List.replicate k '0' ++ ['0'] = ds ++ List.replicate (k + 1) '0' := by
      rw [List.append_assoc, ← List.replicate_succ']
    rw [Literal.decimal_positional, hzeros, value_append, value_zeros,
      List.length_replicate, add_zero]
    rfl

/-- Digits with a point after the digit of exponent zero are a literal. -/
theorem exists_literal_positional (hne : ds ≠ []) (hds : ∀ d ∈ ds, d ∈ plainDigits) (order : ℤ)
    (negative : Bool) :
    ∃ l : Literal, l.negative = negative ∧ l.magnitude = positionalChars ds order ∧
      l.decimal.val = (⟨value ds, order + 1 - ds.length⟩ : Decimal).val := by
  rw [positionalChars]
  split
  · next hneg =>
      obtain ⟨l, hsign, hchars, hdecimal⟩ :=
        exists_literal_below_one hne hds (-order - 1).toNat negative
      refine ⟨l, hsign, hchars, ?_⟩
      rw [hdecimal]
      congr 2
      omega
  · next hnonneg =>
      by_cases hlength : order.toNat + 1 < ds.length
      · obtain ⟨l, hsign, hchars, hdecimal⟩ :=
          exists_literal_split (Nat.succ_pos order.toNat) hlength hds negative
        refine ⟨l, hsign, ?_, ?_⟩
        · have hdrop : (ds.drop (order.toNat + 1)).isEmpty = false := by
            rw [List.isEmpty_eq_false_iff, ← List.length_pos_iff, List.length_drop]
            omega
          dsimp only
          rw [hchars, hdrop, Nat.sub_eq_zero_of_le hlength.le, List.replicate_zero, List.append_nil]
          rfl
        · rw [hdecimal]
          congr 2
          omega
      · obtain ⟨l, hsign, hchars, hdecimal⟩ :=
          exists_literal_whole hne hds (order.toNat + 1 - ds.length) negative
        have hle : ds.length ≤ order.toNat + 1 := Nat.le_of_not_lt hlength
        refine ⟨l, hsign, ?_, ?_⟩
        · dsimp only
          rw [hchars, List.take_of_length_le hle, List.drop_of_length_le hle]
          rfl
        · have hexponent : order + 1 - ds.length = (order.toNat + 1 - ds.length : ℕ) := by omega
          rw [hdecimal, Decimal.val, Decimal.val, hexponent, zpow_natCast, zpow_neg_one,
            Nat.cast_mul, Nat.cast_pow, pow_succ]
          push_cast
          field_simp

/-- Digits with a point after the first one and an exponent are a literal. -/
theorem exists_literal_scientific (hne : ds ≠ []) (hds : ∀ d ∈ ds, d ∈ plainDigits) (order : ℤ)
    (negative : Bool) :
    ∃ l : Literal, l.negative = negative ∧ l.magnitude = scientificChars ds order ∧
      l.decimal = ⟨value ds, order + 1 - ds.length⟩ := by
  have hlength : 0 < ds.length := List.length_pos_iff.2 hne
  have htake : ds.take 1 ≠ [] := by
    rw [← List.length_pos_iff, List.length_take]
    omega
  -- the digits of the exponent, with zeros in front
  obtain ⟨es, hes⟩ : ∃ es, es = List.replicate (2 - (decimalDigits order.natAbs).length) '0' ++
    decimalDigits order.natAbs := ⟨_, rfl⟩
  have hesne : es ≠ [] :=
    hes ▸ List.append_ne_nil_of_right_ne_nil _ (decimalDigits_ne_nil order.natAbs)
  have hdigits : ∀ d ∈ es, d ∈ plainDigits := hes ▸ List.forall_mem_append.2
    ⟨zeros_mem_plainDigits _, mem_plainDigits_of_mem_decimalDigits order.natAbs⟩
  have hvalue : value es = order.natAbs := by rw [hes, value_zeros_append, value_decimalDigits]
  refine ⟨⟨negative, ds.take 1, ds.drop 1, some (decide (order < 0), es), htake,
    fun d hd => hds d (List.mem_of_mem_take hd), fun d hd => hds d (List.mem_of_mem_drop hd),
    ?_, ?_⟩, rfl, ?_, ?_⟩
  · rintro _ ⟨⟩
    exact hesne
  · rintro _ ⟨⟩
    exact hdigits
  · have hfraction : ds.drop 1 = [] ↔ ds.length ≤ 1 := List.drop_eq_nil_iff
    simp only [Literal.magnitude, Literal.mantissa, Literal.exponentChars, scientificChars, ← hes,
      hfraction, decide_eq_true_eq]
  · have hpower : (if decide (order < 0) = true then -(value es : ℤ) else value es) = order := by
      rw [hvalue]
      split
      · next h => rw [decide_eq_true_eq] at h; omega
      · next h => rw [decide_eq_true_eq] at h; omega
    simp only [Literal.decimal, Literal.power, hpower, List.take_append_drop, List.length_drop]
    congr 1
    omega

/-- A decimal is written as a literal of its value. -/
theorem exists_literal_decimalChars (d : Decimal) (negative : Bool) :
    ∃ l : Literal, l.negative = negative ∧ l.magnitude = decimalChars d ∧
      l.decimal.val = d.val := by
  have hne := decimalDigits_ne_nil d.digits
  have hds := mem_plainDigits_of_mem_decimalDigits d.digits
  have hd : (⟨value (decimalDigits d.digits), d.exponent + (decimalDigits d.digits).length - 1 + 1 -
      (decimalDigits d.digits).length⟩ : Decimal) = d := by
    rw [value_decimalDigits, sub_add_cancel, add_sub_cancel_right]
  simp only [decimalChars]
  split
  · obtain ⟨l, hsign, hchars, hval⟩ := exists_literal_positional hne hds
      (d.exponent + (decimalDigits d.digits).length - 1) negative
    exact ⟨l, hsign, hchars, by rw [hval, hd]⟩
  · obtain ⟨l, hsign, hchars, hdecimal⟩ := exists_literal_scientific hne hds
      (d.exponent + (decimalDigits d.digits).length - 1) negative
    exact ⟨l, hsign, hchars, by rw [hdecimal, hd]⟩

/-- A magnitude is written as a literal that is read as that magnitude. -/
theorem exists_literal_magnitudeChars {m : ℕ} (hm : Binary64.Fits m) (negative : Bool) :
    ∃ l : Literal, l.negative = negative ∧ l.magnitude = magnitudeChars m ∧
      l.decimal.toBinary64 negative = .finite negative m hm := by
  rw [magnitudeChars]
  split
  · next hzero =>
      have hdigit : ∀ d ∈ ['0'], d ∈ plainDigits := List.forall_mem_singleton.2 zero_mem_plainDigits
      refine ⟨.positional negative ['0'] ['0'] (List.cons_ne_nil _ _) hdigit hdigit, rfl, rfl,
        Decimal.toBinary64_of_val_eq hm ?_ negative⟩
      rw [hzero, Nat.cast_zero, zero_div, Decimal.val_eq_zero_iff]
      exact value_zeros 2
  · obtain ⟨l, hsign, hchars, hval⟩ :=
      exists_literal_decimalChars (Binary64.shortestDecimal m) negative
    refine ⟨l, hsign, hchars, ?_⟩
    rw [Decimal.toBinary64_congr hval, Binary64.toBinary64_shortestDecimal hm]

/-- A finite number is written as a literal that is read as that number. -/
theorem exists_literal {s : Bool} {m : ℕ} (hm : Binary64.Fits m) :
    ∃ l : Literal, l.text = (realText (.finite s m hm)).toList ∧
      l.decimal.toBinary64 l.negative = .finite s m hm := by
  obtain ⟨l, rfl, hchars, hread⟩ := exists_literal_magnitudeChars hm s
  refine ⟨l, ?_, hread⟩
  rw [realText, String.toList_ofList, Literal.text, hchars]

end Written

/-- Every binary64 number is read back from its text. -/
theorem realNumeral?_realText (x : Binary64) : realNumeral? (realText x).toList = some x := by
  cases x with
  | nan => rfl
  | infinite negative => cases negative <;> rfl
  | finite s m hm =>
      obtain ⟨l, htext, hread⟩ := exists_literal (s := s) hm
      rw [← htext, l.realNumeral?_text, hread]

end RackElevation
