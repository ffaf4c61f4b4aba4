import RackElevation.Proofs.Number.Digits

/-!
# The grammar of leading numerals

A text is cut into blanks, an optional sign, digits and what follows.  Many cuts have parts of the
right kinds.  The longest one, in which each part ends only where it has to, is unique, and every
cut with a digit has the blanks and the sign of the longest one and digits from its start.  So there
is only one way to read a positive integer at the start of a text, and what is read depends on the
sign and the digits alone.
-/

namespace RackElevation

open Text

/-- The parts of a text that may start with an integer. -/
@[ext]
structure LeadingNumeral where
  blanks : List Char
  sign : Option Char
  digits : List Char
  rest : List Char

namespace LeadingNumeral

/-- The parts make up a text, and each has characters of its kind only. -/
structure IsCut (p : LeadingNumeral) (cs : List Char) : Prop where
  text_eq : p.blanks ++ (p.sign.toList ++ (p.digits ++ p.rest)) = cs
  blanks : ∀ c ∈ p.blanks, isBlank c = true
  sign : ∀ c ∈ p.sign, c = '+' ∨ c = '-'
  digits : ∀ c ∈ p.digits, isDigit c = true

/-- A row that does not start with a sign. -/
def HasNoSign (cs : List Char) : Prop :=
  ∀ c ∈ cs.head?, c ≠ '+' ∧ c ≠ '-'

/-- A cut whose blanks end where something else begins, that has a sign if there is one, and whose
digits end where something else begins. -/
structure IsLongest (p : LeadingNumeral) (cs : List Char) : Prop extends p.IsCut cs where
  blanks_end : ∀ c ∈ (p.sign.toList ++ (p.digits ++ p.rest)).head?, isBlank c = false
  sign_end : p.sign = none → HasNoSign (p.digits ++ p.rest)
  digits_end : ∀ c ∈ p.rest.head?, isDigit c = false

theorem not_blank_of_sign {c : Char} (h : c = '+' ∨ c = '-') : isBlank c = false := by
  rcases h with rfl | rfl <;> decide

/-! ## The longest cut -/

/-- Every text starts with a sign or has none. -/
theorem exists_sign (cs : List Char) :
    ∃ (sign : Option Char) (rest : List Char), sign.toList ++ rest = cs ∧
      (∀ c ∈ sign, c = '+' ∨ c = '-') ∧ (sign = none → HasNoSign rest) := by
  cases cs with
  | nil => exact ⟨none, [], rfl, nofun, fun _ => nofun⟩
  | cons c cs =>
      by_cases hc : c = '+' ∨ c = '-'
      · refine ⟨some c, cs, rfl, ?_, nofun⟩
        rintro _ ⟨⟩
        exact hc
      · refine ⟨none, c :: cs, rfl, nofun, fun _ => ?_⟩
        rintro _ ⟨⟩
        exact not_or.1 hc

/-- A row has one sign only. -/
theorem sign_unique {s t : Option Char} {as bs : List Char} (h : s.toList ++ as = t.toList ++ bs)
    (hs : ∀ c ∈ s, c = '+' ∨ c = '-') (ht : ∀ c ∈ t, c = '+' ∨ c = '-')
    (has : s = none → HasNoSign as) (hbs : t = none → HasNoSign bs) : s = t := by
  cases s with
  | none =>
      cases t with
      | none => rfl
      | some c =>
          have hc := has rfl c (by rw [← List.nil_append as, ← Option.toList_none, h]; rfl)
          rcases ht c rfl with rfl | rfl
          · exact absurd rfl hc.1
          · exact absurd rfl hc.2
  | some c =>
      cases t with
      | none =>
          have hc := hbs rfl c (by rw [← List.nil_append bs, ← Option.toList_none, ← h]; rfl)
          rcases hs c rfl with rfl | rfl
          · exact absurd rfl hc.1
          · exact absurd rfl hc.2
      | some d => rw [(List.cons.inj h).1]

/-- Every text has a longest cut. -/
theorem exists_isLongest (cs : List Char) : ∃ p : LeadingNumeral, p.IsLongest cs := by
  obtain ⟨sign, rest, hrest, hkind, hend⟩ := exists_sign (cs.dropWhile isBlank)
  refine ⟨⟨cs.takeWhile isBlank, sign, rest.takeWhile isDigit, rest.dropWhile isDigit⟩,
    ⟨?_, fun c hc => List.mem_takeWhile_imp hc, hkind, fun c hc => List.mem_takeWhile_imp hc⟩,
    ?_, ?_, head?_dropWhile_eq isDigit rest⟩
  · rw [List.takeWhile_append_dropWhile, hrest, List.takeWhile_append_dropWhile]
  · rw [List.takeWhile_append_dropWhile, hrest]
    exact head?_dropWhile_eq isBlank cs
  · rwa [List.takeWhile_append_dropWhile]

variable {p q : LeadingNumeral} {cs : List Char}

theorem IsLongest.blanks_eq (h : p.IsLongest cs) : p.blanks = cs.takeWhile isBlank := by
  rw [← h.text_eq, takeWhile_append_eq h.blanks h.blanks_end]

theorem IsLongest.trimLeft_eq (h : p.IsLongest cs) :
    trimLeft cs = p.sign.toList ++ (p.digits ++ p.rest) := by
  rw [trimLeft, ← h.text_eq, dropWhile_append_eq h.blanks h.blanks_end]

/-- The sign of the longest cut is taken off. -/
theorem IsLongest.takeSign_eq (h : p.IsLongest cs) :
    takeSign (trimLeft cs) = (decide (p.sign = some '-'), p.digits ++ p.rest) := by
  rw [h.trimLeft_eq]
  cases hsign : p.sign with
  | some c =>
      rcases h.sign c hsign with rfl | rfl
      · rfl
      · rfl
  | none =>
      have hend := h.sign_end hsign
      rw [Option.toList_none, List.nil_append]
      cases hrest : p.digits ++ p.rest with
      | nil => rfl
      | cons c rest =>
          obtain ⟨hplus, hminus⟩ := hend c (by rw [hrest]; rfl)
          rw [takeSign]
          · rfl
          · rintro _ ⟨⟩
            exact hplus rfl
          · rintro _ ⟨⟩
            exact hminus rfl

theorem IsLongest.digits_eq (h : p.IsLongest cs) :
    (p.digits ++ p.rest).takeWhile isDigit = p.digits :=
  takeWhile_append_eq h.digits h.digits_end

/-- A sign or a digit ends the blanks. -/
theorem IsCut.blanks_end (h : p.IsCut cs) (hne : p.digits ≠ []) :
    ∀ c ∈ (p.sign.toList ++ (p.digits ++ p.rest)).head?, isBlank c = false := by
  obtain ⟨d, ds, hds⟩ := List.exists_cons_of_ne_nil hne
  cases hsign : p.sign with
  | some s =>
      rintro c ⟨⟩
      exact not_blank_of_sign (h.sign s hsign)
  | none =>
      rw [hds]
      rintro c ⟨⟩
      exact not_blank_of_isDigit (h.digits d (by rw [hds]; exact .head _))

/-- A digit is no sign. -/
theorem IsCut.sign_end (h : p.IsCut cs) (hne : p.digits ≠ []) : HasNoSign (p.digits ++ p.rest) := by
  obtain ⟨d, ds, hds⟩ := List.exists_cons_of_ne_nil hne
  have hd : isDigit d = true := h.digits d (by rw [hds]; exact .head _)
  rw [hds]
  rintro c ⟨⟩
  constructor
  · rintro rfl
    contradiction
  · rintro rfl
    contradiction

/-- A cut with a digit is the longest one as soon as its digits end where they have to. -/
theorem IsCut.isLongest (h : p.IsCut cs) (hne : p.digits ≠ [])
    (hend : ∀ c ∈ p.rest.head?, isDigit c = false) : p.IsLongest cs :=
  ⟨h, h.blanks_end hne, fun _ => h.sign_end hne, hend⟩

/-- A cut with a digit has the blanks and the sign of the longest cut, and digits from its start. -/
theorem IsLongest.parts_of_isCut (h : p.IsLongest cs) (hq : q.IsCut cs) (hne : q.digits ≠ []) :
    q.blanks = p.blanks ∧ q.sign = p.sign ∧ q.digits <+: p.digits := by
  have hblanks : q.blanks = p.blanks := by
    rw [h.blanks_eq, ← hq.text_eq, takeWhile_append_eq hq.blanks (hq.blanks_end hne)]
  have hrest : q.sign.toList ++ (q.digits ++ q.rest) = p.sign.toList ++ (p.digits ++ p.rest) := by
    rw [← h.trimLeft_eq, trimLeft, ← hq.text_eq, dropWhile_append_eq hq.blanks (hq.blanks_end hne)]
  have hsign : q.sign = p.sign :=
    sign_unique hrest hq.sign h.sign (fun _ => hq.sign_end hne) h.sign_end
  rw [hsign] at hrest
  refine ⟨hblanks, hsign, ?_⟩
  rw [← h.digits_eq, ← List.append_cancel_left hrest, List.takeWhile_append_of_pos hq.digits]
  exact List.prefix_append _ _

/-- There is no other longest cut. -/
theorem IsLongest.unique (h : p.IsLongest cs) (hq : q.IsLongest cs) : q = p := by
  have hblanks : q.blanks = p.blanks := hq.blanks_eq.trans h.blanks_eq.symm
  have hrest := hq.trimLeft_eq.symm.trans h.trimLeft_eq
  have hsign : q.sign = p.sign := sign_unique hrest hq.sign h.sign hq.sign_end h.sign_end
  rw [hsign] at hrest
  have htail := List.append_cancel_left hrest
  have hdigits : q.digits = p.digits := by rw [← hq.digits_eq, htail, h.digits_eq]
  rw [hdigits] at htail
  exact LeadingNumeral.ext hblanks hsign hdigits (List.append_cancel_left htail)

/-! ## What is read -/

/-- The number that the digits denote. -/
def number (p : LeadingNumeral) : ℕ :=
  Nat.ofDigits 10 (p.digits.reverse.map digit)

/-- What is read from the sign and the digits. -/
def outcome (p : LeadingNumeral) : Except Failure (Option ℤ) :=
  if p.digits = [] then .ok none
  else if integerTextLimit < p.digits.length then .error (.numeralTooLong p.digits.length)
  else if 0 < p.number ∧ p.sign ≠ some '-' then .ok (some p.number)
  else .ok none

/-- What is read from a text is what its longest cut says. -/
theorem IsLongest.leadingPositive_eq (h : p.IsLongest cs) : leadingPositive cs = p.outcome := by
  have hnumber : value p.digits = p.number := value_eq_ofDigits p.digits
  simp only [leadingPositive, h.takeSign_eq, h.digits_eq, outcome, List.isEmpty_iff]
  split
  · rfl
  · rw [boundedValue]
    by_cases hlength : p.digits.length ≤ integerTextLimit
    · rw [if_pos hlength, if_neg (Nat.not_lt.2 hlength), hnumber]
      have hstates : 0 < p.number ∧ p.sign ≠ some '-' ↔
          ¬ (decide (p.sign = some '-') || decide ((p.number : ℤ) = 0)) = true := by
        rw [Bool.or_eq_true, decide_eq_true_eq, decide_eq_true_eq, Int.natCast_eq_zero,
          Nat.pos_iff_ne_zero]
        tauto
      by_cases hpositive : 0 < p.number ∧ p.sign ≠ some '-'
      · rw [if_pos hpositive]
        exact congrArg Except.ok (if_neg (hstates.1 hpositive))
      · rw [if_neg hpositive]
        exact congrArg Except.ok (if_pos (not_not.1 (mt hstates.2 hpositive)))
    · rw [if_neg hlength, if_pos (Nat.lt_of_not_le hlength)]
      rfl

/-- A row of digits without a minus says the number that it denotes. -/
theorem outcome_of_pos (hlength : p.digits.length ≤ integerTextLimit) (hnumber : 0 < p.number)
    (hsign : p.sign ≠ some '-') : p.outcome = .ok (some p.number) := by
  have hne : p.digits ≠ [] := by
    intro hnil
    rw [number, hnil] at hnumber
    exact absurd hnumber (Nat.lt_irrefl 0)
  rw [outcome, if_neg hne, if_neg (Nat.not_lt.2 hlength), if_pos ⟨hnumber, hsign⟩]

/-- A written number is the number of its parts, whatever stands around it. -/
theorem isLongest_written {blanks suffix : List Char} {plus : Option Char} {k n : ℕ}
    (hblanks : ∀ c ∈ blanks, isBlank c = true) (hplus : ∀ c ∈ plus, c = '+')
    (hsuffix : ∀ c ∈ suffix.head?, isDigit c = false) :
    IsLongest ⟨blanks, plus, List.replicate k '0' ++ decimalDigits n, suffix⟩
      (blanks ++ (plus.toList ++ (List.replicate k '0' ++ decimalDigits n ++ suffix))) := by
  refine IsCut.isLongest ⟨rfl, hblanks, fun c hc => Or.inl (hplus c hc), ?_⟩ ?_ hsuffix
  · refine List.forall_mem_append.2 ⟨fun c hc => ?_, fun c hc => isDigit_of_mem_decimalDigits hc⟩
    rw [List.eq_of_mem_replicate hc]
    decide
  · exact List.append_ne_nil_of_right_ne_nil _ (decimalDigits_ne_nil n)

theorem number_written {blanks suffix : List Char} {plus : Option Char} {k n : ℕ} :
    number ⟨blanks, plus, List.replicate k '0' ++ decimalDigits n, suffix⟩ = n := by
  rw [number, ← value_eq_ofDigits, value_append, value_zeros, zero_mul, zero_add,
    value_decimalDigits]

end LeadingNumeral

open LeadingNumeral

/-- What an optional text is read as.  Without a text there is no number.  A text has one longest
cut, which every way to cut it with a digit agrees with, and what is read is what the sign and the
digits of that cut say, whatever stands around them.  So a number that is written with zeros in
front, within the limit on integer text, is read from any text that starts with it. -/
theorem leadingPositive?_grammar :
    leadingPositive? none = .ok none ∧
    (∀ c v, digitValue? c = some v ↔ IsDigitOf c v) ∧
    (∀ s : String, ∃ p : LeadingNumeral, p.IsLongest s.toList ∧
      (∀ q : LeadingNumeral, q.IsLongest s.toList → q = p) ∧
      (∀ q : LeadingNumeral, q.IsCut s.toList → q.digits ≠ [] →
        q.blanks = p.blanks ∧ q.sign = p.sign ∧ q.digits <+: p.digits) ∧
      leadingPositive? (some s) = p.outcome) ∧
    (∀ (s t : String) (p q : LeadingNumeral), p.IsLongest s.toList → q.IsLongest t.toList →
      p.sign = q.sign → p.digits = q.digits →
      leadingPositive? (some s) = leadingPositive? (some t)) ∧
    (∀ (n : ℕ) (blanks suffix : List Char) (plus : Option Char) (k : ℕ), 1 ≤ n →
      (∀ c ∈ blanks, isBlank c = true) → (∀ c ∈ plus, c = '+') →
      k + (decimalDigits n).length ≤ integerTextLimit →
      (∀ c ∈ suffix.head?, isDigit c = false) →
      leadingPositive? (some (String.ofList
        (blanks ++ (plus.toList ++ (List.replicate k '0' ++ decimalDigits n ++ suffix))))) =
          .ok (some n)) := by
  refine ⟨rfl, fun c v => digitValue?_eq_some_iff, fun s => ?_, ?_, ?_⟩
  · obtain ⟨p, hp⟩ := exists_isLongest s.toList
    exact ⟨p, hp, fun q hq => hp.unique hq, fun q hq hne => hp.parts_of_isCut hq hne,
      hp.leadingPositive_eq⟩
  -- the outcome depends on the sign and the digits of the longest cut only
  · intro s t p q hp hq hsign hdigits
    rw [leadingPositive?, leadingPositive?, hp.leadingPositive_eq, hq.leadingPositive_eq, outcome,
      outcome, number, number, hsign, hdigits]
  -- zeros before the digits change neither the value nor the sign of the cut
  · intro n blanks suffix plus k hn hblanks hplus hlength hsuffix
    have hlongest := isLongest_written (k := k) (n := n) hblanks hplus hsuffix
    rw [leadingPositive?, String.toList_ofList, hlongest.leadingPositive_eq, outcome_of_pos,
      number_written]
    · rwa [List.length_append, List.length_replicate]
    · rwa [number_written]
    · intro hminus
      exact absurd (hplus '-' hminus) (by decide)

/-- Blanks that are no spaces, a plus, digits of two scripts and a unit. -/
theorem leadingPositive?_grammar_mixedScripts :
    LeadingNumeral.IsLongest ⟨['\u00a0', '\u2003'], some '+', ['\u0663', '2'], ['U']⟩
      "\u00a0\u2003+\u06632U".toList ∧
    leadingPositive? (some "\u00a0\u2003+\u06632U") = .ok (some 32) := by
  have hend : ∀ c ∈ ['U'].head?, isDigit c = false := by
    rintro c ⟨⟩
    decide
  have hcut : LeadingNumeral.IsLongest
      ⟨['\u00a0', '\u2003'], some '+', ['\u0663', '2'], ['U']⟩ "\u00a0\u2003+\u06632U".toList :=
    IsCut.isLongest ⟨by decide, List.all_eq_true.1 (by decide),
      fun c hc => Or.inl (Option.mem_some_iff.1 hc).symm, List.all_eq_true.1 (by decide)⟩
      (List.cons_ne_nil _ _) hend
  obtain ⟨p, -, hunique, -, hread⟩ :=
    leadingPositive?_grammar.2.2.1 "\u00a0\u2003+\u06632U"
  rw [← hunique _ hcut] at hread
  exact ⟨hcut, hread.trans (by decide)⟩

end RackElevation
