import Mathlib.Data.List.TakeWhile
import RackElevation.Markup.Token

/-!
# Characters of names

Names are made of few characters: none of them is white space, part of a tag or forbidden in a
document.  A qualified name begins with a start character and goes on with characters that continue
it.
-/

namespace RackElevation.Markup

/-- Whether a document may hold every character of a text. -/
def IsAllowedText (s : String) : Prop :=
  ∀ c ∈ s.toList, isAllowed c = true

instance (s : String) : Decidable (IsAllowedText s) :=
  List.decidableBAll _ _

/-- A value that is missing or allowed in a document. -/
def IsAllowedValue (value : Option String) : Prop :=
  ∀ s ∈ value, IsAllowedText s

instance (value : Option String) : Decidable (IsAllowedValue value) :=
  inferInstanceAs (Decidable (∀ s ∈ value, IsAllowedText s))

section Classes

variable {alphabet : Alphabet} {c d : Char}

/-- A character inside names continues one. -/
theorem continuesName_of_isPart (h : alphabet.isPart c = true) :
    Mode.continuesName alphabet c = true := by
  rw [Mode.continuesName, h, Bool.true_or]

/-- A character at the start of names may also be inside them. -/
theorem isPart_of_isStart (h : alphabet.isStart c = true) : alphabet.isPart c = true := by
  rw [Alphabet.isPart, h, Bool.true_or]

/-- A character at the start of names continues one. -/
theorem continuesName_of_isStart (h : alphabet.isStart c = true) :
    Mode.continuesName alphabet c = true :=
  continuesName_of_isPart (isPart_of_isStart h)

/-- Blanks and marks that no name holds. -/
def outsideNames : List Char :=
  ['\x00', '\t', '\n', '\r', ' ', '!', '/', '=', '>', '?']

/-- Neither a colon nor any of these characters is part of a name. -/
theorem isPart_eq_false (alphabet : Alphabet) :
    (':' :: outsideNames).all (fun d => !alphabet.isPart d) = true := by
  cases alphabet <;> decide +kernel

/-- Blanks, quotes and marks of tags end a name. -/
theorem continuesName_eq_false (hd : d ∈ outsideNames) :
    Mode.continuesName alphabet d = false := by
  have hpart := List.all_eq_true.1 (isPart_eq_false alphabet) d (List.mem_cons_of_mem ':' hd)
  rw [Bool.not_eq_true'] at hpart
  have hcolon : d ≠ ':' := ne_of_mem_of_not_mem hd (by decide)
  rw [Mode.continuesName, hpart, Bool.false_or]
  exact beq_eq_false_iff_ne.2 hcolon

/-- A character that continues a name is no blank, quote or mark of a tag. -/
theorem ne_of_continuesName (h : Mode.continuesName alphabet c = true) (hd : d ∈ outsideNames) :
    c ≠ d := by
  rintro rfl
  rw [continuesName_eq_false hd] at h
  contradiction

/-- The ranges of name characters lie between the control characters and the last two code points of
the first plane. -/
theorem nameRanges_between :
    ∀ r ∈ letterRanges ++ nameMarkRanges, 0x20 ≤ r.1 ∧ r.2 < 0xFFFE := by
  decide +kernel

/-- The ranges of letters and of marks in names lie within the allowed characters. -/
theorem isAllowed_of_inRanges {ranges : List (ℕ × ℕ)}
    (hranges : ranges ⊆ letterRanges ++ nameMarkRanges) (h : inRanges ranges c = true) :
    isAllowed c = true := by
  obtain ⟨r, hr, hc⟩ := List.any_eq_true.1 h
  obtain ⟨hlow, hhigh⟩ := nameRanges_between r (hranges hr)
  rw [Bool.and_eq_true, decide_eq_true_eq, decide_eq_true_eq] at hc
  rw [isAllowed, if_neg (by omega), Bool.and_eq_true, bne_iff_ne, bne_iff_ne]
  omega

/-- A character that continues a name is allowed. -/
theorem isAllowed_of_continuesName (h : Mode.continuesName alphabet c = true) :
    isAllowed c = true := by
  rw [Mode.continuesName, Alphabet.isPart, Alphabet.isStart] at h
  simp only [Bool.or_eq_true, Bool.and_eq_true, beq_iff_eq] at h
  rcases h with (((rfl | h) | ⟨-, (rfl | rfl) | rfl⟩) | h) | rfl
  · decide
  · exact isAllowed_of_inRanges (List.subset_append_left ..) h
  · decide
  · decide
  · decide
  · exact isAllowed_of_inRanges (List.subset_append_right ..) h
  · decide

/-- White space does not continue a name. -/
theorem isSpace_eq_false_of_continuesName (h : Mode.continuesName alphabet c = true) :
    isSpace c = false := by
  have hne (d : Char) (hd : d ∈ outsideNames) : (c == d) = false :=
    beq_eq_false_iff_ne.2 (ne_of_continuesName h hd)
  rw [isSpace, hne ' ' (by decide), hne '\t' (by decide), hne '\n' (by decide),
    hne '\r' (by decide)]
  rfl

end Classes

section Forms

variable {alphabet : Alphabet} {cs : List Char}

/-- A name has a first character, which may start it, and others, which may be inside. -/
theorem exists_cons_of_isName (h : alphabet.isName cs = true) :
    ∃ c rest, cs = c :: rest ∧ alphabet.isStart c = true ∧
      ∀ d ∈ rest, alphabet.isPart d = true := by
  cases cs with
  | nil => contradiction
  | cons c rest =>
      rw [Alphabet.isName, Bool.and_eq_true, List.all_eq_true] at h
      exact ⟨c, rest, rfl, h.1, h.2⟩

/-- A qualified name begins with a start character and goes on with characters that continue it. -/
theorem exists_cons_of_isQualifiedName (h : alphabet.isQualifiedName cs = true) :
    ∃ c rest, cs = c :: rest ∧ alphabet.isStart c = true ∧
      ∀ d ∈ rest, Mode.continuesName alphabet d = true := by
  rw [Alphabet.isQualifiedName] at h
  split at h
  -- without a colon the whole is one name
  · obtain ⟨c, rest, rfl, hc, hrest⟩ := exists_cons_of_isName h
    exact ⟨c, rest, rfl, hc, fun d hd => continuesName_of_isPart (hrest d hd)⟩
  · next colon localPart hdrop =>
      rw [Bool.and_eq_true] at h
      obtain ⟨c, before, hbefore, hc, hpart⟩ := exists_cons_of_isName h.1
      obtain ⟨d, after, rfl, hd, hafter⟩ := exists_cons_of_isName h.2
      -- what stands where the letters before the colon end is the colon
      have hcolon : colon = ':' := by
        have hhead := List.head?_dropWhile_not (· != ':') cs
        simpa [hdrop] using hhead
      refine ⟨c, before ++ colon :: d :: after, ?_, hc, ?_⟩
      · rw [← List.cons_append, ← hbefore, ← hdrop, List.takeWhile_append_dropWhile]
      · intro e he
        rcases List.mem_append.1 he with he | he
        · exact continuesName_of_isPart (hpart e he)
        · rcases List.mem_cons.1 he with rfl | he
          · rw [hcolon, Mode.continuesName, beq_self_eq_true, Bool.or_true]
          · rcases List.mem_cons.1 he with rfl | he
            · exact continuesName_of_isStart hd
            · exact continuesName_of_isPart (hafter e he)

/-- Every character of a qualified name continues it. -/
theorem continuesName_of_mem (h : alphabet.isQualifiedName cs = true) {c : Char} (hc : c ∈ cs) :
    Mode.continuesName alphabet c = true := by
  obtain ⟨d, rest, rfl, hd, hrest⟩ := exists_cons_of_isQualifiedName h
  rcases List.mem_cons.1 hc with rfl | hc
  · exact continuesName_of_isStart hd
  · exact hrest c hc

/-- A name has no colon. -/
theorem ne_colon_of_isPart {c : Char} (h : alphabet.isPart c = true) : c ≠ ':' := by
  rintro rfl
  have hcolon := List.all_eq_true.1 (isPart_eq_false alphabet) ':' (List.mem_cons_self ..)
  rw [h] at hcolon
  contradiction

/-- A name has no colon. -/
theorem ne_colon_of_isName (h : alphabet.isName cs = true) : ∀ c ∈ cs, c ≠ ':' := by
  obtain ⟨c, rest, rfl, hc, hrest⟩ := exists_cons_of_isName h
  intro d hd
  rcases List.mem_cons.1 hd with rfl | hd
  · exact ne_colon_of_isPart (isPart_of_isStart hc)
  · exact ne_colon_of_isPart (hrest d hd)

/-- Without a colon there is no local part. -/
theorem dropWhile_ne_colon (h : ∀ c ∈ cs, c ≠ ':') : cs.dropWhile (· != ':') = [] := by
  rw [List.dropWhile_eq_nil_iff]
  intro c hc
  exact bne_iff_ne.2 (h c hc)

/-- A name is a qualified name. -/
theorem isQualifiedName_of_isName (h : alphabet.isName cs = true) :
    alphabet.isQualifiedName cs = true := by
  rw [Alphabet.isQualifiedName, dropWhile_ne_colon (ne_colon_of_isName h)]
  exact h

end Forms

/-! ## Words -/

/-- A word of Latin letters, with hyphens inside. -/
def isWord : List Char → Bool
  | [] => false
  | c :: rest => c.isAlpha && rest.all fun d => d.isAlpha || d == '-'

section Words

variable {alphabet : Alphabet}

/-- A character between the ends of one of some ranges is in the ranges. -/
theorem inRanges_of_mem {ranges : List (ℕ × ℕ)} {low high : ℕ} {c : Char}
    (hmem : (low, high) ∈ ranges) (hlow : low ≤ c.toNat) (hhigh : c.toNat ≤ high) :
    inRanges ranges c = true := by
  refine List.any_eq_true.2 ⟨(low, high), hmem, ?_⟩
  rw [Bool.and_eq_true, decide_eq_true_eq, decide_eq_true_eq]
  exact ⟨hlow, hhigh⟩

/-- An ASCII letter may start a name. -/
theorem isStart_of_isAlpha {c : Char} (h : c.isAlpha = true) : alphabet.isStart c = true := by
  have hletter : inRanges letterRanges c = true := by
    rcases Bool.or_eq_true .. ▸ h with hupper | hlower
    · obtain ⟨hlow, hhigh⟩ := of_decide_eq_true hupper
      exact inRanges_of_mem (.head _) (UInt32.le_iff_toNat_le.1 hlow)
        (UInt32.le_iff_toNat_le.1 hhigh)
    · obtain ⟨hlow, hhigh⟩ := Bool.and_eq_true .. ▸ hlower
      exact inRanges_of_mem (.tail _ (.head _)) (UInt32.le_iff_toNat_le.1 (of_decide_eq_true hlow))
        (UInt32.le_iff_toNat_le.1 (of_decide_eq_true hhigh))
  rw [Alphabet.isStart, hletter, Bool.or_true, Bool.true_or]

/-- A hyphen may be inside a name. -/
theorem isPart_hyphen : alphabet.isPart '-' = true := by
  have hmark : inRanges nameMarkRanges '-' = true :=
    inRanges_of_mem (.head _) (by decide) (by decide)
  rw [Alphabet.isPart, hmark, Bool.or_true]

/-- A word is a name. -/
theorem isName_of_isWord {cs : List Char} (h : isWord cs = true) : alphabet.isName cs = true := by
  cases cs with
  | nil => contradiction
  | cons c rest =>
      rw [isWord, Bool.and_eq_true, List.all_eq_true] at h
      rw [Alphabet.isName, Bool.and_eq_true, List.all_eq_true]
      refine ⟨isStart_of_isAlpha h.1, fun d hd => ?_⟩
      rcases Bool.or_eq_true .. ▸ h.2 d hd with hd | hd
      · exact isPart_of_isStart (isStart_of_isAlpha hd)
      · rw [beq_iff_eq.1 hd]
        exact isPart_hyphen

end Words

end RackElevation.Markup
