import RackElevation.Markup.Source
import RackElevation.Proofs.Markup.LineEnds
import RackElevation.Proofs.Markup.Literals
import RackElevation.Proofs.Markup.Steps

/-!
# Reading with other letters

Which letters names may hold depends on how the characters of a document are stored.  Whatever is
read with one alphabet is read alike with a second one that takes each character into names as the
first one does.  So the wide alphabet reads all that the common one reads, and the common one reads
all that the wide one reads in documents without the three letters that only the latter has.

Each step of a reader is the same in both alphabets as long as the first one does not fail.  What
has been read so far holds only characters on which the alphabets agree, and words hold only
characters that go on with names.
-/

namespace RackElevation.Markup

/-! ## Letters -/

/-- The letters that only the wide alphabet admits. -/
def wideLetters : List Char :=
  ['\u00aa', '\u00b5', '\u00ba']

namespace Alphabet

/-- A character that a second alphabet takes into names as a first one does, if that one does. -/
def Yields (a b : Alphabet) (c : Char) : Prop :=
  a.isPart c = true → b.isPart c = true ∧ a.isStart c = b.isStart c

/-- The wide alphabet begins names with three letters more than the common one. -/
theorem isStart_wide (c : Char) :
    wide.isStart c = (common.isStart c || wideLetters.contains c) := by
  have hletters : wideLetters.contains c =
      (c == '\u00aa' || c == '\u00b5' || c == '\u00ba') := by
    simp only [wideLetters, List.contains_cons, List.contains_nil, Bool.or_false, Bool.or_assoc]
  have hcommon : (common == wide) = false := rfl
  have hwide : (wide == wide) = true := rfl
  rw [isStart, isStart, hcommon, hwide, hletters, Bool.true_and, Bool.false_and, Bool.or_false]

/-- The three further letters are no part of common names at all. -/
theorem isPart_wideLetters : wideLetters.all (fun c => !common.isPart c) = true := by
  decide +kernel

/-- The wide alphabet reads what the common one reads. -/
theorem yields_common_wide (c : Char) : common.Yields wide c := by
  intro h
  have hnot : wideLetters.contains c = false := by
    rw [← Bool.not_eq_true, List.contains_iff_mem]
    intro hmem
    have hpart := List.all_eq_true.1 isPart_wideLetters c hmem
    rw [h] at hpart
    contradiction
  have hstart : common.isStart c = wide.isStart c := by
    rw [isStart_wide, hnot, Bool.or_false]
  rw [isPart, ← hstart]
  exact ⟨h, rfl⟩

/-- The common alphabet reads what the wide one reads, except for three letters. -/
theorem yields_wide_common {c : Char} (h : c ∉ wideLetters) : wide.Yields common c := by
  have hstart : wide.isStart c = common.isStart c := by
    rw [isStart_wide, Bool.eq_false_iff.2 (mt List.contains_iff_mem.1 h), Bool.or_false]
  intro hpart
  rw [isPart, hstart] at hpart
  exact ⟨hpart, hstart⟩

end Alphabet

/-- Marks of a document type that no name holds. -/
def doctypeMarks : List Char :=
  ['?', '*', '+', '>', ')', ',', '|', '[', '%', ';']

/-- The marks of a document type are no part of a name in either alphabet. -/
theorem isPart_doctypeMarks (alphabet : Alphabet) :
    (':' :: doctypeMarks).all (fun d => !alphabet.isPart d) = true := by
  cases alphabet <;> decide +kernel

/-- A character of a name is none of the marks that can follow the name. -/
theorem ne_of_isPart {alphabet : Alphabet} {c d : Char} (h : alphabet.isPart c = true)
    (hd : d ∈ ':' :: doctypeMarks) : c ≠ d := by
  rintro rfl
  have hpart := List.all_eq_true.1 (isPart_doctypeMarks alphabet) c hd
  rw [h] at hpart
  contradiction

/-- A character that continues a name is no mark of a document type. -/
theorem ne_of_continues {alphabet : Alphabet} {c d : Char}
    (h : Mode.continuesName alphabet c = true) (hd : d ∈ doctypeMarks) : c ≠ d := by
  rw [Mode.continuesName, Bool.or_eq_true, beq_iff_eq] at h
  rcases h with h | rfl
  · exact ne_of_isPart h (List.mem_cons_of_mem _ hd)
  · exact (ne_of_mem_of_not_mem hd (by decide)).symm

variable {a b : Alphabet}

section Names

variable {c : Char} {cs : List Char}

/-- A character on which the alphabets agree begins a name in both. -/
theorem isStart_of_yields (hc : a.Yields b c) (h : a.isStart c = true) : b.isStart c = true := by
  rw [← (hc (isPart_of_isStart h)).2, h]

/-- It also goes on with a name in both. -/
theorem continuesName_of_yields (hc : a.Yields b c) (h : Mode.continuesName a c = true) :
    Mode.continuesName b c = true := by
  rw [Mode.continuesName, Bool.or_eq_true] at h ⊢
  exact h.imp_left fun hpart => (hc hpart).1

/-- A name in the first alphabet is one in the second, when they agree on its characters. -/
theorem isName_of_yields (hcs : ∀ c ∈ cs, a.Yields b c) (h : a.isName cs = true) :
    b.isName cs = true := by
  cases cs with
  | nil => contradiction
  | cons c rest =>
      obtain ⟨hc, hrest⟩ := List.forall_mem_cons.1 hcs
      rw [Alphabet.isName, Bool.and_eq_true, List.all_eq_true] at h ⊢
      exact ⟨isStart_of_yields hc h.1, fun d hd => (hrest d hd (h.2 d hd)).1⟩

/-- So is a name with a prefix. -/
theorem isQualifiedName_of_yields (hcs : ∀ c ∈ cs, a.Yields b c)
    (h : a.isQualifiedName cs = true) : b.isQualifiedName cs = true := by
  rw [Alphabet.isQualifiedName] at h ⊢
  split at h
  · exact isName_of_yields hcs h
  · next colon localPart hdrop =>
      rw [Bool.and_eq_true] at h
      refine Bool.and_eq_true_iff.2 ⟨isName_of_yields (fun c hc => hcs c ?_) h.1,
        isName_of_yields (fun c hc => hcs c ?_) h.2⟩
      · exact (List.takeWhile_sublist _).subset hc
      · exact (List.dropWhile_sublist _).subset (hdrop ▸ List.mem_cons_of_mem colon hc)

/-- So is the target of an instruction. -/
theorem isInstruction_of_yields (hcs : ∀ c ∈ cs, a.Yields b c) (h : isInstruction a cs = true) :
    isInstruction b cs = true := by
  simp only [isInstruction, Bool.and_eq_true] at h ⊢
  exact ⟨isName_of_yields (fun c hc => hcs c ((List.takeWhile_sublist _).subset hc)) h.1, h.2⟩

end Names

/-! ## Pieces -/

section Pieces

variable {cs : List Char}

/-- A reference means the same in both alphabets. -/
theorem referenced?_yields {piece : Piece} (hcs : ∀ c ∈ cs, a.Yields b c)
    (h : referenced? a cs = some piece) : referenced? b cs = some piece := by
  rw [referenced?.eq_def] at h ⊢
  split at h
  · exact h
  · exact h
  · split at h
    · next hname => rwa [if_pos (isName_of_yields hcs hname)]
    · contradiction

/-- What one run carries to another, step by step. -/
theorem foldlM_carries {σ α : Type} {f g : σ → α → Option σ} {p : σ → Prop} {q : α → Prop}
    (hstep : ∀ s c s', p s → q c → f s c = some s' → g s c = some s' ∧ p s') {as : List α}
    {s s' : σ} (hs : p s) (has : ∀ c ∈ as, q c) (h : as.foldlM f s = some s') :
    as.foldlM g s = some s' ∧ p s' := by
  induction as generalizing s with
  | nil =>
      obtain rfl := Option.some.inj h
      exact ⟨rfl, hs⟩
  | cons c as ih =>
      rw [List.foldlM_cons, Option.bind_eq_bind, Option.bind_eq_some_iff] at h
      obtain ⟨between, hfirst, hrest⟩ := h
      obtain ⟨hc, has⟩ := List.forall_mem_cons.1 has
      obtain ⟨hsecond, hbetween⟩ := hstep s c between hs hc hfirst
      rw [List.foldlM_cons, hsecond, Option.bind_eq_bind, Option.bind_some]
      exact ih hbetween has hrest

/-- Two runs are the same when each step is and what makes it the same is kept. -/
theorem foldlM_eq_of_invariant {σ α : Type} {f g : σ → α → Option σ} {p : σ → Prop}
    (heq : ∀ s c, p s → f s c = g s c) (hkeep : ∀ s c s', p s → f s c = some s' → p s')
    {as : List α} {s : σ} (hs : p s) : as.foldlM f s = as.foldlM g s := by
  induction as generalizing s with
  | nil => rfl
  | cons c as ih =>
      rw [List.foldlM_cons, List.foldlM_cons, ← heq s c hs]
      cases hfirst : f s c with
      | none => rfl
      | some between => exact ih (hkeep s c between hs hfirst)

/-- One more character of a value is cut alike, and an open reference holds only characters on which
the alphabets agree. -/
theorem Cutting.add_yields (value : Cutting) (c : Char) (value' : Cutting)
    (hvalue : ∀ body ∈ value.reference, ∀ d ∈ body, a.Yields b d) (hc : a.Yields b c)
    (h : value.add a c = some value') :
    value.add b c = some value' ∧ ∀ body ∈ value'.reference, ∀ d ∈ body, a.Yields b d := by
  rw [Cutting.add] at h ⊢
  -- outside of references all characters are alike; inside them a name is tested only at its end
  split at h
  · next hreference =>
      refine ⟨h, ?_⟩
      rw [← Option.some.inj h]
      split
      · intro body hbody
        obtain rfl := Option.some.inj hbody
        exact fun d hd => absurd hd List.not_mem_nil
      · exact hvalue
  · next body hreference =>
      have hbody := hvalue body hreference
      split at h
      · next hsemicolon =>
          simp only [Option.bind_eq_bind, Option.bind_eq_some_iff, Option.pure_def,
            Option.some.injEq] at h
          obtain ⟨piece, hpiece, rfl⟩ := h
          have hsecond := referenced?_yields (fun d hd => hbody d (List.mem_reverse.1 hd)) hpiece
          rw [if_pos hsemicolon, hsecond]
          exact ⟨rfl, fun _ hnone => absurd hnone (Option.not_mem_none _)⟩
      · next hsemicolon =>
          rw [if_neg hsemicolon]
          refine ⟨h, ?_⟩
          rw [← Option.some.inj h]
          intro body' hbody'
          obtain rfl := Option.some.inj hbody'
          exact List.forall_mem_cons.2 ⟨hc, hbody⟩

/-- A text is cut into the same pieces. -/
theorem pieces?_yields {pieces : List Piece} (hcs : ∀ c ∈ cs, a.Yields b c)
    (h : pieces? a cs = some pieces) : pieces? b cs = some pieces := by
  simp only [pieces?, Option.bind_eq_bind, Option.bind_eq_some_iff] at h ⊢
  obtain ⟨value, hvalue, h⟩ := h
  exact ⟨value, (foldlM_carries Cutting.add_yields
    (fun _ hnone => absurd hnone (Option.not_mem_none _)) hcs hvalue).1, h⟩

/-- A value is cut into the same pieces with an alphabet that has all its letters. -/
theorem attributePieces?_yields {pieces : List Piece} (hcs : ∀ c ∈ cs, a.Yields b c)
    (h : attributePieces? a cs = some pieces) : attributePieces? b cs = some pieces := by
  rw [attributePieces?] at h ⊢
  split at h
  · contradiction
  · next hbracket =>
      rw [if_neg hbracket]
      exact pieces?_yields hcs h

end Pieces

/-! ## Steps -/

/-- What a step of a first reader does, if it does not fail, a step of a second one does as well;
then its state is good, and so is what ends in the step. -/
def Carries {σ τ : Type} (goodState : σ → Prop) (goodPart : τ → Prop)
    (first second : Option (σ × List τ)) : Prop :=
  ∀ s ∈ first, second = some s ∧ goodState s.1 ∧ ∀ t ∈ s.2, goodPart t

section Steps

variable {σ τ : Type} {goodState : σ → Prop} {goodPart : τ → Prop} {state : σ}
  {first second : Option (σ × List τ)}

/-- A step that fails carries to any. -/
theorem carries_none : Carries goodState goodPart none second :=
  fun _ h => absurd h (Option.not_mem_none _)

/-- The same step, from which nothing else is known to be kept. -/
theorem Keeps.carries (h : Keeps goodState goodPart first) :
    Carries goodState goodPart first first :=
  fun s hs => ⟨hs, h s hs⟩

/-- A step that ends no part. -/
theorem carries_skip (hstate : goodState state) :
    Carries goodState goodPart (some (state, [])) (some (state, [])) :=
  (keeps_skip hstate).carries

/-- A step that ends one part. -/
theorem carries_single {part : τ} (hstate : goodState state) (hpart : goodPart part) :
    Carries goodState goodPart (some (state, [part])) (some (state, [part])) :=
  (keeps_single hstate hpart).carries

/-- A step after something that both readers find. -/
theorem carries_bind {α : Type} {found found' : Option α} {next next' : α → Option (σ × List τ)}
    (hfound : ∀ x, found = some x → found' = some x)
    (h : ∀ x, found = some x → Carries goodState goodPart (next x) (next' x)) :
    Carries goodState goodPart (found >>= next) (found' >>= next') := by
  intro s hs
  rw [Option.bind_eq_bind, Option.mem_def, Option.bind_eq_some_iff] at hs
  obtain ⟨x, hx, hs⟩ := hs
  rw [hfound x hx, Option.bind_eq_bind, Option.bind_some]
  exact h x hx s hs

/-- A step that is taken when a character goes on with what has been read, and else another one. -/
theorem carries_ite {goes goes' : Bool} {next other other' : Option (σ × List τ)}
    (hgoes : goes = true → goes' = true)
    (hnext : goes = true → Carries goodState goodPart next next)
    (hstop : goes' = true → other = none)
    (hother : Carries goodState goodPart other other') :
    Carries goodState goodPart (if goes then next else other) (if goes' then next else other') := by
  cases goes with
  | true => rw [hgoes rfl]; exact hnext rfl
  | false =>
      cases goes' with
      | true => rw [hstop rfl]; exact carries_none
      | false => exact hother

end Steps

/-! ## Document types -/

namespace DoctypeMode

/-- A mode that has kept only characters on which the alphabets agree, where that matters. -/
def Fits (a b : Alphabet) : DoctypeMode → Prop
  | .word read => ∀ c ∈ read, a.Yields b c ∧ Mode.continuesName a c = true
  | .literal _ read => ∀ c ∈ read, a.Yields b c
  | .instruction read => ∀ c ∈ read, a.Yields b c
  | _ => True

variable {c : Char} {read : List Char}

/-- What goes on with a name is neither a mark nor white space, so such a character is read in one
way only. -/
theorem ne_of_mem_doctypeMarks (h : Mode.continuesName a c = true) :
    (∀ d ∈ doctypeMarks, (c == d) = false) ∧ isSpace c = false :=
  ⟨fun _ hd => beq_eq_false_iff_ne.2 (ne_of_continues h hd), isSpace_eq_false_of_continuesName h⟩

/-- A character that begins something between the parts of a document type. -/
theorem start_carries (hc : a.Yields b c) :
    Carries (Fits a b) (DoctypeToken.HoldsOnly (a.Yields b)) (start a c) (start b c) := by
  have hnil : ∀ d ∈ ([] : List Char), a.Yields b d := fun _ hd => absurd hd List.not_mem_nil
  unfold start
  split
  case h_1 => exact carries_skip hnil
  case h_2 => exact carries_skip hnil
  case h_3 => exact carries_skip trivial
  case h_4 => exact carries_skip trivial
  case h_5 => exact carries_skip trivial
  case h_7 => exact carries_skip trivial
  case h_13 =>
      split
      · exact carries_skip trivial
      · refine carries_ite (continuesName_of_yields hc) (fun h => carries_skip ?_) (fun _ => rfl)
          carries_none
        exact List.forall_mem_singleton.2 ⟨hc, h⟩
  all_goals exact carries_single trivial trivial

/-- A character that ends one part and begins the next one. -/
theorem next_carries {ended : DoctypeToken} (hended : ended.HoldsOnly (a.Yields b))
    (hc : a.Yields b c) : Carries (Fits a b) (DoctypeToken.HoldsOnly (a.Yields b))
      (next a ended c) (next b ended c) := by
  refine carries_bind (fun s hs => (start_carries hc s hs).1) fun s hs => ?_
  obtain ⟨-, hmode, htokens⟩ := start_carries hc s hs
  intro s' hs'
  obtain rfl := Option.some.inj hs'
  exact ⟨rfl, hmode, List.forall_mem_cons.2 ⟨hended, htokens⟩⟩

/-- A word is the same part in both alphabets. -/
theorem ofWord_eq {cs : List Char}
    (hcs : ∀ c ∈ cs, a.Yields b c ∧ Mode.continuesName a c = true) :
    DoctypeToken.ofWord a cs = DoctypeToken.ofWord b cs := by
  have hstarts : cs.head?.any a.isStart = cs.head?.any b.isStart := by
    cases cs with
    | nil => rfl
    | cons c rest =>
        obtain ⟨hc, hcontinues⟩ := hcs c List.mem_cons_self
        rw [Mode.continuesName, Bool.or_eq_true, beq_iff_eq] at hcontinues
        rcases hcontinues with hpart | rfl
        · exact (hc hpart).2
        · have hcolon (alphabet : Alphabet) : alphabet.isStart ':' = false := by
            rw [← Bool.not_eq_true]
            exact fun h => ne_of_isPart (isPart_of_isStart h) List.mem_cons_self rfl
          exact (hcolon a).trans (hcolon b).symm
  simp only [DoctypeToken.ofWord, hstarts]

theorem ofWord_holdsOnly (p : Char → Prop) (cs : List Char) :
    (DoctypeToken.ofWord a cs).HoldsOnly p := by
  simp only [DoctypeToken.ofWord]
  split
  · trivial
  · split
    · trivial
    · trivial

/-- A character after a word. -/
theorem stepWord_carries (hread : ∀ c ∈ read, a.Yields b c ∧ Mode.continuesName a c = true)
    (hc : a.Yields b c) : Carries (Fits a b) (DoctypeToken.HoldsOnly (a.Yields b))
      (stepWord a read c) (stepWord b read c) := by
  have hword : DoctypeToken.ofWord a read.reverse = DoctypeToken.ofWord b read.reverse :=
    ofWord_eq fun d hd => hread d (List.mem_reverse.1 hd)
  simp only [stepWord]
  rw [← hword]
  refine carries_ite (continuesName_of_yields hc) (fun h => carries_skip ?_) (fun h => ?_) ?_
  · exact List.forall_mem_cons.2 ⟨⟨hc, h⟩, hread⟩
  · obtain ⟨hmarks, hspace⟩ := ne_of_mem_doctypeMarks h
    simp [doctypeMarks] at hmarks
    simp [hmarks, hspace]
  · split
    · split
      · exact carries_single trivial trivial
      · exact carries_single trivial trivial
      · exact carries_none
    · split
      · exact next_carries (ofWord_holdsOnly _ _) hc
      · exact carries_none

/-- A character after a number sign. -/
theorem stepReserved_carries (hc : a.Yields b c) :
    Carries (Fits a b) (DoctypeToken.HoldsOnly (a.Yields b))
      (stepReserved a read c) (stepReserved b read c) := by
  rw [stepReserved, stepReserved]
  split
  · exact carries_ite (isStart_of_yields hc) (fun _ => carries_skip trivial) (fun _ => rfl)
      carries_none
  · refine carries_ite (fun h => (hc h).1) (fun _ => carries_skip trivial) (fun h => ?_) ?_
    · obtain ⟨hmarks, hspace⟩ := ne_of_mem_doctypeMarks (continuesName_of_isPart h)
      simp [doctypeMarks] at hmarks
      simp [hmarks, hspace]
    · split
      · exact next_carries trivial hc
      · exact carries_none

/-- A character after a percent sign. -/
theorem stepPercent_carries (hc : a.Yields b c) :
    Carries (Fits a b) (DoctypeToken.HoldsOnly (a.Yields b))
      (stepPercent a read c) (stepPercent b read c) := by
  rw [stepPercent, stepPercent]
  split
  · split
    · exact next_carries trivial hc
    · exact carries_ite (isStart_of_yields hc) (fun _ => carries_skip trivial) (fun _ => rfl)
        carries_none
  · split
    · exact carries_single trivial trivial
    · exact carries_ite (fun h => (hc h).1) (fun _ => carries_skip trivial) (fun _ => rfl)
        carries_none

/-- A step on a character on which the alphabets agree. -/
theorem step_carries {mode : DoctypeMode} (h : mode.Fits a b) (hc : a.Yields b c) :
    Carries (Fits a b) (DoctypeToken.HoldsOnly (a.Yields b)) (mode.step a c) (mode.step b c) := by
  cases mode with
  | between => exact start_carries hc
  | word read => exact stepWord_carries h hc
  | reserved read => exact stepReserved_carries hc
  | literal quote read =>
      rw [step, step]
      split
      · exact carries_single trivial fun d hd => h d (List.mem_reverse.1 hd)
      · exact carries_skip (List.forall_mem_cons.2 ⟨hc, h⟩)
  | afterLiteral =>
      rw [step, step]
      split
      · exact start_carries hc
      · exact carries_none
  | afterParen =>
      rw [step, step]
      split
      · exact carries_single trivial trivial
      · split
        · exact next_carries trivial hc
        · exact carries_none
  | percent read => exact stepPercent_carries hc
  | opening =>
      rw [step, step]
      split
      · exact carries_skip trivial
      · split
        · exact carries_skip fun _ hd => absurd hd List.not_mem_nil
        · exact carries_none
  | keyword read =>
      rw [step, step]
      split
      · exact carries_skip trivial
      · split
        · exact carries_single trivial trivial
        · split
          · exact carries_skip trivial
          · exact carries_none
  | commentOpening =>
      rw [step, step]
      split
      · exact carries_skip trivial
      · exact carries_none
  | comment hyphens =>
      rw [step_comment, step_comment]
      split
      · exact carries_skip trivial
      · split
        · exact carries_single trivial trivial
        · exact carries_none
  | instruction read =>
      rw [step, step]
      split
      · refine carries_ite (isInstruction_of_yields fun d hd => h d ?_)
          (fun _ => carries_single trivial trivial) (fun _ => rfl) carries_none
        exact List.mem_of_mem_drop (List.mem_reverse.1 hd)
      · exact carries_skip (List.forall_mem_cons.2 ⟨hc, h⟩)

end DoctypeMode

/-! ## Tokens -/

/-- A token whose literals hold only characters on which the alphabets agree. -/
def Token.Fits (a b : Alphabet) : Token → Prop
  | .doctype parts => ∀ t ∈ parts, t.HoldsOnly (a.Yields b)
  | _ => True

namespace Mode

/-- A mode that has kept only characters on which the alphabets agree, where that matters. -/
def Fits (a b : Alphabet) : Mode → Prop
  | .reference read => ∀ c ∈ read, a.Yields b c
  | .instruction read => ∀ c ∈ read, a.Yields b c
  | .closing read => ∀ c ∈ read, a.Yields b c
  | .openName read => ∀ c ∈ read, a.Yields b c
  | .attributeName _ read => ∀ c ∈ read, a.Yields b c
  | .quoted _ _ _ read => ∀ c ∈ read, a.Yields b c
  | .doctype _ mode parts => mode.Fits a b ∧ ∀ t ∈ parts, t.HoldsOnly (a.Yields b)
  | _ => True

variable {c : Char}

/-- Text is read without a look at the alphabet. -/
theorem stepText_carries (brackets : Nat) :
    Carries (Fits a b) (Token.Fits a b) (stepText brackets c) (stepText brackets c) := by
  have hnil : ∀ d ∈ ([] : List Char), a.Yields b d := fun _ hd => absurd hd List.not_mem_nil
  unfold stepText
  split
  · exact carries_skip trivial
  · exact carries_skip hnil
  · exact carries_single trivial trivial
  · split
    · exact carries_none
    · exact carries_single trivial trivial
  · exact carries_single trivial trivial

/-- A character between the attributes of a tag. -/
theorem stepTag_carries {tag : OpenTag} (spaced : Bool) (hc : a.Yields b c) :
    Carries (Fits a b) (Token.Fits a b) (stepTag a tag spaced c) (stepTag b tag spaced c) := by
  rw [stepTag, stepTag]
  split
  · exact carries_skip trivial
  · split
    · exact carries_single trivial trivial
    · split
      · exact carries_skip trivial
      · refine carries_ite (fun h => ?_)
          (fun _ => carries_skip (List.forall_mem_singleton.2 hc)) (fun _ => rfl) carries_none
        rw [Bool.and_eq_true] at h ⊢
        exact h.imp_right (isStart_of_yields hc)

/-- What an exclamation mark begins is found without a look at the alphabet. -/
theorem stepMarked_carries (read : List Char) :
    Carries (Fits a b) (Token.Fits a b) (stepMarked read c) (stepMarked read c) := by
  rw [stepMarked]
  split
  · exact carries_skip trivial
  · split
    · exact carries_skip trivial
    · split
      · split
        · exact carries_skip ⟨trivial, fun _ h => absurd h List.not_mem_nil⟩
        · exact carries_none
      · exact carries_skip trivial

/-- A character of a document type, which may end a part of it or all of it. -/
theorem stepDoctype_carries {inside : Bool} {mode : DoctypeMode} {parts : List DoctypeToken}
    (hmode : mode.Fits a b) (hparts : ∀ t ∈ parts, t.HoldsOnly (a.Yields b)) (hc : a.Yields b c) :
    Carries (Fits a b) (Token.Fits a b) (stepDoctype a inside mode parts c)
      (stepDoctype b inside mode parts c) := by
  rw [stepDoctype, stepDoctype]
  refine carries_bind (fun s hs => (DoctypeMode.step_carries hmode hc s hs).1) ?_
  rintro ⟨mode', ended⟩ hs
  obtain ⟨-, hmode', hended⟩ := DoctypeMode.step_carries hmode hc _ hs
  have hall : ∀ t ∈ ended.reverse ++ parts, t.HoldsOnly (a.Yields b) :=
    List.forall_mem_append.2 ⟨fun t ht => hended t (List.mem_reverse.1 ht), hparts⟩
  simp only [Option.pure_def]
  split
  · split
    · exact carries_skip ⟨hmode', hall⟩
    · exact carries_single trivial fun t ht =>
        hall t (List.mem_of_mem_drop (List.mem_reverse.1 ht))
  · exact carries_skip ⟨hmode', hall⟩
  · exact carries_skip ⟨hmode', hall⟩
  · exact carries_skip ⟨hmode', hall⟩

/-- A character that goes on with a name stands neither between attributes nor after the name of
one. -/
theorem marks_of_continuesName {alphabet : Alphabet} (h : continuesName alphabet c = true) :
    isSpace c = false ∧ (c == '>') = false ∧ (c == '/') = false ∧ (c == '=') = false :=
  ⟨isSpace_eq_false_of_continuesName h,
    beq_eq_false_iff_ne.2 (ne_of_continuesName h (by decide)),
    beq_eq_false_iff_ne.2 (ne_of_continuesName h (by decide)),
    beq_eq_false_iff_ne.2 (ne_of_continuesName h (by decide))⟩

/-- A character after the name of a start tag, or in it. -/
theorem openName_carries {read : List Char} (hread : ∀ d ∈ read, a.Yields b d)
    (hc : a.Yields b c) :
    Carries (Fits a b) (Token.Fits a b) (step a (.openName read) c)
      (step b (.openName read) c) := by
  rw [step, step]
  refine carries_ite (continuesName_of_yields hc)
    (fun _ => carries_skip (List.forall_mem_cons.2 ⟨hc, hread⟩)) (fun h => ?_) ?_
  · -- right after its name a tag goes on with white space, or it ends
    obtain ⟨hspace, hend, hslash, -⟩ := marks_of_continuesName h
    simp [named?, stepTag, hspace, hend, hslash]
  · refine carries_bind (fun tag htag => ?_) fun tag _ => stepTag_carries false hc
    rw [named?] at htag ⊢
    split at htag
    · next hname =>
        rwa [if_pos (isQualifiedName_of_yields (fun d hd => hread d (List.mem_reverse.1 hd)) hname)]
    · contradiction

/-- A character after the name of an attribute, or in it. -/
theorem attributeName_carries {tag : OpenTag} {read : List Char}
    (hread : ∀ d ∈ read, a.Yields b d) (hc : a.Yields b c) :
    Carries (Fits a b) (Token.Fits a b) (step a (.attributeName tag read) c)
      (step b (.attributeName tag read) c) := by
  rw [step, step]
  refine carries_ite (continuesName_of_yields hc)
    (fun _ => carries_skip (List.forall_mem_cons.2 ⟨hc, hread⟩)) (fun h => ?_) ?_
  · obtain ⟨hspace, -, -, hequals⟩ := marks_of_continuesName h
    simp [hspace, hequals]
  · refine carries_ite (isQualifiedName_of_yields fun d hd => hread d (List.mem_reverse.1 hd))
      (fun _ => ?_) (fun _ => ?_) carries_none
    · split
      · exact carries_skip trivial
      · split
        · exact carries_skip trivial
        · exact carries_none
    · rfl

/-- A step on a character on which the alphabets agree. -/
theorem step_carries {mode : Mode} (h : mode.Fits a b) (hc : a.Yields b c) :
    Carries (Fits a b) (Token.Fits a b) (mode.step a c) (mode.step b c) := by
  have hnil : ∀ d ∈ ([] : List Char), a.Yields b d := fun _ hd => absurd hd List.not_mem_nil
  cases mode with
  | text brackets => exact stepText_carries brackets
  | reference read =>
      rw [step, step]
      split
      · refine carries_bind
          (fun piece => referenced?_yields fun d hd => h d (List.mem_reverse.1 hd)) ?_
        intro piece _
        refine carries_single trivial ?_
        cases piece <;> trivial
      · exact carries_skip (List.forall_mem_cons.2 ⟨hc, h⟩)
  | opening =>
      rw [step, step]
      split
      · exact carries_skip trivial
      · split
        · exact carries_skip hnil
        · split
          · exact carries_skip hnil
          · exact carries_ite (isStart_of_yields hc)
              (fun _ => carries_skip (List.forall_mem_singleton.2 hc)) (fun _ => rfl) carries_none
  | marked read => exact stepMarked_carries read
  | comment hyphens =>
      rw [step_comment, step_comment]
      split
      · exact carries_skip trivial
      · split
        · exact carries_skip trivial
        · exact carries_none
  | instruction read =>
      rw [step, step]
      split
      · refine carries_ite (isInstruction_of_yields fun d hd => h d ?_)
          (fun _ => carries_skip trivial) (fun _ => rfl) carries_none
        exact List.mem_of_mem_drop (List.mem_reverse.1 hd)
      · exact carries_skip (List.forall_mem_cons.2 ⟨hc, h⟩)
  | plain read =>
      rw [step, step]
      split
      · exact carries_single trivial trivial
      · exact carries_skip trivial
  | closing read =>
      rw [step, step]
      split
      · refine carries_ite (isQualifiedName_of_yields fun d hd => h d ?_)
          (fun _ => carries_single trivial trivial) (fun _ => rfl) carries_none
        have hspace := (List.dropWhile_sublist isSpace).subset (List.mem_reverse.1 hd)
        rwa [List.reverse_reverse] at hspace
      · exact carries_skip (List.forall_mem_cons.2 ⟨hc, h⟩)
  | openName read => exact openName_carries h hc
  | inTag tag spaced => exact stepTag_carries spaced hc
  | slash tag =>
      rw [step, step]
      split
      · exact carries_single trivial trivial
      · exact carries_none
  | attributeName tag read => exact attributeName_carries h hc
  | afterName tag name =>
      rw [step, step]
      split
      · exact carries_skip trivial
      · split
        · exact carries_skip trivial
        · exact carries_none
  | beforeValue tag name =>
      rw [step, step]
      split
      · exact carries_skip trivial
      · split
        · exact carries_skip hnil
        · exact carries_none
  | quoted tag name quote read =>
      rw [step, step]
      split
      · exact carries_bind
          (fun pieces => attributePieces?_yields fun d hd => h d (List.mem_reverse.1 hd))
          fun pieces _ => carries_skip trivial
      · exact carries_skip (List.forall_mem_cons.2 ⟨hc, h⟩)
  | doctype inside mode parts => exact stepDoctype_carries h.1 h.2 hc

end Mode

/-- The tokens of a text whose characters are taken alike. -/
theorem Token.ofChars?_carries {cs : List Char} {tokens : List Token}
    (hcs : ∀ c ∈ cs, a.Yields b c) (h : Token.ofChars? a cs = some tokens) :
    Token.ofChars? b cs = some tokens ∧ ∀ t ∈ tokens, t.Fits a b := by
  -- one letter leads to the same mode in both alphabets and leaves only tokens fit for both
  have hstep : ∀ (s : Mode × List Token) (c : Char) (s' : Mode × List Token),
      (s.1.Fits a b ∧ ∀ t ∈ s.2, t.Fits a b) → a.Yields b c → Token.read a s c = some s' →
      Token.read b s c = some s' ∧ s'.1.Fits a b ∧ ∀ t ∈ s'.2, t.Fits a b := by
    intro s c s' hs hc hread
    simp only [Token.read, Option.bind_eq_bind, Option.bind_eq_some_iff, Option.pure_def,
      Option.some.injEq] at hread ⊢
    obtain ⟨ended, hended, rfl⟩ := hread
    obtain ⟨hsecond, hmode, htokens⟩ := Mode.step_carries hs.1 hc ended hended
    exact ⟨⟨ended, hsecond, rfl⟩, hmode,
      List.forall_mem_append.2 ⟨fun t ht => htokens t (List.mem_reverse.1 ht), hs.2⟩⟩
  simp only [Token.ofChars?, Option.bind_eq_bind, Option.bind_eq_some_iff] at h ⊢
  obtain ⟨s, hs, h⟩ := h
  obtain ⟨hsecond, hend⟩ := foldlM_carries (s := (Mode.text 0, [])) hstep
    ⟨trivial, fun _ ht => absurd ht List.not_mem_nil⟩ hcs hs
  refine ⟨⟨s, hsecond, h⟩, ?_⟩
  split at h
  · rw [← Option.some.inj h]
    exact fun t ht => hend.2 t (List.mem_reverse.1 ht)
  · contradiction

/-! ## Definitions -/

namespace Definitions

/-- The text of an entity is the same in both alphabets. -/
theorem entityText?_yields {cs text : List Char} (hcs : ∀ c ∈ cs, a.Yields b c)
    (h : entityText? a cs = some text) : entityText? b cs = some text := by
  simp only [entityText?, Option.bind_eq_bind, Option.bind_eq_some_iff] at h ⊢
  obtain ⟨pieces, hpieces, h⟩ := h
  exact ⟨pieces, pieces?_yields hcs hpieces, h⟩

/-- A rule for an attribute is added with the same value. -/
theorem addRule_yields {element : String} (d : Definitions) (rule : AttributeRule)
    (d' : Definitions) (hrule : rule.HoldsOnly (a.Yields b))
    (h : addRule a element d rule = some d') : addRule b element d rule = some d' := by
  rw [addRule] at h ⊢
  split at h
  · exact h
  · next cs hcs =>
      simp only [Option.bind_eq_bind, Option.bind_eq_some_iff] at h ⊢
      obtain ⟨pieces, hpieces, h⟩ := h
      exact ⟨pieces, attributePieces?_yields (hrule cs hcs) hpieces, h⟩

/-- A declaration defines the same. -/
theorem declare_yields (s : Progress) (declared : Declared) (s' : Progress)
    (hdeclared : declared.HoldsOnly (a.Yields b)) (h : declare a s declared = some s') :
    declare b s declared = some s' := by
  unfold declare at h ⊢
  split at h
  · next hcounts => rwa [if_pos hcounts]
  · next hcounts =>
      rw [if_neg hcounts]
      -- one case for each sort of declaration; only names and texts depend on the alphabet
      split at h
      · simp only [Option.bind_eq_bind, Option.bind_eq_some_iff] at h ⊢
        obtain ⟨text, htext, h⟩ := h
        exact ⟨text, entityText?_yields hdeclared htext, h⟩
      · exact h
      · simp only [Option.bind_eq_bind, Option.bind_eq_some_iff] at h ⊢
        obtain ⟨text, htext, h⟩ := h
        exact ⟨text, entityText?_yields hdeclared htext, h⟩
      · exact h
      · exact h
      · exact h
      · simp only [Option.bind_eq_bind, Option.bind_eq_some_iff] at h ⊢
        obtain ⟨added, hadded, h⟩ := h
        have hsecond := foldlM_carries (p := fun _ => True)
          (fun d rule d' _ hrule hstep => ⟨addRule_yields d rule d' hrule hstep, trivial⟩)
          trivial hdeclared hadded
        exact ⟨added, hsecond.1, h⟩

/-- The definitions of a document type whose literals are taken alike. -/
theorem ofDoctype_yields {d : Definitions} {doctype : Doctype} {defined : Definitions}
    (hdoctype : ∀ declared ∈ doctype.declared, declared.HoldsOnly (a.Yields b))
    (h : d.ofDoctype a doctype = some defined) : d.ofDoctype b doctype = some defined := by
  simp only [ofDoctype, Option.bind_eq_bind, Option.bind_eq_some_iff] at h ⊢
  obtain ⟨s, hs, h⟩ := h
  have hsecond := foldlM_carries (p := fun _ => True)
    (fun s declared s' _ hdeclared hstep => ⟨declare_yields s declared s' hdeclared hstep, trivial⟩)
    trivial hdoctype hs
  exact ⟨s, hsecond.1, h⟩

end Definitions

/-! ## Documents -/

namespace Reader

/-- A reader that has started its root element: it is open, or it has been read. -/
def Started (r : Reader) : Prop :=
  r.parents ≠ [] ∨ r.root ≠ none

/-- Text goes into an element that is open. -/
theorem started_addText {r r' : Reader} {cs : List Char} (h : r.addText cs = some r') :
    r'.Started := by
  obtain ⟨e, outer, -, rfl⟩ := addText_cases h
  exact .inl (List.cons_ne_nil _ _)

/-- A finished element is the root, or it goes into one that is open. -/
theorem started_addNode {r r' : Reader} {node : Node ExpandedName}
    (h : r.addNode node = some r') : r'.Started := by
  obtain ⟨-, -, rfl⟩ | ⟨e, outer, -, rfl⟩ := addNode_cases h
  · exact .inr (Option.some_ne_none _)
  · exact .inl (List.cons_ne_nil _ _)

/-- A reader that has taken a start tag has started. -/
theorem started_startTag {r r' : Reader} {tag : String} {given : List (String × List Piece)}
    {isEmpty : Bool} (h : r.startTag tag given isEmpty = some r') : r'.Started := by
  obtain ⟨-, e, -, ⟨-, h⟩ | ⟨-, rfl⟩⟩ := startTag_cases h
  · exact started_addNode h
  · exact .inl (List.cons_ne_nil _ _)

/-- A reader that has taken an end tag has started. -/
theorem started_endTag {r r' : Reader} {tag : String} (h : r.endTag tag = some r') :
    r'.Started := by
  obtain ⟨e, outer, -, -, -, h⟩ := endTag_cases h
  exact started_addNode h

/-- A document type is not read once the root element has started. -/
theorem doctype_of_started {r : Reader} (hr : r.Started) (parts : List DoctypeToken) :
    r.doctype a parts = none := by
  rw [doctype, if_pos]
  rcases hr with hparents | hroot
  · simp [hparents]
  · simp [Option.isSome_iff_ne_none.2 hroot]

/-- The root element stays started. -/
theorem started_add {addAll : List Token → Reader → Option Reader}
    (haddAll : ∀ tokens r r', r.Started → addAll tokens r = some r' → r'.Started)
    (r : Reader) (t : Token) (r' : Reader) (hr : r.Started) (h : add a addAll r t = some r') :
    r'.Started := by
  cases t with
  | char c =>
      obtain ⟨-, -, rfl⟩ | h := addChar_cases h
      · exact hr
      · exact started_addText h
  | numbered c => exact started_addText h
  | plain content => exact started_addText h
  | entity name =>
      obtain ⟨c, -, h⟩ | ⟨tokens, value?, -, -, h⟩ := entity_cases h
      · exact started_addText h
      · obtain ⟨inner, hinner, -, rfl⟩ := within_cases h
        exact haddAll tokens { r with floor := r.parents.length } inner hr hinner
  | startTag name attributes isEmpty => exact started_startTag h
  | endTag name => exact started_endTag h
  | doctype parts =>
      rw [add, doctype_of_started hr] at h
      contradiction

section Alike

variable {addAll addAll' : List Token → Reader → Option Reader} {r : Reader}

/-- The tokens of an entity are read alike when the functions that read them agree once the root
element has started. -/
theorem within_eq_of_started
    (haddAll : ∀ tokens r, r.Started → addAll tokens r = addAll' tokens r) (hr : r.Started)
    (tokens : List Token) : r.within addAll tokens = r.within addAll' tokens := by
  have hinner : Started { r with floor := r.parents.length } := hr
  rw [within, within, haddAll tokens _ hinner]

/-- So is a reference, which expands an entity only inside the root element. -/
theorem entity_eq_of_started
    (haddAll : ∀ tokens r, r.Started → addAll tokens r = addAll' tokens r) (name : String) :
    r.entity addAll name = r.entity addAll' name := by
  rw [entity, entity]
  split
  · rfl
  · next tokens value? _ _ =>
      split
      · rfl
      · next hparents =>
          exact within_eq_of_started haddAll (.inl (by simpa using hparents)) tokens
  · rfl

/-- The letters of names do not matter to tokens once the root element has started. -/
theorem add_eq_of_started
    (haddAll : ∀ tokens r, r.Started → addAll tokens r = addAll' tokens r) (hr : r.Started)
    (t : Token) : add a addAll r t = add b addAll' r t := by
  cases t with
  | entity name => exact entity_eq_of_started haddAll name
  | doctype parts => rw [add, add, doctype_of_started hr, doctype_of_started hr]
  | _ => rfl

end Alike

/-- Nested entities leave the root element started. -/
theorem started_addNested (depth : ℕ) (tokens : List Token) (r r' : Reader) (hr : r.Started)
    (h : addNested a depth tokens r = some r') : r'.Started :=
  addNested_keeps (fun _ => started_add) depth tokens r r' hr h

/-- Nor do they matter to the tokens of an entity inside it. -/
theorem addNested_eq_of_started (depth : ℕ) {tokens : List Token} {r : Reader} (hr : r.Started) :
    addNested a depth tokens r = addNested b depth tokens r := by
  induction depth generalizing tokens r with
  | zero => rfl
  | succ depth ih =>
      exact foldlM_eq_of_invariant (fun r t hr => add_eq_of_started (fun _ _ hr => ih hr) hr t)
        (started_add (started_addNested depth)) hr

/-- Once a reader has started, the alphabet makes no difference to the text of entities. -/
theorem addEntity_eq_of_started {tokens : List Token} {r : Reader} (hr : r.Started) :
    addEntity a tokens r = addEntity b tokens r := by
  rw [addEntity, addEntity]
  exact addNested_eq_of_started r.definitions.entities.length hr

/-- One more token of a document whose literals are taken alike. -/
theorem add_yields (r : Reader) (t : Token) (r' : Reader) (ht : t.Fits a b)
    (h : add a (addEntity a) r t = some r') : add b (addEntity b) r t = some r' := by
  cases t with
  | entity name =>
      rw [add] at h ⊢
      rw [← h]
      exact entity_eq_of_started (fun _ _ => addEntity_eq_of_started) name
  | doctype parts =>
      rw [add, doctype] at h ⊢
      split at h
      · contradiction
      · next hfirst =>
        rw [if_neg hfirst]
        simp only [Option.bind_eq_bind, Option.bind_eq_some_iff] at h ⊢
        obtain ⟨doctype, hdoctype, defined, hdefined, h⟩ := h
        exact ⟨doctype, hdoctype, defined, Definitions.ofDoctype_yields
          (Doctype.ofTokens?_holdsOnly ht hdoctype) hdefined, h⟩
  | _ =>
      rw [add] at h ⊢
      exact h

end Reader

/-- What is read with one alphabet is read alike with another one that agrees with it on the
characters of the document. -/
theorem rootOfChars?_yields {d : Definitions} {cs : List Char} {root : Node ExpandedName}
    (hcs : ∀ c ∈ cs, a.Yields b c) (h : rootOfChars? a d cs = some root) :
    rootOfChars? b d cs = some root := by
  have hunified : ∀ c ∈ unifyLineEnds cs, a.Yields b c := by
    intro c hc
    rw [unifyLineEnds_eq] at hc
    rcases mem_unifyFrom hc with hc | rfl
    · exact hcs c hc
    · intro hpart
      exact absurd (isSpace_eq_false_of_continuesName (continuesName_of_isPart hpart)) (by decide)
  rw [rootOfChars?] at h ⊢
  split at h
  · next hallowed =>
      rw [if_pos hallowed]
      simp only [rootOf?, Option.bind_eq_bind, Option.bind_eq_some_iff] at h ⊢
      obtain ⟨tokens, htokens, r, hr, hroot⟩ := h
      obtain ⟨hsecond, hfits⟩ := Token.ofChars?_carries hunified htokens
      have hreader := foldlM_carries (p := fun _ => True)
        (fun r t r' _ ht hstep => ⟨Reader.add_yields r t r' ht hstep, trivial⟩) trivial hfits hr
      exact ⟨tokens, hsecond, r, hreader.1, hroot⟩
  · contradiction

end RackElevation.Markup
