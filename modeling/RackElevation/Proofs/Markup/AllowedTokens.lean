import RackElevation.Proofs.Markup.Names

/-!
# Allowed characters in tokens

Tokens hold no characters that a document may not hold: characters are taken from the text, in which
all are allowed, or given by a number, which is checked when it is read.

Each step of a reader keeps its mode and the tokens that end in it free of other characters; a whole
run keeps them so by induction.
-/

namespace RackElevation.Markup

/-- Whether a document may hold all of some characters. -/
def AllowedChars (cs : List Char) : Prop :=
  ∀ c ∈ cs, isAllowed c = true

/-- What one step keeps is kept by a run over steps that may be taken. -/
theorem foldlM_invariant {σ α : Type} {f : σ → α → Option σ} {p : σ → Prop} {q : α → Prop}
    (hstep : ∀ s a s', p s → q a → f s a = some s' → p s') {as : List α} {s s' : σ} (hs : p s)
    (has : ∀ a ∈ as, q a) (h : as.foldlM f s = some s') : p s' := by
  induction as generalizing s with
  | nil =>
      obtain rfl := Option.some.inj h
      exact hs
  | cons a as ih =>
      rw [List.foldlM_cons, Option.bind_eq_bind, Option.bind_eq_some_iff] at h
      obtain ⟨between, hfirst, hrest⟩ := h
      rw [List.forall_mem_cons] at has
      exact ih (hstep s a between hs has.1 hfirst) has.2 hrest

namespace AllowedChars

variable {c : Char} {cs cs' : List Char}

theorem nil : AllowedChars [] :=
  fun _ h => absurd h List.not_mem_nil

/-- An allowed character may stand before allowed ones. -/
theorem cons (hc : isAllowed c = true) (h : AllowedChars cs) : AllowedChars (c :: cs) :=
  List.forall_mem_cons.2 ⟨hc, h⟩

/-- Allowed characters may stand behind each other. -/
theorem append (h : AllowedChars cs) (h' : AllowedChars cs') : AllowedChars (cs ++ cs') :=
  List.forall_mem_append.2 ⟨h, h'⟩

/-- Some of the characters are allowed when all are. -/
theorem mono (h : AllowedChars cs) (hsub : ∀ c ∈ cs', c ∈ cs) : AllowedChars cs' :=
  fun c hc => h c (hsub c hc)

theorem reverse (h : AllowedChars cs) : AllowedChars cs.reverse :=
  h.mono fun _ => List.mem_reverse.1

/-- Allowed characters make an allowed text. -/
theorem ofList (h : AllowedChars cs) : IsAllowedText (String.ofList cs) := by
  rw [IsAllowedText, String.toList_ofList]
  exact h

end AllowedChars

/-! ## Pieces -/

/-- A piece that holds only allowed characters. -/
def Piece.Allowed : Piece → Prop
  | .char c => isAllowed c = true
  | .numbered c => isAllowed c = true
  | .entity name => IsAllowedText name

/-- A character is given by its number only if it is allowed. -/
theorem isAllowed_of_charOfNumber? {n : Nat} {c : Char} (h : charOfNumber? n = some c) :
    isAllowed c = true := by
  rw [charOfNumber?] at h
  split at h
  · next hn =>
      rw [Bool.and_eq_true] at hn
      rw [← Option.some.inj h]
      exact hn.2
  · contradiction

/-- All characters of a name are allowed. -/
theorem allowedChars_of_isName {alphabet : Alphabet} {cs : List Char}
    (h : alphabet.isName cs = true) : AllowedChars cs :=
  fun _ hc => isAllowed_of_continuesName (continuesName_of_mem (isQualifiedName_of_isName h) hc)

/-- A reference to a number stands for an allowed character. -/
theorem numbered_allowed {n? : Option Nat} {piece : Piece}
    (h : (n?.bind charOfNumber?).map .numbered = some piece) : piece.Allowed := by
  obtain ⟨c, hc, rfl⟩ := Option.map_eq_some_iff.1 h
  obtain ⟨n, -, hc⟩ := Option.bind_eq_some_iff.1 hc
  exact isAllowed_of_charOfNumber? hc

/-- What a reference stands for is allowed. -/
theorem referenced?_allowed {alphabet : Alphabet} {body : List Char} {piece : Piece}
    (h : referenced? alphabet body = some piece) : piece.Allowed := by
  rw [referenced?.eq_def] at h
  split at h
  · exact numbered_allowed h
  · exact numbered_allowed h
  · split at h
    · next hname =>
        rw [← Option.some.inj h]
        exact (allowedChars_of_isName hname).ofList
    · contradiction

/-- One more character of a value leaves its pieces allowed. -/
theorem add_allowed {alphabet : Alphabet} (value : Cutting) (c : Char) (value' : Cutting)
    (hvalue : ∀ p ∈ value.pieces, p.Allowed) (hc : isAllowed c = true)
    (h : value.add alphabet c = some value') : ∀ p ∈ value'.pieces, p.Allowed := by
  rw [Cutting.add] at h
  split at h
  · rw [← Option.some.inj h]
    split
    · exact hvalue
    · exact List.forall_mem_cons.2 ⟨hc, hvalue⟩
  · split at h
    · simp only [Option.bind_eq_bind, Option.bind_eq_some_iff, Option.pure_def,
        Option.some.injEq] at h
      obtain ⟨piece, hpiece, rfl⟩ := h
      exact List.forall_mem_cons.2 ⟨referenced?_allowed hpiece, hvalue⟩
    · rw [← Option.some.inj h]
      exact hvalue

/-- The pieces of a value. -/
theorem pieces?_allowed {alphabet : Alphabet} {cs : List Char} {pieces : List Piece}
    (hcs : AllowedChars cs) (h : pieces? alphabet cs = some pieces) : ∀ p ∈ pieces, p.Allowed := by
  simp only [pieces?, Option.bind_eq_bind, Option.bind_eq_some_iff] at h
  obtain ⟨value, hvalue, h⟩ := h
  split at h
  · contradiction
  · have hpieces : ∀ p ∈ value.pieces, p.Allowed :=
      foldlM_invariant add_allowed (fun _ hp => absurd hp List.not_mem_nil) hcs hvalue
    rw [← Option.some.inj h]
    exact fun p hp => hpieces p (List.mem_reverse.1 hp)

/-- An allowed value is cut into allowed pieces. -/
theorem attributePieces?_allowed {alphabet : Alphabet} {cs : List Char} {pieces : List Piece}
    (hcs : AllowedChars cs) (h : attributePieces? alphabet cs = some pieces) :
    ∀ p ∈ pieces, p.Allowed := by
  rw [attributePieces?] at h
  split at h
  · contradiction
  · exact pieces?_allowed hcs h

/-! ## Steps -/

/-- The outcome of a step: if there is one, its state is good, and so is what ends in the step. -/
def Keeps {σ τ : Type} (goodState : σ → Prop) (goodPart : τ → Prop)
    (outcome : Option (σ × List τ)) : Prop :=
  ∀ s ∈ outcome, goodState s.1 ∧ ∀ t ∈ s.2, goodPart t

section Steps

variable {σ τ : Type} {goodState : σ → Prop} {goodPart : τ → Prop} {state : σ}

/-- A step that fails. -/
theorem keeps_none : Keeps goodState goodPart none :=
  fun _ h => absurd h (Option.not_mem_none _)

/-- A step to a good state with good parts. -/
theorem keeps_some {parts : List τ} (hstate : goodState state) (hparts : ∀ t ∈ parts, goodPart t) :
    Keeps goodState goodPart (some (state, parts)) := by
  intro s hs
  obtain rfl := Option.some.inj hs
  exact ⟨hstate, hparts⟩

/-- A step in which nothing ends. -/
theorem keeps_skip (hstate : goodState state) : Keeps goodState goodPart (some (state, [])) :=
  keeps_some hstate fun _ h => absurd h List.not_mem_nil

/-- A step in which one part ends. -/
theorem keeps_single {part : τ} (hstate : goodState state) (hpart : goodPart part) :
    Keeps goodState goodPart (some (state, [part])) :=
  keeps_some hstate (List.forall_mem_singleton.2 hpart)

/-- A step that first finds something, or else fails. -/
theorem keeps_bind {α : Type} {found : Option α} {next : α → Option (σ × List τ)}
    (h : ∀ a, found = some a → Keeps goodState goodPart (next a)) :
    Keeps goodState goodPart (found >>= next) := by
  intro s hs
  rw [Option.bind_eq_bind, Option.mem_def, Option.bind_eq_some_iff] at hs
  obtain ⟨a, ha, hs⟩ := hs
  exact h a ha s hs

end Steps

/-! ## Document types -/

/-- A part of a document type that holds only allowed characters where they matter: in literals. -/
def DoctypeToken.Allowed : DoctypeToken → Prop
  | .literal content => AllowedChars content
  | _ => True

namespace DoctypeMode

/-- A mode that has kept only allowed characters. -/
def Allowed : DoctypeMode → Prop
  | .literal _ read => AllowedChars read
  | _ => True

variable {alphabet : Alphabet} {c : Char}

/-- What begins between the parts of a document type holds nothing yet. -/
theorem start_keeps : Keeps Allowed DoctypeToken.Allowed (start alphabet c) := by
  unfold start
  split
  case h_1 => exact keeps_skip AllowedChars.nil
  case h_2 => exact keeps_skip AllowedChars.nil
  case h_3 => exact keeps_skip trivial
  case h_4 => exact keeps_skip trivial
  case h_5 => exact keeps_skip trivial
  case h_7 => exact keeps_skip trivial
  case h_13 =>
      split
      · exact keeps_skip trivial
      · split
        · exact keeps_skip trivial
        · exact keeps_none
  all_goals exact keeps_single trivial trivial

/-- The part that ends is allowed, and the next one holds nothing yet. -/
theorem next_keeps {ended : DoctypeToken} (h : ended.Allowed) :
    Keeps Allowed DoctypeToken.Allowed (next alphabet ended c) := by
  intro s hs
  simp only [next, Option.bind_eq_bind, Option.mem_def, Option.bind_eq_some_iff, Option.pure_def,
    Option.some.injEq] at hs
  obtain ⟨started, hstarted, rfl⟩ := hs
  obtain ⟨hmode, htokens⟩ := start_keeps started hstarted
  exact ⟨hmode, List.forall_mem_cons.2 ⟨h, htokens⟩⟩

/-- A word of a document type holds no text, so it is allowed. -/
theorem ofWord_allowed (cs : List Char) : (DoctypeToken.ofWord alphabet cs).Allowed := by
  simp only [DoctypeToken.ofWord]
  split
  · trivial
  · split
    · trivial
    · trivial

/-- The end of a word. -/
theorem stepWord_keeps (read : List Char) :
    Keeps Allowed DoctypeToken.Allowed (stepWord alphabet read c) := by
  simp only [stepWord]
  split
  · exact keeps_skip trivial
  · split
    · split
      · exact keeps_single trivial trivial
      · exact keeps_single trivial trivial
      · exact keeps_none
    · split
      · exact next_keeps (ofWord_allowed _)
      · exact keeps_none

/-- The end of a reserved word. -/
theorem stepReserved_keeps (read : List Char) :
    Keeps Allowed DoctypeToken.Allowed (stepReserved alphabet read c) := by
  rw [stepReserved]
  split
  · split
    · exact keeps_skip trivial
    · exact keeps_none
  · split
    · exact keeps_skip trivial
    · split
      · exact next_keeps trivial
      · exact keeps_none

/-- The end of a reference to a parameter entity. -/
theorem stepPercent_keeps (read : List Char) :
    Keeps Allowed DoctypeToken.Allowed (stepPercent alphabet read c) := by
  rw [stepPercent]
  split
  · split
    · exact next_keeps trivial
    · split
      · exact keeps_skip trivial
      · exact keeps_none
  · split
    · exact keeps_single trivial trivial
    · split
      · exact keeps_skip trivial
      · exact keeps_none

/-- One character of a document type keeps its literals allowed. -/
theorem step_keeps {mode : DoctypeMode} (h : mode.Allowed) (hc : isAllowed c = true) :
    Keeps Allowed DoctypeToken.Allowed (mode.step alphabet c) := by
  cases mode with
  | between => exact start_keeps
  | word read => exact stepWord_keeps read
  | reserved read => exact stepReserved_keeps read
  | literal quote read =>
      rw [step]
      split
      · exact keeps_single trivial (AllowedChars.reverse h)
      · exact keeps_skip (AllowedChars.cons hc h)
  | afterLiteral =>
      rw [step]
      split
      · exact start_keeps
      · exact keeps_none
  | afterParen =>
      rw [step]
      split
      · exact keeps_single trivial trivial
      · split
        · exact next_keeps trivial
        · exact keeps_none
  | percent read => exact stepPercent_keeps read
  | opening =>
      rw [step]
      split
      · exact keeps_skip trivial
      · split
        · exact keeps_skip trivial
        · exact keeps_none
  | keyword read =>
      rw [step]
      split
      · exact keeps_skip trivial
      · split
        · exact keeps_single trivial trivial
        · split
          · exact keeps_skip trivial
          · exact keeps_none
  | commentOpening =>
      rw [step]
      split
      · exact keeps_skip trivial
      · exact keeps_none
  | comment hyphens =>
      rw [step_comment]
      split
      · exact keeps_skip trivial
      · split
        · exact keeps_single trivial trivial
        · exact keeps_none
  | instruction read =>
      rw [step]
      split
      · split
        · exact keeps_single trivial trivial
        · exact keeps_none
      · exact keeps_skip trivial

end DoctypeMode

/-! ## Tokens -/

/-- The pieces of all values of a tag are allowed. -/
def AllowedValues (attributes : List (String × List Piece)) : Prop :=
  ∀ entry ∈ attributes, ∀ p ∈ entry.2, p.Allowed

/-- A token that holds only allowed characters. -/
def Token.Allowed : Token → Prop
  | .char c => isAllowed c = true
  | .numbered c => isAllowed c = true
  | .plain content => AllowedChars content
  | .entity _ => True
  | .startTag _ attributes _ => AllowedValues attributes
  | .endTag _ => True
  | .doctype parts => ∀ t ∈ parts, t.Allowed

/-- A piece in text is an allowed token. -/
theorem Token.ofPiece_allowed {piece : Piece} (h : piece.Allowed) :
    (Token.ofPiece piece).Allowed := by
  cases piece with
  | char c => exact h
  | numbered c => exact h
  | entity name => trivial

/-- A tag with allowed values is an allowed token. -/
theorem OpenTag.token_allowed {tag : OpenTag} (h : AllowedValues tag.attributes) (isEmpty : Bool) :
    (tag.token isEmpty).Allowed :=
  fun entry hentry => h entry (List.mem_reverse.1 hentry)

namespace Mode

/-- A mode that has kept only allowed characters where they matter. -/
def Allowed : Mode → Prop
  | .plain read => AllowedChars read
  | .inTag tag _ => AllowedValues tag.attributes
  | .slash tag => AllowedValues tag.attributes
  | .attributeName tag _ => AllowedValues tag.attributes
  | .afterName tag _ => AllowedValues tag.attributes
  | .beforeValue tag _ => AllowedValues tag.attributes
  | .quoted tag _ _ read => AllowedValues tag.attributes ∧ AllowedChars read
  | .doctype _ mode parts => mode.Allowed ∧ ∀ t ∈ parts, t.Allowed
  | _ => True

variable {alphabet : Alphabet} {c : Char}

/-- A character of text is a token of its own. -/
theorem stepText_keeps (brackets : Nat) (hc : isAllowed c = true) :
    Keeps Allowed Token.Allowed (stepText brackets c) := by
  unfold stepText
  split
  · exact keeps_skip trivial
  · exact keeps_skip trivial
  · exact keeps_single trivial hc
  · split
    · exact keeps_none
    · exact keeps_single trivial hc
  · exact keeps_single trivial hc

/-- A tag keeps the values that it has. -/
theorem stepTag_keeps {tag : OpenTag} (h : AllowedValues tag.attributes) (spaced : Bool) :
    Keeps Allowed Token.Allowed (stepTag alphabet tag spaced c) := by
  rw [stepTag]
  split
  · exact keeps_skip h
  · split
    · exact keeps_single trivial (OpenTag.token_allowed h false)
    · split
      · exact keeps_skip h
      · split
        · exact keeps_skip h
        · exact keeps_none

/-- After a mark of markup a step keeps what has been read allowed. -/
theorem stepMarked_keeps (read : List Char) : Keeps Allowed Token.Allowed (stepMarked read c) := by
  rw [stepMarked]
  split
  · exact keeps_skip trivial
  · split
    · exact keeps_skip AllowedChars.nil
    · split
      · split
        · exact keeps_skip ⟨trivial, fun _ h => absurd h List.not_mem_nil⟩
        · exact keeps_none
      · exact keeps_skip trivial

/-- A document type ends with parts that are allowed. -/
theorem stepDoctype_keeps {inside : Bool} {mode : DoctypeMode} {parts : List DoctypeToken}
    (hmode : mode.Allowed) (hparts : ∀ t ∈ parts, t.Allowed) (hc : isAllowed c = true) :
    Keeps Allowed Token.Allowed (stepDoctype alphabet inside mode parts c) := by
  rw [stepDoctype]
  refine keeps_bind ?_
  rintro ⟨mode', ended⟩ hs
  obtain ⟨hmode', hended⟩ := DoctypeMode.step_keeps hmode hc _ hs
  have hall : ∀ t ∈ ended.reverse ++ parts, t.Allowed :=
    List.forall_mem_append.2 ⟨fun t ht => hended t (List.mem_reverse.1 ht), hparts⟩
  simp only [Option.pure_def]
  split
  · split
    · exact keeps_skip ⟨hmode', hall⟩
    · exact keeps_single trivial fun t ht =>
        hall t (List.mem_of_mem_drop (List.mem_reverse.1 ht))
  · exact keeps_skip ⟨hmode', hall⟩
  · exact keeps_skip ⟨hmode', hall⟩
  · exact keeps_skip ⟨hmode', hall⟩

/-- A tag that has just been named has no values yet. -/
theorem named?_allowed {read : List Char} {tag : OpenTag} (h : named? alphabet read = some tag) :
    AllowedValues tag.attributes := by
  rw [named?] at h
  split at h
  · rw [← Option.some.inj h]
    exact fun _ hentry => absurd hentry List.not_mem_nil
  · contradiction

/-- One step keeps the mode and the tokens that end in it allowed. -/
theorem step_keeps {mode : Mode} (h : mode.Allowed) (hc : isAllowed c = true) :
    Keeps Allowed Token.Allowed (mode.step alphabet c) := by
  cases mode with
  | text brackets => exact stepText_keeps brackets hc
  | reference read =>
      rw [step]
      split
      · exact keeps_bind fun piece hpiece =>
          keeps_single trivial (Token.ofPiece_allowed (referenced?_allowed hpiece))
      · exact keeps_skip trivial
  | opening =>
      rw [step]
      split
      · exact keeps_skip trivial
      · split
        · exact keeps_skip trivial
        · split
          · exact keeps_skip trivial
          · split
            · exact keeps_skip trivial
            · exact keeps_none
  | marked read => exact stepMarked_keeps read
  | comment hyphens =>
      rw [step_comment]
      split
      · exact keeps_skip trivial
      · split
        · exact keeps_skip trivial
        · exact keeps_none
  | instruction read =>
      rw [step]
      split
      · split
        · exact keeps_skip trivial
        · exact keeps_none
      · exact keeps_skip trivial
  | plain read =>
      rw [step]
      split
      · exact keeps_single trivial fun d hd =>
          h d (List.mem_of_mem_drop (List.mem_reverse.1 hd))
      · exact keeps_skip (AllowedChars.cons hc h)
  | closing read =>
      rw [step]
      split
      · extract_lets name
        split
        · exact keeps_single trivial trivial
        · exact keeps_none
      · exact keeps_skip trivial
  | openName read =>
      rw [step]
      split
      · exact keeps_skip trivial
      · exact keeps_bind fun tag htag => stepTag_keeps (named?_allowed htag) false
  | inTag tag spaced => exact stepTag_keeps h spaced
  | slash tag =>
      rw [step]
      split
      · exact keeps_single trivial (OpenTag.token_allowed h true)
      · exact keeps_none
  | attributeName tag read =>
      rw [step]
      split
      · exact keeps_skip h
      · split
        · split
          · exact keeps_skip h
          · split
            · exact keeps_skip h
            · exact keeps_none
        · exact keeps_none
  | afterName tag name =>
      rw [step]
      split
      · exact keeps_skip h
      · split
        · exact keeps_skip h
        · exact keeps_none
  | beforeValue tag name =>
      rw [step]
      split
      · exact keeps_skip h
      · split
        · exact keeps_skip ⟨h, AllowedChars.nil⟩
        · exact keeps_none
  | quoted tag name quote read =>
      rw [step]
      split
      · refine keeps_bind fun pieces hpieces => keeps_skip ?_
        exact List.forall_mem_cons.2
          ⟨attributePieces?_allowed (AllowedChars.reverse h.2) hpieces, h.1⟩
      · exact keeps_skip ⟨h.1, AllowedChars.cons hc h.2⟩
  | doctype inside mode parts => exact stepDoctype_keeps h.1 h.2 hc

end Mode

/-- The tokens of a text with allowed characters are allowed. -/
theorem ofChars?_allowed {alphabet : Alphabet} {cs : List Char} {tokens : List Token}
    (hcs : AllowedChars cs) (h : Token.ofChars? alphabet cs = some tokens) :
    ∀ t ∈ tokens, t.Allowed := by
  have hstep : ∀ (s : Mode × List Token) (c : Char) (s' : Mode × List Token),
      (s.1.Allowed ∧ ∀ t ∈ s.2, t.Allowed) → isAllowed c = true →
      Token.read alphabet s c = some s' → s'.1.Allowed ∧ ∀ t ∈ s'.2, t.Allowed := by
    intro s c s' hs hc hread
    simp only [Token.read, Option.bind_eq_bind, Option.bind_eq_some_iff, Option.pure_def,
      Option.some.injEq] at hread
    obtain ⟨ended, hended, rfl⟩ := hread
    obtain ⟨hmode, htokens⟩ := Mode.step_keeps hs.1 hc ended hended
    exact ⟨hmode, List.forall_mem_append.2 ⟨fun t ht => htokens t (List.mem_reverse.1 ht), hs.2⟩⟩
  simp only [Token.ofChars?, Option.bind_eq_bind, Option.bind_eq_some_iff] at h
  obtain ⟨s, hs, h⟩ := h
  have hend := foldlM_invariant (s := (Mode.text 0, [])) hstep
    ⟨trivial, fun _ ht => absurd ht List.not_mem_nil⟩ hcs hs
  split at h
  · rw [← Option.some.inj h]
    exact fun t ht => hend.2 t (List.mem_reverse.1 ht)
  · contradiction

end RackElevation.Markup
