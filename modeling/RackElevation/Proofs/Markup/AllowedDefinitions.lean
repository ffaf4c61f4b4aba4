import RackElevation.Markup.Definitions
import RackElevation.Proofs.Markup.Literals
import RackElevation.Proofs.Markup.LineEnds

/-!
# Allowed characters in definitions

What a document type defines holds no characters that a document may not hold: the texts of entities
and the values of attribute rules are made of its literals, of characters given by their numbers,
and of other such texts.
-/

namespace RackElevation.Markup

/-! ## Declarations -/

/-- A rule whose value holds only allowed characters. -/
def AttributeRule.Allowed (rule : AttributeRule) : Prop :=
  ∀ cs ∈ rule.default?, AllowedChars cs

/-- A declaration that holds only allowed characters. -/
def Declared.Allowed : Declared → Prop
  | .entity _ (.inside cs) => AllowedChars cs
  | .attributeRules _ rules => ∀ rule ∈ rules, rule.Allowed
  | _ => True

/-- An allowed part of a document type holds allowed characters only. -/
theorem DoctypeToken.Allowed.holdsOnly {token : DoctypeToken} (h : token.Allowed) :
    token.HoldsOnly (isAllowed · = true) := by
  cases token with
  | literal content => exact h
  | _ => trivial

/-- A declaration that holds allowed characters only is allowed. -/
theorem Declared.HoldsOnly.allowed {declared : Declared}
    (h : declared.HoldsOnly (isAllowed · = true)) : declared.Allowed := by
  cases declared with
  | entity name text =>
      cases text with
      | inside content => exact h
      | outside => trivial
  | attributeRules element rules => exact h
  | _ => trivial

/-- The declarations of a document type hold only allowed characters. -/
theorem Doctype.ofTokens?_allowed {tokens : List DoctypeToken} {doctype : Doctype}
    (htokens : ∀ t ∈ tokens, t.Allowed) (h : ofTokens? tokens = some doctype) :
    ∀ d ∈ doctype.declared, d.Allowed :=
  fun d hd => (ofTokens?_holdsOnly (fun t ht => (htokens t ht).holdsOnly) h d hd).allowed

/-! ## Entities and rules -/

/-- An entity whose text holds only allowed characters. -/
def Entity.Allowed : Entity → Prop
  | .inside content? value? =>
      (∀ tokens ∈ content?, ∀ t ∈ tokens, t.Allowed) ∧ ∀ pieces ∈ value?, ∀ p ∈ pieces, p.Allowed
  | .outside => True

/-- Unifying line ends leaves allowed characters. -/
theorem unifyLineEnds_allowed {cs : List Char} (h : AllowedChars cs) :
    AllowedChars (unifyLineEnds cs) := by
  intro c hc
  rw [unifyLineEnds_eq] at hc
  rcases mem_unifyFrom hc with hc | rfl
  · exact h c hc
  · decide

/-- An entity with an allowed text is allowed. -/
theorem Entity.ofText_allowed {cs : List Char} (h : AllowedChars cs) : (Entity.ofText cs).Allowed :=
  ⟨fun _ htokens => ofChars?_allowed h htokens,
    fun _ hpieces => attributePieces?_allowed h hpieces⟩

namespace Definitions

/-- Definitions that hold only allowed characters. -/
structure Allowed (d : Definitions) : Prop where
  entities : ∀ entry ∈ d.entities, entry.2.Allowed
  rules : ∀ entry ∈ d.rules, entry.2.Allowed

variable {d : Definitions}

/-- An entity that is found among allowed definitions is allowed. -/
theorem Allowed.entity? (h : d.Allowed) {name : String} {entity : Entity}
    (hentity : d.entity? name = some entity) : entity.Allowed := by
  obtain ⟨entry, hentry, rfl⟩ := Option.map_eq_some_iff.1 hentity
  exact h.entities entry (List.mem_of_find?_eq_some hentry)

/-- What an entity stands for is allowed, character references included. -/
theorem entityText?_allowed {alphabet : Alphabet} {cs text : List Char} (hcs : AllowedChars cs)
    (h : entityText? alphabet cs = some text) : AllowedChars text := by
  simp only [entityText?, Option.bind_eq_bind, Option.bind_eq_some_iff] at h
  obtain ⟨pieces, hpieces, h⟩ := h
  split at h
  · contradiction
  · rw [← Option.some.inj h]
    intro c hc
    obtain ⟨piece, hpiece, hc⟩ := List.mem_flatMap.1 hc
    have hallowed := pieces?_allowed hcs hpieces piece hpiece
    cases piece with
    | char d =>
        rw [List.mem_singleton.1 hc]
        exact hallowed
    | numbered d =>
        rw [List.mem_singleton.1 hc]
        exact hallowed
    -- a reference keeps its name between two signs, and both signs are allowed
    | entity name =>
        rcases List.mem_cons.1 hc with rfl | hc
        · decide
        · rcases List.mem_append.1 hc with hc | hc
          · exact hallowed c hc
          · rw [List.mem_singleton.1 hc]
            decide

/-! ## Values -/

/-- The entities that are always defined stand for allowed characters. -/
theorem isAllowed_of_predefined? {name : String} {c : Char} (h : predefined? name = some c) :
    isAllowed c = true := by
  unfold predefined? at h
  split at h
  all_goals first
    | contradiction
    | (rw [← Option.some.inj h]; decide)

/-- A piece of a value adds allowed characters, if the text of entities does. -/
theorem addPiece_allowed (hd : d.Allowed) {add : List Piece → List Char → Option (List Char)}
    (hadd : ∀ pieces read read', AllowedChars read → (∀ p ∈ pieces, p.Allowed) →
      add pieces read = some read' → AllowedChars read')
    (read : List Char) (piece : Piece) (read' : List Char) (hread : AllowedChars read)
    (hpiece : piece.Allowed) (h : d.addPiece add read piece = some read') :
    AllowedChars read' := by
  unfold addPiece at h
  -- one case for each piece: a character, one given by number, and the kinds of entities
  split at h
  · rw [← Option.some.inj h]
    refine .cons ?_ hread
    split
    · decide
    · exact hpiece
  · rw [← Option.some.inj h]
    exact .cons hpiece hread
  · split at h
    · next hc =>
        rw [← Option.some.inj h]
        exact .cons (isAllowed_of_predefined? hc) hread
    · split at h
      · split at h
        · rw [← Option.some.inj h]
          exact hread
        · contradiction
      · contradiction
      · next hentity =>
          simp only [Option.bind_eq_bind, Option.bind_eq_some_iff] at h
          obtain ⟨pieces, hpieces, h⟩ := h
          exact hadd pieces read read' hread ((hd.entity? hentity).2 _ hpieces) h

/-- Values stay allowed through nested expansions. -/
theorem addPieces_allowed (hd : d.Allowed) (depth : Nat) :
    ∀ pieces read read', AllowedChars read → (∀ p ∈ pieces, p.Allowed) →
      d.addPieces depth pieces read = some read' → AllowedChars read' := by
  induction depth with
  | zero => exact fun _ _ _ _ _ h => absurd h (Option.not_mem_none _)
  | succ depth ih =>
      intro pieces read read' hread hpieces h
      exact foldlM_invariant (addPiece_allowed hd ih) hread hpieces h

/-- Joining blanks leaves allowed characters. -/
theorem singleSpaced_allowed {cs : List Char} (h : AllowedChars cs) :
    AllowedChars (singleSpaced cs) := by
  have hfold : ∀ kept : List Char, AllowedChars kept → AllowedChars (cs.foldl (fun kept c =>
      if c == ' ' && (kept.isEmpty || kept.head? == some ' ') then kept else c :: kept) kept) := by
    induction cs with
    | nil => exact fun _ hkept => hkept
    | cons c cs ih =>
        intro kept hkept
        obtain ⟨hc, hcs⟩ := List.forall_mem_cons.1 h
        rw [List.foldl_cons]
        split
        · exact ih hcs kept hkept
        · exact ih hcs _ (.cons hc hkept)
  have hdrop : ∀ cs : List Char, AllowedChars cs → AllowedChars (singleSpaced.dropLeading cs) := by
    intro cs hcs
    unfold singleSpaced.dropLeading
    split
    · exact (List.forall_mem_cons.1 hcs).2
    · exact hcs
  exact hdrop _ (hfold [] .nil)

/-- The value of an attribute holds only allowed characters. -/
theorem value?_allowed (hd : d.Allowed) {isText : Bool} {pieces : List Piece} {value : List Char}
    (hpieces : ∀ p ∈ pieces, p.Allowed) (h : d.value? isText pieces = some value) :
    AllowedChars value := by
  simp only [value?, Option.bind_eq_bind, Option.bind_eq_some_iff, Option.pure_def,
    Option.some.injEq] at h
  obtain ⟨read, hread, rfl⟩ := h
  have hread : AllowedChars read := addPieces_allowed hd d.depth pieces _ read .nil hpieces hread
  split
  · exact hread.reverse
  · exact singleSpaced_allowed hread

/-! ## Document types -/

/-- A rule for an attribute keeps definitions allowed. -/
theorem addRule_allowed {alphabet : Alphabet} {element : String} (d : Definitions)
    (rule : AttributeRule) (d' : Definitions) (hd : d.Allowed) (hrule : rule.Allowed)
    (h : addRule alphabet element d rule = some d') : d'.Allowed := by
  have hadd (default? : Option (List Char)) (hdefault : ∀ cs ∈ default?, AllowedChars cs)
      (h : (if (d.rule? element rule.name).isSome then pure d
        else pure { d with rules := d.rules ++ [(element, { rule with default? })] }) =
          some d') : d'.Allowed := by
    split at h
    · rw [← Option.some.inj h]
      exact hd
    · rw [← Option.some.inj h]
      exact ⟨hd.entities, List.forall_mem_append.2 ⟨hd.rules,
        List.forall_mem_singleton.2 hdefault⟩⟩
  rw [addRule] at h
  split at h
  · exact hadd none (fun _ hcs => absurd hcs (Option.not_mem_none _)) h
  · next cs hcs =>
      simp only [Option.bind_eq_bind, Option.bind_eq_some_iff, Option.map_eq_some_iff] at h
      obtain ⟨pieces, hpieces, _, ⟨value, hvalue, rfl⟩, h⟩ := h
      refine hadd (some value) (fun cs' hcs' => ?_) h
      obtain rfl := Option.some.inj hcs'
      exact value?_allowed hd (attributePieces?_allowed (hrule cs hcs) hpieces) hvalue

/-- An allowed entity keeps definitions allowed. -/
theorem addEntity_allowed (hd : d.Allowed) {name : String} {entity : Entity}
    (hentity : entity.Allowed) : (d.addEntity name entity).Allowed := by
  rw [addEntity]
  split
  · exact hd
  · exact ⟨List.forall_mem_append.2 ⟨hd.entities, List.forall_mem_singleton.2 hentity⟩, hd.rules⟩

/-- An allowed declaration keeps definitions allowed. -/
theorem declare_allowed {alphabet : Alphabet} (s : Progress) (declared : Declared) (s' : Progress)
    (hs : s.definitions.Allowed) (hdeclared : declared.Allowed)
    (h : declare alphabet s declared = some s') : s'.definitions.Allowed := by
  unfold declare at h
  split at h
  · rw [← Option.some.inj h]
    exact hs
  -- one case for each sort of declaration: only entities and rules carry characters
  · split at h
    · simp only [Option.bind_eq_bind, Option.bind_eq_some_iff, Option.pure_def,
        Option.some.injEq] at h
      obtain ⟨text, htext, rfl⟩ := h
      exact addEntity_allowed hs (Entity.ofText_allowed (entityText?_allowed hdeclared htext))
    · rw [← Option.some.inj h]
      exact addEntity_allowed hs trivial
    · simp only [Option.bind_eq_bind, Option.bind_eq_some_iff, Option.pure_def,
        Option.some.injEq] at h
      obtain ⟨_, -, rfl⟩ := h
      exact hs
    · rw [← Option.some.inj h]
      exact hs
    · rw [← Option.some.inj h]
      exact hs
    · rw [← Option.some.inj h]
      exact ⟨hs.entities, hs.rules⟩
    · simp only [Option.bind_eq_bind, Option.bind_eq_some_iff, Option.pure_def,
        Option.some.injEq] at h
      obtain ⟨t, ht, rfl⟩ := h
      exact foldlM_invariant addRule_allowed hs hdeclared ht

/-- The definitions that a document type makes hold only allowed characters. -/
theorem ofDoctype_allowed {alphabet : Alphabet} (hd : d.Allowed) {doctype : Doctype}
    (hdoctype : ∀ declared ∈ doctype.declared, declared.Allowed) {result : Definitions}
    (h : d.ofDoctype alphabet doctype = some result) : result.Allowed := by
  simp only [ofDoctype, Option.bind_eq_bind, Option.bind_eq_some_iff, Option.pure_def,
    Option.some.injEq] at h
  obtain ⟨s, hs, rfl⟩ := h
  exact foldlM_invariant (p := fun s : Progress => s.definitions.Allowed) declare_allowed
    ⟨hd.entities, hd.rules⟩ hdoctype hs

end Definitions

end RackElevation.Markup
