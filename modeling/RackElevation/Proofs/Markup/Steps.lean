import RackElevation.Markup.Document
import RackElevation.Proofs.Markup.AllowedTokens

/-!
# Steps of a reader

What a reader does with a token that it takes.  Text and finished elements go into the innermost
open element, and where none is open a finished element is the root.  A start tag opens an element,
an end tag finishes it, and a document type gives the definitions.  The tokens of an entity are read
inside the elements that are open.

So what every token keeps is kept by the tokens of entities, however deep these are nested.
-/

namespace RackElevation.Markup.Reader

variable {r r' : Reader}

/-! ## Text and finished elements -/

theorem addText_cases {cs : List Char} (h : r.addText cs = some r') :
    ∃ e outer, r.parents = e :: outer ∧ r' = { r with parents := e.addText cs :: outer } := by
  rw [addText] at h
  split at h
  · contradiction
  · next e outer hparents => exact ⟨e, outer, hparents, (Option.some.inj h).symm⟩

/-- Outside the root element a character of text is white space, and it changes nothing. -/
theorem addChar_cases {c : Char} (h : r.addChar c = some r') :
    (r.parents = [] ∧ isSpace c = true ∧ r' = r) ∨ r.addText [c] = some r' := by
  rw [addChar] at h
  split at h
  · next hparents =>
      split at h
      · next hspace => exact .inl ⟨hparents, hspace, (Option.some.inj h).symm⟩
      · contradiction
  · exact .inr h

theorem addNode_cases {node : Node ExpandedName} (h : r.addNode node = some r') :
    (r.parents = [] ∧ r.root = none ∧ r' = { r with root := some node }) ∨
      ∃ e outer, r.parents = e :: outer ∧ r' = { r with parents := e.addChild node :: outer } := by
  rw [addNode] at h
  split at h
  · next hparents =>
      split at h
      · next hroot =>
          have hnone := Option.isNone_iff_eq_none.1 hroot
          exact .inl ⟨hparents, hnone, (Option.some.inj h).symm⟩
      · contradiction
  · next e outer hparents => exact .inr ⟨e, outer, hparents, (Option.some.inj h).symm⟩

/-! ## Tags -/

/-- An element is opened in its scope, with its attributes: those given and those by default. -/
theorem opened?_cases {tag : String} {given : List (String × List Piece)} {e : OpenElement}
    (h : r.opened? tag given = some e) :
    (given.map (·.1)).Nodup ∧ ∃ values scope name attributes,
      given.mapM (givenAttribute? r.definitions tag) = some values ∧
        r.scope.bindAll? (values ++ defaultAttributes r.definitions tag (given.map (·.1))) =
          some scope ∧
        scope.elementName? tag = some name ∧
        scope.attributes? (values ++ defaultAttributes r.definitions tag (given.map (·.1))) =
          some attributes ∧
        e = { tag, name, attributes, scope } := by
  rw [opened?] at h
  split at h
  · contradiction
  · next hnames =>
      simp only [Option.bind_eq_bind, Option.bind_eq_some_iff, Option.pure_def,
        Option.some.injEq] at h
      obtain ⟨values, hvalues, scope, hscope, name, hname, attributes, hattributes, rfl⟩ := h
      exact ⟨by simpa using hnames, values, scope, name, attributes, hvalues, hscope, hname,
        hattributes, rfl⟩

/-- A start tag opens an element, which an empty one finishes at once. -/
theorem startTag_cases {tag : String} {given : List (String × List Piece)} {isEmpty : Bool}
    (h : r.startTag tag given isEmpty = some r') :
    (r.parents = [] → r.root = none) ∧ ∃ e, r.opened? tag given = some e ∧
      ((isEmpty = true ∧ r.addNode e.node = some r') ∨
        (isEmpty = false ∧ r' = { r with parents := e :: r.parents })) := by
  rw [startTag] at h
  split at h
  · contradiction
  · next hroom =>
      refine ⟨fun hparents => by simpa [hparents] using hroom, ?_⟩
      simp only [Option.bind_eq_bind, Option.bind_eq_some_iff] at h
      obtain ⟨e, hopened, h⟩ := h
      refine ⟨e, hopened, ?_⟩
      split at h
      · next hempty => exact .inl ⟨hempty, h⟩
      · next hopen => exact .inr ⟨Bool.eq_false_iff.2 hopen, (Option.some.inj h).symm⟩

theorem endTag_cases {tag : String} (h : r.endTag tag = some r') :
    ∃ e outer, r.parents = e :: outer ∧ e.tag = tag ∧ r.mayEnd outer = true ∧
      addNode { r with parents := outer } e.node = some r' := by
  rw [endTag] at h
  split at h
  · contradiction
  · next e outer hparents =>
      split at h
      · next hends =>
          obtain ⟨htag, hends⟩ := Bool.and_eq_true_iff.1 hends
          exact ⟨e, outer, hparents, eq_of_beq htag, hends, h⟩
      · contradiction

/-! ## Document types and entities -/

/-- A document type is read once, before the root element. -/
theorem doctype_cases {alphabet : Alphabet} {parts : List DoctypeToken}
    (h : r.doctype alphabet parts = some r') :
    r.hasDoctype = false ∧ r.root = none ∧ r.parents = [] ∧
      ∃ doctype definitions, Doctype.ofTokens? parts = some doctype ∧
        r.definitions.ofDoctype alphabet doctype = some definitions ∧
        r' = { r with definitions, hasDoctype := true } := by
  rw [doctype] at h
  split at h
  · contradiction
  · next hfirst =>
      simp only [Bool.or_eq_true, not_or, Bool.not_eq_true, Option.isSome_eq_false_iff,
        Option.isNone_iff_eq_none, Bool.not_eq_false', List.isEmpty_iff] at hfirst
      simp only [Option.bind_eq_bind, Option.bind_eq_some_iff, Option.pure_def,
        Option.some.injEq] at h
      obtain ⟨doctype, hdoctype, definitions, hdefinitions, rfl⟩ := h
      exact ⟨hfirst.1.1, hfirst.1.2, hfirst.2, doctype, definitions, hdoctype, hdefinitions, rfl⟩

variable {addAll : List Token → Reader → Option Reader}

/-- The tokens of an entity leave as many elements open as there were. -/
theorem within_cases {tokens : List Token} (h : r.within addAll tokens = some r') :
    ∃ inner, addAll tokens { r with floor := r.parents.length } = some inner ∧
      inner.parents.length = r.parents.length ∧ r' = { inner with floor := r.floor } := by
  simp only [within, Option.bind_eq_bind, Option.bind_eq_some_iff] at h
  obtain ⟨inner, hinner, h⟩ := h
  split at h
  · next hlength => exact ⟨inner, hinner, eq_of_beq hlength, (Option.some.inj h).symm⟩
  · contradiction

/-- A reference gives a character, or the tokens of an entity inside the root element. -/
theorem entity_cases {name : String} (h : r.entity addAll name = some r') :
    (∃ c, predefined? name = some c ∧ r.addText [c] = some r') ∨
      ∃ tokens value?, r.definitions.entity? name = some (.inside (some tokens) value?) ∧
        r.parents ≠ [] ∧ r.within addAll tokens = some r' := by
  rw [entity] at h
  split at h
  · next _ c hc => exact .inl ⟨c, hc, h⟩
  · next tokens value? _ hentity =>
      split at h
      · contradiction
      · next hopen => exact .inr ⟨tokens, value?, hentity, by simpa using hopen, h⟩
  · contradiction

/-! ## Entities within entities -/

section Keeps

variable {P : Reader → Prop} {alphabet : Alphabet}

/-- What every token keeps is kept by nested entities: a token of an entity keeps it when the tokens
nested in that one do. -/
theorem addNested_keeps
    (hadd : ∀ addAll : List Token → Reader → Option Reader,
      (∀ tokens r r', P r → addAll tokens r = some r' → P r') →
        ∀ r t r', P r → add alphabet addAll r t = some r' → P r')
    (depth : ℕ) (tokens : List Token) (r r' : Reader) (hr : P r)
    (h : addNested alphabet depth tokens r = some r') : P r' := by
  induction depth generalizing tokens r r' with
  | zero => exact absurd h (Option.not_mem_none _)
  | succ depth ih =>
      exact foldlM_invariant (q := fun _ => True) (fun r t r' hr _ h => hadd _ ih r t r' hr h) hr
        (fun _ _ => trivial) h

end Keeps

end RackElevation.Markup.Reader
