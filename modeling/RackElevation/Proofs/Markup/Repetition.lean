import Mathlib.Data.Bool.AllAny
import RackElevation.Proofs.Markup.Assembly
import RackElevation.Proofs.Markup.Letters

/-!
# An entity that is used many times

A document defines one entity and refers to it many times in the value of an attribute.  Were it not
for the limit on expansions, such a document would always be read, whatever letters names may hold.
-/

namespace RackElevation.Markup

/-- The characters that do not stand for themselves in the text of an entity, or are charged for by
themselves in a value. -/
def entityMarks : List Char :=
  ['&', '<', '%', '\x22', '\r', '\n', '\t', ' ']

/-- A character that stands for itself in the text of an entity. -/
def IsLiteral (c : Char) : Prop :=
  isAllowed c = true ∧ c ∉ entityMarks

/-- A literal character is none that means something in the text of an entity. -/
theorem IsLiteral.ne {c d : Char} (h : IsLiteral c) (hd : d ∈ entityMarks) : c ≠ d :=
  (ne_of_mem_of_not_mem hd h.2).symm

/-- References to one entity. -/
def references : ℕ → List Char
  | 0 => []
  | count + 1 => '&' :: 'e' :: ';' :: references count

/-- What comes before the content of the entity. -/
def beforeContent : List Char :=
  "<!DOCTYPE r [<!ENTITY e \"".toList

/-- The end of the document type, after the content. -/
def typeEnd : List Char :=
  "\">]>".toList

/-- What comes before the references in their tag. -/
def tagStart : List Char :=
  "<r a=\"".toList

/-- What comes between the content and the references. -/
def beforeReferences : List Char :=
  typeEnd ++ tagStart

/-- What comes after the references. -/
def afterReferences : List Char :=
  "\"/>".toList

/-- A document that gives an entity some content, and refers to it a number of times. -/
def repeating (content : List Char) (count : ℕ) : List Char :=
  beforeContent ++ (content ++ (beforeReferences ++ (references count ++ afterReferences)))

/-- The pieces of an attribute value that is made of references. -/
def repeatingPieces (count : ℕ) : List Piece :=
  List.replicate count (.entity "e")

/-- The parts of the document type. -/
def repeatingParts (content : List Char) : List DoctypeToken :=
  [.name "r", .openBracket, .declaration "ENTITY", .name "e", .literal content, .stop,
    .closeBracket]

/-- The tokens of the document. -/
def repeatingTokens (content : List Char) (count : ℕ) : List Token :=
  [.doctype (repeatingParts content), .startTag "r" [("a", repeatingPieces count)] true]

section Literals

variable {content : List Char} {count : ℕ}

/-- References are made of three characters. -/
theorem mem_references {c : Char} (h : c ∈ references count) : c ∈ ['&', 'e', ';'] := by
  induction count with
  | zero => contradiction
  | succ count ih =>
      rw [references] at h
      simp only [List.mem_cons] at h ⊢
      rcases h with h | h | h | h
      · exact .inl h
      · exact .inr (.inl h)
      · exact .inr (.inr (.inl h))
      · simpa only [List.mem_cons] using ih h

/-- Each reference is three characters long. -/
theorem length_references (count : ℕ) : (references count).length = 3 * count := by
  induction count with
  | zero => rfl
  | succ count ih =>
      rw [references, List.length_cons, List.length_cons, List.length_cons, ih]
      omega

/-- Besides the content there are always the same characters. -/
theorem mem_repeating {c : Char} (h : c ∈ repeating content count) :
    c ∈ content ∨ c ∈ repeating [] 1 := by
  simp only [repeating, List.mem_append, List.not_mem_nil, false_or] at h ⊢
  rcases h with h | h | h | h | h
  · exact .inr (.inl h)
  · exact .inl h
  · exact .inr (.inr (.inl h))
  · exact .inr (.inr (.inr (.inl (mem_references h))))
  · exact .inr (.inr (.inr (.inr h)))

/-- All characters of the document are allowed, and none of them is part of a line end to unify. -/
theorem allowed_repeating (hcontent : ∀ c ∈ content, IsLiteral c) :
    ∀ c ∈ repeating content count, isAllowed c = true ∧ c ≠ '\r' := by
  have hothers : ∀ c ∈ repeating [] 1, isAllowed c = true ∧ c ≠ '\r' :=
    List.all_iff_forall_prop.1 (by decide +kernel)
  intro c hc
  rcases mem_repeating hc with hc | hc
  · exact ⟨(hcontent c hc).1, (hcontent c hc).ne (by decide)⟩
  · exact hothers c hc

/-- A text of literal characters is cut into them. -/
theorem foldlM_add_literal (alphabet : Alphabet) (hcontent : ∀ c ∈ content, IsLiteral c)
    (pieces : List Piece) : content.foldlM (Cutting.add alphabet) ⟨pieces, none⟩ =
      some ⟨(content.map .char).reverse ++ pieces, none⟩ := by
  induction content generalizing pieces with
  | nil => rfl
  | cons c content ih =>
      obtain ⟨hc, hcontent⟩ := List.forall_mem_cons.1 hcontent
      have hne : (c == '&') = false := beq_eq_false_iff_ne.2 (hc.ne (by decide))
      rw [List.foldlM_cons, Cutting.add]
      simp only [hne, Bool.false_eq_true, if_false]
      rw [Option.bind_eq_bind, Option.bind_some, ih hcontent, List.map_cons, List.reverse_cons,
        List.append_assoc, List.singleton_append]

/-- Literal characters are cut into themselves. -/
theorem pieces?_literal (alphabet : Alphabet) (hcontent : ∀ c ∈ content, IsLiteral c) :
    pieces? alphabet content = some (content.map .char) := by
  rw [pieces?, foldlM_add_literal alphabet hcontent, Option.bind_eq_bind, Option.bind_some,
    List.append_nil, List.reverse_reverse]
  rfl

/-- Literal characters of an attribute are cut into themselves. -/
theorem attributePieces?_literal (alphabet : Alphabet) (hcontent : ∀ c ∈ content, IsLiteral c) :
    attributePieces? alphabet content = some (content.map .char) := by
  have hbracket : '<' ∉ content := fun hmem => (hcontent _ hmem).ne (by decide) rfl
  rw [attributePieces?_of_notMem alphabet hbracket, pieces?_literal alphabet hcontent]

/-- Cutting references adds a piece for each of them. -/
theorem foldlM_add_references (alphabet : Alphabet) (count : ℕ) (pieces : List Piece) :
    (references count).foldlM (Cutting.add alphabet) ⟨pieces, none⟩ =
      some ⟨(repeatingPieces count).reverse ++ pieces, none⟩ := by
  induction count generalizing pieces with
  | zero => rfl
  | succ count ih =>
      have hone : ['&', 'e', ';'].foldlM (Cutting.add alphabet) ⟨pieces, none⟩ =
          some ⟨.entity "e" :: pieces, none⟩ := by
        cases alphabet <;> rfl
      have hcons : references (count + 1) = ['&', 'e', ';'] ++ references count := rfl
      rw [hcons, List.foldlM_append, hone, Option.bind_eq_bind, Option.bind_some, ih,
        repeatingPieces, repeatingPieces, List.replicate_succ, List.reverse_cons,
        List.append_assoc, List.singleton_append]

/-- References in an attribute are cut into one piece each. -/
theorem attributePieces?_references (alphabet : Alphabet) (count : ℕ) :
    attributePieces? alphabet (references count) = some (repeatingPieces count) := by
  have hbracket : '<' ∉ references count := fun hmem => absurd (mem_references hmem) (by decide)
  rw [attributePieces?_of_notMem alphabet hbracket, pieces?, foldlM_add_references,
    Option.bind_eq_bind, Option.bind_some, List.append_nil, List.reverse_reverse]
  rfl

end Literals

/-! ## Tokens -/

/-- Inside the content of the entity. -/
def inContent (read : List Char) : Mode :=
  .doctype true (.literal '\x22' read)
    [.name "e", .declaration "ENTITY", .openBracket, .name "r"]

/-- Inside the value of the attribute. -/
def inReferences (read : List Char) : Mode :=
  .quoted { name := "r" } "a" '\x22' read

section Tokens

variable {content : List Char}

/-- Inside the text of the entity any character but the quote is taken. -/
theorem step_inContent (alphabet : Alphabet) (read : List Char) {c : Char} (hc : c ≠ '\x22') :
    (inContent read).step alphabet c = some (inContent (c :: read), []) := by
  have hne : (c == '\x22') = false := beq_eq_false_iff_ne.2 hc
  simp only [inContent, Mode.step, Mode.stepDoctype, DoctypeMode.step, hne, Bool.false_eq_true,
    if_false]
  rfl

/-- Inside the attribute any character but the quote is taken. -/
theorem step_inReferences (alphabet : Alphabet) (read : List Char) {c : Char} (hc : c ≠ '\x22') :
    (inReferences read).step alphabet c = some (inReferences (c :: read), []) := by
  have hne : (c == '\x22') = false := beq_eq_false_iff_ne.2 hc
  simp only [inReferences, Mode.step, hne, Bool.false_eq_true, if_false]

/-- The quote after the references ends the value. -/
theorem step_afterReferences (alphabet : Alphabet) (count : ℕ) :
    (inReferences (references count).reverse).step alphabet '\x22' =
      some (.inTag ⟨"r", [("a", repeatingPieces count)]⟩ false, []) := by
  simp only [inReferences, Mode.step, beq_self_eq_true, if_true, List.reverse_reverse,
    attributePieces?_references]
  rfl

/-- The start of the document type is read up to the text of the entity. -/
theorem reads_typeStart :
    Reads (.text 0) beforeContent (inContent []) [] := by
  have hkeyword : Reads (.text 0) "<!DOCTYPE ".toList (.doctype false .between []) [] :=
    fun _ => rfl
  have hroot : Reads (.doctype false .between []) "r [".toList
      (.doctype true .between [.openBracket, .name "r"]) [] := fun _ => rfl
  have hentity : Reads (.doctype true .between [.openBracket, .name "r"]) "<!ENTITY ".toList
      (.doctype true .between [.declaration "ENTITY", .openBracket, .name "r"]) [] := fun _ => rfl
  have hname : Reads (.doctype true .between [.declaration "ENTITY", .openBracket, .name "r"])
      "e \"".toList (inContent []) [] := fun _ => rfl
  exact hkeyword.append (hroot.append (hentity.append hname))

/-- The text of the entity is read. -/
theorem reads_content (hcontent : ∀ c ∈ content, IsLiteral c) :
    Reads (inContent []) content (inContent content.reverse) [] := by
  have hkeep := @Reads.keep content inContent
    (fun read c hc => step_inContent .common read ((hcontent c hc).ne (by decide))) []
  rwa [List.append_nil] at hkeep

/-- The end of the document type and the start of the tag are read. -/
theorem reads_typeEnd (content : List Char) :
    Reads (inContent content.reverse) beforeReferences (inReferences [])
      [.doctype (repeatingParts content)] := by
  have htype : Reads (inContent content.reverse) typeEnd (.text 0)
      [.doctype (repeatingParts content.reverse.reverse)] := fun _ => rfl
  have htag : Reads (.text 0) tagStart (inReferences []) [] := fun _ => rfl
  rw [List.reverse_reverse] at htype
  exact htype.append htag

/-- The references in the attribute are read. -/
theorem reads_references (count : ℕ) :
    Reads (inReferences []) (references count) (inReferences (references count).reverse) [] := by
  have hkeep := @Reads.keep (references count) inReferences
    (fun read c hc => step_inReferences .common read
      (ne_of_mem_of_not_mem (mem_references hc) (by decide))) []
  rwa [List.append_nil] at hkeep

/-- The end of the tag is read. -/
theorem reads_tagEnd (count : ℕ) :
    Reads (inReferences (references count).reverse) afterReferences (.text 0)
      [.startTag "r" [("a", repeatingPieces count)] true] :=
  .skip (step_afterReferences .common count) (.skip rfl (.single rfl))

/-- The tokens of the document. -/
theorem ofChars?_repeating (hcontent : ∀ c ∈ content, IsLiteral c) (count : ℕ) :
    Token.ofChars? .common (repeating content count) = some (repeatingTokens content count) := by
  have hreads : Reads (.text 0) (repeating content count) (.text 0)
      (repeatingTokens content count) :=
    reads_typeStart.append ((reads_content hcontent).append ((reads_typeEnd content).append
      ((reads_references count).append (reads_tagEnd count))))
  rw [Token.ofChars?, hreads, Option.bind_eq_bind, Option.bind_some, List.append_nil]
  exact congrArg some (List.reverse_reverse _)

end Tokens

/-! ## What is expanded -/

/-- The definitions of the document. -/
def repeatingDefinitions (standalone : Bool) (content : List Char) : Definitions :=
  { entities := [("e", .ofText content)], standalone }

section Expansions

variable {content : List Char} (standalone : Bool)

/-- An entity of literal characters stands for these characters. -/
theorem entityText?_literal (alphabet : Alphabet) (hcontent : ∀ c ∈ content, IsLiteral c) :
    Definitions.entityText? alphabet content = some content := by
  have hcontains : (content.map Piece.char).contains (.char '%') = false := by
    rw [← Bool.not_eq_true, List.contains_iff_mem, List.mem_map]
    rintro ⟨c, hc, heq⟩
    exact (hcontent c hc).ne (by decide) (Piece.char.inj heq)
  rw [Definitions.entityText?, pieces?_literal alphabet hcontent, Option.bind_eq_bind,
    Option.bind_some, hcontains, if_neg Bool.false_ne_true, List.flatMap_map]
  exact congrArg some (List.flatMap_singleton' content)

theorem ofTokens?_repeatingParts (content : List Char) :
    Doctype.ofTokens? (repeatingParts content) =
      some ⟨false, [.entity "e" (.inside content)]⟩ := rfl

/-- The document type defines that one entity. -/
theorem ofDoctype_repeatingParts (hcontent : ∀ c ∈ content, IsLiteral c) :
    Definitions.ofDoctype .common { standalone } ⟨false, [.entity "e" (.inside content)]⟩ =
      some (repeatingDefinitions standalone content) := by
  simp only [Definitions.ofDoctype, List.foldlM_cons, Definitions.declare,
    entityText?_literal .common hcontent]
  rfl

/-- A literal text is added to a value. -/
theorem exists_addPieces_literal {d : Definitions} (depth : ℕ) (cs read : List Char) :
    ∃ read', d.addPieces (depth + 1) (cs.map .char) read = some read' := by
  induction cs generalizing read with
  | nil => exact ⟨read, rfl⟩
  | cons c cs ih => exact ih _

/-- Every reference adds the text of the entity. -/
theorem exists_addPieces_references (hcontent : ∀ c ∈ content, IsLiteral c) (count : ℕ)
    (read : List Char) : ∃ read', (repeatingDefinitions standalone content).addPieces 2
      (repeatingPieces count) read = some read' := by
  induction count generalizing read with
  | zero => exact ⟨read, rfl⟩
  | succ count ih =>
      obtain ⟨first, hfirst⟩ := exists_addPieces_literal
        (d := repeatingDefinitions standalone content) 0 content read
      -- each reference adds the content once, since the content holds no reference of its own
      have hpiece : (repeatingDefinitions standalone content).addPiece
          ((repeatingDefinitions standalone content).addPieces 1) read (.entity "e") =
            some first := by
        have hentity : (repeatingDefinitions standalone content).entity? "e" =
            some (.inside (Token.ofChars? .common content) (some (content.map .char))) := by
          rw [← attributePieces?_literal .common hcontent]
          rfl
        have hpredefined : predefined? "e" = none := rfl
        rw [Definitions.addPiece, hpredefined, hentity]
        exact hfirst
      obtain ⟨read', hread⟩ := ih first
      refine ⟨read', ?_⟩
      rw [repeatingPieces, List.replicate_succ, ← repeatingPieces, addPieces_succ,
        List.foldlM_cons, hpiece]
      exact hread

end Expansions

/-! ## Reading the document -/

section Reading

variable {content : List Char} (standalone : Bool)

/-- The attribute of references has a value, however many there are. -/
theorem exists_givenAttribute_repeating (hcontent : ∀ c ∈ content, IsLiteral c) (count : ℕ) :
    ∃ value, Reader.givenAttribute? (repeatingDefinitions standalone content) "r"
      ("a", repeatingPieces count) = some ("a", value) := by
  obtain ⟨read, hread⟩ := exists_addPieces_references standalone hcontent count []
  have hdepth : (repeatingDefinitions standalone content).depth = 2 := rfl
  have hrule : (repeatingDefinitions standalone content).rule? "r" "a" = none := rfl
  refine ⟨String.ofList read.reverse, ?_⟩
  simp only [Reader.givenAttribute?, hrule, Definitions.value?, hdepth, hread, Option.bind_eq_bind,
    Option.bind_some]
  rfl

/-- A reader of the document after its document type. -/
def repeatingReader (content : List Char) : Reader :=
  { definitions := repeatingDefinitions standalone content, hasDoctype := true }

/-- The element of the document. -/
theorem startTag_repeating (hcontent : ∀ c ∈ content, IsLiteral c) (count : ℕ) : ∃ root,
    (repeatingReader standalone content).startTag "r" [("a", repeatingPieces count)] true =
      some { repeatingReader standalone content with root := some root } := by
  obtain ⟨value, hvalue⟩ := exists_givenAttribute_repeating standalone hcontent count
  have hvalues : [("a", repeatingPieces count)].mapM
      (Reader.givenAttribute? (repeatingDefinitions standalone content) "r") =
        some [("a", value)] := by
    rw [List.mapM_cons, hvalue]
    rfl
  have hword : boundWord? "a" = none := by decide +kernel
  have hbind : Scope.outermost.bindAll? [("a", value)] = some Scope.outermost := by
    rw [Scope.bindAll?, List.foldlM_cons, hword]
    rfl
  have hname : Scope.outermost.elementName? "r" = some ⟨"", "r"⟩ := rfl
  have hattributes : Scope.outermost.attributes? [("a", value)] =
      some [(.plain "a", value)] := by
    have hplain : Scope.outermost.attributeName? "a" = some (.plain "a") := by decide +kernel
    simp only [Scope.attributes?, hword, hplain, List.filter_cons, List.filter_nil, List.mapM_cons,
      List.mapM_nil, Option.isNone_none, if_true]
    rfl
  -- the one attribute is neither a binding nor in a namespace, and the document type adds none
  have hopened : (repeatingReader standalone content).opened? "r" [("a", repeatingPieces count)] =
        some ⟨"r", ⟨"", "r"⟩, [(.plain "a", value)], .outermost, [], []⟩ := by
    rw [Reader.opened?]
    have hnames : ["a"].Nodup := by decide
    have hdefault : Reader.defaultAttributes (repeatingDefinitions standalone content) "r" ["a"] =
        [] := rfl
    have hscope : (repeatingReader standalone content).scope = Scope.outermost := rfl
    have hdefinitions : (repeatingReader standalone content).definitions =
        repeatingDefinitions standalone content := rfl
    simp only [List.map_singleton, hnames, decide_true, Bool.not_true,
      Bool.false_eq_true, if_false, hdefinitions, hvalues, hdefault, List.append_nil,
      hscope, hbind, hname, hattributes, Option.bind_eq_bind, Option.bind_some]
    rfl
  exact ⟨.element ⟨"", "r"⟩ [(.plain "a", value)] [], by
    rw [Reader.startTag, hopened]
    rfl⟩

/-- But for the limit on expansions the document has a root element, whatever letters names may
hold. -/
theorem exists_rootOfChars?_repeating (hcontent : ∀ c ∈ content, IsLiteral c) (count : ℕ) :
    ∃ root, ∀ alphabet,
      rootOfChars? alphabet { standalone } (repeating content count) = some root := by
  have hchars := @allowed_repeating content count hcontent
  have hallowed : (repeating content count).all isAllowed = true :=
    List.all_eq_true.2 fun c hc => (hchars c hc).1
  have hunified : unifyLineEnds (repeating content count) = repeating content count := by
    rw [unifyLineEnds_eq, unifyFrom_of_forall_ne fun c hc => (hchars c hc).2]
  -- the document type defines the entity, and the one tag becomes the root
  have hdoctype : Reader.doctype .common { definitions := { standalone } }
      (repeatingParts content) = some (repeatingReader standalone content) := by
    rw [Reader.doctype]
    simp only [ofTokens?_repeatingParts, ofDoctype_repeatingParts standalone hcontent,
      Option.bind_eq_bind, Option.bind_some]
    rfl
  obtain ⟨root, hroot⟩ := startTag_repeating standalone hcontent count
  have hcommon : rootOfChars? .common { standalone } (repeating content count) = some root := by
    rw [rootOfChars?, if_pos hallowed, hunified, ofChars?_repeating hcontent, Option.bind_eq_bind,
      Option.bind_some, rootOf?, repeatingTokens, List.foldlM_cons, Reader.add, hdoctype]
    simp only [Option.bind_eq_bind, Option.bind_some, List.foldlM_cons, Reader.add, hroot]
    rfl
  refine ⟨root, fun alphabet => ?_⟩
  -- the wide alphabet reads what the common one reads
  cases alphabet with
  | common => exact hcommon
  | wide => exact rootOfChars?_yields (fun c _ => Alphabet.yields_common_wide c) hcommon

end Reading

end RackElevation.Markup
