import RackElevation.Proofs.Markup.LineEnds

/-!
# Tokens of written trees

A written tree is read into the tokens that mirror its shape: one start tag for each element, its
attribute values cut where they were escaped, one token for each character of text, and an end tag
for an element with children.

What the reader does with some characters is stated by `Reads`, which runs it from one mode to
another and names the tokens that end on the way.
-/

namespace RackElevation.Markup

/-- The token of a character of text after escaping. -/
def textToken : Char → Token
  | '&' => .entity "amp"
  | '<' => .entity "lt"
  | '>' => .entity "gt"
  | c => .char c

/-- The piece of a character of an attribute value after escaping. -/
def valuePiece : Char → Piece
  | '\x22' => .entity "quot"
  | '\r' => .numbered '\r'
  | '\n' => .numbered '\n'
  | '\t' => .numbered '\t'
  | '&' => .entity "amp"
  | '<' => .entity "lt"
  | '>' => .entity "gt"
  | c => .char c

/-- An attribute with its value cut where it is escaped. -/
def cutAttribute (entry : String × String) : String × List Piece :=
  (entry.1, entry.2.toList.map valuePiece)

namespace Node

mutual

/-- The tokens of a written tree. -/
def tokens : Node String → List Token
  | .text content => content.toList.map textToken
  | .element name attributes [] => [.startTag name (attributes.map cutAttribute) true]
  | .element name attributes (child :: rest) =>
      .startTag name (attributes.map cutAttribute) false ::
        (tokens child ++ tokensOfRow rest ++ [.endTag name])

/-- The tokens of a written row of trees. -/
def tokensOfRow : List (Node String) → List Token
  | [] => []
  | node :: rest => tokens node ++ tokensOfRow rest

end

/-- An element with children is a start tag, the tokens of its children, and an end tag. -/
theorem tokens_element_cons (name : String) (attributes : List (String × String))
    (child : Node String) (rest : List (Node String)) :
    tokens (.element name attributes (child :: rest)) =
      .startTag name (attributes.map cutAttribute) false ::
        (tokensOfRow (child :: rest) ++ [.endTag name]) := rfl

end Node

/-- A character of a text is no document type. -/
theorem textToken_ne_doctype (c : Char) (parts : List DoctypeToken) :
    textToken c ≠ .doctype parts := by
  unfold textToken
  split <;> exact Token.noConfusion

namespace Node

mutual

/-- A written tree has no document type. -/
theorem doctype_notMem_tokens : ∀ (node : Node String) (parts : List DoctypeToken),
    .doctype parts ∉ node.tokens
  | .text content, parts => by
      rw [tokens, List.mem_map]
      rintro ⟨c, -, hc⟩
      exact textToken_ne_doctype c parts hc
  | .element name attributes [], parts => by simp [tokens]
  | .element name attributes (child :: rest), parts => by
      have hrow := doctype_notMem_tokensOfRow (child :: rest) parts
      rw [tokens_element_cons]
      simp [hrow]

/-- Nor has a written row of trees. -/
theorem doctype_notMem_tokensOfRow : ∀ (nodes : List (Node String)) (parts : List DoctypeToken),
    .doctype parts ∉ tokensOfRow nodes
  | [], _ => List.not_mem_nil
  | node :: rest, parts => by
      rw [tokensOfRow, List.mem_append]
      exact not_or.2 ⟨doctype_notMem_tokens node parts, doctype_notMem_tokensOfRow rest parts⟩

end

end Node

/-! ## Cutting values -/

/-- A character without an escape is a piece of a value by itself. -/
theorem valuePiece_of_ne {c : Char} (hquot : c ≠ '\x22') (hcr : c ≠ '\r') (hlf : c ≠ '\n')
    (htab : c ≠ '\t') (hamp : c ≠ '&') (hlt : c ≠ '<') (hgt : c ≠ '>') :
    valuePiece c = .char c := by
  unfold valuePiece
  split <;> first | contradiction | rfl

/-- One escaped character is cut into its piece. -/
theorem foldlM_add_escapeValueChar (c : Char) (pieces : List Piece) :
    (escapeValueChar c).foldlM (Cutting.add .common) ⟨pieces, none⟩ =
      some ⟨valuePiece c :: pieces, none⟩ := by
  cases c using escapeValueChar_cases with
  | quot => rfl
  | cr => rfl
  | lf => rfl
  | tab => rfl
  | other c hquot hcr hlf htab =>
      rw [escapeValueChar_of_ne hquot hcr hlf htab]
      cases c using escapeTextChar_cases with
      | amp => rfl
      | lt => rfl
      | gt => rfl
      | other c hamp hlt hgt =>
          rw [escapeTextChar_of_ne hamp hlt hgt,
            valuePiece_of_ne hquot hcr hlf htab hamp hlt hgt, List.foldlM_cons, Cutting.add]
          simp only [beq_eq_false_iff_ne.2 hamp]
          rfl

/-- An escaped value is cut into one piece for each character. -/
theorem foldlM_add_escapeValue (cs : List Char) (pieces : List Piece) :
    (escapeValue cs).foldlM (Cutting.add .common) ⟨pieces, none⟩ =
      some ⟨(cs.map valuePiece).reverse ++ pieces, none⟩ := by
  induction cs generalizing pieces with
  | nil => rfl
  | cons c cs ih =>
      rw [escapeValue, List.flatMap_cons, ← escapeValue, List.foldlM_append,
        foldlM_add_escapeValueChar, Option.bind_eq_bind, Option.bind_some, ih, List.map_cons,
        List.reverse_cons, List.append_assoc, List.singleton_append]

/-- An escaped value opens no tag. -/
theorem not_mem_escapeValue (cs : List Char) : '<' ∉ escapeValue cs := by
  intro h
  obtain ⟨c, -, hc⟩ := List.mem_flatMap.1 h
  rcases mem_escapeValueChar hc with hc | ⟨rfl, hlt, -⟩
  · exact absurd hc (by decide)
  · exact hlt rfl

/-- A value without an angle bracket is cut like any text. -/
theorem attributePieces?_of_notMem (alphabet : Alphabet) {cs : List Char} (h : '<' ∉ cs) :
    attributePieces? alphabet cs = pieces? alphabet cs := by
  rw [← List.contains_iff_mem] at h
  rw [attributePieces?, if_neg h]

/-- An escaped value is cut where it was escaped. -/
theorem attributePieces?_escapeValue (cs : List Char) :
    attributePieces? .common (escapeValue cs) = some (cs.map valuePiece) := by
  rw [attributePieces?_of_notMem .common (not_mem_escapeValue cs), pieces?,
    foldlM_add_escapeValue, Option.bind_eq_bind, Option.bind_some, List.append_nil,
    List.reverse_reverse]
  rfl

/-! ## Runs of the reader -/

/-- The reader goes from one mode to another over some characters, and some tokens end on the way.
-/
def Reads (mode : Mode) (cs : List Char) (mode' : Mode) (tokens : List Token) : Prop :=
  ∀ before, cs.foldlM (Token.read .common) (mode, before) = some (mode', tokens.reverse ++ before)

namespace Reads

variable {mode mode' mode'' : Mode} {c : Char} {cs cs' : List Char} {tokens tokens' : List Token}

theorem nil : Reads mode [] mode [] :=
  fun _ => rfl

/-- What is read after something else yields its tokens after the others. -/
theorem append (h : Reads mode cs mode' tokens) (h' : Reads mode' cs' mode'' tokens') :
    Reads mode (cs ++ cs') mode'' (tokens ++ tokens') := by
  intro before
  rw [List.foldlM_append, h, Option.bind_eq_bind, Option.bind_some, h', List.reverse_append,
    List.append_assoc]

/-- A step reads one character. -/
theorem single (h : mode.step .common c = some (mode', tokens)) : Reads mode [c] mode' tokens := by
  intro before
  rw [List.foldlM_cons, Token.read, h]
  rfl

/-- A step reads the first character, and the others are read after it. -/
theorem cons (h : mode.step .common c = some (mode', tokens)) (h' : Reads mode' cs mode'' tokens') :
    Reads mode (c :: cs) mode'' (tokens ++ tokens') :=
  (single h).append h'

/-- A character that ends no token. -/
theorem skip (h : mode.step .common c = some (mode', [])) (h' : Reads mode' cs mode'' tokens) :
    Reads mode (c :: cs) mode'' tokens :=
  cons h h'

/-- Modes that treat the first character alike read alike. -/
theorem congr (h : mode.step .common c = mode'.step .common c)
    (h' : Reads mode' (c :: cs) mode'' tokens) : Reads mode (c :: cs) mode'' tokens := by
  intro before
  rw [← h' before, List.foldlM_cons, List.foldlM_cons, Token.read, Token.read, h]

/-- Characters that are only kept. -/
theorem keep {f : List Char → Mode}
    (h : ∀ read, ∀ c ∈ cs, (f read).step .common c = some (f (c :: read), [])) (read : List Char) :
    Reads (f read) cs (f (cs.reverse ++ read)) [] := by
  induction cs generalizing read with
  | nil => exact nil
  | cons c cs ih =>
      rw [List.reverse_cons, List.append_assoc]
      exact skip (h read c (List.mem_cons_self ..))
        (ih (fun read d hd => h read d (List.mem_cons_of_mem c hd)) (c :: read))

end Reads

/-- The reader goes from text to text over some characters, and some tokens end on the way. -/
def ReadsText (cs : List Char) (tokens : List Token) : Prop :=
  ∀ brackets, ∃ brackets', Reads (.text brackets) cs (.text brackets') tokens

namespace ReadsText

variable {cs cs' : List Char} {tokens tokens' : List Token}

theorem nil : ReadsText [] [] :=
  fun brackets => ⟨brackets, .nil⟩

/-- Texts are read one after the other. -/
theorem append (h : ReadsText cs tokens) (h' : ReadsText cs' tokens') :
    ReadsText (cs ++ cs') (tokens ++ tokens') := by
  intro brackets
  obtain ⟨between, h⟩ := h brackets
  obtain ⟨after, h'⟩ := h' between
  exact ⟨after, h.append h'⟩

end ReadsText

/-! ## Text -/

/-- A character without an escape is a token by itself. -/
theorem textToken_of_ne {c : Char} (hamp : c ≠ '&') (hlt : c ≠ '<') (hgt : c ≠ '>') :
    textToken c = .char c := by
  unfold textToken
  split <;> first | contradiction | rfl

/-- A character without an escape is taken into a text. -/
theorem exists_stepText {c : Char} (hamp : c ≠ '&') (hlt : c ≠ '<') (hgt : c ≠ '>') (brackets : ℕ) :
    ∃ brackets', Mode.stepText brackets c = some (.text brackets', [.char c]) := by
  unfold Mode.stepText
  split
  · contradiction
  · contradiction
  · exact ⟨brackets + 1, rfl⟩
  · contradiction
  · exact ⟨0, rfl⟩

/-- One escaped character of text is read into its token. -/
theorem readsText_escapeTextChar (c : Char) : ReadsText (escapeTextChar c) [textToken c] := by
  intro brackets
  cases c using escapeTextChar_cases with
  | amp => exact ⟨0, fun _ => rfl⟩
  | lt => exact ⟨0, fun _ => rfl⟩
  | gt => exact ⟨0, fun _ => rfl⟩
  | other c hamp hlt hgt =>
      obtain ⟨brackets', h⟩ := exists_stepText hamp hlt hgt brackets
      rw [escapeTextChar_of_ne hamp hlt hgt, textToken_of_ne hamp hlt hgt]
      exact ⟨brackets', .single h⟩

/-- An escaped text is read as its characters. -/
theorem readsText_escapeText (cs : List Char) :
    ReadsText (escapeText cs) (cs.map textToken) := by
  induction cs with
  | nil => exact .nil
  | cons c cs ih => exact (readsText_escapeTextChar c).append ih

/-! ## Tags -/

section Tags

variable {mode : Mode} {tag : OpenTag} {c : Char} {cs : List Char} {tokens : List Token}

/-- A character that may start a name opens a tag. -/
theorem step_opening (h : Alphabet.common.isStart c = true) :
    Mode.opening.step .common c = some (.openName [c], []) := by
  have hne (d : Char) (hd : d ∈ outsideNames) : (c == d) = false :=
    beq_eq_false_iff_ne.2 (ne_of_continuesName (continuesName_of_isStart h) hd)
  simp only [Mode.step, hne '!' (by decide), hne '?' (by decide), hne '/' (by decide), h, if_true,
    Bool.false_eq_true, if_false]

/-- After the name of a tag comes what comes after an attribute. -/
theorem step_openName {name : String} (hname : Alphabet.common.isQualifiedName name.toList = true)
    (hc : Mode.continuesName .common c = false) :
    (Mode.openName name.toList.reverse).step .common c =
      (Mode.inTag { name } false).step .common c := by
  simp only [Mode.step, hc, Mode.named?, List.reverse_reverse, hname, if_true, Bool.false_eq_true,
    if_false, Option.bind_eq_bind, Option.bind_some, String.ofList_toList]

/-- The name of a tag, up to a character that does not continue it. -/
theorem reads_name {name : String} (hname : Alphabet.common.isQualifiedName name.toList = true)
    (hc : Mode.continuesName .common c = false)
    (h : Reads (.inTag { name } false) (c :: cs) mode tokens) :
    Reads .opening (name.toList ++ c :: cs) mode tokens := by
  obtain ⟨d, rest, hd, hstart, hrest⟩ := exists_cons_of_isQualifiedName hname
  have hkeep : Reads (.openName [d]) rest (.openName (rest.reverse ++ [d])) [] := by
    refine .keep (fun read e he => ?_) [d]
    simp only [Mode.step, hrest e he, if_true]
  rw [← List.reverse_cons, ← hd] at hkeep
  rw [hd, List.cons_append]
  exact .skip (step_opening hstart) (hkeep.append (.congr (step_openName hname hc) h))

theorem stepTag_space (spaced : Bool) :
    (Mode.inTag tag spaced).step .common ' ' = some (.inTag tag true, []) := rfl

/-- After a blank a name starts an attribute. -/
theorem step_inTag_start (h : Alphabet.common.isStart c = true) :
    (Mode.inTag tag true).step .common c = some (.attributeName tag [c], []) := by
  have hcontinues := continuesName_of_isStart h
  have hne (d : Char) (hd : d ∈ outsideNames) : (c == d) = false :=
    beq_eq_false_iff_ne.2 (ne_of_continuesName hcontinues hd)
  simp only [Mode.step, Mode.stepTag, isSpace_eq_false_of_continuesName hcontinues,
    hne '>' (by decide), hne '/' (by decide), h, if_true, Bool.false_eq_true, if_false,
    Bool.and_self]

/-- The name of an attribute ends before its value. -/
theorem step_attributeName {name : String}
    (hname : Alphabet.common.isQualifiedName name.toList = true) :
    (Mode.attributeName tag name.toList.reverse).step .common '=' =
      some (.beforeValue tag name, []) := by
  have hend : Mode.continuesName .common '=' = false := continuesName_eq_false (by decide)
  simp only [Mode.step, hend, List.reverse_reverse, hname, if_true, Bool.false_eq_true, if_false,
    beq_self_eq_true, String.ofList_toList]

/-- A quote ends the value of an attribute. -/
theorem step_quoted {name : String} (cs : List Char) :
    (Mode.quoted tag name '\x22' (escapeValue cs).reverse).step .common '\x22' =
      some (.inTag { tag with attributes := (name, cs.map valuePiece) :: tag.attributes } false,
        []) := by
  simp only [Mode.step, beq_self_eq_true, if_true, List.reverse_reverse,
    attributePieces?_escapeValue, Option.bind_eq_bind, Option.bind_some]
  rfl

/-- An escaped value has no quotes. -/
theorem ne_quote_of_mem_escapeValue {cs : List Char} : ∀ c ∈ escapeValue cs, c ≠ '\x22' := by
  rintro d hd rfl
  obtain ⟨c, -, hc⟩ := List.mem_flatMap.1 hd
  rcases mem_escapeValueChar hc with hc | ⟨rfl, -, -, hquot, -⟩
  · exact absurd hc (by decide)
  · exact hquot rfl

/-- One written attribute. -/
theorem reads_writtenAttribute {entry : String × String}
    (hname : Alphabet.common.isQualifiedName entry.1.toList = true) :
    Reads (.inTag tag false) (writtenAttribute entry)
      (.inTag { tag with attributes := cutAttribute entry :: tag.attributes } false) [] := by
  obtain ⟨d, rest, hd, hstart, hrest⟩ := exists_cons_of_isQualifiedName hname
  have hkeepName : Reads (.attributeName tag [d]) rest
      (.attributeName tag (rest.reverse ++ [d])) [] := by
    refine .keep (fun read e he => ?_) [d]
    simp only [Mode.step, hrest e he, if_true]
  rw [← List.reverse_cons, ← hd] at hkeepName
  have hkeepValue : Reads (.quoted tag entry.1 '\x22' []) (escapeValue entry.2.toList)
      (.quoted tag entry.1 '\x22' ((escapeValue entry.2.toList).reverse ++ [])) [] := by
    refine .keep (fun read e he => ?_) []
    simp only [Mode.step, beq_eq_false_iff_ne.2 (ne_quote_of_mem_escapeValue e he),
      Bool.false_eq_true, if_false]
  rw [List.append_nil] at hkeepValue
  rw [writtenAttribute, hd, List.cons_append]
  refine .skip (stepTag_space false) (.skip (step_inTag_start hstart) (hkeepName.append ?_))
  refine .skip (step_attributeName hname) (.skip rfl (hkeepValue.append ?_))
  exact .single (step_quoted entry.2.toList)

/-- Written attributes are read one after the other. -/
theorem reads_writtenAttributes {attributes : List (String × String)}
    (hnames : ∀ entry ∈ attributes, Alphabet.common.isQualifiedName entry.1.toList = true)
    (tag : OpenTag) :
    Reads (.inTag tag false) (attributes.flatMap writtenAttribute)
      (.inTag { tag with attributes := (attributes.map cutAttribute).reverse ++ tag.attributes }
        false) [] := by
  induction attributes generalizing tag with
  | nil => exact .nil
  | cons entry attributes ih =>
      rw [List.flatMap_cons, List.map_cons, List.reverse_cons, List.append_assoc]
      exact (reads_writtenAttribute (hnames entry (List.mem_cons_self ..))).append
        (ih (fun e he => hnames e (List.mem_cons_of_mem entry he)) _)

end Tags

/-! ## Trees -/

namespace Node

/-- A tag up to the character after its last attribute. -/
theorem reads_tagChars {name : String} {attributes : List (String × String)}
    (htag : WritableTag name attributes) {mode : Mode} {c : Char} {cs : List Char}
    {tokens : List Token} (hc : Mode.continuesName .common c = false)
    (h : Reads (.inTag ⟨name, (attributes.map cutAttribute).reverse⟩ false) (c :: cs) mode tokens)
    (brackets : ℕ) :
    Reads (.text brackets) ('<' :: (tagChars name attributes ++ c :: cs)) mode tokens := by
  have hattributes := reads_writtenAttributes htag.names_ok { name }
  rw [List.append_nil] at hattributes
  have hrest := hattributes.append h
  rw [tagChars, List.append_assoc]
  refine .skip rfl ?_
  -- the name ends before a space if there are attributes, else before what follows them
  cases attributes with
  | nil => exact reads_name htag.name_ok hc hrest
  | cons entry attributes =>
      exact reads_name htag.name_ok (continuesName_eq_false (by decide)) hrest

/-- The token of a tag has its attributes in the order in which they are written. -/
theorem token_reverse (name : String) (attributes : List (String × List Piece)) (isEmpty : Bool) :
    OpenTag.token ⟨name, attributes.reverse⟩ isEmpty = .startTag name attributes isEmpty := by
  rw [OpenTag.token, List.reverse_reverse]

/-- Nothing is dropped from characters without blanks. -/
theorem dropFinalSpace_of_forall {cs : List Char} (h : ∀ c ∈ cs, isSpace c = false) :
    dropFinalSpace cs = cs := by
  rw [dropFinalSpace, dropSpace]
  cases hreverse : cs.reverse with
  | nil => rw [List.dropWhile_nil, ← hreverse, List.reverse_reverse]
  | cons c rest =>
      have hc : isSpace c = false := h c (List.mem_reverse.1 (hreverse ▸ List.mem_cons_self ..))
      rw [List.dropWhile_cons_of_neg (by rw [hc]; exact Bool.false_ne_true), ← hreverse,
        List.reverse_reverse]

/-- An end tag. -/
theorem readsText_endTag {name : String}
    (hname : Alphabet.common.isQualifiedName name.toList = true) :
    ReadsText ('<' :: '/' :: (name.toList ++ ['>'])) [.endTag name] := by
  intro brackets
  have hcontinues {c : Char} (hc : c ∈ name.toList) := continuesName_of_mem hname hc
  have hkeep : Reads (.closing []) name.toList (.closing (name.toList.reverse ++ [])) [] := by
    refine .keep (fun read c hc => ?_) []
    have hne : (c == '>') = false :=
      beq_eq_false_iff_ne.2 (ne_of_continuesName (hcontinues hc) (by decide))
    simp only [Mode.step, hne, Bool.false_eq_true, if_false]
  rw [List.append_nil] at hkeep
  have hspace : dropFinalSpace name.toList = name.toList :=
    dropFinalSpace_of_forall fun c hc => isSpace_eq_false_of_continuesName (hcontinues hc)
  refine ⟨0, .skip rfl (.skip rfl (hkeep.append (.single ?_)))⟩
  simp only [Mode.step, beq_self_eq_true, if_true, List.reverse_reverse, hspace, hname,
    String.ofList_toList]

mutual

/-- A written tree is read into its tokens. -/
theorem readsText_writtenChars :
    ∀ {node : Node String}, node.Tidy → ReadsText node.writtenChars node.tokens
  -- induction on the tree, along the three ways in which one is written
  | .text content, _ => readsText_escapeText content.toList
  | .element name attributes [], h => by
      intro brackets
      have hend : Reads (.inTag ⟨name, (attributes.map cutAttribute).reverse⟩ false)
          [' ', '/', '>'] (.text 0) [.startTag name (attributes.map cutAttribute) true] := by
        rw [← token_reverse]
        exact .skip rfl (.skip rfl (.single rfl))
      rw [writtenChars_element_nil]
      exact ⟨0, reads_tagChars h.1 (continuesName_eq_false (by decide)) hend brackets⟩
  | .element name attributes (child :: rest), h => by
      intro brackets
      obtain ⟨between, hrow⟩ := readsText_writtenRow h.2 0
      obtain ⟨after, hclose⟩ := readsText_endTag h.1.name_ok between
      have hend : Reads (.inTag ⟨name, (attributes.map cutAttribute).reverse⟩ false)
          ('>' :: (writtenRow (child :: rest) ++ '<' :: '/' :: (name.toList ++ ['>'])))
          (.text after)
          ([.startTag name (attributes.map cutAttribute) false] ++
            (tokensOfRow (child :: rest) ++ [.endTag name])) := by
        refine .cons ?_ (hrow.append hclose)
        rw [← token_reverse]
        rfl
      rw [writtenChars_element_cons]
      exact ⟨after, reads_tagChars h.1 (continuesName_eq_false (by decide)) hend brackets⟩

/-- A written row of trees is read into the tokens of the trees. -/
theorem readsText_writtenRow :
    ∀ {nodes : List (Node String)}, TidyRow nodes → ReadsText (writtenRow nodes) (tokensOfRow nodes)
  | [], _ => .nil
  | _ :: _, h => (readsText_writtenChars h.1).append (readsText_writtenRow h.2.2)

end

/-- What is read as a text has these tokens. -/
theorem ofChars?_of_readsText {cs : List Char} {tokens : List Token} (h : ReadsText cs tokens) :
    Token.ofChars? .common cs = some tokens := by
  obtain ⟨brackets, h⟩ := h 0
  rw [Token.ofChars?, h, Option.bind_eq_bind, Option.bind_some, List.append_nil]
  exact congrArg some (List.reverse_reverse tokens)

end Node

end RackElevation.Markup
