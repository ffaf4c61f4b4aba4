import RackElevation.Markup.Document
import RackElevation.Proofs.Markup.Lexing

/-!
# Documents of written trees

The tokens of a written tree are put together into the tree with its names expanded.  Escaped values
hold no other entities than those that are always defined, so nothing is expanded on the way and
every attribute gets back its value.
-/

namespace RackElevation.Markup

namespace Node

mutual

/-- A tree with its names expanded in a scope, without the attributes that bind namespaces. -/
def expand? (scope : Scope) : Node String → Option (Node ExpandedName)
  | .text content => some (.text content)
  | .element name attributes children => do
      let inner ← scope.bindAll? attributes
      let expanded ← inner.elementName? name
      let own ← inner.attributes? attributes
      return .element expanded own (← expandRow? inner children)

/-- A row of such trees. -/
def expandRow? (scope : Scope) : List (Node String) → Option (List (Node ExpandedName))
  | [] => some []
  | node :: rest => do
      let tree ← expand? scope node
      return tree :: (← expandRow? scope rest)

end

end Node

/-! ## Values -/

section Values

variable {d : Definitions}

/-- A piece of a written value is read as its character. -/
theorem addPiece_valuePiece (add : List Piece → List Char → Option (List Char))
    (read : List Char) (c : Char) : d.addPiece add read (valuePiece c) = some (c :: read) := by
  cases c using escapeValueChar_cases with
  | quot => rfl
  | cr => rfl
  | lf => rfl
  | tab => rfl
  | other c hquot hcr hlf htab =>
      cases c using escapeTextChar_cases with
      | amp => rfl
      | lt => rfl
      | gt => rfl
      | other c hamp hlt hgt =>
          rw [valuePiece_of_ne hquot hcr hlf htab hamp hlt hgt, Definitions.addPiece]
          -- the only white space that is not escaped is the space, which stays a space
          by_cases hspace : c = ' '
          · subst hspace; rfl
          · have hc : isSpace c = false := by
              simp only [isSpace, Bool.or_eq_false_iff, beq_eq_false_iff_ne]
              exact ⟨⟨⟨hspace, htab⟩, hlf⟩, hcr⟩
            rw [hc, if_neg Bool.false_ne_true]

/-- The pieces of a written value are read as its characters. -/
theorem foldlM_addPiece_valuePiece (add : List Piece → List Char → Option (List Char))
    (cs read : List Char) :
    (cs.map valuePiece).foldlM (d.addPiece add) read = some (cs.reverse ++ read) := by
  induction cs generalizing read with
  | nil => rfl
  | cons c cs ih =>
      rw [List.map_cons, List.foldlM_cons, addPiece_valuePiece, Option.bind_eq_bind,
        Option.bind_some, ih, List.reverse_cons, List.append_assoc, List.singleton_append]

theorem addPieces_succ (depth : ℕ) (pieces : List Piece) (read : List Char) :
    d.addPieces (depth + 1) pieces read = pieces.foldlM (d.addPiece (d.addPieces depth)) read := rfl

/-- An attribute gets back its value. -/
theorem value?_valuePiece (cs : List Char) : d.value? true (cs.map valuePiece) = some cs := by
  rw [Definitions.value?, Definitions.depth, addPieces_succ, foldlM_addPiece_valuePiece,
    Option.bind_eq_bind, Option.bind_some, List.append_nil]
  exact congrArg some (List.reverse_reverse cs)

/-- Without rules no attribute has one. -/
theorem rule?_of_rules_eq_nil (hd : d.rules = []) (element name : String) :
    d.rule? element name = none := by
  rw [Definitions.rule?, Definitions.rulesOf, hd]
  rfl

/-- The attributes of a tag get back their values. -/
theorem mapM_givenAttribute_cutAttribute (hd : d.rules = []) (tag : String)
    (attributes : List (String × String)) :
    (attributes.map cutAttribute).mapM (Reader.givenAttribute? d tag) = some attributes := by
  induction attributes with
  | nil => rfl
  | cons entry attributes ih =>
      -- without rules every value is a text, and is expanded to what was written
      have hentry : Reader.givenAttribute? d tag (cutAttribute entry) = some entry := by
        simp only [Reader.givenAttribute?, cutAttribute, rule?_of_rules_eq_nil hd, Option.map_none,
          Option.getD_none, value?_valuePiece, Option.bind_eq_bind, Option.bind_some,
          String.ofList_toList, Option.pure_def]
      rw [List.map_cons, List.mapM_cons, hentry, ih]
      rfl

end Values

/-! ## Open elements -/

/-- An open element with more children, some text of it possibly pending. -/
structure OpenElement.Extended (e e' : OpenElement) (trees : List (Node ExpandedName)) : Prop where
  tag : e'.tag = e.tag
  name : e'.name = e.name
  attributes : e'.attributes = e.attributes
  scope : e'.scope = e.scope
  allChildren : e'.allChildren = trees.reverse ++ e.allChildren

namespace OpenElement.Extended

variable {e e' e'' : OpenElement} {trees trees' : List (Node ExpandedName)}

theorem refl (e : OpenElement) : Extended e e [] :=
  ⟨rfl, rfl, rfl, rfl, rfl⟩

/-- What is added to an element in two parts is added in their order. -/
theorem trans (h : Extended e e' trees) (h' : Extended e' e'' trees') :
    Extended e e'' (trees ++ trees') where
  tag := h'.tag.trans h.tag
  name := h'.name.trans h.name
  attributes := h'.attributes.trans h.attributes
  scope := h'.scope.trans h.scope
  allChildren := by
    rw [h'.allChildren, h.allChildren, List.reverse_append, List.append_assoc]

/-- A child is added behind what an element holds. -/
theorem addChild (e : OpenElement) (tree : Node ExpandedName) :
    Extended e (e.addChild tree) [tree] :=
  ⟨rfl, rfl, rfl, rfl, rfl⟩

/-- A text is added behind what an element holds, if its last child is no text. -/
theorem addText (htext : e.text = []) {content : String} (hcontent : content ≠ "") :
    Extended e (e.addText content.toList.reverse) [.text content] := by
  refine ⟨rfl, rfl, rfl, rfl, ?_⟩
  have hne : content.toList.reverse.isEmpty = false := by
    rw [List.isEmpty_eq_false_iff, ne_eq, List.reverse_eq_nil_iff, String.toList_eq_nil_iff]
    exact hcontent
  simp only [OpenElement.allChildren, OpenElement.addText, htext, List.append_nil, hne,
    List.reverse_reverse, String.ofList_toList]
  rfl

/-- The finished element. -/
theorem node (h : Extended e e' trees) (hchildren : e.allChildren = []) :
    e'.node = .element e.name e.attributes trees := by
  rw [OpenElement.node, h.name, h.attributes, h.allChildren, hchildren, List.append_nil,
    List.reverse_reverse]

end OpenElement.Extended

/-! ## Tokens -/

namespace Reader

variable {alphabet : Alphabet} {addAll : List Token → Reader → Option Reader} {r : Reader}

/-- A reader of the document itself, without rules for attributes. -/
structure IsPlain (r : Reader) : Prop where
  rules : r.definitions.rules = []
  floor : r.floor = 0

/-- The start tag of a written element opens the element with its expanded name. -/
theorem opened?_cutAttribute (hr : r.IsPlain) {name : String} {attributes : List (String × String)}
    (htag : WritableTag name attributes) {inner : Scope}
    (hinner : r.scope.bindAll? attributes = some inner)
    {expanded : ExpandedName} (hname : inner.elementName? name = some expanded)
    {own : List (ExpandedName × String)} (hown : inner.attributes? attributes = some own) :
    r.opened? name (attributes.map cutAttribute) =
      some { tag := name, name := expanded, attributes := own, scope := inner } := by
  have hnames : (attributes.map cutAttribute).map (·.1) = attributes.map Prod.fst := by
    rw [List.map_map]
    rfl
  -- no rule gives an attribute that is missing
  have hdefault : defaultAttributes r.definitions name (attributes.map Prod.fst) = [] := by
    rw [defaultAttributes, Definitions.rulesOf, hr.rules]
    rfl
  simp only [opened?, hnames, htag.nodup, decide_true, Bool.not_true, Bool.false_eq_true, if_false,
    mapM_givenAttribute_cutAttribute hr.rules, hdefault, List.append_nil, Option.bind_eq_bind,
    Option.bind_some, hinner, hname, hown]
  rfl

/-- A reader takes a text into the innermost element. -/
theorem addText_of_parents {e : OpenElement} {outer : List OpenElement}
    (hparents : r.parents = e :: outer) (cs : List Char) :
    r.addText cs = some { r with parents := e.addText cs :: outer } := by
  rw [addText, hparents]

/-- A character of escaped text. -/
theorem add_textToken {e : OpenElement} {outer : List OpenElement}
    (hparents : r.parents = e :: outer) (c : Char) :
    r.add alphabet addAll (textToken c) = some { r with parents := e.addText [c] :: outer } := by
  have hentity (name : String) (hname : predefined? name = some c) :
      r.entity addAll name = some { r with parents := e.addText [c] :: outer } := by
    rw [entity, hname]
    exact addText_of_parents hparents [c]
  -- three characters are written as predefined entities, the others as they are
  cases c using escapeTextChar_cases with
  | amp => exact hentity "amp" rfl
  | lt => exact hentity "lt" rfl
  | gt => exact hentity "gt" rfl
  | other c hamp hlt hgt =>
      rw [textToken_of_ne hamp hlt hgt, add, addChar, hparents]
      exact addText_of_parents hparents [c]

/-- The tokens of escaped text add the text. -/
theorem foldlM_add_textTokens {e : OpenElement} {outer : List OpenElement}
    (hparents : r.parents = e :: outer) (cs : List Char) :
    (cs.map textToken).foldlM (add alphabet addAll) r =
      some { r with parents := e.addText cs.reverse :: outer } := by
  induction cs generalizing r e with
  | nil =>
      have hsame : ({ r with parents := e :: outer } : Reader) = r := by rw [← hparents]
      exact congrArg some hsame.symm
  | cons c cs ih =>
      rw [List.map_cons, List.foldlM_cons, add_textToken hparents, Option.bind_eq_bind,
        Option.bind_some, ih rfl, OpenElement.addText, OpenElement.addText, OpenElement.addText,
        List.reverse_cons, List.append_assoc]

/-- A reader takes a tree into the innermost element. -/
theorem addNode_of_parents {e : OpenElement} {outer : List OpenElement}
    (hparents : r.parents = e :: outer) (tree : Node ExpandedName) :
    r.addNode tree = some { r with parents := e.addChild tree :: outer } := by
  rw [addNode, hparents]

/-- The scope of a reader is that of the innermost element. -/
theorem scope_of_parents {e : OpenElement} {outer : List OpenElement}
    (hparents : r.parents = e :: outer) : r.scope = e.scope := by
  rw [scope, hparents]

/-- The end tag of an open element adds the finished element to what is around it. -/
theorem add_endTag (hr : r.IsPlain) {e : OpenElement} {outer : List OpenElement}
    (hparents : r.parents = e :: outer) :
    r.add alphabet addAll (.endTag e.tag) = addNode { r with parents := outer } e.node := by
  simp only [add, endTag, hparents, mayEnd, hr.floor, beq_self_eq_true, Bool.true_or, Bool.and_self,
    if_true]

mutual

/-- The tokens of a written element add its expanded tree to what is around it. -/
theorem foldlM_add_tokens : ∀ {node : Node String}, node.Tidy → node.isElement = true →
    ∀ (r : Reader) (tree : Node ExpandedName), r.IsPlain →
      (r.parents.isEmpty && r.root.isSome) = false → node.expand? r.scope = some tree →
      node.tokens.foldlM (add alphabet addAll) r = r.addNode tree
  | .element name attributes [], h, _ => by
      intro r tree hr hroom htree
      simp only [Node.expand?, Node.expandRow?, Option.bind_eq_bind, Option.bind_some,
        Option.bind_eq_some_iff, Option.pure_def, Option.some.injEq] at htree
      obtain ⟨inner, hinner, expanded, hname, own, hown, rfl⟩ := htree
      simp only [Node.tokens, List.foldlM_cons, List.foldlM_nil, add, startTag, hroom,
        Bool.false_eq_true, if_false, opened?_cutAttribute hr h.1 hinner hname hown,
        Option.bind_eq_bind, Option.bind_some, if_true, bind_pure]
      rfl
  | .element name attributes (child :: rest), h, _ => by
      intro r tree hr hroom htree
      simp only [Node.expand?, Option.bind_eq_bind, Option.bind_eq_some_iff, Option.pure_def,
        Option.some.injEq] at htree
      obtain ⟨inner, hinner, expanded, hname, own, hown, trees, htrees, rfl⟩ := htree
      -- the start tag opens the element, the children extend it, and the end tag closes it
      set e : OpenElement := { tag := name, name := expanded, attributes := own, scope := inner }
      have hopened := opened?_cutAttribute hr h.1 hinner hname hown
      obtain ⟨e', hrow, hextended⟩ := foldlM_add_tokensOfRow h.2
        { r with parents := e :: r.parents } e r.parents trees ⟨hr.rules, hr.floor⟩ rfl (Or.inl rfl)
        htrees
      have hstart : r.add alphabet addAll (.startTag name (attributes.map cutAttribute) false) =
          some { r with parents := e :: r.parents } := by
        simp only [add, startTag, hroom, Bool.false_eq_true, if_false, hopened, Option.bind_eq_bind,
          Option.bind_some]
        rfl
      have hend := @add_endTag alphabet addAll { r with parents := e' :: r.parents }
        ⟨hr.rules, hr.floor⟩ e' r.parents rfl
      rw [hextended.tag] at hend
      have hnode : e'.node = .element expanded own trees := hextended.node rfl
      rw [Node.tokens_element_cons, List.foldlM_cons, hstart, Option.bind_eq_bind, Option.bind_some,
        List.foldlM_append, hrow, Option.bind_eq_bind, Option.bind_some,
        List.foldlM_cons, hend, hnode]
      exact bind_pure _

/-- The tokens of a written row of trees extend the innermost open element. -/
theorem foldlM_add_tokensOfRow : ∀ {nodes : List (Node String)}, Node.TidyRow nodes →
    ∀ (r : Reader) (e : OpenElement) (outer : List OpenElement)
      (trees : List (Node ExpandedName)), r.IsPlain → r.parents = e :: outer →
      (e.text = [] ∨ ∀ next ∈ nodes.head?, next.isElement = true) →
      Node.expandRow? e.scope nodes = some trees →
      ∃ e', (Node.tokensOfRow nodes).foldlM (add alphabet addAll) r =
        some { r with parents := e' :: outer } ∧ e.Extended e' trees
  | [], _ => by
      intro r e outer trees _ hparents _ htrees
      obtain rfl := Option.some.inj htrees
      have hsame : ({ r with parents := e :: outer } : Reader) = r := by rw [← hparents]
      exact ⟨e, congrArg some hsame.symm, .refl e⟩
  | .text content :: nodes, h => by
      intro r e outer trees hr hparents htext htrees
      -- no text is pending before a text, and none comes after it, so it stays a node of its own
      have hpending : e.text = [] := htext.resolve_right fun hnext =>
        Bool.false_ne_true (hnext _ rfl)
      have hnext := h.2.1.resolve_left Bool.false_ne_true
      simp only [Node.expandRow?, Node.expand?, Option.bind_eq_bind, Option.bind_some,
        Option.bind_eq_some_iff, Option.pure_def, Option.some.injEq] at htrees
      obtain ⟨rest, hrest, rfl⟩ := htrees
      obtain ⟨e', hrow, hextended⟩ := foldlM_add_tokensOfRow h.2.2
        { r with parents := e.addText content.toList.reverse :: outer } _ outer rest
        ⟨hr.rules, hr.floor⟩ rfl (Or.inr hnext) hrest
      refine ⟨e', ?_, (OpenElement.Extended.addText hpending h.1.1).trans hextended⟩
      rw [Node.tokensOfRow, Node.tokens, List.foldlM_append, foldlM_add_textTokens hparents,
        Option.bind_eq_bind, Option.bind_some, hrow]
  | .element name attributes children :: nodes, h => by
      intro r e outer trees hr hparents _ htrees
      simp only [Node.expandRow?, Option.bind_eq_bind, Option.bind_eq_some_iff, Option.pure_def,
        Option.some.injEq] at htrees
      obtain ⟨tree, htree, rest, hrest, rfl⟩ := htrees
      -- an element ends the text before it, so a text may follow again
      have hnode := foldlM_add_tokens h.1 rfl r tree hr
        (by rw [hparents]; rfl) (by rw [scope_of_parents hparents, htree])
      rw [addNode_of_parents hparents] at hnode
      obtain ⟨e', hrow, hextended⟩ := foldlM_add_tokensOfRow h.2.2
        { r with parents := e.addChild tree :: outer } _ outer rest ⟨hr.rules, hr.floor⟩ rfl
        (Or.inl rfl) hrest
      refine ⟨e', ?_, (OpenElement.Extended.addChild e tree).trans hextended⟩
      rw [Node.tokensOfRow, List.foldlM_append, hnode, Option.bind_eq_bind, Option.bind_some, hrow]

end

end Reader

end RackElevation.Markup
