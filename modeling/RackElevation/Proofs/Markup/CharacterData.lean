import RackElevation.Markup.Node

/-!
# Character data

The text of an element is all character data inside it, put together in document order.  The
elements nested in it do not show: neither their names and attributes nor how deep they are nested
and where they cut the text.  That is all that does not show: two rows of nodes with one text can
be made from each other by taking tags away, putting tags in, and cutting and joining runs of
text.
-/

namespace RackElevation.Markup

namespace Node

variable {Name : Type}

mutual

/-- The runs of character data in a tree, in document order. -/
def runs : Node Name → List String
  | .text content => [content]
  | .element _ _ children => runsOfRow children

/-- The runs of character data in a row of trees, in document order. -/
def runsOfRow : List (Node Name) → List String
  | [] => []
  | node :: rest => runs node ++ runsOfRow rest

end

/-- All character data in a tree, put together in document order. -/
def characters (node : Node Name) : List Char :=
  node.runs.flatMap String.toList

mutual

/-- The text of a tree is its character data. -/
theorem toList_textContent : ∀ node : Node Name, node.textContent.toList = node.characters
  | .text content => by
      rw [textContent, characters, runs, List.flatMap_singleton]
  | .element _ _ children => by
      rw [textContent, toList_textContents children, characters, runs]

theorem toList_textContents : ∀ nodes : List (Node Name),
    (textContents nodes).toList = (runsOfRow nodes).flatMap String.toList
  | [] => rfl
  | node :: rest => by
      rw [textContents, String.toList_append, toList_textContent node, toList_textContents rest,
        runsOfRow, List.flatMap_append, characters]

end

theorem textContents_append (nodes nodes' : List (Node Name)) :
    textContents (nodes ++ nodes') = textContents nodes ++ textContents nodes' := by
  induction nodes with
  | nil => exact (String.empty_append ..).symm
  | cons node nodes ih => rw [List.cons_append, textContents, ih, textContents, String.append_assoc]

/-! ## Other tags -/

/-- Nodes with other tags in them: tags can be taken away or put in around any of them, and runs of
text can be cut and joined. -/
inductive Respelled : List (Node Name) → List (Node Name) → Prop where
  | refl (nodes : List (Node Name)) : Respelled nodes nodes
  | symm {nodes nodes' : List (Node Name)} : Respelled nodes nodes' → Respelled nodes' nodes
  | trans {nodes between nodes' : List (Node Name)} :
      Respelled nodes between → Respelled between nodes' → Respelled nodes nodes'
  | append {nodes nodes' rest rest' : List (Node Name)} :
      Respelled nodes nodes' → Respelled rest rest' → Respelled (nodes ++ rest) (nodes' ++ rest')
  | untagged (name : Name) (attributes : List (Name × String)) (children : List (Node Name)) :
      Respelled [.element name attributes children] children
  | cut (content rest : String) : Respelled [.text (content ++ rest)] [.text content, .text rest]
  | empty : Respelled [.text ""] []

/-- Other tags leave the text as it is. -/
theorem Respelled.textContents_eq {nodes nodes' : List (Node Name)} (h : Respelled nodes nodes') :
    textContents nodes = textContents nodes' := by
  induction h with
  | refl nodes => rfl
  | symm _ ih => exact ih.symm
  | trans _ _ ih ih' => exact ih.trans ih'
  | append _ _ ih ih' => rw [textContents_append, textContents_append, ih, ih']
  | untagged name attributes children =>
      rw [textContents, textContent, textContents, String.append_empty]
  | cut content rest =>
      simp only [textContents, textContent, String.append_empty]
  | empty => rfl

/-- Without its tags a row of nodes is its text. -/
theorem respelled_text : ∀ nodes : List (Node Name), Respelled nodes [.text (textContents nodes)]
  | [] => .symm .empty
  | .text content :: rest =>
      .trans (.append (.refl [.text content]) (respelled_text rest)) (.symm (.cut content _))
  | .element name attributes children :: rest =>
      -- the tag is taken away first, and then the children and the rest are joined
      .trans (.append (.trans (.untagged name attributes children) (respelled_text children))
        (respelled_text rest)) (.symm (.cut (textContents children) _))

/-- Nodes with other tags are the nodes with the same text. -/
theorem respelled_iff {nodes nodes' : List (Node Name)} :
    Respelled nodes nodes' ↔ textContents nodes = textContents nodes' := by
  refine ⟨Respelled.textContents_eq, fun h => .trans (respelled_text nodes) ?_⟩
  rw [h]
  exact .symm (respelled_text nodes')

end Node

end RackElevation.Markup
