/-!
# Element trees

The tree of a document: elements with a name, attributes and children, and runs of text between
them.  The type of names is a parameter.  A tree to be written has names as they are written; a tree
that was read has expanded names, which pair a namespace with a local name.
-/

namespace RackElevation.Markup

/-- An element or a run of text, with names of a given type. -/
inductive Node (Name : Type) where
  | element (name : Name) (attributes : List (Name × String)) (children : List (Node Name))
  | text (content : String)

/-- A name together with its namespace, which is empty for a name in no namespace. -/
structure ExpandedName where
  space : String
  localPart : String
  deriving DecidableEq, Repr

/-- A name in no namespace. -/
def ExpandedName.plain (name : String) : ExpandedName :=
  ⟨"", name⟩

namespace Node

variable {Name : Type}

mutual

/-- The text of a tree in document order. -/
def textContent : Node Name → String
  | .text content => content
  | .element _ _ children => textContents children

/-- The text of a row of trees in document order. -/
def textContents : List (Node Name) → String
  | [] => ""
  | node :: rest => textContent node ++ textContents rest

end

mutual

/-- The number of elements inside each other in a tree. -/
def levels : Node Name → Nat
  | .text _ => 0
  | .element _ _ children => levelsOfRow children + 1

/-- The number of elements inside each other in a row of trees. -/
def levelsOfRow : List (Node Name) → Nat
  | [] => 0
  | node :: rest => max (levels node) (levelsOfRow rest)

end

/-- The children of an element. -/
def children : Node Name → List (Node Name)
  | .element _ _ children => children
  | .text _ => []

/-- Whether a node is an element. -/
def isElement : Node Name → Bool
  | .element .. => true
  | .text _ => false

/-- The elements among the children of an element. -/
def childElements (node : Node Name) : List (Node Name) :=
  node.children.filter isElement

/-- The value of the attribute with a given name. -/
def attribute? [DecidableEq Name] (node : Node Name) (name : Name) : Option String :=
  match node with
  | .element _ attributes _ => (attributes.find? (·.1 = name)).map (·.2)
  | .text _ => none

mutual

/-- Equality of trees can be decided. -/
def decEq [DecidableEq Name] : (a b : Node Name) → Decidable (a = b)
  | .text s, .text t => decidable_of_iff (s = t) (Node.text.injEq s t ▸ Iff.rfl)
  | .text _, .element .. => isFalse nofun
  | .element .., .text _ => isFalse nofun
  | .element n as cs, .element m bs ds =>
      have : Decidable (cs = ds) := decEqRow cs ds
      decidable_of_iff (n = m ∧ as = bs ∧ cs = ds) (Node.element.injEq n as cs m bs ds ▸ Iff.rfl)

/-- Equality of rows of trees can be decided. -/
def decEqRow [DecidableEq Name] : (as bs : List (Node Name)) → Decidable (as = bs)
  | [], [] => isTrue rfl
  | [], _ :: _ => isFalse nofun
  | _ :: _, [] => isFalse nofun
  | a :: as, b :: bs =>
      have : Decidable (a = b) := decEq a b
      have : Decidable (as = bs) := decEqRow as bs
      decidable_of_iff (a = b ∧ as = bs) (List.cons.injEq a as b bs ▸ Iff.rfl)

end

instance [DecidableEq Name] : DecidableEq (Node Name) := decEq

/-- The row of nodes for a text: none for the empty text. -/
def ofText (content : String) : List (Node Name) :=
  if content.isEmpty then [] else [.text content]

theorem levelsOfRow_ofText (content : String) :
    levelsOfRow (ofText content : List (Node Name)) = 0 := by
  rw [ofText]
  split <;> rfl

end Node

end RackElevation.Markup
