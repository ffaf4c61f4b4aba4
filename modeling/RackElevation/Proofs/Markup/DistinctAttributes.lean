import Mathlib.Data.List.Nodup
import RackElevation.Markup.Source
import RackElevation.Proofs.Markup.Steps
import RackElevation.Proofs.Outcome

/-!
# Distinct attributes

No element of a tree that was read has two attributes of one name, whatever its source is.  An
element gets its attributes when it is opened, and from then on only its children and its text grow.
So the order of attributes does not matter for what is looked up among them.
-/

namespace RackElevation.Markup

/-- Attributes with distinct names. -/
def DistinctNames (attributes : List (ExpandedName × String)) : Prop :=
  (attributes.map (·.1)).Nodup

namespace Node

mutual

/-- A tree in which the attributes of every element have distinct names. -/
def Distinct : Node ExpandedName → Prop
  | .text _ => True
  | .element _ attributes children => DistinctNames attributes ∧ DistinctRow children

/-- A row of such trees. -/
def DistinctRow : List (Node ExpandedName) → Prop
  | [] => True
  | node :: rest => Distinct node ∧ DistinctRow rest

end

/-- The attributes of a row are distinct when those of each of its trees are. -/
theorem distinctRow_iff {nodes : List (Node ExpandedName)} :
    DistinctRow nodes ↔ ∀ node ∈ nodes, node.Distinct := by
  induction nodes with
  | nil => exact ⟨fun _ _ hnode => absurd hnode List.not_mem_nil, fun _ => trivial⟩
  | cons node nodes ih => rw [DistinctRow, ih, List.forall_mem_cons]

/-- The attributes of the children of an element are distinct when those of its tree are. -/
theorem Distinct.childElements {node : Node ExpandedName} (h : node.Distinct) :
    ∀ child ∈ node.childElements, child.Distinct := by
  intro child hchild
  cases node with
  | text content => exact absurd (List.mem_of_mem_filter hchild) List.not_mem_nil
  | element name attributes children =>
      exact distinctRow_iff.1 h.2 child (List.mem_of_mem_filter hchild)

/-- The attributes of an element. -/
def attributes : Node ExpandedName → List (ExpandedName × String)
  | .element _ attributes _ => attributes
  | .text _ => []

/-- Among distinct names a lookup finds what is there, in whatever order. -/
theorem attribute?_eq_some_iff {node : Node ExpandedName} (h : node.Distinct) {name : ExpandedName}
    {value : String} : node.attribute? name = some value ↔ (name, value) ∈ node.attributes := by
  cases node with
  | text content => exact iff_of_false (Option.some_ne_none value).symm List.not_mem_nil
  | element tag attributes children =>
      have hnodup : (attributes.map (·.1)).Nodup := h.1
      have hfound {entry : ExpandedName × String}
          (hentry : attributes.find? (·.1 = name) = some entry) : entry.1 = name := by
        simpa using List.find?_some hentry
      rw [attribute?, Option.map_eq_some_iff]
      constructor
      · rintro ⟨entry, hentry, rfl⟩
        rw [← hfound hentry]
        exact List.mem_of_find?_eq_some hentry
      · intro hmem
        obtain ⟨entry, hentry⟩ : ∃ entry, attributes.find? (·.1 = name) = some entry := by
          rw [← Option.isSome_iff_exists, List.find?_isSome]
          exact ⟨(name, value), hmem, decide_eq_true rfl⟩
        have hsame : entry = (name, value) :=
          List.inj_on_of_nodup_map hnodup (List.mem_of_find?_eq_some hentry) hmem (hfound hentry)
        exact ⟨entry, hentry, hsame ▸ rfl⟩

end Node

/-! ## Readers -/

/-- An open element whose attributes, and those of its children so far, have distinct names. -/
structure OpenElement.Distinct (e : OpenElement) : Prop where
  attributes : DistinctNames e.attributes
  children : ∀ child ∈ e.children, child.Distinct

namespace OpenElement.Distinct

variable {e : OpenElement}

/-- The children of an open element keep distinct attributes, its last text included. -/
theorem allChildren (h : e.Distinct) : ∀ child ∈ e.allChildren, child.Distinct := by
  rw [OpenElement.allChildren]
  split
  · exact h.children
  · exact List.forall_mem_cons.2 ⟨trivial, h.children⟩

/-- An open element that is closed becomes a tree with distinct attributes. -/
theorem node (h : e.Distinct) : e.node.Distinct :=
  ⟨h.attributes, Node.distinctRow_iff.2 fun child hchild =>
    h.allChildren child (List.mem_reverse.1 hchild)⟩

/-- A child with distinct attributes keeps those of an open element distinct. -/
theorem addChild (h : e.Distinct) {child : Node ExpandedName} (hchild : child.Distinct) :
    (e.addChild child).Distinct :=
  ⟨h.attributes, List.forall_mem_cons.2 ⟨hchild, h.allChildren⟩⟩

/-- A text keeps the attributes of an open element distinct. -/
theorem addText (h : e.Distinct) (cs : List Char) : (e.addText cs).Distinct :=
  ⟨h.attributes, h.children⟩

end OpenElement.Distinct

namespace Reader

/-- A reader of trees with distinct names of attributes. -/
structure Distinct (r : Reader) : Prop where
  root : ∀ root ∈ r.root, root.Distinct
  parents : ∀ e ∈ r.parents, e.Distinct

variable {r r' : Reader}

/-- A reader that takes a text keeps its attributes distinct. -/
theorem addText_distinct (hr : r.Distinct) {cs : List Char} (h : r.addText cs = some r') :
    r'.Distinct := by
  obtain ⟨e, outer, hparents, rfl⟩ := addText_cases h
  have hall := hr.parents
  rw [hparents, List.forall_mem_cons] at hall
  exact ⟨hr.root, List.forall_mem_cons.2 ⟨hall.1.addText cs, hall.2⟩⟩

/-- A reader that takes a character keeps its attributes distinct. -/
theorem addChar_distinct (hr : r.Distinct) {c : Char} (h : r.addChar c = some r') :
    r'.Distinct := by
  obtain ⟨-, -, rfl⟩ | h := addChar_cases h
  · exact hr
  · exact addText_distinct hr h

/-- A reader that takes a tree with distinct attributes keeps its own distinct. -/
theorem addNode_distinct (hr : r.Distinct) {node : Node ExpandedName} (hnode : node.Distinct)
    (h : r.addNode node = some r') : r'.Distinct := by
  obtain ⟨-, -, rfl⟩ | ⟨e, outer, hparents, rfl⟩ := addNode_cases h
  · exact ⟨fun root hroot => Option.some.inj hroot ▸ hnode, hr.parents⟩
  · have hall := hr.parents
    rw [hparents, List.forall_mem_cons] at hall
    exact ⟨hr.root, List.forall_mem_cons.2 ⟨hall.1.addChild hnode, hall.2⟩⟩

/-- An element is opened with distinct names of attributes, or not at all. -/
theorem opened?_distinct {tag : String} {given : List (String × List Piece)} {e : OpenElement}
    (h : r.opened? tag given = some e) : e.Distinct := by
  obtain ⟨-, values, scope, name, attributes, -, -, -, hattributes, rfl⟩ := opened?_cases h
  simp only [Scope.attributes?, Option.bind_eq_bind, Option.bind_eq_some_iff] at hattributes
  obtain ⟨expanded, -, hattributes⟩ := hattributes
  split at hattributes
  · next hnodup =>
      obtain rfl := Option.some.inj hattributes
      exact ⟨hnodup, fun _ hchild => absurd hchild List.not_mem_nil⟩
  · contradiction

/-- A reader that takes a start tag keeps its attributes distinct: it refuses repeated names. -/
theorem startTag_distinct (hr : r.Distinct) {tag : String} {given : List (String × List Piece)}
    {isEmpty : Bool} (h : r.startTag tag given isEmpty = some r') : r'.Distinct := by
  obtain ⟨-, e, hopened, ⟨-, h⟩ | ⟨-, rfl⟩⟩ := startTag_cases h
  · exact addNode_distinct hr (opened?_distinct hopened).node h
  · exact ⟨hr.root, List.forall_mem_cons.2 ⟨opened?_distinct hopened, hr.parents⟩⟩

/-- A reader that takes an end tag keeps its attributes distinct. -/
theorem endTag_distinct (hr : r.Distinct) {tag : String} (h : r.endTag tag = some r') :
    r'.Distinct := by
  obtain ⟨e, outer, hparents, -, -, h⟩ := endTag_cases h
  have hall := hr.parents
  rw [hparents, List.forall_mem_cons] at hall
  exact addNode_distinct (r := { r with parents := outer }) ⟨hr.root, hall.2⟩ hall.1.node h

/-- A reader that takes a document type keeps its attributes distinct. -/
theorem doctype_distinct {alphabet : Alphabet} (hr : r.Distinct) {parts : List DoctypeToken}
    (h : r.doctype alphabet parts = some r') : r'.Distinct := by
  obtain ⟨-, -, -, _, _, -, -, rfl⟩ := doctype_cases h
  exact ⟨hr.root, hr.parents⟩

/-- A function that reads the tokens of entities and keeps the names of attributes distinct. -/
def KeepsDistinct (addAll : List Token → Reader → Option Reader) : Prop :=
  ∀ tokens r r', r.Distinct → addAll tokens r = some r' → r'.Distinct

variable {alphabet : Alphabet} {addAll : List Token → Reader → Option Reader}

/-- A reference to an entity keeps the attributes of a reader distinct, if the steps inside the
entity do. -/
theorem entity_distinct (hadd : KeepsDistinct addAll) (hr : r.Distinct) {name : String}
    (h : r.entity addAll name = some r') : r'.Distinct := by
  obtain ⟨c, -, h⟩ | ⟨tokens, value?, -, -, h⟩ := entity_cases h
  · exact addText_distinct hr h
  · obtain ⟨inner, hinner, -, rfl⟩ := within_cases h
    have hdistinct := hadd tokens { r with floor := r.parents.length } inner
      ⟨hr.root, hr.parents⟩ hinner
    exact ⟨hdistinct.root, hdistinct.parents⟩

/-- One token keeps the names of attributes distinct. -/
theorem add_distinct (hadd : KeepsDistinct addAll) (r : Reader) (t : Token) (r' : Reader)
    (hr : r.Distinct) (h : r.add alphabet addAll t = some r') : r'.Distinct := by
  cases t with
  | char c => exact addChar_distinct hr h
  | numbered c => exact addText_distinct hr h
  | plain content => exact addText_distinct hr h
  | entity name => exact entity_distinct hadd hr h
  | startTag name attributes isEmpty => exact startTag_distinct hr h
  | endTag name => exact endTag_distinct hr h
  | doctype parts => exact doctype_distinct hr h

/-- Entities keep the names of attributes distinct. -/
theorem addEntity_distinct : KeepsDistinct (addEntity alphabet) :=
  fun tokens r r' hr h =>
    addNested_keeps (fun _ hadd => add_distinct hadd) r.definitions.entities.length tokens r r' hr h

/-- All tokens of a document keep the names of attributes distinct. -/
theorem foldlM_add_distinct {tokens : List Token} (hr : r.Distinct)
    (h : tokens.foldlM (add alphabet (addEntity alphabet)) r = some r') : r'.Distinct :=
  foldlM_invariant (q := fun _ => True)
    (fun r t r' hr _ h => add_distinct addEntity_distinct r t r' hr h) hr (fun _ _ => trivial) h

end Reader

/-! ## Sources -/

/-- The tree that is read from characters has distinct attributes. -/
theorem rootOfChars?_distinct {alphabet : Alphabet} {d : Definitions} {cs : List Char}
    {root : Node ExpandedName} (h : rootOfChars? alphabet d cs = some root) : root.Distinct := by
  rw [rootOfChars?] at h
  split at h
  · simp only [Option.bind_eq_some_iff, rootOf?, Option.bind_eq_bind] at h
    obtain ⟨tokens, -, r, hr, h⟩ := h
    have hend : r.Distinct := Reader.foldlM_add_distinct
      ⟨fun _ hroot => absurd hroot (Option.not_mem_none _),
        fun _ he => absurd he List.not_mem_nil⟩ hr
    split at h
    · exact hend.root _ h
    · contradiction
  · contradiction

/-- The tree of a source has distinct names of attributes. -/
theorem readTree_distinct {source : Source} {root : Node ExpandedName}
    (h : readTree source = .ok root) : root.Distinct := by
  simp only [readTree, bind_eq_ok] at h
  obtain ⟨declared, -, encoding, -, h⟩ := h
  split at h
  · next found hfound =>
      obtain rfl := Except.ok.inj h
      obtain ⟨cs, -, hfound⟩ := Option.bind_eq_some_iff.1 hfound
      rw [rootWithin?] at hfound
      split at hfound
      · exact rootOfChars?_distinct hfound
      · contradiction
  · contradiction

end RackElevation.Markup
