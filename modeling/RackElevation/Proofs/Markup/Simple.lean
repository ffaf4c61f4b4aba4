import Mathlib.Data.List.Nodup
import RackElevation.Proofs.Markup.ReadBack

/-!
# Trees without prefixes

A tree whose names have no colon, and whose attributes bind no namespaces, keeps its names when it
is read: its elements are in the namespace around the tree, and its attributes are in none.
-/

namespace RackElevation.Markup

/-- A name and attributes without prefixes, none of which binds a namespace. -/
structure SimpleTag (name : String) (attributes : List (String × String)) : Prop where
  name_ok : Alphabet.common.isName name.toList = true
  nodup : (attributes.map Prod.fst).Nodup
  names_ok : ∀ entry ∈ attributes, Alphabet.common.isName entry.1.toList = true
  names_ne : ∀ entry ∈ attributes, entry.1 ≠ "xmlns"
  values_ok : ∀ entry ∈ attributes, IsAllowedText entry.2

theorem SimpleTag.writable {name : String} {attributes : List (String × String)}
    (h : SimpleTag name attributes) : WritableTag name attributes where
  name_ok := isQualifiedName_of_isName h.name_ok
  nodup := h.nodup
  names_ok := fun entry hentry => isQualifiedName_of_isName (h.names_ok entry hentry)
  values_ok := h.values_ok

/-- A tag whose names are words. -/
theorem simpleTag_of_keys {name : String} {attributes : List (String × String)}
    (keys : List String) (hkeys : attributes.map Prod.fst = keys) (hnodup : keys.Nodup)
    (hnames : (name :: keys).all (fun key => isWord key.toList) = true)
    (hne : "xmlns" ∉ keys) (hvalues : ∀ entry ∈ attributes, IsAllowedText entry.2) :
    SimpleTag name attributes where
  name_ok := isName_of_isWord (List.all_eq_true.1 hnames name (List.mem_cons_self ..))
  nodup := hkeys ▸ hnodup
  names_ok := fun _ hentry =>
    isName_of_isWord (List.all_eq_true.1 hnames _
      (List.mem_cons_of_mem name (hkeys ▸ List.mem_map_of_mem hentry)))
  names_ne := fun _ hentry heq => hne (heq ▸ hkeys ▸ List.mem_map_of_mem hentry)
  values_ok := hvalues

/-! ## Names -/

theorem splitName_of_isName {name : String} (h : Alphabet.common.isName name.toList = true) :
    splitName name = ("", name) := by
  rw [splitName, dropWhile_ne_colon (ne_colon_of_isName h)]

theorem boundWord?_of_isName {name : String} (h : Alphabet.common.isName name.toList = true)
    (hne : name ≠ "xmlns") : boundWord? name = none := by
  have hempty : ("" == "xmlns") = false := by decide
  rw [boundWord?, splitName_of_isName h, if_neg (by simpa using hne), hempty,
    if_neg Bool.false_ne_true]

section Scopes

variable {scope : Scope} {name : String} {attributes : List (String × String)}

/-- The namespace of names without a prefix. -/
def Scope.default (scope : Scope) : String :=
  (scope.space? "").getD ""

theorem elementName?_of_isName (h : Alphabet.common.isName name.toList = true) :
    scope.elementName? name = some ⟨scope.default, name⟩ := by
  rw [Scope.elementName?, splitName_of_isName h, Scope.default]
  rfl

theorem attributeName?_of_isName (h : Alphabet.common.isName name.toList = true) :
    scope.attributeName? name = some (.plain name) := by
  rw [Scope.attributeName?, splitName_of_isName h]
  rfl

/-- Attributes without prefixes bind no namespaces. -/
theorem bindAll?_of_simpleTag (h : SimpleTag name attributes) :
    scope.bindAll? attributes = some scope := by
  have hbound : ∀ entry ∈ attributes, boundWord? entry.1 = none := fun entry hentry =>
    boundWord?_of_isName (h.names_ok entry hentry) (h.names_ne entry hentry)
  clear h
  induction attributes with
  | nil => rfl
  | cons entry attributes ih =>
      rw [Scope.bindAll?] at ih ⊢
      rw [List.foldlM_cons, hbound entry (List.mem_cons_self ..), Option.bind_eq_bind,
        Option.bind_some]
      exact ih fun e he => hbound e (List.mem_cons_of_mem entry he)

/-- An attribute in no namespace. -/
def plainEntry (entry : String × String) : ExpandedName × String :=
  (.plain entry.1, entry.2)

theorem mapM_attributeName?
    (h : ∀ entry ∈ attributes, Alphabet.common.isName entry.1.toList = true) :
    attributes.mapM (fun entry => do return (← scope.attributeName? entry.1, entry.2)) =
      some (attributes.map plainEntry) := by
  induction attributes with
  | nil => rfl
  | cons entry attributes ih =>
      rw [List.mapM_cons, attributeName?_of_isName (h entry (List.mem_cons_self ..)),
        ih fun e he => h e (List.mem_cons_of_mem entry he)]
      rfl

theorem nodup_plainEntry (h : (attributes.map Prod.fst).Nodup) :
    ((attributes.map plainEntry).map (·.1)).Nodup := by
  have hmap : (attributes.map plainEntry).map (·.1) =
      (attributes.map Prod.fst).map ExpandedName.plain := by
    rw [List.map_map, List.map_map]
    rfl
  rw [hmap]
  exact List.Nodup.map (fun _ _ heq => (ExpandedName.mk.inj heq).2) h

/-- Attributes, some of which bind namespaces and the others have no prefix, are in no namespace. -/
theorem attributes?_of_filter {own : List (String × String)}
    (hown : attributes.filter (fun entry => (boundWord? entry.1).isNone) = own)
    (hnames : ∀ entry ∈ own, Alphabet.common.isName entry.1.toList = true)
    (hnodup : (own.map Prod.fst).Nodup) :
    scope.attributes? attributes = some (own.map plainEntry) := by
  rw [Scope.attributes?, hown, mapM_attributeName? hnames, Option.bind_eq_bind, Option.bind_some,
    if_pos (nodup_plainEntry hnodup)]

theorem attributes?_of_simpleTag (h : SimpleTag name attributes) :
    scope.attributes? attributes = some (attributes.map plainEntry) := by
  refine attributes?_of_filter (List.filter_eq_self.2 fun entry hentry => ?_) h.names_ok h.nodup
  rw [boundWord?_of_isName (h.names_ok entry hentry) (h.names_ne entry hentry)]
  rfl

end Scopes

/-! ## Trees -/

namespace Node

mutual

/-- A tidy tree without prefixes. -/
def Simple : Node String → Prop
  | .text content => content ≠ "" ∧ IsAllowedText content
  | .element name attributes children => SimpleTag name attributes ∧ SimpleRow children

/-- A row of such trees, with no two runs of text side by side. -/
def SimpleRow : List (Node String) → Prop
  | [] => True
  | node :: rest =>
      Simple node ∧ (node.isElement = true ∨ ∀ next ∈ rest.head?, next.isElement = true) ∧
        SimpleRow rest

end

mutual

theorem Simple.tidy : ∀ {node : Node String}, node.Simple → node.Tidy
  | .text _, h => h
  | .element _ _ _, h => ⟨h.1.writable, SimpleRow.tidy h.2⟩

theorem SimpleRow.tidy : ∀ {nodes : List (Node String)}, SimpleRow nodes → TidyRow nodes
  | [], _ => trivial
  | _ :: _, h => ⟨Simple.tidy h.1, h.2.1, SimpleRow.tidy h.2.2⟩

end

theorem simpleRow_ofText {s : String} (h : IsAllowedText s) : SimpleRow (ofText s) := by
  rw [ofText]
  split
  · trivial
  · next hne =>
      have hempty : s ≠ "" := fun heq => hne (String.isEmpty_iff.2 heq)
      exact ⟨⟨hempty, h⟩, Or.inr (fun _ hnext => absurd hnext (Option.not_mem_none _)), trivial⟩

mutual

/-- A tree with its elements in a namespace and its attributes in none. -/
def inSpace (space : String) : Node String → Node ExpandedName
  | .text content => .text content
  | .element name attributes children =>
      .element ⟨space, name⟩ (attributes.map plainEntry) (inSpaceRow space children)

/-- A row of such trees. -/
def inSpaceRow (space : String) : List (Node String) → List (Node ExpandedName)
  | [] => []
  | node :: rest => inSpace space node :: inSpaceRow space rest

end

mutual

/-- A simple tree with unified line ends keeps its names when it is expanded. -/
theorem expand?_simple (scope : Scope) : ∀ {node : Node String}, node.Simple →
    node.unified.expand? scope = some (node.unified.inSpace scope.default)
  | .text _, _ => rfl
  | .element name attributes children, h => by
      rw [unified, expand?, bindAll?_of_simpleTag h.1, Option.bind_eq_bind, Option.bind_some,
        elementName?_of_isName h.1.name_ok, Option.bind_eq_bind, Option.bind_some,
        attributes?_of_simpleTag h.1, Option.bind_eq_bind, Option.bind_some,
        expandRow?_simple scope h.2, inSpace]
      rfl

theorem expandRow?_simple (scope : Scope) : ∀ {nodes : List (Node String)}, SimpleRow nodes →
    expandRow? scope (unifiedRow nodes) = some (inSpaceRow scope.default (unifiedRow nodes))
  | [], _ => rfl
  | _ :: _, h => by
      rw [unifiedRow, expandRow?, expand?_simple scope h.1, Option.bind_eq_bind, Option.bind_some,
        expandRow?_simple scope h.2.2, inSpaceRow]
      rfl

end

/-- A simple tree is read back with its elements in no namespace. -/
theorem Simple.readsAs {node : Node String} (h : node.Simple) (helement : node.isElement = true) :
    ReadsAs node.written (node.unified.inSpace "") :=
  readsAs_written h.tidy helement (expand?_simple .outermost h)

end Node

end RackElevation.Markup
