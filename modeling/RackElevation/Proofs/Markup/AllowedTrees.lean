import RackElevation.Markup.Source
import RackElevation.Proofs.Markup.AllowedDefinitions
import RackElevation.Proofs.Markup.Steps
import RackElevation.Proofs.Outcome

/-!
# Allowed characters in trees

Whatever a source is, the tree that is read from it holds only characters that a document may hold:
in its texts and in the values of its attributes.

Every token keeps the reader free of other characters, also when it stands for the text of an
entity, whose tokens may stand for further ones; a whole document then does by induction.
-/

namespace RackElevation.Markup

/-- Attributes whose values hold only allowed characters. -/
def AllowedAttributes {Name : Type} (attributes : List (Name × String)) : Prop :=
  ∀ entry ∈ attributes, IsAllowedText entry.2

namespace Node

variable {Name : Type}

mutual

/-- A tree that holds only allowed characters in its texts and in the values of its attributes. -/
def Allowed : Node Name → Prop
  | .text content => IsAllowedText content
  | .element _ attributes children => AllowedAttributes attributes ∧ AllowedRow children

/-- A row of such trees. -/
def AllowedRow : List (Node Name) → Prop
  | [] => True
  | node :: rest => Allowed node ∧ AllowedRow rest

end

/-- A row of trees is allowed when each of its trees is. -/
theorem allowedRow_iff {nodes : List (Node Name)} :
    AllowedRow nodes ↔ ∀ node ∈ nodes, node.Allowed := by
  induction nodes with
  | nil => exact ⟨fun _ _ hnode => absurd hnode List.not_mem_nil, fun _ => trivial⟩
  | cons node nodes ih => rw [AllowedRow, ih, List.forall_mem_cons]

end Node

/-! ## Attributes -/

section Attributes

/-- What a partial function makes of a list, it makes of members of the list. -/
theorem exists_of_mem_mapM {α β : Type} {f : α → Option β} {as : List α} {bs : List β}
    (h : as.mapM f = some bs) {b : β} (hb : b ∈ bs) : ∃ a ∈ as, f a = some b := by
  induction as generalizing bs with
  | nil =>
      obtain rfl := Option.some.inj h
      exact absurd hb List.not_mem_nil
  | cons a as ih =>
      simp only [List.mapM_cons, Option.bind_eq_bind, Option.bind_eq_some_iff, Option.pure_def,
        Option.some.injEq] at h
      obtain ⟨b', hb', bs', hbs', rfl⟩ := h
      rcases List.mem_cons.1 hb with rfl | hb
      · exact ⟨a, List.mem_cons_self .., hb'⟩
      · obtain ⟨a', ha', hab⟩ := ih hbs' hb
        exact ⟨a', List.mem_cons_of_mem a ha', hab⟩

/-- Expanding the names of attributes keeps their values. -/
theorem attributes?_allowed {scope : Scope} {attributes : List (String × String)}
    {expanded : List (ExpandedName × String)} (hattributes : AllowedAttributes attributes)
    (h : scope.attributes? attributes = some expanded) : AllowedAttributes expanded := by
  simp only [Scope.attributes?, Option.bind_eq_bind, Option.bind_eq_some_iff] at h
  obtain ⟨found, hfound, h⟩ := h
  split at h
  · rw [← Option.some.inj h]
    intro entry hentry
    obtain ⟨own, hown, hname⟩ := exists_of_mem_mapM hfound hentry
    simp only [Option.bind_eq_some_iff, Option.pure_def, Option.some.injEq] at hname
    obtain ⟨name, -, rfl⟩ := hname
    exact hattributes own (List.mem_of_mem_filter hown)
  · contradiction

variable {d : Definitions}

/-- The values of the attributes of a tag are allowed, with what entities stand for in them. -/
theorem givenAttributes_allowed (hd : d.Allowed) {tag : String}
    {given : List (String × List Piece)} {values : List (String × String)}
    (hgiven : AllowedValues given)
    (h : given.mapM (Reader.givenAttribute? d tag) = some values) : AllowedAttributes values := by
  intro entry hentry
  obtain ⟨own, hown, hvalue⟩ := exists_of_mem_mapM h hentry
  simp only [Reader.givenAttribute?, Option.bind_eq_bind, Option.bind_eq_some_iff, Option.pure_def,
    Option.some.injEq] at hvalue
  obtain ⟨value, hvalue, rfl⟩ := hvalue
  exact (Definitions.value?_allowed hd (hgiven own hown) hvalue).ofList

/-- The values of attributes that a document type adds are allowed. -/
theorem defaultAttributes_allowed (hd : d.Allowed) (tag : String) (given : List String) :
    AllowedAttributes (Reader.defaultAttributes d tag given) := by
  intro entry hentry
  obtain ⟨rule, hrule, h⟩ := List.mem_filterMap.1 hentry
  obtain ⟨own, hown, rfl⟩ := List.mem_map.1 hrule
  split at h
  · contradiction
  · obtain ⟨value, hvalue, rfl⟩ := Option.map_eq_some_iff.1 h
    exact AllowedChars.ofList (hd.rules own (List.mem_of_mem_filter hown) value hvalue)

end Attributes

/-! ## Readers -/

/-- An open element that holds only allowed characters so far. -/
structure OpenElement.Allowed (e : OpenElement) : Prop where
  attributes : AllowedAttributes e.attributes
  children : ∀ child ∈ e.children, child.Allowed
  text : AllowedChars e.text

namespace OpenElement.Allowed

variable {e : OpenElement}

/-- The children of an open element are allowed, its last text included. -/
theorem allChildren (h : e.Allowed) : ∀ child ∈ e.allChildren, child.Allowed := by
  rw [OpenElement.allChildren]
  split
  · exact h.children
  · exact List.forall_mem_cons.2 ⟨h.text.reverse.ofList, h.children⟩

/-- An open element that is closed becomes an allowed tree. -/
theorem node (h : e.Allowed) : e.node.Allowed :=
  ⟨h.attributes, Node.allowedRow_iff.2 fun child hchild =>
    h.allChildren child (List.mem_reverse.1 hchild)⟩

/-- An allowed child keeps an open element allowed. -/
theorem addChild (h : e.Allowed) {child : Node ExpandedName} (hchild : child.Allowed) :
    (e.addChild child).Allowed :=
  ⟨h.attributes, List.forall_mem_cons.2 ⟨hchild, h.allChildren⟩, .nil⟩

/-- An allowed text keeps an open element allowed. -/
theorem addText (h : e.Allowed) {cs : List Char} (hcs : AllowedChars cs) : (e.addText cs).Allowed :=
  ⟨h.attributes, h.children, hcs.append h.text⟩

end OpenElement.Allowed

namespace Reader

/-- A reader that holds only allowed characters so far. -/
structure Allowed (r : Reader) : Prop where
  definitions : r.definitions.Allowed
  root : ∀ root ∈ r.root, root.Allowed
  parents : ∀ e ∈ r.parents, e.Allowed

variable {r r' : Reader}

/-- A reader that takes an allowed text stays allowed. -/
theorem addText_allowed (hr : r.Allowed) {cs : List Char} (hcs : AllowedChars cs)
    (h : r.addText cs = some r') : r'.Allowed := by
  obtain ⟨e, outer, hparents, rfl⟩ := addText_cases h
  have hall := hr.parents
  rw [hparents, List.forall_mem_cons] at hall
  exact ⟨hr.definitions, hr.root, List.forall_mem_cons.2 ⟨hall.1.addText hcs, hall.2⟩⟩

/-- A reader that takes an allowed character stays allowed. -/
theorem addChar_allowed (hr : r.Allowed) {c : Char} (hc : isAllowed c = true)
    (h : r.addChar c = some r') : r'.Allowed := by
  obtain ⟨-, -, rfl⟩ | h := addChar_cases h
  · exact hr
  · exact addText_allowed hr (.cons hc .nil) h

/-- A reader that takes an allowed tree stays allowed. -/
theorem addNode_allowed (hr : r.Allowed) {node : Node ExpandedName} (hnode : node.Allowed)
    (h : r.addNode node = some r') : r'.Allowed := by
  obtain ⟨-, -, rfl⟩ | ⟨e, outer, hparents, rfl⟩ := addNode_cases h
  · refine ⟨hr.definitions, fun root hroot => ?_, hr.parents⟩
    obtain rfl := Option.some.inj hroot
    exact hnode
  · have hall := hr.parents
    rw [hparents, List.forall_mem_cons] at hall
    exact ⟨hr.definitions, hr.root, List.forall_mem_cons.2 ⟨hall.1.addChild hnode, hall.2⟩⟩

/-- The element that a start tag opens is allowed, the attributes of the document type included. -/
theorem opened?_allowed (hr : r.Allowed) {tag : String} {given : List (String × List Piece)}
    (hgiven : AllowedValues given) {e : OpenElement} (h : r.opened? tag given = some e) :
    e.Allowed := by
  obtain ⟨-, values, scope, name, attributes, hvalues, -, -, hattributes, rfl⟩ := opened?_cases h
  have hall := List.forall_mem_append.2
    ⟨givenAttributes_allowed hr.definitions hgiven hvalues,
      defaultAttributes_allowed hr.definitions tag (given.map (·.1))⟩
  exact ⟨attributes?_allowed hall hattributes, fun _ hchild => absurd hchild List.not_mem_nil, .nil⟩

/-- A reader that takes a start tag with allowed values stays allowed. -/
theorem startTag_allowed (hr : r.Allowed) {tag : String} {given : List (String × List Piece)}
    (hgiven : AllowedValues given) {isEmpty : Bool} (h : r.startTag tag given isEmpty = some r') :
    r'.Allowed := by
  obtain ⟨-, e, hopened, ⟨-, h⟩ | ⟨-, rfl⟩⟩ := startTag_cases h
  · exact addNode_allowed hr (opened?_allowed hr hgiven hopened).node h
  · exact ⟨hr.definitions, hr.root,
      List.forall_mem_cons.2 ⟨opened?_allowed hr hgiven hopened, hr.parents⟩⟩

/-- A reader that takes an end tag stays allowed. -/
theorem endTag_allowed (hr : r.Allowed) {tag : String} (h : r.endTag tag = some r') :
    r'.Allowed := by
  obtain ⟨e, outer, hparents, -, -, h⟩ := endTag_cases h
  have hall := hr.parents
  rw [hparents, List.forall_mem_cons] at hall
  exact addNode_allowed (r := { r with parents := outer }) ⟨hr.definitions, hr.root, hall.2⟩
    hall.1.node h

/-- A reader that takes a document type of allowed parts stays allowed. -/
theorem doctype_allowed {alphabet : Alphabet} (hr : r.Allowed) {parts : List DoctypeToken}
    (hparts : ∀ t ∈ parts, t.Allowed) (h : r.doctype alphabet parts = some r') : r'.Allowed := by
  obtain ⟨-, -, -, doctype, definitions, hdoctype, hdefinitions, rfl⟩ := doctype_cases h
  exact ⟨Definitions.ofDoctype_allowed hr.definitions
    (Doctype.ofTokens?_allowed hparts hdoctype) hdefinitions, hr.root, hr.parents⟩

/-- A function that reads the tokens of entities without letting other characters in. -/
def KeepsAllowed (addAll : List Token → Reader → Option Reader) : Prop :=
  ∀ tokens r r', r.Allowed → (∀ t ∈ tokens, t.Allowed) → addAll tokens r = some r' → r'.Allowed

variable {alphabet : Alphabet} {addAll : List Token → Reader → Option Reader}

/-- The tokens of the text of an entity keep a reader allowed, if each step does. -/
theorem within_allowed (hadd : KeepsAllowed addAll) (hr : r.Allowed) {tokens : List Token}
    (htokens : ∀ t ∈ tokens, t.Allowed) (h : r.within addAll tokens = some r') : r'.Allowed := by
  obtain ⟨inner, hinner, -, rfl⟩ := within_cases h
  have hallowed := hadd tokens { r with floor := r.parents.length } inner
    ⟨hr.definitions, hr.root, hr.parents⟩ htokens hinner
  exact ⟨hallowed.definitions, hallowed.root, hallowed.parents⟩

/-- A reference to an entity keeps a reader allowed, if the steps inside the entity do. -/
theorem entity_allowed (hadd : KeepsAllowed addAll) (hr : r.Allowed) {name : String}
    (h : r.entity addAll name = some r') : r'.Allowed := by
  obtain ⟨c, hc, h⟩ | ⟨tokens, value?, hentity, -, h⟩ := entity_cases h
  · exact addText_allowed hr (.cons (Definitions.isAllowed_of_predefined? hc) .nil) h
  · exact within_allowed hadd hr ((hr.definitions.entity? hentity).1 tokens rfl) h

/-- One token keeps the reader free of other characters. -/
theorem add_allowed (hadd : KeepsAllowed addAll) (r : Reader) (t : Token) (r' : Reader)
    (hr : r.Allowed) (ht : t.Allowed) (h : r.add alphabet addAll t = some r') : r'.Allowed := by
  cases t with
  | char c => exact addChar_allowed hr ht h
  | numbered c => exact addText_allowed hr (.cons ht .nil) h
  | plain content => exact addText_allowed hr (AllowedChars.reverse ht) h
  | entity name => exact entity_allowed hadd hr h
  | startTag name attributes isEmpty => exact startTag_allowed hr ht h
  | endTag name => exact endTag_allowed hr h
  | doctype parts => exact doctype_allowed hr ht h

/-- Nested entities keep the reader free of other characters. -/
theorem addNested_allowed (depth : Nat) : KeepsAllowed (addNested alphabet depth) := by
  induction depth with
  | zero => exact fun _ _ _ _ _ h => absurd h (Option.not_mem_none _)
  | succ depth ih =>
      intro tokens r r' hr htokens h
      exact foldlM_invariant (add_allowed ih) hr htokens h

/-- References to entities keep a reader allowed, however the entities are nested. -/
theorem addEntity_allowed : KeepsAllowed (addEntity alphabet) :=
  fun tokens r r' hr htokens h =>
    addNested_allowed r.definitions.entities.length tokens r r' hr htokens h

end Reader

/-! ## Sources -/

/-- The tree that is read from characters is allowed when the definitions at its start are. -/
theorem rootOfChars?_allowed {alphabet : Alphabet} {d : Definitions} (hd : d.Allowed)
    {cs : List Char} {root : Node ExpandedName} (h : rootOfChars? alphabet d cs = some root) :
    root.Allowed := by
  rw [rootOfChars?] at h
  split at h
  · next hcs =>
      simp only [Option.bind_eq_bind, Option.bind_eq_some_iff, rootOf?] at h
      obtain ⟨tokens, htokens, r, hr, h⟩ := h
      have hstart : Reader.Allowed { definitions := d } :=
        ⟨hd, fun _ hroot => absurd hroot (Option.not_mem_none _),
          fun _ he => absurd he List.not_mem_nil⟩
      have hchars : AllowedChars cs := List.all_eq_true.1 hcs
      have hend : r.Allowed := foldlM_invariant (Reader.add_allowed Reader.addEntity_allowed) hstart
        (ofChars?_allowed (unifyLineEnds_allowed hchars) htokens) hr
      split at h
      · exact hend.root root h
      · contradiction
  · contradiction

/-- The tree of a source holds only characters that a document may hold. -/
theorem readTree_allowed {source : Source} {root : Node ExpandedName}
    (h : readTree source = .ok root) : root.Allowed := by
  simp only [readTree, bind_eq_ok] at h
  obtain ⟨declared, -, encoding, -, h⟩ := h
  split at h
  · next found hfound =>
      obtain rfl := Except.ok.inj h
      obtain ⟨cs, -, hfound⟩ := Option.bind_eq_some_iff.1 hfound
      rw [rootWithin?] at hfound
      split at hfound
      · exact rootOfChars?_allowed ⟨fun _ hentry => absurd hentry List.not_mem_nil,
          fun _ hentry => absurd hentry List.not_mem_nil⟩ hfound
      · contradiction
  · contradiction

end RackElevation.Markup
