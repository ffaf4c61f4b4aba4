import Mathlib.Data.List.Forall2
import RackElevation.Proofs.Markup.CharacterData
import RackElevation.Proofs.Markup.DistinctAttributes
import RackElevation.Rack.Reading

/-!
# What a rack set is read from

The rack set of a document depends on few things in its tree: for each rack two attributes, and for
each slot its local name, five attributes and the text inside it.  Two documents that agree on these
give the same rack set, whatever else differs.
-/

namespace RackElevation

open Markup

/-! ## Blank characters around a text -/

namespace Text

/-- A text with blank characters around it. -/
def Padded (core cs : List Char) : Prop :=
  ∃ before after, (∀ c ∈ before, isBlank c = true) ∧ (∀ c ∈ after, isBlank c = true) ∧
    cs = before ++ (core ++ after)

/-- Texts that differ only by blank characters around them. -/
def SameUpToBlanks (cs cs' : List Char) : Prop :=
  ∃ core, Padded core cs ∧ Padded core cs'

variable {core cs cs' : List Char}

/-- Blanks around a text are trimmed. -/
theorem Padded.trim_eq (h : Padded core cs) : trim cs = trim core := by
  obtain ⟨before, after, hbefore, hafter, rfl⟩ := h
  rw [trim, trimBy, List.dropWhile_append_of_pos hbefore, List.dropWhile_append, trim, trimBy]
  cases hcore : core.dropWhile isBlank with
  | nil => rw [List.dropWhile_eq_nil_iff.2 hafter]; rfl
  | cons c rest =>
      have hreverse : ∀ c ∈ after.reverse, isBlank c = true :=
        fun c hc => hafter c (List.mem_reverse.1 hc)
      rw [List.isEmpty_cons, if_neg Bool.false_ne_true, List.reverse_append,
        List.dropWhile_append_of_pos hreverse]

/-- Blank characters around a text are trimmed. -/
theorem SameUpToBlanks.trim_eq (h : SameUpToBlanks cs cs') : trim cs = trim cs' := by
  obtain ⟨core, hcore, hcore'⟩ := h
  exact hcore.trim_eq.trans hcore'.trim_eq.symm

theorem SameUpToBlanks.refl (cs : List Char) : SameUpToBlanks cs cs :=
  have hpadded : Padded cs cs :=
    ⟨[], [], fun _ hc => absurd hc List.not_mem_nil, fun _ hc => absurd hc List.not_mem_nil,
      (List.append_nil cs).symm⟩
  ⟨cs, hpadded, hpadded⟩

end Text

/-! ## What is read -/

namespace Markup.Node

/-- Elements with the same value for an attribute, or both without it. -/
def SameAttribute (node node' : Node ExpandedName) (name : ExpandedName) : Prop :=
  ∀ value, (name, value) ∈ node.attributes ↔ (name, value) ∈ node'.attributes

/-- The attributes of a rack that are read. -/
def rackNames : List ExpandedName :=
  [.plain "name", .plain "height"]

/-- The attributes of a slot that are read, the one in the namespace of links apart. -/
def slotNames : List ExpandedName :=
  [.plain "at", .plain "height", .plain "color", .plain "href"]

/-- The attribute for the target of a link in the namespace of links. -/
def linkName : ExpandedName :=
  ⟨linkSpace, "href"⟩

/-- Slots that agree on what is read.  The attribute in the namespace of links is read where no
other gives the target. -/
structure SameSlot (node node' : Node ExpandedName) : Prop where
  name : localName node = localName node'
  attributes : ∀ name ∈ slotNames, SameAttribute node node' name
  link : (∀ value, (.plain "href", value) ∉ node.attributes) → SameAttribute node node' linkName
  text : Text.SameUpToBlanks node.characters node'.characters

/-- Racks that agree on what is read. -/
structure SameRack (node node' : Node ExpandedName) : Prop where
  attributes : ∀ name ∈ rackNames, SameAttribute node node' name
  slots : List.Forall₂ SameSlot node.childElements node'.childElements

/-- Trees that agree on what is read. -/
def SameRacks (tree tree' : Node ExpandedName) : Prop :=
  List.Forall₂ SameRack tree.childElements tree'.childElements

section Lookup

variable {node node' : Node ExpandedName}

/-- Among distinct attributes, one that is in both elements is found alike. -/
theorem SameAttribute.attribute?_eq {name : ExpandedName} (h : SameAttribute node node' name)
    (hnode : node.Distinct) (hnode' : node'.Distinct) :
    node.attribute? name = node'.attribute? name :=
  Option.ext fun value => (attribute?_eq_some_iff hnode).trans
    ((h value).trans (attribute?_eq_some_iff hnode').symm)

/-- Elements that agree on some names have the same values under them. -/
theorem plainAttribute?_eq {names : List ExpandedName}
    (h : ∀ name ∈ names, SameAttribute node node' name) (hnode : node.Distinct)
    (hnode' : node'.Distinct) (name : String) (hname : .plain name ∈ names) :
    plainAttribute? node name = plainAttribute? node' name :=
  (h _ hname).attribute?_eq hnode hnode'

/-- The target of a link is the same, whichever attribute gives it. -/
theorem SameSlot.href_eq (h : SameSlot node node') (hnode : node.Distinct)
    (hnode' : node'.Distinct) :
    (plainAttribute? node "href").or (node.attribute? ⟨linkSpace, "href"⟩) =
      (plainAttribute? node' "href").or (node'.attribute? ⟨linkSpace, "href"⟩) := by
  rw [← plainAttribute?_eq h.attributes hnode hnode' "href" (by simp [slotNames])]
  cases hhref : plainAttribute? node "href" with
  | some value => rfl
  | none =>
      have habsent : ∀ value, (ExpandedName.plain "href", value) ∉ node.attributes := by
        intro value hvalue
        rw [plainAttribute?, (attribute?_eq_some_iff hnode).2 hvalue] at hhref
        contradiction
      rw [Option.none_or, Option.none_or]
      exact (h.link habsent).attribute?_eq hnode hnode'

end Lookup

end Markup.Node

/-! ## The same rack set -/

section Reading

variable {node node' : Node ExpandedName}

/-- Slots that agree on what is read are read alike. -/
theorem Slot.ofTree_eq (h : node.SameSlot node') (hnode : node.Distinct)
    (hnode' : node'.Distinct) : Slot.ofTree node = Slot.ofTree node' := by
  have hplain := Node.plainAttribute?_eq h.attributes hnode hnode'
  have hlabel : Text.trimString node.textContent = Text.trimString node'.textContent := by
    rw [Text.trimString, Text.trimString, Node.toList_textContent, Node.toList_textContent,
      h.text.trim_eq]
  simp only [ofTree, h.name, hplain "at" (by simp [Node.slotNames]),
    hplain "height" (by simp [Node.slotNames]), hplain "color" (by simp [Node.slotNames]),
    h.href_eq hnode hnode', hlabel]

/-- Related elements of two rows are read alike if any two of them are. -/
theorem map_eq_map_of_forall₂ {α β γ : Type} {r : α → β → Prop} {f : α → γ} {g : β → γ}
    {as : List α} {bs : List β} (h : List.Forall₂ r as bs)
    (hread : ∀ a ∈ as, ∀ b ∈ bs, r a b → f a = g b) : as.map f = bs.map g := by
  induction h with
  | nil => rfl
  | cons hr _ ih =>
      have hrest := ih fun a ha b hb =>
        hread a (List.mem_cons_of_mem _ ha) b (List.mem_cons_of_mem _ hb)
      rw [List.map_cons, List.map_cons, hrest,
        hread _ (List.mem_cons_self ..) _ (List.mem_cons_self ..) hr]

/-- Racks that agree on what is read are read alike. -/
theorem Rack.ofTree_eq (h : node.SameRack node') (hnode : node.Distinct)
    (hnode' : node'.Distinct) : Rack.ofTree node = Rack.ofTree node' := by
  have hplain := Node.plainAttribute?_eq h.attributes hnode hnode'
  rw [ofTree, ofTree, hplain "name" (by simp [Node.rackNames]),
    hplain "height" (by simp [Node.rackNames]),
    map_eq_map_of_forall₂ h.slots fun slot hslot slot' hslot' hsame => Slot.ofTree_eq hsame
      (hnode.childElements slot hslot) (hnode'.childElements slot' hslot')]

/-- Trees that agree on what is read are read alike. -/
theorem RackSet.ofTree_eq (h : node.SameRacks node') (hnode : node.Distinct)
    (hnode' : node'.Distinct) : RackSet.ofTree node = RackSet.ofTree node' := by
  rw [ofTree, ofTree, map_eq_map_of_forall₂ h fun rack hrack rack' hrack' hsame =>
    Rack.ofTree_eq hsame (hnode.childElements rack hrack) (hnode'.childElements rack' hrack')]

end Reading

/-! ## Other trees with the same racks -/

namespace Markup.Node

/-- Attributes of which those with given names are the same, in whatever order. -/
def SameAmong (names : List ExpandedName) (attributes attributes' : List (ExpandedName × String)) :
    Prop :=
  (attributes.filter (·.1 ∈ names)).Perm (attributes'.filter (·.1 ∈ names))

/-- Slots that differ in their namespaces, in attributes that are not read and in the order of
attributes, and in the tags inside them.  An attribute in the namespace of links is not read beside
another target. -/
inductive RestyledSlot : Node ExpandedName → Node ExpandedName → Prop where
  | element {name name' : ExpandedName} {attributes attributes' : List (ExpandedName × String)}
      {children children' : List (Node ExpandedName)} :
      name.localPart = name'.localPart → SameAmong slotNames attributes attributes' →
        ((∀ value, (.plain "href", value) ∉ attributes) →
          SameAmong [linkName] attributes attributes') →
          Respelled children children' →
            RestyledSlot (.element name attributes children) (.element name' attributes' children')

/-- Racks that differ in their names, in attributes that are not read and in the order of
attributes, in the text between their slots, and in the style of these. -/
structure RestyledRack (node node' : Node ExpandedName) : Prop where
  attributes : SameAmong rackNames node.attributes node'.attributes
  slots : List.Forall₂ RestyledSlot node.childElements node'.childElements

/-- Trees that differ in their names and attributes, in the text between their racks, and in the
style of these. -/
def Restyled (tree tree' : Node ExpandedName) : Prop :=
  List.Forall₂ RestyledRack tree.childElements tree'.childElements

/-- Attributes that agree on some names have the same entries under them. -/
theorem SameAmong.mem_iff {names : List ExpandedName}
    {attributes attributes' : List (ExpandedName × String)}
    (h : SameAmong names attributes attributes') {name : ExpandedName} (hname : name ∈ names)
    (value : String) : (name, value) ∈ attributes ↔ (name, value) ∈ attributes' := by
  have hmem := List.Perm.mem_iff (a := (name, value)) h
  simpa only [List.mem_filter, hname, decide_true, and_true] using hmem

/-- A slot in another style is the same slot. -/
theorem RestyledSlot.sameSlot {node node' : Node ExpandedName} (h : RestyledSlot node node') :
    SameSlot node node' := by
  obtain ⟨hname, hattributes, hlink, hchildren⟩ := h
  refine ⟨hname, fun name hmem => hattributes.mem_iff hmem,
    fun habsent => (hlink habsent).mem_iff (List.mem_singleton_self linkName), ?_⟩
  rw [← toList_textContent, ← toList_textContent, textContent, textContent,
    hchildren.textContents_eq]
  exact .refl _

/-- A rack in another style is the same rack. -/
theorem RestyledRack.sameRack {node node' : Node ExpandedName} (h : RestyledRack node node') :
    SameRack node node' :=
  ⟨fun _ hname => h.attributes.mem_iff hname, h.slots.imp fun _ _ => RestyledSlot.sameSlot⟩

/-- A tree in another style has the same racks. -/
theorem Restyled.sameRacks {tree tree' : Node ExpandedName} (h : tree.Restyled tree') :
    tree.SameRacks tree' :=
  h.imp fun _ _ => RestyledRack.sameRack

end Markup.Node

/-! ## Documents -/

/-- Documents that agree on what is read give the same rack set, and documents that differ only in
style agree on what is read. -/
theorem RackSet.read_eq_of_sameRacks {source source' : Source} {tree tree' : Node ExpandedName}
    (h : readTree source = .ok tree) (h' : readTree source' = .ok tree') :
    (tree.SameRacks tree' →
      ∃ set, RackSet.read source = .ok set ∧ RackSet.read source' = .ok set) ∧
      (tree.Restyled tree' → tree.SameRacks tree') := by
  refine ⟨fun hsame => ⟨RackSet.ofTree tree, ?_, ?_⟩, Node.Restyled.sameRacks⟩
  · rw [read, h]
    rfl
  · rw [read, h', ofTree_eq hsame (readTree_distinct h) (readTree_distinct h')]
    rfl

/-- A device and a gap, written plainly. -/
def plainSource : Source := .text
  "<racks><rack name=\"A\"><server at=\"1\" href=\"#a\">db 1</server><gap/></rack></racks>"

/-- The same with a prefix, other attributes in another order, a link that is not looked at, text
between the slots, a comment, and elements inside the slots. -/
def styledSource : Source := .text
  ("<x:set xmlns:x=\"http://www.w3.org/1999/xlink\">top<row room=\"2\" name=\"A\">one" ++
    "<x:server x:href=\"#b\" href=\"#a\" at=\"1\">d<b><i c=\"1\">b</i> </b><!--first-->1" ++
    "</x:server><gap><p/></gap></row></x:set>")

/-- The server of the plain document. -/
def plainServer : Node ExpandedName :=
  .element (.plain "server") [(.plain "at", "1"), (.plain "href", "#a")] [.text "db 1"]

/-- The server of the other document. -/
def styledServer : Node ExpandedName :=
  .element ⟨linkSpace, "server"⟩ [(Node.linkName, "#b"), (.plain "href", "#a"), (.plain "at", "1")]
    [.text "d",
      .element (.plain "b") [] [.element (.plain "i") [(.plain "c", "1")] [.text "b"], .text " "],
      .text "1"]

/-- The tree of the plain document. -/
def plainTree : Node ExpandedName :=
  .element (.plain "racks") []
    [.element (.plain "rack") [(.plain "name", "A")] [plainServer, .element (.plain "gap") [] []]]

/-- The tree of the other document. -/
def styledTree : Node ExpandedName :=
  .element ⟨linkSpace, "set"⟩ [] [
    .text "top",
    .element (.plain "row") [(.plain "room", "2"), (.plain "name", "A")]
      [.text "one", styledServer, .element (.plain "gap") [] [.element (.plain "p") [] []]]]

/-- The other tree is the plain one in another style. -/
theorem restyled_plainTree : plainTree.Restyled styledTree := by
  have hserver : Node.RestyledSlot plainServer styledServer :=
    .element rfl (by rw [Node.SameAmong]; decide +kernel)
      (fun habsent => absurd (by decide : _ ∈ _) (habsent "#a"))
      (Node.respelled_iff.2 (by decide +kernel))
  have hgap : Node.RestyledSlot (.element (.plain "gap") [] [])
      (.element (.plain "gap") [] [.element (.plain "p") [] []]) :=
    .element rfl (.refl _) (fun _ => .refl _) (.symm (.untagged _ [] []))
  refine .cons ⟨?_, .cons hserver (.cons hgap .nil)⟩ .nil
  rw [Node.SameAmong]
  decide +kernel

/-- The plain document and the styled one are read as the same rack set. -/
theorem RackSet.read_eq_of_sameRacks_styledSource :
    readTree plainSource = .ok plainTree ∧ readTree styledSource = .ok styledTree ∧
      plainTree.SameRacks styledTree ∧
        ∃ set, RackSet.read plainSource = .ok set ∧ RackSet.read styledSource = .ok set := by
  have hplain : readTree plainSource = .ok plainTree := by decide +kernel
  have hstyled : readTree styledSource = .ok styledTree := by decide +kernel
  obtain ⟨hread, hsame⟩ := RackSet.read_eq_of_sameRacks hplain hstyled
  exact ⟨hplain, hstyled, hsame restyled_plainTree, hread (hsame restyled_plainTree)⟩

end RackElevation
