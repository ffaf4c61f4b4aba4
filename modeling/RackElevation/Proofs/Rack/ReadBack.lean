import RackElevation.Proofs.Markup.Simple
import RackElevation.Rack.Reading

/-!
# Reading written rack sets

A rack set is written as a tree of three levels: a root, one element for each rack, and one for each
slot, with an attribute for every value that is there.  Reading the written tree, or its bytes in
UTF-8, gives back the same rack set.
-/

namespace RackElevation

open Markup

/-- The attributes for the values that are there. -/
def givenAttributes (entries : List (String × Option String)) : List (String × String) :=
  entries.filterMap fun entry => entry.2.map (entry.1, ·)

/-- The values of a gap. -/
def Gap.entries (g : Gap) : List (String × Option String) :=
  [("at", g.position), ("height", g.height)]

/-- The values of a device, its label apart. -/
def Device.entries (d : Device) : List (String × Option String) :=
  [("at", d.position), ("height", d.height), ("color", d.color), ("href", d.href)]

/-- The values of a rack. -/
def Rack.entries (rack : Rack) : List (String × Option String) :=
  [("name", rack.name), ("height", rack.height)]

/-- The element of a slot. -/
def Slot.toNode : Slot → Node String
  | .gap g => .element "gap" (givenAttributes g.entries) []
  | .device d => .element d.kind (givenAttributes d.entries) (Node.ofText d.label)

/-- The element of a rack. -/
def Rack.toNode (tag : String) (rack : Rack) : Node String :=
  .element tag (givenAttributes rack.entries) (rack.slots.map Slot.toNode)

/-- The root element of a rack set, with given names for the root and for the racks. -/
def RackSet.toNode (rootTag rackTag : String) (set : RackSet) : Node String :=
  .element rootTag [] (set.racks.map (Rack.toNode rackTag))

/-! ## What can be written -/

/-- A label that is read as it is written: of allowed characters, without a carriage return, and
without blank characters at its ends. -/
structure IsPlainLabel (label : String) : Prop where
  allowed : IsAllowedText label
  no_return : '\r' ∉ label.toList
  head : ∀ c ∈ label.toList.head?, Text.isBlank c = false
  last : ∀ c ∈ label.toList.getLast?, Text.isBlank c = false

/-- A device whose kind is the name of an element other than a gap, with attributes and a label that
can be written. -/
structure Device.IsWritable (d : Device) : Prop where
  kind : Alphabet.common.isName d.kind.toList = true
  kind_ne : d.kind ≠ "gap"
  position : IsAllowedValue d.position
  height : IsAllowedValue d.height
  color : IsAllowedValue d.color
  href : IsAllowedValue d.href
  label : IsPlainLabel d.label

/-- A slot that can be written. -/
def Slot.IsWritable : Slot → Prop
  | .gap g => IsAllowedValue g.position ∧ IsAllowedValue g.height
  | .device d => d.IsWritable

/-- A rack that can be written. -/
structure Rack.IsWritable (rack : Rack) : Prop where
  name : IsAllowedValue rack.name
  height : IsAllowedValue rack.height
  slots : ∀ slot ∈ rack.slots, slot.IsWritable

/-- A rack set that can be written. -/
def RackSet.IsWritable (set : RackSet) : Prop :=
  ∀ rack ∈ set.racks, rack.IsWritable

/-! ## Attributes -/

section Attributes

variable {entries : List (String × Option String)}

/-- The attributes are the values that are there, under their names. -/
theorem mem_givenAttributes {entry : String × String} :
    entry ∈ givenAttributes entries ↔ (entry.1, some entry.2) ∈ entries := by
  rw [givenAttributes, List.mem_filterMap]
  constructor
  · rintro ⟨⟨name, value⟩, hmem, h⟩
    obtain ⟨s, rfl, rfl⟩ := Option.map_eq_some_iff.1 h
    exact hmem
  · intro hmem
    exact ⟨_, hmem, rfl⟩

/-- The first value is the first attribute, if it is there. -/
theorem givenAttributes_cons (name : String) (value : Option String) :
    givenAttributes ((name, value) :: entries) =
      value.toList.map (name, ·) ++ givenAttributes entries := by
  cases value <;> rfl

/-- The names of the attributes are names of values, in their order. -/
theorem sublist_givenAttributes :
    ((givenAttributes entries).map Prod.fst).Sublist (entries.map Prod.fst) := by
  induction entries with
  | nil => exact .slnil
  | cons entry entries ih =>
      obtain ⟨name, value⟩ := entry
      cases value with
      | none => exact ih.cons name
      | some s => exact ih.cons_cons name

/-- The tag of an element with the values that are there. -/
theorem simpleTag_givenAttributes (keys : List String) {name : String}
    (hname : Alphabet.common.isName name.toList = true) (hkeys : entries.map Prod.fst = keys)
    (hnodup : keys.Nodup)
    (hnames : keys.all (fun key => isWord key.toList) = true) (hne : "xmlns" ∉ keys)
    (hvalues : ∀ entry ∈ entries, IsAllowedValue entry.2) :
    SimpleTag name (givenAttributes entries) where
  name_ok := hname
  nodup := (hkeys ▸ hnodup : (entries.map Prod.fst).Nodup).sublist sublist_givenAttributes
  names_ok := fun _ hentry => isName_of_isWord (List.all_eq_true.1 hnames _
    (hkeys ▸ List.mem_map_of_mem (mem_givenAttributes.1 hentry)))
  names_ne := fun _ hentry heq =>
    hne (heq ▸ hkeys ▸ List.mem_map_of_mem (mem_givenAttributes.1 hentry))
  values_ok := fun entry hentry => hvalues _ (mem_givenAttributes.1 hentry) entry.2 rfl

/-- A name without a value is not found among the attributes. -/
theorem find?_given_of_not_mem {name : String} (h : name ∉ entries.map Prod.fst) :
    ((givenAttributes entries).map plainEntry).find? (·.1 = .plain name) = none := by
  rw [List.find?_eq_none]
  intro entry hentry
  obtain ⟨own, hown, rfl⟩ := List.mem_map.1 hentry
  rw [decide_eq_true_eq]
  intro heq
  exact h (List.mem_map.2 ⟨_, mem_givenAttributes.1 hown, (ExpandedName.mk.inj heq).2⟩)

/-- Under its name a value is found among the attributes, exactly if it is there. -/
theorem find?_given {name : String} {value : Option String} (hnodup : (entries.map Prod.fst).Nodup)
    (hmem : (name, value) ∈ entries) :
    ((givenAttributes entries).map plainEntry).find? (·.1 = .plain name) =
      value.map (ExpandedName.plain name, ·) := by
  induction entries with
  | nil => exact absurd hmem List.not_mem_nil
  | cons entry entries ih =>
      obtain ⟨key, given⟩ := entry
      rw [List.map_cons, List.nodup_cons] at hnodup
      rw [givenAttributes_cons, List.map_append, List.find?_append]
      rcases List.mem_cons.1 hmem with heq | hmem
      · obtain ⟨rfl, rfl⟩ := Prod.mk.inj heq
        rw [find?_given_of_not_mem hnodup.1, Option.or_none]
        cases value with
        | none => rfl
        | some s => exact List.find?_cons_of_pos (decide_eq_true rfl)
      · -- the names differ, so the first attribute is passed over
        have hne : key ≠ name := by
          rintro rfl
          exact hnodup.1 (List.mem_map.2 ⟨_, hmem, rfl⟩)
        rw [ih hnodup.2 hmem]
        cases given with
        | none => rfl
        | some s =>
            have hnone : [plainEntry (key, s)].find? (·.1 = .plain name) = none := by
              rw [List.find?_eq_none]
              intro entry hentry
              obtain rfl := List.mem_singleton.1 hentry
              rw [decide_eq_true_eq]
              exact fun heq => hne (ExpandedName.mk.inj heq).2
            rw [Option.toList_some, List.map_singleton, List.map_singleton, hnone, Option.none_or]

/-- An attribute is there exactly when its value is. -/
theorem attribute?_given (tag : ExpandedName) (children : List (Node ExpandedName))
    (keys : List String) {name : String} {value : Option String}
    (hkeys : entries.map Prod.fst = keys) (hnodup : keys.Nodup)
    (hmem : (name, value) ∈ entries) :
    plainAttribute? (.element tag ((givenAttributes entries).map plainEntry) children) name =
      value := by
  rw [plainAttribute?, Node.attribute?, find?_given (hkeys ▸ hnodup) hmem, Option.map_map]
  exact Option.map_id'

/-- No attribute is in the namespace of links. -/
theorem attribute?_linkSpace {tag : ExpandedName} {children : List (Node ExpandedName)}
    (name : String) :
    (Node.element tag ((givenAttributes entries).map plainEntry) children).attribute?
      ⟨linkSpace, name⟩ = none := by
  have hnone : ((givenAttributes entries).map plainEntry).find? (·.1 = ⟨linkSpace, name⟩) =
      none := by
    rw [List.find?_eq_none]
    intro entry hentry
    obtain ⟨own, -, rfl⟩ := List.mem_map.1 hentry
    rw [decide_eq_true_eq]
    intro heq
    exact absurd (ExpandedName.mk.inj heq).1 (by decide)
  rw [Node.attribute?, hnone, Option.map_none]

end Attributes

/-! ## Trees -/

section Trees

/-- Line ends of a row are unified tree by tree. -/
theorem unifiedRow_map {α : Type} (f : α → Node String) (as : List α) :
    Node.unifiedRow (as.map f) = as.map fun a => (f a).unified := by
  induction as with
  | nil => rfl
  | cons a as ih => rw [List.map_cons, Node.unifiedRow, ih, List.map_cons]

/-- A row is put into a namespace tree by tree. -/
theorem inSpaceRow_map {α : Type} (space : String) (f : α → Node String) (as : List α) :
    Node.inSpaceRow space (as.map f) = as.map fun a => (f a).inSpace space := by
  induction as with
  | nil => rfl
  | cons a as ih => rw [List.map_cons, Node.inSpaceRow, ih, List.map_cons]

/-- The elements among children that are all elements. -/
theorem filter_isElement_map {α : Type} {f : α → Node ExpandedName}
    (h : ∀ a, (f a).isElement = true) (as : List α) :
    (as.map f).filter Node.isElement = as.map f := by
  rw [List.filter_eq_self]
  intro node hnode
  obtain ⟨a, -, rfl⟩ := List.mem_map.1 hnode
  exact h a

/-- A row of simple elements is simple: no text stands next to another one in it. -/
theorem simpleRow_map {α : Type} {f : α → Node String} {as : List α}
    (helement : ∀ a, (f a).isElement = true) (h : ∀ a ∈ as, (f a).Simple) :
    Node.SimpleRow (as.map f) := by
  induction as with
  | nil => trivial
  | cons a as ih =>
      exact ⟨h a (List.mem_cons_self ..), Or.inl (helement a),
        ih fun b hb => h b (List.mem_cons_of_mem a hb)⟩

/-- A slot is written as an element. -/
theorem isElement_slot (slot : Slot) : slot.toNode.isElement = true := by
  cases slot <;> rfl

end Trees

/-! ## Labels -/

/-- The content of a text element is its text. -/
theorem textContents_ofText (s : String) :
    Node.textContents (Node.inSpaceRow "" (Node.ofText s)) = s := by
  rw [Node.ofText]
  split
  · next hempty => exact (String.isEmpty_iff.1 hempty).symm
  · rw [Node.inSpaceRow, Node.inSpace, Node.inSpaceRow, Node.textContents, Node.textContent,
      Node.textContents, String.append_empty]

/-- A text without a carriage return keeps its line ends. -/
theorem unifiedRow_ofText {s : String} (h : '\r' ∉ s.toList) :
    Node.unifiedRow (Node.ofText s : List (Node String)) = Node.ofText s := by
  rw [Node.ofText]
  split
  · rfl
  · have hends : unifyLineEnds s.toList = s.toList := by
      rw [unifyLineEnds_eq]
      exact unifyFrom_of_forall_ne fun c hc heq => h (heq ▸ hc)
    rw [Node.unifiedRow, Node.unifiedRow, Node.unified, hends, String.ofList_toList]

/-- Nothing is dropped from a list whose first element stays. -/
theorem dropWhile_eq_self_of_head? {p : Char → Bool} {cs : List Char}
    (h : ∀ c ∈ cs.head?, p c = false) : cs.dropWhile p = cs := by
  cases cs with
  | nil => rfl
  | cons c cs =>
      rw [List.dropWhile_cons, h c rfl]
      exact if_neg Bool.false_ne_true

/-- A text without blank characters at its ends is not trimmed. -/
theorem trimString_eq_self {s : String} (hhead : ∀ c ∈ s.toList.head?, Text.isBlank c = false)
    (hlast : ∀ c ∈ s.toList.getLast?, Text.isBlank c = false) : Text.trimString s = s := by
  rw [← List.head?_reverse] at hlast
  rw [Text.trimString, Text.trim, Text.trimBy, dropWhile_eq_self_of_head? hhead,
    dropWhile_eq_self_of_head? hlast, List.reverse_reverse, String.ofList_toList]

/-! ## Reading back -/

section ReadBack

/-- A slot that can be written is a simple tree. -/
theorem Slot.IsWritable.simple {slot : Slot} (h : slot.IsWritable) : slot.toNode.Simple := by
  cases slot with
  | gap g =>
      refine ⟨simpleTag_givenAttributes ["at", "height"] (isName_of_isWord (by decide)) rfl
        (by decide) (by decide) (by decide) ?_, trivial⟩
      simpa [Gap.entries, Slot.IsWritable] using h
  | device d =>
      have h : d.IsWritable := h
      refine ⟨simpleTag_givenAttributes ["at", "height", "color", "href"] h.kind rfl
        (by decide) (by decide) (by decide) ?_, Node.simpleRow_ofText h.label.allowed⟩
      simpa [Device.entries] using ⟨h.position, h.height, h.color, h.href⟩

/-- A rack that can be written is a simple tree, whatever its tag is called. -/
theorem Rack.IsWritable.simple {rack : Rack} (h : rack.IsWritable) {tag : String}
    (htag : Alphabet.common.isName tag.toList = true) : (rack.toNode tag).Simple := by
  refine ⟨simpleTag_givenAttributes ["name", "height"] htag rfl (by decide) (by decide)
    (by decide) ?_, simpleRow_map isElement_slot fun slot hslot => (h.slots slot hslot).simple⟩
  simpa [Rack.entries] using ⟨h.name, h.height⟩

/-- A rack set that can be written is a simple tree, whatever its tags are called. -/
theorem RackSet.IsWritable.simple {set : RackSet} (h : set.IsWritable) {rootTag rackTag : String}
    (hroot : Alphabet.common.isName rootTag.toList = true)
    (hrack : Alphabet.common.isName rackTag.toList = true) :
    (set.toNode rootTag rackTag).Simple := by
  refine ⟨⟨hroot, List.nodup_nil, ?_, ?_, ?_⟩,
    simpleRow_map (fun _ => rfl) fun rack hmem => (h rack hmem).simple hrack⟩
  all_goals exact fun _ hentry => absurd hentry List.not_mem_nil

/-- The slot of its own element. -/
theorem Slot.ofTree_toNode {slot : Slot} (h : slot.IsWritable) :
    Slot.ofTree (slot.toNode.unified.inSpace "") = slot := by
  cases slot with
  -- a gap has no text of its own, so only its attributes are looked up
  | gap g =>
      have hvalue (name : String) (value : Option String) (hmem : (name, value) ∈ g.entries)
          (children : List (Node ExpandedName)) :=
        attribute?_given ⟨"", "gap"⟩ children ["at", "height"] rfl (by decide) hmem
      rw [Slot.toNode, Node.unified, Node.inSpace]
      simp only [Slot.ofTree, localName, if_true, hvalue "at" g.position (.head _),
        hvalue "height" g.height (.tail _ (.head _))]
  | device d =>
      have h : d.IsWritable := h
      have hvalue (name : String) (value : Option String) (hmem : (name, value) ∈ d.entries)
          (children : List (Node ExpandedName)) :=
        attribute?_given ⟨"", d.kind⟩ children ["at", "height", "color", "href"] rfl (by decide)
          hmem
      -- a writable label has no carriage return and no blank at its ends, so reading changes
      -- nothing
      rw [Slot.toNode, Node.unified, Node.inSpace, unifiedRow_ofText h.label.no_return]
      simp only [Slot.ofTree, localName, if_neg h.kind_ne, Node.textContent, textContents_ofText,
        trimString_eq_self h.label.head h.label.last, attribute?_linkSpace, Option.or_none,
        hvalue "at" d.position (.head _), hvalue "height" d.height (.tail _ (.head _)),
        hvalue "color" d.color (.tail _ (.tail _ (.head _))),
        hvalue "href" d.href (.tail _ (.tail _ (.tail _ (.head _))))]

/-- What is written as elements is read back from a row of them, one by one. -/
theorem map_ofTree_toNode {α : Type} {f : α → Node String} {read : Node ExpandedName → α}
    {as : List α} (helement : ∀ a, (f a).isElement = true)
    (h : ∀ a ∈ as, read ((f a).unified.inSpace "") = a) :
    ((Node.inSpaceRow "" (Node.unifiedRow (as.map f))).filter Node.isElement).map read = as := by
  have hfilter : ∀ a, ((f a).unified.inSpace "").isElement = true := by
    intro a
    have ha := helement a
    cases hf : f a with
    | text content => rw [hf] at ha; contradiction
    | element name attributes children => rfl
  rw [unifiedRow_map, inSpaceRow_map, filter_isElement_map hfilter, List.map_map]
  exact (List.map_congr_left h).trans (List.map_id' as)

/-- The rack of its own element. -/
theorem Rack.ofTree_toNode {rack : Rack} (h : rack.IsWritable) (tag : String) :
    Rack.ofTree ((rack.toNode tag).unified.inSpace "") = rack := by
  have hvalue (name : String) (value : Option String) (hmem : (name, value) ∈ rack.entries)
      (children : List (Node ExpandedName)) :=
    attribute?_given ⟨"", tag⟩ children ["name", "height"] rfl (by decide) hmem
  have hslots := map_ofTree_toNode isElement_slot fun slot hslot =>
    Slot.ofTree_toNode (h.slots slot hslot)
  rw [Rack.toNode, Node.unified, Node.inSpace]
  simp only [Rack.ofTree, Node.childElements, Node.children, hslots,
    hvalue "name" rack.name (.head _), hvalue "height" rack.height (.tail _ (.head _))]

/-- The rack set of its own tree. -/
theorem RackSet.ofTree_toNode {set : RackSet} (h : set.IsWritable) (rootTag rackTag : String) :
    RackSet.ofTree ((set.toNode rootTag rackTag).unified.inSpace "") = set := by
  have hracks := map_ofTree_toNode (f := Rack.toNode rackTag) (fun _ => rfl) fun rack hrack =>
    Rack.ofTree_toNode (h rack hrack) rackTag
  rw [RackSet.toNode, Node.unified, Node.inSpace]
  simp only [RackSet.ofTree, Node.childElements, Node.children, hracks]

/-- A rack set is read back from a source that is read as its written tree. -/
theorem RackSet.read_of_readTree {set : RackSet} (h : set.IsWritable) {rootTag rackTag : String}
    {source : Source}
    (hsource : readTree source = .ok ((set.toNode rootTag rackTag).unified.inSpace "")) :
    RackSet.read source = .ok set := by
  rw [RackSet.read, hsource]
  exact congrArg Except.ok (ofTree_toNode h rootTag rackTag)

/-- A rack set that can be written is read back from its written tree and from the bytes of it. -/
theorem RackSet.read_written (set : RackSet) (h : set.IsWritable) (rootTag rackTag : String)
    (hroot : Alphabet.common.isName rootTag.toList = true)
    (hrack : Alphabet.common.isName rackTag.toList = true) :
    RackSet.read (.text (set.toNode rootTag rackTag).written) = .ok set ∧
      RackSet.read (.bytes (Source.text (set.toNode rootTag rackTag).written).toBytes) =
        .ok set := by
  obtain ⟨htext, hbytes⟩ := (h.simple hroot hrack).readsAs rfl
  exact ⟨RackSet.read_of_readTree h htext, RackSet.read_of_readTree h hbytes⟩

/-- A rack with a gap below a device whose values need escapes. -/
def escapedRack : RackSet where
  racks := [{
    name := some "A & \"B\""
    height := some ""
    slots := [
      .device {
        kind := "server"
        position := some " 1\t"
        color := some "<red>\r\n"
        href := none
        label := "db &\nweb" },
      .gap { height := some "2" }] }]

theorem RackSet.read_written_escapedRack :
    RackSet.read (.text (escapedRack.toNode "racks" "rack").written) = .ok escapedRack ∧
      RackSet.read (.bytes (Source.text (escapedRack.toNode "racks" "rack").written).toBytes) =
        .ok escapedRack := by
  refine RackSet.read_written escapedRack (fun rack hrack => ?_) "racks" "rack"
    (isName_of_isWord (by decide)) (isName_of_isWord (by decide))
  obtain rfl := List.mem_singleton.1 hrack
  refine ⟨by decide, by decide, fun slot hslot => ?_⟩
  rcases List.mem_cons.1 hslot with rfl | hslot
  · have hlabel : IsPlainLabel "db &\nweb" := by
      refine ⟨by decide, by decide, fun c hc => ?_, fun c hc => ?_⟩
      · obtain rfl : 'd' = c := Option.some.inj hc
        decide
      · obtain rfl : 'b' = c := Option.some.inj hc
        decide
    exact ⟨isName_of_isWord (by decide), by decide, by decide, by decide, by decide, by decide,
      hlabel⟩
  · obtain rfl := List.mem_singleton.1 hslot
    exact ⟨by decide, by decide⟩

end ReadBack

end RackElevation
