import Mathlib.Data.Bool.AllAny
import RackElevation.Proofs.Drawing.Printing
import RackElevation.Proofs.Markup.Simple
import RackElevation.Proofs.Number.Characters

/-!
# Reading written drawings

A drawing whose strings are allowed in a document and whose numbers can be written has a text, and
that text is read back as its element tree: with the elements in the namespace of drawings, the
attributes in none, and the line ends unified.
-/

namespace RackElevation

open Markup

namespace Markup.Node

/-- Whether an attribute binds one of the namespaces of drawings. -/
def isBinding (name : String) : Bool :=
  name == "xmlns" || name == "xmlns:xlink"

mutual

/-- The tree that is read from a written drawing: its elements are in the namespace of drawings, its
attributes in none, without those that bind namespaces, and its line ends are unified. -/
def readBack : Node String → Node ExpandedName
  | .text content => .text (String.ofList (unifyLineEnds content.toList))
  | .element name attributes children =>
      .element ⟨svgSpace, name⟩ ((attributes.filter fun entry => !isBinding entry.1).map plainEntry)
        (readBackRow children)

/-- A row of such trees. -/
def readBackRow : List (Node String) → List (Node ExpandedName)
  | [] => []
  | node :: rest => readBack node :: readBackRow rest

end

/-- The attributes of a simple tag bind no prefixes. -/
theorem isBinding_of_simpleTag {name : String} {attributes : List (String × String)}
    (h : SimpleTag name attributes) : ∀ entry ∈ attributes, (!isBinding entry.1) = true := by
  intro entry hentry
  have hcolon : entry.1 ≠ "xmlns:xlink" := by
    intro heq
    have hne := ne_colon_of_isName (h.names_ok entry hentry) ':'
    rw [heq] at hne
    exact hne (by decide) rfl
  rw [isBinding, Bool.not_eq_true', Bool.or_eq_false_iff, beq_eq_false_iff_ne, beq_eq_false_iff_ne]
  exact ⟨h.names_ne entry hentry, hcolon⟩

mutual

/-- A simple tree in the namespace of drawings is the tree that is read back, up to line ends. -/
theorem inSpace_unified : ∀ {node : Node String}, node.Simple →
    node.unified.inSpace svgSpace = node.readBack
  | .text _, _ => rfl
  | .element name attributes children, h => by
      rw [unified, inSpace, readBack, inSpaceRow_unified h.2,
        List.filter_eq_self.2 (isBinding_of_simpleTag h.1)]

/-- A row of simple trees in the namespace of drawings is the row that is read back. -/
theorem inSpaceRow_unified : ∀ {nodes : List (Node String)}, SimpleRow nodes →
    inSpaceRow svgSpace (unifiedRow nodes) = readBackRow nodes
  | [], _ => rfl
  | _ :: _, h => by
      rw [unifiedRow, inSpaceRow, readBackRow, inSpace_unified h.1, inSpaceRow_unified h.2.2]

end

end Markup.Node

/-! ## Numbers -/

/-- The characters of a written number are allowed. -/
theorem isAllowed_of_isNumberChar {c : Char} (h : IsNumberChar c) : isAllowed c = true := by
  rcases h with h | h
  · rw [Char.isDigit, Bool.and_eq_true, decide_eq_true_eq, decide_eq_true_eq] at h
    have hlow : 48 ≤ c.toNat := UInt32.le_iff_toNat_le.1 h.1
    have hhigh : c.toNat ≤ 57 := UInt32.le_iff_toNat_le.1 h.2
    rw [isAllowed, if_neg (by omega), Bool.and_eq_true, bne_iff_ne, bne_iff_ne]
    omega
  · have hmarks : "-+.einfa".toList.all isAllowed = true := by decide
    exact List.all_eq_true.1 hmarks c h

/-- A written number is an allowed text. -/
theorem isAllowedText_coordinateText {n : Number} {s : String} (h : n.coordinateText = .ok s) :
    IsAllowedText s :=
  fun c hc => isAllowed_of_isNumberChar (isNumberChar_coordinateText h c hc)

/-! ## Primitives -/

namespace Primitive

/-- A primitive that can be written, apart from those it holds. -/
structure IsWritable (p : Primitive) : Prop where
  native : p.isForeign = false
  strings : ∀ s ∈ p.strings, IsAllowedText s
  numbers : ∀ n ∈ p.numbers, n.IsPrintable

section Tags

/-- A rectangle that can be written has the attributes of a simple tag. -/
theorem exists_attributes_rect {r : Rect} (h : (rect r).IsWritable) :
    ∃ attributes, r.attributes = .ok attributes ∧ SimpleTag "rect" attributes := by
  obtain ⟨x, hx⟩ := h.numbers r.x (.head _)
  obtain ⟨y, hy⟩ := h.numbers r.y (.tail _ (.head _))
  obtain ⟨width, hwidth⟩ := h.numbers r.width (.tail _ (.tail _ (.head _)))
  obtain ⟨height, hheight⟩ := h.numbers r.height (.tail _ (.tail _ (.tail _ (.head _))))
  refine ⟨_, by
    rw [Rect.attributes, hx, ok_bind, hy, ok_bind, hwidth, ok_bind, hheight, ok_bind]; rfl,
    simpleTag_of_keys ["x", "y", "width", "height", "fill", "stroke"] rfl (by decide)
      (by decide) (by decide) ?_⟩
  simp only [List.forall_mem_cons]
  exact ⟨isAllowedText_coordinateText hx, isAllowedText_coordinateText hy,
    isAllowedText_coordinateText hwidth, isAllowedText_coordinateText hheight,
    h.strings r.fill (.head _), h.strings r.stroke (.tail _ (.head _)),
    fun _ hc => absurd hc List.not_mem_nil⟩

/-- A label that can be written has the attributes of a simple tag. -/
theorem exists_attributes_label {l : Label} (h : (label l).IsWritable) :
    ∃ attributes, l.attributes = .ok attributes ∧ SimpleTag "text" attributes := by
  obtain ⟨x, hx⟩ := h.numbers l.x (.head _)
  obtain ⟨y, hy⟩ := h.numbers l.y (.tail _ (.head _))
  refine ⟨_, by rw [Label.attributes, hx, ok_bind, hy, ok_bind]; rfl,
    simpleTag_of_keys ["x", "y", "text-anchor", "dominant-baseline", "font-family"] rfl
      (by decide) (by decide) (by decide) ?_⟩
  simp only [List.forall_mem_cons]
  exact ⟨isAllowedText_coordinateText hx, isAllowedText_coordinateText hy, by decide, by decide,
    h.strings l.fontFamily (.tail _ (.head _)), fun _ hc => absurd hc List.not_mem_nil⟩

/-- Allowed texts make an allowed text together. -/
theorem isAllowedText_append {s t : String} (hs : IsAllowedText s) (ht : IsAllowedText t) :
    IsAllowedText (s ++ t) := by
  rw [IsAllowedText, String.toList_append, List.forall_mem_append]
  exact ⟨hs, ht⟩

/-- A group that can be written has the attributes of a simple tag, its shift written or left out.
-/
theorem exists_attributes_group {translate : Option (Number × Number)} {children : List Primitive}
    (h : (group translate children).IsWritable) :
    ∃ attributes, groupAttributes translate = .ok attributes ∧ SimpleTag "g" attributes := by
  cases translate with
  | none =>
      exact ⟨[], rfl, simpleTag_of_keys [] rfl (by decide) (by decide) (by decide)
        fun _ hentry => absurd hentry List.not_mem_nil⟩
  | some shift =>
      obtain ⟨x, hx⟩ := h.numbers shift.1 (.head _)
      obtain ⟨y, hy⟩ := h.numbers shift.2 (.tail _ (.head _))
      refine ⟨_, by rw [groupAttributes, translateText, hx, ok_bind, hy, ok_bind]; rfl,
        simpleTag_of_keys ["transform"] rfl (by decide) (by decide) (by decide) ?_⟩
      have hleft := isAllowedText_append (by decide : IsAllowedText "translate(")
        (isAllowedText_coordinateText hx)
      have hright := isAllowedText_append
        (isAllowedText_append hleft (by decide : IsAllowedText ", "))
        (isAllowedText_coordinateText hy)
      exact List.forall_mem_singleton.2
        (isAllowedText_append hright (by decide : IsAllowedText ")"))

/-- A link that can be written has the attributes of a simple tag. -/
theorem simpleTag_link {href : String} {children : List Primitive}
    (h : (link href children).IsWritable) : SimpleTag "a" [("href", href)] :=
  simpleTag_of_keys ["href"] rfl (by decide) (by decide) (by decide)
    (List.forall_mem_singleton.2 (h.strings href (.head _)))

theorem simpleTag_style : SimpleTag "style" [] :=
  simpleTag_of_keys [] rfl (by decide) (by decide) (by decide)
    fun _ hentry => absurd hentry List.not_mem_nil

end Tags

/-! ## Elements -/

mutual

/-- With room for its levels, a primitive is written as a simple element. -/
theorem simple_toNode : ∀ {room : ℕ} {p : Primitive}, p.depth ≤ room → p.All IsWritable →
    ∃ node, p.toNode room = .ok node ∧ node.Simple ∧ node.isElement = true
  -- induction on the tree; the room is as deep as the tree, so it never runs out
  | 0, p, hroom, _ => absurd hroom p.depth_pos.not_ge
  | _ + 1, .rect r, _, h => by
      obtain ⟨attributes, hattributes, htag⟩ := exists_attributes_rect h.1
      exact ⟨.element "rect" attributes [], by rw [toNode, hattributes, ok_bind]; rfl,
        ⟨htag, trivial⟩, rfl⟩
  | _ + 1, .label l, _, h => by
      obtain ⟨attributes, hattributes, htag⟩ := exists_attributes_label h.1
      exact ⟨.element "text" attributes (Node.ofText l.content),
        by rw [toNode, hattributes, ok_bind]; rfl,
        ⟨htag, Node.simpleRow_ofText (h.1.strings l.content (.head _))⟩, rfl⟩
  | _ + 1, .style css, _, h =>
      ⟨.element "style" [] (Node.ofText css), rfl,
        ⟨simpleTag_style, Node.simpleRow_ofText (h.1.strings css (.head _))⟩, rfl⟩
  | _ + 1, .link href children, hroom, h => by
      obtain ⟨nodes, hnodes, hrow⟩ := simpleRow_toNodes children (Nat.le_of_succ_le_succ hroom) h.2
      exact ⟨.element "a" [("href", href)] nodes, by rw [toNode, hnodes, ok_bind]; rfl,
        ⟨simpleTag_link h.1, hrow⟩, rfl⟩
  | _ + 1, .group translate children, hroom, h => by
      obtain ⟨attributes, hattributes, htag⟩ := exists_attributes_group h.1
      obtain ⟨nodes, hnodes, hrow⟩ := simpleRow_toNodes children (Nat.le_of_succ_le_succ hroom) h.2
      exact ⟨.element "g" attributes nodes,
        by rw [toNode, hattributes, ok_bind, hnodes, ok_bind]; rfl, ⟨htag, hrow⟩, rfl⟩
  | _ + 1, .foreign value, _, h => absurd h.1.native (by simp [isForeign])

/-- With room for its levels, a row of primitives is written as a simple row. -/
theorem simpleRow_toNodes : ∀ {room : ℕ} (ps : List Primitive), depths ps ≤ room →
    (∀ q ∈ walkStack ps, q.IsWritable) → ∃ nodes, toNodes room ps = .ok nodes ∧ Node.SimpleRow nodes
  | _, [], _, _ => ⟨[], rfl, trivial⟩
  | _, p :: ps, hroom, h => by
      rw [forall_mem_walkStack_cons] at h
      obtain ⟨hfirst, hrest⟩ := depths_cons_le.1 hroom
      obtain ⟨node, hnode, hsimple, helement⟩ := simple_toNode hfirst h.1
      obtain ⟨nodes, hnodes, hrow⟩ := simpleRow_toNodes ps hrest h.2
      exact ⟨node :: nodes, by rw [toNodes, hnode, ok_bind, hnodes, ok_bind]; rfl, hsimple,
        Or.inl helement, hrow⟩

end

end Primitive

/-! ## Roots -/

/-- The attributes of the root element of a drawing. -/
def rootAttributes (width height : String) : List (String × String) :=
  [("baseProfile", "full"), ("height", height), ("version", "1.1"), ("width", width),
    ("xmlns", svgSpace), ("xmlns:xlink", linkSpace)]

/-- The attributes of the root element that bind no namespaces. -/
def ownRootAttributes (width height : String) : List (String × String) :=
  [("baseProfile", "full"), ("height", height), ("version", "1.1"), ("width", width)]

/-- The namespaces inside the root element. -/
def drawingScope : Scope :=
  [("xlink", linkSpace), ("", svgSpace), ("xml", xmlSpace)]

section Root

variable {width height : String}

/-- The root has the attributes of a simple tag, its bindings apart. -/
theorem simpleTag_ownRootAttributes (hwidth : IsAllowedText width)
    (hheight : IsAllowedText height) : SimpleTag "svg" (ownRootAttributes width height) := by
  refine simpleTag_of_keys ["baseProfile", "height", "version", "width"] rfl (by decide)
    (by decide) (by decide) ?_
  simp only [ownRootAttributes, List.forall_mem_cons]
  exact ⟨by decide, hheight, by decide, hwidth, fun _ hentry => absurd hentry List.not_mem_nil⟩

/-- The root element has its own attributes and those that bind namespaces. -/
theorem rootAttributes_eq :
    rootAttributes width height = ownRootAttributes width height ++
      [("xmlns", svgSpace), ("xmlns:xlink", linkSpace)] := rfl

/-- The tag of the root can be written, its bindings included. -/
theorem writableTag_root (hwidth : IsAllowedText width) (hheight : IsAllowedText height) :
    WritableTag "svg" (rootAttributes width height) := by
  have hown := (simpleTag_ownRootAttributes hwidth hheight).writable
  refine ⟨hown.name_ok, ?_, ?_, ?_⟩
  · exact (by decide :
      ["baseProfile", "height", "version", "width", "xmlns", "xmlns:xlink"].Nodup)
  · rw [rootAttributes_eq, List.forall_mem_append, List.forall_mem_cons,
      List.forall_mem_singleton]
    exact ⟨hown.names_ok, by decide, by decide⟩
  · rw [rootAttributes_eq, List.forall_mem_append, List.forall_mem_cons,
      List.forall_mem_singleton]
    exact ⟨hown.values_ok, by decide, by decide⟩

/-- The words that the attributes of the root element bind. -/
theorem boundWord?_rootAttributes :
    boundWord? "baseProfile" = none ∧ boundWord? "height" = none ∧ boundWord? "version" = none ∧
      boundWord? "width" = none ∧ boundWord? "xmlns" = some "" ∧
      boundWord? "xmlns:xlink" = some "xlink" := by
  decide

/-- The bindings of the root make the scope of a drawing. -/
theorem bindAll?_root :
    Scope.outermost.bindAll? (rootAttributes width height) = some drawingScope := by
  obtain ⟨hprofile, hheight, hversion, hwidth, hempty, hlink⟩ := boundWord?_rootAttributes
  have hbindEmpty : Scope.mayBind "" svgSpace = true := by decide
  have hbindLink : Scope.mayBind "xlink" linkSpace = true := by decide
  simp only [Scope.bindAll?, rootAttributes, List.foldlM_cons, List.foldlM_nil, hprofile, hheight,
    hversion, hwidth, hempty, hlink, Scope.bind?, hbindEmpty, hbindLink, if_true,
    Option.bind_eq_bind, Option.bind_some]
  rfl

/-- The attributes of the root are its bindings and its own attributes. -/
theorem filter_rootAttributes :
    (rootAttributes width height).filter (fun entry => (boundWord? entry.1).isNone) =
      ownRootAttributes width height := by
  obtain ⟨hprofile, hheight, hversion, hwidth, hempty, hlink⟩ := boundWord?_rootAttributes
  simp [rootAttributes, ownRootAttributes, hprofile, hheight, hversion, hwidth, hempty, hlink]

/-- The own attributes of the root are read as attributes without a namespace. -/
theorem attributes?_root :
    drawingScope.attributes? (rootAttributes width height) =
      some ((ownRootAttributes width height).map plainEntry) := by
  refine attributes?_of_filter filter_rootAttributes ?_
    (by decide : ["baseProfile", "height", "version", "width"].Nodup)
  simp only [ownRootAttributes, List.forall_mem_cons]
  exact ⟨by decide, by decide, by decide, by decide,
    fun _ hentry => absurd hentry List.not_mem_nil⟩

/-- The root element of a drawing is read back. -/
theorem expand?_root {nodes : List (Node String)} (hnodes : Node.SimpleRow nodes) :
    (Node.element "svg" (rootAttributes width height) nodes).unified.expand? .outermost =
      some (Node.element "svg" (rootAttributes width height) nodes).readBack := by
  have hspace : drawingScope.default = svgSpace := by decide
  have hname : Alphabet.common.isName "svg".toList = true := isName_of_isWord (by decide)
  have hown : (rootAttributes width height).filter (fun entry => !Node.isBinding entry.1) =
      ownRootAttributes width height := by
    simp [rootAttributes, ownRootAttributes, Node.isBinding]
  rw [Node.unified, Node.expand?, bindAll?_root, Option.bind_eq_bind, Option.bind_some,
    elementName?_of_isName hname, Option.bind_eq_bind, Option.bind_some, attributes?_root,
    Option.bind_eq_bind, Option.bind_some, Node.expandRow?_simple drawingScope hnodes, hspace,
    Node.inSpaceRow_unified hnodes, Node.readBack, hown]
  rfl

end Root

/-! ## Drawings -/

/-- What the declaration line says, between its marks. -/
def declarationBody : List Char :=
  " version=\"1.0\" encoding=\"UTF-8\"".toList

/-- The characters of the declaration line, without its line end. -/
def declarationChars : List Char :=
  "<?xml".toList ++ declarationBody ++ "?>".toList

/-- The declaration line is the declaration and a line end. -/
theorem toList_declarationLine : declarationLine.toList = declarationChars ++ ['\n'] := by
  decide

/-- The text of a declaration ends with the first question mark and angle bracket. -/
theorem body?_append {cs : List Char} (h : '?' ∉ cs) (read rest : List Char) :
    Declaration.body? read (cs ++ '?' :: '>' :: rest) = some (read.reverse ++ cs) := by
  induction cs generalizing read with
  | nil => rw [List.nil_append, Declaration.body?, List.append_nil]
  | cons c cs ih =>
      rw [List.mem_cons, not_or] at h
      rw [List.cons_append, Declaration.body?, ih h.2, List.reverse_cons, List.append_assoc,
        List.singleton_append]
      rintro rest' rfl -
      exact h.1 rfl

/-- The declaration is read as one that names UTF-8 and nothing else. -/
theorem ofStart_declarationChars (rest : List Char) :
    Declaration.ofStart (declarationChars ++ rest) =
      .ok ({ encoding := some "UTF-8" }, declarationChars.length) := by
  have hbody : Declaration.body? [] (declarationBody ++ '?' :: '>' :: rest) =
      some declarationBody := body?_append (by decide) [] rest
  have hsettings : (Declaration.readSettings? 3 declarationBody).bind Declaration.ofSettings? =
      some { encoding := some "UTF-8" } := by
    decide
  have hstart : declarationChars ++ rest =
      '<' :: '?' :: 'x' :: 'm' :: 'l' :: ' ' ::
        (declarationBody.tail ++ '?' :: '>' :: rest) := rfl
  have hcons : ' ' :: (declarationBody.tail ++ '?' :: '>' :: rest) =
      declarationBody ++ '?' :: '>' :: rest := rfl
  rw [hstart, Declaration.ofStart, if_pos (by decide), hcons, hbody]
  simp only [hsettings]
  rfl

/-- A source that begins with the declaration line before a written tree. -/
theorem readTree_declared {source : Source} {node : Node String} {tree : Node ExpandedName}
    (h : node.Tidy) (helement : node.isElement = true)
    (htree : node.unified.expand? .outermost = some tree)
    (hbytes : source.toBytes = utf8Bytes (declarationLine.toList ++ node.writtenChars)) :
    readTree source = .ok tree := by
  have hascii : ∀ c ∈ declarationChars, c.toNat < 0x80 := List.all_iff_forall_prop.1 (by decide)
  rw [toList_declarationLine, List.append_assoc] at hbytes
  refine readTree_of_ofStart declarationChars (['\n'] ++ node.writtenChars)
    { encoding := some "UTF-8" } hbytes hascii ?_ ?_ ?_ ?_ fun d hd => ?_
  · rw [hbytes]
    exact detect_cons_cons (b := 0x3F) (by decide) _
  · rw [hbytes, utf8Bytes_append, asciiStart_append hascii, ofStart_declarationChars]
  · cases source with
    | text content => rfl
    -- bytes are decoded by the declared name, a text is not
    | bytes content =>
        have hupper : "UTF-8".map Char.toUpper = "UTF-8" := by
          rw [← String.toList_inj, String.toList_map]
          decide
        simp only [Source.encoding, Encoding.declared, hupper]
        rfl
  · exact isWithinLimit_written h helement (by simp) Char.utf8Size_pos _ _
  · exact rootOfChars?_written h helement htree (by simp) d hd

/-- A drawing that is written, with and without the declaration line, where so many calls may be
nested, and whose text and the bytes of it are read back as its element tree. -/
def Drawing.ReadsBack (drawing : Drawing) (room : ℕ) : Prop :=
  ∃ node, drawing.toNode room = .ok node ∧ drawing.svg room = .ok node.written ∧
    drawing.svgFile room = .ok (declarationLine ++ node.written) ∧
    ReadsAs node.written node.readBack ∧ ReadsAs (declarationLine ++ node.written) node.readBack

/-- A drawing with allowed strings and printable numbers is read back, when there is room for its
tree. -/
theorem Drawing.readsBack_of_allowed {drawing : Drawing} {room : ℕ} (hnative : drawing.IsNative)
    (hstrings : ∀ s ∈ drawing.strings, IsAllowedText s)
    (hnumbers : ∀ n ∈ drawing.numbers, n.IsPrintable) (hroom : drawing.depth < room) :
    drawing.ReadsBack room := by
  obtain ⟨width, hwidth⟩ := hnumbers drawing.width (.head _)
  obtain ⟨height, hheight⟩ := hnumbers drawing.height (.tail _ (.head _))
  have hwritable : ∀ p ∈ drawing.walk, p.IsWritable := fun p hp =>
    ⟨hnative p hp, fun s hs => hstrings s (List.mem_flatMap.2 ⟨p, hp, hs⟩),
      fun n hn => hnumbers n (.tail _ (.tail _ (List.mem_flatMap.2 ⟨p, hp, hn⟩)))⟩
  obtain ⟨nodes, hnodes, hrow⟩ := Primitive.simpleRow_toNodes drawing.children hroom.le hwritable
  -- the root is written as tidy markup, since numbers and strings are allowed
  have htidy : (Node.element "svg" (rootAttributes width height) nodes).Tidy :=
    ⟨writableTag_root (isAllowedText_coordinateText hwidth) (isAllowedText_coordinateText hheight),
      hrow.tidy⟩
  have hnode : drawing.toNode room = .ok (.element "svg" (rootAttributes width height) nodes) := by
    rw [Drawing.toNode, hheight, ok_bind, hwidth, ok_bind, hnodes, ok_bind]
    rfl
  have hsvg : drawing.svg room =
      .ok (Node.element "svg" (rootAttributes width height) nodes).written := by
    rw [Drawing.svg_eq_map hroom, hnode]
    rfl
  have hfile : drawing.svgFile room = .ok
      (declarationLine ++ (Node.element "svg" (rootAttributes width height) nodes).written) := by
    rw [Drawing.svgFile, hsvg]
    rfl
  -- behind the declaration line the document is the same
  have hbytes : (Source.text (declarationLine ++
      (Node.element "svg" (rootAttributes width height) nodes).written)).toBytes =
      utf8Bytes (declarationLine.toList ++
        (Node.element "svg" (rootAttributes width height) nodes).writtenChars) := by
    rw [toBytes_text, String.toList_append, Node.written, String.toList_ofList]
  exact ⟨_, hnode, hsvg, hfile, readsAs_written htidy rfl (expand?_root hrow),
    readTree_declared htidy rfl (expand?_root hrow) hbytes,
    readTree_declared htidy rfl (expand?_root hrow) hbytes⟩

end RackElevation
