import RackElevation.Drawing.Assembly
import RackElevation.Proofs.Drawing.ReadBack
import RackElevation.Rack.Reading

/-!
# What a viewer reads

A viewer reads a drawing as an element tree, and finds the strings of the layout in it: for each
rack its name, and for each device the fill of its rectangle, the text of its label and the target
of its link.  Fills and targets are attributes, whose line ends are escaped when they are written;
names and labels are texts, whose line ends are unified when they are read.
-/

namespace RackElevation

open Markup

/-! ## Views -/

/-- What a viewer reads of a device. -/
structure DeviceView where
  /-- The fill of its rectangle. -/
  fill : Option String
  /-- The text of its label. -/
  label : String
  /-- The target of its link. -/
  href : Option String
  deriving DecidableEq

/-- What a viewer reads of a rack. -/
@[ext]
structure RackView where
  /-- The text of the label before its body. -/
  name : Option String
  devices : List DeviceView
  deriving DecidableEq

/-- The name of an element in the namespace of drawings. -/
def drawnName? : Node ExpandedName → Option String
  | .element name _ _ => if name.space = svgSpace then some name.localPart else none
  | .text _ => none

/-- The first element with a given name in a row. -/
def firstDrawn? (parts : List (Node ExpandedName)) (name : String) : Option (Node ExpandedName) :=
  parts.find? (drawnName? · = some name)

/-- The device of a rectangle and a label. -/
def deviceView (href : Option String) (parts : List (Node ExpandedName)) : DeviceView where
  fill := (firstDrawn? parts "rect").bind (plainAttribute? · "fill")
  label := ((firstDrawn? parts "text").map Node.textContent).getD ""
  href := href

/-- The devices in a row of elements: links around a rectangle and a label, or such pairs by
themselves. -/
def deviceViews : List (Node ExpandedName) → List DeviceView
  | [] => []
  | node :: rest =>
      if drawnName? node = some "a" then
        deviceView (plainAttribute? node "href") node.childElements :: deviceViews rest
      else
        match rest with
        | [] => []
        | label :: rest => deviceView none [node, label] :: deviceViews rest

/-- A link is the view of one device, with the target of the link. -/
theorem deviceViews_link {node : Node ExpandedName} (h : drawnName? node = some "a")
    (rest : List (Node ExpandedName)) :
    deviceViews (node :: rest) =
      deviceView (plainAttribute? node "href") node.childElements :: deviceViews rest := by
  rw [deviceViews.eq_def]
  exact if_pos h

/-- Outside of links, a rectangle and a text are the view of one device. -/
theorem deviceViews_pair {node : Node ExpandedName} (h : drawnName? node ≠ some "a")
    (label : Node ExpandedName) (rest : List (Node ExpandedName)) :
    deviceViews (node :: label :: rest) = deviceView none [node, label] :: deviceViews rest := by
  rw [deviceViews.eq_def]
  exact if_neg h

/-- The rack of a group: a name if there is one, a body, and the devices. -/
def rackView (group : Node ExpandedName) : RackView :=
  match group.childElements with
  | [] => ⟨none, []⟩
  | first :: rest =>
      if drawnName? first = some "text" then ⟨some first.textContent, deviceViews rest.tail⟩
      else ⟨none, deviceViews rest⟩

/-- Whether a node is a group. -/
def isGroup (node : Node ExpandedName) : Bool :=
  drawnName? node = some "g"

/-- The racks of a tree. -/
def rackViews (root : Node ExpandedName) : List RackView :=
  (root.childElements.filter isGroup).map rackView

/-- The strings of a device in a layout. -/
def DeviceLayout.view (device : DeviceLayout) : DeviceView :=
  ⟨some device.fill, device.label, device.href⟩

/-- The strings of a rack in a layout. -/
def RackLayout.view (rack : RackLayout) : RackView :=
  ⟨rack.name, rack.devices.map DeviceLayout.view⟩

/-- The strings of a layout. -/
def Layout.views (layout : Layout) : List RackView :=
  layout.racks.map RackLayout.view

/-! ## Line ends -/

/-- A text with unified line ends. -/
def unifiedText (s : String) : String :=
  String.ofList (unifyLineEnds s.toList)

/-- A device with unified line ends in its label. -/
def DeviceView.unified (view : DeviceView) : DeviceView :=
  { view with label := unifiedText view.label }

/-- A rack with unified line ends in its name and in the labels of its devices. -/
def RackView.unified (view : RackView) : RackView where
  name := view.name.map unifiedText
  devices := view.devices.map DeviceView.unified

/-- A rack without carriage returns in its name and in the labels of its devices. -/
structure RackView.HasNoReturn (view : RackView) : Prop where
  name : ∀ name ∈ view.name, '\r' ∉ name.toList
  label : ∀ device ∈ view.devices, '\r' ∉ device.label.toList

/-- Unified line ends leave no carriage return. -/
theorem not_mem_unifyFrom (after : Bool) (cs : List Char) : '\r' ∉ unifyFrom after cs := by
  induction cs generalizing after with
  | nil => exact List.not_mem_nil
  | cons c cs ih =>
      rw [unifyFrom]
      split
      · exact List.not_mem_cons_of_ne_of_not_mem (by decide) (ih true)
      · next hc =>
          split
          · exact ih false
          · refine List.not_mem_cons_of_ne_of_not_mem (fun heq => hc ?_) (ih false)
            rw [← heq]
            rfl

/-- Only carriage returns are changed. -/
theorem unifiedText_eq_iff {s : String} : unifiedText s = s ↔ '\r' ∉ s.toList := by
  rw [unifiedText, unifyLineEnds_eq]
  constructor
  · intro h
    rw [← h, String.toList_ofList]
    exact not_mem_unifyFrom false s.toList
  · intro h
    rw [unifyFrom_of_forall_ne fun c hc heq => h (heq ▸ hc), String.ofList_toList]

/-- A view is the same after its line ends are unified exactly when its label has no carriage
return. -/
theorem DeviceView.unified_eq_iff {view : DeviceView} :
    view.unified = view ↔ '\r' ∉ view.label.toList := by
  rw [← unifiedText_eq_iff]
  constructor
  · exact congrArg DeviceView.label
  · intro h
    rw [unified, h]

/-- A list stays the same when each of its elements does. -/
theorem map_eq_self_iff {α : Type} {f : α → α} {as : List α} :
    as.map f = as ↔ ∀ a ∈ as, f a = a := by
  have h := @List.map_inj_left _ _ as f id
  rwa [List.map_id] at h

/-- Only racks without carriage returns have unified line ends. -/
theorem unified_views_eq_iff {views : List RackView} :
    views.map RackView.unified = views ↔ ∀ view ∈ views, view.HasNoReturn := by
  rw [map_eq_self_iff]
  refine forall₂_congr fun view _ => ?_
  have hname : view.name.map unifiedText = view.name ↔ ∀ s ∈ view.name, '\r' ∉ s.toList := by
    cases view.name with
    | none => simp
    | some s => simp [unifiedText_eq_iff]
  have hdevices : view.devices.map DeviceView.unified = view.devices ↔
      ∀ device ∈ view.devices, '\r' ∉ device.label.toList :=
    map_eq_self_iff.trans (forall₂_congr fun _ _ => DeviceView.unified_eq_iff)
  rw [RackView.unified, RackView.ext_iff, hname, hdevices]
  exact ⟨fun h => ⟨h.1, h.2⟩, fun h => ⟨h.name, h.label⟩⟩

/-! ## Elements -/

namespace Markup.Node

/-- A row is read back tree by tree. -/
theorem readBackRow_eq_map (nodes : List (Node String)) :
    readBackRow nodes = nodes.map readBack := by
  induction nodes with
  | nil => rfl
  | cons node nodes ih => rw [readBackRow, ih, List.map_cons]

/-- What is read back is an element when what was written is. -/
theorem isElement_readBack (node : Node String) : node.readBack.isElement = node.isElement := by
  cases node with
  | element name attributes children => rfl
  | text content => rfl

/-- An element that holds only elements is read with all it holds. -/
theorem childElements_readBack {name : String} {attributes : List (String × String)}
    {nodes : List (Node String)} (h : ∀ node ∈ nodes, node.isElement = true) :
    (Node.element name attributes nodes).readBack.childElements = nodes.map readBack := by
  rw [readBack, readBackRow_eq_map]
  refine List.filter_eq_self.2 (List.forall_mem_map.2 fun node hnode => ?_)
  rw [isElement_readBack, h node hnode]

/-- A text element is read back with unified line ends. -/
theorem textContent_readBack_ofText {name : String} {attributes : List (String × String)}
    (content : String) :
    (Node.element name attributes (Node.ofText content)).readBack.textContent =
      unifiedText content := by
  rw [Node.ofText]
  split
  · next hempty =>
      rw [String.isEmpty_iff.1 hempty]
      rfl
  · exact String.append_empty

end Markup.Node

namespace Primitive

variable {room : ℕ}

/-- A row of primitives is written one by one. -/
theorem toNodes_eq_mapM (ps : List Primitive) : toNodes room ps = ps.mapM (toNode room) := by
  induction ps with
  | nil => rfl
  | cons p ps ih => rw [toNodes, List.mapM_cons, ih]

/-- A row is written when its parts are, and their elements are in a row. -/
theorem toNodes_append_eq_ok {ps qs : List Primitive} {nodes : List (Node String)} :
    toNodes room (ps ++ qs) = .ok nodes ↔
      ∃ ns ms, toNodes room ps = .ok ns ∧ toNodes room qs = .ok ms ∧ ns ++ ms = nodes := by
  simp only [toNodes_eq_mapM, List.mapM_append, bind_eq_ok, pure_eq_ok, exists_and_left]

/-- A row is written when its first primitive and the others are. -/
theorem toNodes_cons_eq_ok {p : Primitive} {ps : List Primitive} {nodes : List (Node String)} :
    toNodes room (p :: ps) = .ok nodes ↔
      ∃ node ns, p.toNode room = .ok node ∧ toNodes room ps = .ok ns ∧ node :: ns = nodes := by
  simp only [toNodes, bind_eq_ok, pure_eq_ok, exists_and_left]

/-- There is room for a primitive that is written. -/
theorem exists_room_of_toNode {p : Primitive} {node : Node String}
    (h : p.toNode room = .ok node) : ∃ inner, room = inner + 1 := by
  cases room with
  | zero =>
      rw [toNode] at h
      contradiction
  | succ inner => exact ⟨inner, rfl⟩

/-- Every primitive is written as an element. -/
theorem isElement_of_toNode {p : Primitive} {node : Node String} (h : p.toNode room = .ok node) :
    node.isElement = true := by
  obtain ⟨room, rfl⟩ := exists_room_of_toNode h
  cases p with
  | rect r =>
      obtain ⟨_, -, h⟩ := bind_eq_ok.1 h
      rw [← pure_eq_ok.1 h, Node.isElement]
  | label l =>
      obtain ⟨_, -, h⟩ := bind_eq_ok.1 h
      rw [← pure_eq_ok.1 h, Node.isElement]
  | style css => rw [← pure_eq_ok.1 h, Node.isElement]
  | link href held =>
      obtain ⟨_, -, h⟩ := bind_eq_ok.1 h
      rw [← pure_eq_ok.1 h, Node.isElement]
  | group translate held =>
      obtain ⟨_, -, h⟩ := bind_eq_ok.1 h
      obtain ⟨_, -, h⟩ := bind_eq_ok.1 h
      rw [← pure_eq_ok.1 h, Node.isElement]
  | foreign value => exact absurd h (toNode_foreign_ne_ok value)

/-- Every primitive is written as an element. -/
theorem isElement_of_toNodes {ps : List Primitive} {nodes : List (Node String)}
    (h : toNodes room ps = .ok nodes) : ∀ node ∈ nodes, node.isElement = true := by
  induction ps generalizing nodes with
  | nil =>
      rw [← Except.ok.inj h]
      exact fun _ hnode => absurd hnode List.not_mem_nil
  | cons p ps ih =>
      obtain ⟨node, ns, hnode, hns, rfl⟩ := toNodes_cons_eq_ok.1 h
      exact List.forall_mem_cons.2 ⟨isElement_of_toNode hnode, ih hns⟩

/-- A rectangle is read with its fill. -/
theorem readBack_rect {r : Rect} {node : Node String} (h : (rect r).toNode room = .ok node) :
    drawnName? node.readBack = some "rect" ∧
      plainAttribute? node.readBack "fill" = some r.fill := by
  obtain ⟨room, rfl⟩ := exists_room_of_toNode h
  obtain ⟨attributes, hattributes, h⟩ := bind_eq_ok.1 h
  obtain rfl := pure_eq_ok.1 h
  simp only [Rect.attributes, bind_eq_ok, pure_eq_ok] at hattributes
  obtain ⟨x, -, y, -, width, -, height, -, rfl⟩ := hattributes
  exact ⟨rfl, rfl⟩

/-- A label is read with its text. -/
theorem readBack_label {l : Label} {node : Node String} (h : (label l).toNode room = .ok node) :
    drawnName? node.readBack = some "text" ∧ node.readBack.textContent = unifiedText l.content := by
  obtain ⟨room, rfl⟩ := exists_room_of_toNode h
  obtain ⟨attributes, -, h⟩ := bind_eq_ok.1 h
  obtain rfl := pure_eq_ok.1 h
  exact ⟨rfl, Node.textContent_readBack_ofText l.content⟩

/-- A link is read with its target and all it holds. -/
theorem readBack_link {href : String} {held : List Primitive} {node : Node String}
    (h : (link href held).toNode room = .ok node) :
    drawnName? node.readBack = some "a" ∧ plainAttribute? node.readBack "href" = some href ∧
      ∃ inner nodes, toNodes inner held = .ok nodes ∧
        node.readBack.childElements = nodes.map Node.readBack := by
  obtain ⟨room, rfl⟩ := exists_room_of_toNode h
  obtain ⟨nodes, hnodes, h⟩ := bind_eq_ok.1 h
  obtain rfl := pure_eq_ok.1 h
  exact ⟨rfl, rfl, room, nodes, hnodes, Node.childElements_readBack (isElement_of_toNodes hnodes)⟩

/-- A group is read with all it holds. -/
theorem readBack_group {translate : Option (Number × Number)} {held : List Primitive}
    {node : Node String} (h : (group translate held).toNode room = .ok node) :
    drawnName? node.readBack = some "g" ∧
      ∃ inner nodes, toNodes inner held = .ok nodes ∧
        node.readBack.childElements = nodes.map Node.readBack := by
  obtain ⟨room, rfl⟩ := exists_room_of_toNode h
  obtain ⟨attributes, -, h⟩ := bind_eq_ok.1 h
  obtain ⟨nodes, hnodes, h⟩ := bind_eq_ok.1 h
  obtain rfl := pure_eq_ok.1 h
  exact ⟨rfl, room, nodes, hnodes, Node.childElements_readBack (isElement_of_toNodes hnodes)⟩

end Primitive

/-! ## Layouts -/

section Layouts

variable {room : ℕ}

/-- A rack whose name and whose targets are not empty where it has them. -/
structure RackLayout.HasNoEmpty (rack : RackLayout) : Prop where
  name : nonempty? rack.name = rack.name
  href : ∀ device ∈ rack.devices, nonempty? device.href = device.href

/-- The rectangle and the label of a device are read as a pair. -/
theorem exists_pair_readBack {device : DeviceLayout} {nodes : List (Node String)}
    (h : Primitive.toNodes room [.rect device.rect, .label device.caption] = .ok nodes) :
    ∃ body label, nodes.map Node.readBack = [body, label] ∧ drawnName? body = some "rect" ∧
      ∀ href, deviceView href [body, label] =
        { fill := some device.fill, label := unifiedText device.label, href } := by
  obtain ⟨body, _, hbody, hlabels, rfl⟩ := Primitive.toNodes_cons_eq_ok.1 h
  obtain ⟨label, _, hlabel, hnil, rfl⟩ := Primitive.toNodes_cons_eq_ok.1 hlabels
  obtain rfl := Except.ok.inj hnil
  obtain ⟨hname, hfill⟩ := Primitive.readBack_rect hbody
  obtain ⟨hlabelName, hcontent⟩ := Primitive.readBack_label hlabel
  refine ⟨body.readBack, label.readBack, rfl, hname, fun href => ?_⟩
  have hrect : firstDrawn? [body.readBack, label.readBack] "rect" = some body.readBack := by
    simp [firstDrawn?, hname]
  have htext : firstDrawn? [body.readBack, label.readBack] "text" = some label.readBack := by
    simp [firstDrawn?, hname, hlabelName]
  rw [deviceView, hrect, htext, Option.bind_some, hfill, Option.map_some, hcontent]
  rfl

/-- The elements of a device are read as the device. -/
theorem deviceViews_primitives {device : DeviceLayout} (hhref : nonempty? device.href = device.href)
    {nodes : List (Node String)} (h : Primitive.toNodes room device.primitives = .ok nodes)
    (rest : List (Node ExpandedName)) :
    deviceViews (nodes.map Node.readBack ++ rest) = device.view.unified :: deviceViews rest := by
  rw [DeviceLayout.primitives, hhref] at h
  cases htarget : device.href with
  | none =>
      simp only [htarget] at h
      -- the box and the label stand in the rack itself
      obtain ⟨body, label, hnodes, hname, hpair⟩ := exists_pair_readBack h
      have hlink : drawnName? body ≠ some "a" := by
        rw [hname]
        decide
      rw [hnodes, List.cons_append, List.singleton_append, deviceViews_pair hlink,
        hpair, DeviceLayout.view, DeviceView.unified, htarget]
  | some href =>
      simp only [htarget] at h
      obtain ⟨node, _, hnode, hnil, rfl⟩ := Primitive.toNodes_cons_eq_ok.1 h
      obtain rfl := Except.ok.inj hnil
      -- the box and the label stand inside the link
      obtain ⟨hname, hattribute, _, held, hheld, hchildren⟩ := Primitive.readBack_link hnode
      obtain ⟨body, label, hnodes, -, hpair⟩ := exists_pair_readBack hheld
      rw [List.map_singleton, List.singleton_append, deviceViews_link hname, hattribute,
        hchildren, hnodes, hpair, DeviceLayout.view, DeviceView.unified, htarget]

/-- The devices of a rack are seen in their elements, up to line ends, if no target is empty. -/
theorem deviceViews_devices {devices : List DeviceLayout}
    (hhref : ∀ device ∈ devices, nonempty? device.href = device.href) {nodes : List (Node String)}
    (h : Primitive.toNodes room (devices.flatMap DeviceLayout.primitives) = .ok nodes) :
    deviceViews (nodes.map Node.readBack) = devices.map (·.view.unified) := by
  induction devices generalizing nodes with
  | nil =>
      rw [← Except.ok.inj h]
      rfl
  | cons device devices ih =>
      obtain ⟨hdevice, hdevices⟩ := List.forall_mem_cons.1 hhref
      rw [List.flatMap_cons] at h
      obtain ⟨ns, ms, hns, hms, rfl⟩ := Primitive.toNodes_append_eq_ok.1 h
      rw [List.map_append, deviceViews_primitives hdevice hns, ih hdevices hms, List.map_cons]

/-- The group of a rack is read as the rack. -/
theorem rackView_group {rack : RackLayout} (hrack : rack.HasNoEmpty) {node : Node String}
    (h : rack.group.toNode room = .ok node) :
    isGroup node.readBack = true ∧ rackView node.readBack = rack.view.unified := by
  obtain ⟨hname, _, held, hheld, hchildren⟩ := Primitive.readBack_group h
  refine ⟨decide_eq_true hname, ?_⟩
  obtain ⟨caption, _, hcaption, hrest, rfl⟩ := Primitive.toNodes_append_eq_ok.1 hheld
  obtain ⟨body, devices, hbody, hdevices, rfl⟩ := Primitive.toNodes_cons_eq_ok.1 hrest
  have hviews := deviceViews_devices hrack.href hdevices
  rw [RackLayout.caption, hrack.name] at hcaption
  rw [rackView, hchildren, List.map_append, List.map_cons]
  -- a caption is the one text that stands before the body; without it the body is first
  cases htitle : rack.name with
  | none =>
      simp only [htitle] at hcaption
      obtain rfl := Except.ok.inj hcaption
      have hbodyName : drawnName? body.readBack ≠ some "text" := by
        rw [(Primitive.readBack_rect hbody).1]
        decide
      simp [hbodyName, hviews, RackLayout.view, RackView.unified, htitle]
  | some title =>
      simp only [htitle] at hcaption
      obtain ⟨label, _, hlabel, hnil, rfl⟩ := Primitive.toNodes_cons_eq_ok.1 hcaption
      obtain rfl := Except.ok.inj hnil
      obtain ⟨hlabelName, hcontent⟩ := Primitive.readBack_label hlabel
      simp [hlabelName, hcontent, hviews, RackLayout.view, RackView.unified, htitle]

/-- The racks of a layout are seen in their elements, up to line ends, if no name or target is
empty. -/
theorem rackViews_groups {racks : List RackLayout} (hracks : ∀ rack ∈ racks, rack.HasNoEmpty)
    {nodes : List (Node String)}
    (h : Primitive.toNodes room (racks.map RackLayout.group) = .ok nodes) :
    ((nodes.map Node.readBack).filter isGroup).map rackView =
      racks.map (·.view.unified) := by
  induction racks generalizing nodes with
  | nil =>
      rw [← Except.ok.inj h]
      rfl
  | cons rack racks ih =>
      obtain ⟨hrack, hrest⟩ := List.forall_mem_cons.1 hracks
      obtain ⟨node, ns, hnode, hns, rfl⟩ := Primitive.toNodes_cons_eq_ok.1 h
      obtain ⟨hgroup, hview⟩ := rackView_group hrack hnode
      rw [List.map_cons, List.filter_cons_of_pos hgroup, List.map_cons, hview, ih hrest hns,
        List.map_cons]

/-- The drawing of a layout is read as the racks of the layout, with unified line ends. -/
theorem rackViews_readBack {layout : Layout} (hracks : ∀ rack ∈ layout.racks, rack.HasNoEmpty)
    {hover : Bool} {node : Node String} (h : (layout.drawing hover).toNode room = .ok node) :
    rackViews node.readBack = layout.views.map RackView.unified := by
  simp only [Drawing.toNode, bind_eq_ok, pure_eq_ok] at h
  obtain ⟨height, -, width, -, nodes, hnodes, rfl⟩ := h
  rw [rackViews, Node.childElements_readBack (Primitive.isElement_of_toNodes hnodes), Layout.views,
    List.map_map]
  cases hover with
  | false => exact rackViews_groups hracks hnodes
  | true =>
      obtain ⟨style, groups, hstyle, hgroups, rfl⟩ := Primitive.toNodes_cons_eq_ok.1 hnodes
      obtain ⟨_, rfl⟩ := Primitive.exists_room_of_toNode hstyle
      obtain rfl := Except.ok.inj hstyle
      have hskipped :
          ¬ isGroup (Node.element "style" [] (Node.ofText hoverStyle)).readBack = true := by
        decide
      rw [List.map_cons, List.filter_cons_of_neg hskipped]
      exact rackViews_groups hracks hgroups

end Layouts

end RackElevation
