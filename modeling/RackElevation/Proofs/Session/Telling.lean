import RackElevation.Proofs.Drawing.Preorder
import RackElevation.Proofs.Session.Tracing
import RackElevation.Proofs.Session.Viewing

/-!
# What a trace tells

The trace of a drawing that was returned tells the truth about it.  The slots are counted when the
source was read, the devices are listed when it was laid out, and the primitives are counted by the
walk of the assembled drawing; all of them are those of one rack set.  The text that the trace keeps
is the one that the session gives for the source, and it holds one element for each primitive.
-/

namespace RackElevation

open Markup

/-- The value that a stage of a trace has under a name. -/
def Trace.value? (trace : Trace) (stage name : String) : Option Datum :=
  (trace.stage? stage).bind fun found => found.values.lookup name

/-! ## Primitives of a rack set -/

/-- The devices of a rack, from top to bottom. -/
def Rack.devices (rack : Rack) : List Device :=
  rack.slots.filterMap Slot.device?

/-- The gap of a slot, if it leaves one. -/
def Slot.gap? : Slot → Option Gap
  | .device _ => none
  | .gap g => some g

/-- The gaps of a rack, from top to bottom. -/
def Rack.gaps (rack : Rack) : List Gap :=
  rack.slots.filterMap Slot.gap?

/-- One for a text that is there and not empty, and else zero. -/
def presence (text : Option String) : ℕ :=
  if (nonempty? text).isSome then 1 else 0

/-- The primitives of a device: a rectangle and a label, and a link when it has a target. -/
def Device.primitiveCount (device : Device) : ℕ :=
  2 + presence device.href

/-- The primitives of a rack: its group and its body, a label when it has a name, and those of its
devices. -/
def Rack.primitiveCount (rack : Rack) : ℕ :=
  2 + presence rack.name + (rack.devices.map Device.primitiveCount).sum

/-- The primitives of a rack set: the style rule, and those of its racks. -/
def RackSet.primitiveCount (set : RackSet) : ℕ :=
  1 + (set.racks.map Rack.primitiveCount).sum

/-- The primitives that draw what a viewer reads of a rack. -/
def RackView.primitiveCount (view : RackView) : ℕ :=
  2 + presence view.name + (view.devices.map fun device => 2 + presence device.href).sum

/-- A slot is a device or a gap. -/
theorem Rack.length_slots (rack : Rack) :
    rack.slots.length = rack.devices.length + rack.gaps.length := by
  rw [Rack.devices, Rack.gaps]
  induction rack.slots with
  | nil => rfl
  | cons slot slots ih =>
      cases slot <;> simp only [List.filterMap_cons, Slot.device?, Slot.gap?, List.length_cons] <;>
        omega

/-- An empty text counts as none. -/
theorem presence_nonempty? (text : Option String) : presence (nonempty? text) = presence text := by
  rw [presence, presence, nonempty?_nonempty?]

/-- The order of the devices does not matter for their primitives. -/
theorem Rack.primitiveCount_view (settings : Settings) (rack : Rack) :
    (rack.view settings).primitiveCount = rack.primitiveCount := by
  have hdevice : (fun device : DeviceView => 2 + presence device.href) ∘ Device.view settings =
      Device.primitiveCount := by
    funext device
    exact congrArg (2 + ·) (presence_nonempty? device.href)
  rw [RackView.primitiveCount, Rack.view, List.map_map, hdevice, presence_nonempty?,
    List.filterMap_reverse, List.map_reverse, List.sum_reverse, Rack.primitiveCount, Rack.devices]

/-! ## Walks of assembled drawings -/

namespace Primitive

/-- The rectangle of a primitive that is one. -/
def rect? : Primitive → Option Rect
  | .rect r => some r
  | _ => none

/-- A rack has one primitive for its name, if it has a name. -/
theorem length_walk_caption (rack : RackLayout) :
    (walkStack rack.caption).length = presence rack.name := by
  rw [RackLayout.caption, presence]
  cases nonempty? rack.name <;> simp [walkStack_cons, walkStack_nil, children]

/-- A device has two primitives, and a third one if it is linked. -/
theorem length_walk_primitives (device : DeviceLayout) :
    (walkStack device.primitives).length = 2 + presence device.href := by
  rw [DeviceLayout.primitives, presence]
  cases nonempty? device.href <;> simp [walkStack_cons, walkStack_nil, children]

/-- The walk of a rack: its group, its name, its body and its devices. -/
theorem walk_group (rack : RackLayout) :
    walkStack [rack.group] = rack.group :: (walkStack rack.caption ++
      .rect rack.body :: rack.devices.flatMap fun device => walkStack device.primitives) := by
  have hchildren : rack.group.children =
      rack.caption ++ .rect rack.body :: rack.devices.flatMap DeviceLayout.primitives := rfl
  have hbody : (Primitive.rect rack.body).children = [] := rfl
  rw [walkStack_cons, hchildren, walkStack_append, walkStack_cons, hbody, walkStack_flatMap,
    walkStack_nil, List.nil_append, List.append_nil]

/-- The number of primitives of a rack can be told from its view. -/
theorem length_walk_group (rack : RackLayout) :
    (walkStack [rack.group]).length = rack.view.primitiveCount := by
  have hdevices : (rack.devices.flatMap fun device => walkStack device.primitives).length =
      (rack.devices.map fun device => 2 + presence device.href).sum := by
    rw [List.length_flatMap]
    exact congrArg List.sum (List.map_congr_left fun device _ => length_walk_primitives device)
  have hview : rack.view.primitiveCount =
      2 + presence rack.name + (rack.devices.map fun device => 2 + presence device.href).sum := by
    rw [RackView.primitiveCount, RackLayout.view, List.map_map]
    rfl
  rw [walk_group, List.length_cons, List.length_append, List.length_cons, hdevices,
    length_walk_caption, hview]
  omega

/-- The name of a rack is no rectangle. -/
theorem rects_walk_caption (rack : RackLayout) :
    (walkStack rack.caption).filterMap rect? = [] := by
  rw [RackLayout.caption]
  cases nonempty? rack.name <;> simp [walkStack_cons, walkStack_nil, children, rect?]

/-- A device is one rectangle. -/
theorem rects_walk_primitives (device : DeviceLayout) :
    (walkStack device.primitives).filterMap rect? = [device.rect] := by
  rw [DeviceLayout.primitives]
  cases nonempty? device.href <;> simp only [walkStack_cons, walkStack_nil, children] <;> rfl

/-- The rectangles of a rack in drawing order: its body, and its devices in the order of the
layout. -/
theorem rects_walk_group (rack : RackLayout) :
    (walkStack [rack.group]).filterMap rect? =
      rack.body :: rack.devices.map DeviceLayout.rect := by
  have hdevices : (rack.devices.flatMap fun device => walkStack device.primitives).filterMap rect? =
      rack.devices.map DeviceLayout.rect := by
    rw [List.filterMap_flatMap, List.map_eq_flatMap]
    exact List.flatMap_congr fun device _ => rects_walk_primitives device
  have hgroup : rect? rack.group = none := rfl
  have hbody : rect? (.rect rack.body) = some rack.body := rfl
  rw [walk_group, List.filterMap_cons_none hgroup, List.filterMap_append, rects_walk_caption,
    List.nil_append, List.filterMap_cons_some hbody, hdevices]

end Primitive

open Primitive

/-- The walk of an assembled drawing: the style rule, then rack by rack. -/
theorem walk_drawing (layout : Layout) : layout.drawing.walk =
    .style hoverStyle :: layout.racks.flatMap fun rack => walkStack [rack.group] := by
  rw [Drawing.walk, Layout.drawing, if_pos rfl, List.map_eq_flatMap, List.singleton_append,
    walkStack_cons, walkStack_flatMap]
  have hstyle : (Primitive.style hoverStyle).children = [] := rfl
  rw [hstyle, walkStack_nil, List.nil_append]

/-- The walk of the drawing of a rack set. -/
theorem length_walk_drawing {settings : Settings} {set : RackSet} {layout : Layout}
    (h : set.layout settings = .ok layout) :
    layout.drawing.walk.length = set.primitiveCount := by
  have hcounts : layout.views.map RackView.primitiveCount =
      set.racks.map Rack.primitiveCount := by
    rw [views_of_layout h, List.map_map]
    exact List.map_congr_left fun rack _ => rack.primitiveCount_view settings
  have hgroups : layout.racks.map (fun rack => (walkStack [rack.group]).length) =
      layout.views.map RackView.primitiveCount := by
    rw [Layout.views, List.map_map]
    exact List.map_congr_left fun rack _ => length_walk_group rack
  rw [walk_drawing, List.length_cons, List.length_flatMap, hgroups, hcounts,
    RackSet.primitiveCount, Nat.add_comm]

/-- The rectangles of a drawing are the bodies of its racks, each with its devices behind it. -/
theorem rects_walk_drawing (layout : Layout) : layout.drawing.walk.filterMap rect? =
    layout.racks.flatMap fun rack => rack.body :: rack.devices.map DeviceLayout.rect := by
  have hstyle : rect? (.style hoverStyle) = none := rfl
  rw [walk_drawing, List.filterMap_cons_none hstyle, List.filterMap_flatMap]
  exact List.flatMap_congr fun rack _ => rects_walk_group rack

/-! ## Elements that are read -/

namespace Markup.Node

mutual

/-- As many elements are read back as were written. -/
theorem length_elements_readBack : ∀ node : Node String,
    node.readBack.elements.length = node.elements.length
  | .text _ => rfl
  | .element _ _ children => by
      rw [readBack, elements, elements, List.length_cons, List.length_cons,
        length_elements_readBackRow children]

/-- As many elements of a row are read back as were written. -/
theorem length_elements_readBackRow : ∀ nodes : List (Node String),
    (elementsOfRow (readBackRow nodes)).length = (elementsOfRow nodes).length
  | [] => rfl
  | node :: rest => by
      rw [readBackRow, elementsOfRow, elementsOfRow, List.length_append, List.length_append,
        length_elements_readBack node, length_elements_readBackRow rest]

end

/-- A tree that is read back has as many elements as the written one. -/
theorem length_descendants_readBack (node : Node String) :
    node.readBack.descendants.length = node.descendants.length := by
  cases node with
  | text content => rfl
  | element name attributes nodes => exact length_elements_readBackRow nodes

end Markup.Node

/-! ## Stages -/

section Stages

variable {settings : Settings} {source : Source} {drawing : Drawing}

/-- The stages of a drawing that was returned: its rack set, its layout and its text. -/
theorem exists_stages_of_tracedRender
    (h : (tracedRender settings source).2.outcome = .ok drawing) :
    ∃ set layout text, RackSet.read source = .ok set ∧ set.layout settings = .ok layout ∧
      layout.drawing = drawing ∧ drawing.svg nestingLimit = .ok text ∧
      (tracedRender settings source).1.stages = [set.stage, layout.stage,
        ⟨"assemble", [("primitive_count", countDatum drawing.walk.length)], some text⟩] := by
  rw [tracedRender, RackSet.readReport] at h ⊢
  -- a stage is recorded when its step succeeds, so a traced drawing has all three
  cases hread : RackSet.read source with
  | error failure =>
      rw [hread] at h
      contradiction
  | ok set =>
      simp only [hread, RackSet.report] at h ⊢
      cases hlayout : set.layout settings with
      | error failure =>
          rw [hlayout] at h
          contradiction
      | ok layout =>
          simp only [hlayout, tracedDrawing, Layout.drawingReport, Except.bind, Drawing.stage]
            at h ⊢
          cases hsvg : layout.drawing.svg nestingLimit with
          | error failure =>
              rw [hsvg] at h
              contradiction
          | ok text =>
              rw [hsvg] at h
              obtain rfl := Except.ok.inj h
              exact ⟨set, layout, text, rfl, hlayout, rfl, hsvg, rfl⟩

end Stages

/-- What a trace should tell about a rack set, its layout, and the drawing and the text of that. -/
structure Trace.Tells (trace : Trace) (set : RackSet) (layout : Layout) (drawing : Drawing)
    (text : String) : Prop where
  /-- The devices and the gaps of each rack. -/
  slotCounts : trace.value? "parse" "slot_counts" = some (.list (set.racks.map fun rack =>
    .number (.int ((rack.devices.length + rack.gaps.length : ℕ) : ℤ))))
  /-- The size of the canvas. -/
  canvas : trace.value? "layout" "canvas" =
    some (.tuple [.number drawing.width, .number drawing.height])
  /-- The kind, the unit, the units and the upper edge of each device. -/
  devices : trace.value? "layout" "devices" = some (.list (layout.racks.flatMap fun rack =>
    rack.devices.map fun device =>
      .tuple [.text device.kind, .number device.unit, .number device.units, .number device.y]))
  /-- The primitives of the racks and their devices. -/
  primitiveCount : trace.value? "assemble" "primitive_count" =
    some (.number (.int (set.primitiveCount : ℤ)))
  /-- The text of the drawing. -/
  snapshot : (trace.stage? "assemble").bind (·.snapshot) = some text

/-- A trace with the stages of a rendering tells all about it. -/
theorem Trace.tells_of_stages {trace : Trace} {settings : Settings} {set : RackSet}
    {layout : Layout} {text : String} (hlayout : set.layout settings = .ok layout)
    (h : trace.stages = [set.stage, layout.stage,
      ⟨"assemble", [("primitive_count", countDatum layout.drawing.walk.length)], some text⟩]) :
    trace.Tells set layout layout.drawing text := by
  have hcounts : set.racks.map (fun rack => countDatum rack.slots.length) =
      set.racks.map fun rack =>
        .number (.int ((rack.devices.length + rack.gaps.length : ℕ) : ℤ)) :=
    List.map_congr_left fun rack _ => by rw [countDatum, rack.length_slots]
  -- each stage is found under its name, for the three names differ
  have hread : trace.stage? "parse" = some set.stage := by rw [Trace.stage?, h]; rfl
  have hlaidOut : trace.stage? "layout" = some layout.stage := by rw [Trace.stage?, h]; rfl
  have hassembled : trace.stage? "assemble" = some
      ⟨"assemble", [("primitive_count", countDatum layout.drawing.walk.length)], some text⟩ := by
    rw [Trace.stage?, h]; rfl
  constructor
  case slotCounts =>
    rw [Trace.value?, hread, ← hcounts]
    rfl
  case canvas =>
    rw [Trace.value?, hlaidOut]
    rfl
  case devices =>
    rw [Trace.value?, hlaidOut]
    rfl
  case primitiveCount =>
    rw [Trace.value?, hassembled, ← length_walk_drawing hlayout]
    rfl
  case snapshot =>
    rw [hassembled]
    rfl

/-! ## Sessions -/

/-- The trace of a drawing that a session returned tells the truth about it, with the devices in the
order of their rectangles.  The text that it keeps is the one that any session under the same
settings gives for the source, and as many elements are read in it below the root as primitives were
counted. -/
theorem Session.trace_tells {session : Session} (hcolors : session.settings.AllowedColors)
    {source : Source} {drawing : Drawing}
    (h : (session.generate source true).2.outcome = .ok drawing) :
    ∃ trace set layout text tree, (session.generate source true).1.trace = some trace ∧
      RackSet.read source = .ok set ∧ (session.layout source).outcome = .ok layout ∧
      trace.Tells set layout drawing text ∧
      drawing.walk.filterMap rect? = (layout.racks.flatMap fun rack =>
        rack.body :: rack.devices.map DeviceLayout.rect) ∧
      (∀ other : Session, other.settings = session.settings →
        (other.svg source).2.outcome = .ok text) ∧
      readTree (.text text) = .ok tree ∧ tree.descendants.length = set.primitiveCount := by
  rw [Session.generate_traced] at h ⊢
  obtain ⟨set, layout, text, hset, hlayout, rfl, hsvg, hstages⟩ := exists_stages_of_tracedRender h
  have htext : ∀ other : Session, other.settings = session.settings →
      (other.svg source).2.outcome = .ok text := by
    intro other hother
    rw [Session.outcome_svg, hother, outcome_render hset hlayout, ok_bind, hsvg]
  -- the text is that of any session with these settings, so it is read back as its drawing is
  obtain ⟨set', layout', node, hset', hlayout', hnode, -, hreads⟩ :=
    Session.exists_readBack_of_svg hcolors (htext session rfl)
  obtain rfl := Except.ok.inj (hset.symm.trans hset')
  obtain rfl := Except.ok.inj (hlayout.symm.trans hlayout')
  refine ⟨_, set, layout, text, node.readBack, rfl, hset, ?_,
    Trace.tells_of_stages hlayout hstages, rects_walk_drawing layout, htext, hreads.1, ?_⟩
  · rw [Session.layout, outcome_arrange, hset, ok_bind, hlayout]
  · rw [Node.length_descendants_readBack, ← (Drawing.forall₂_descendants hnode).length_eq,
      length_walk_drawing hlayout]

/-- An unnamed rack with a gap and two devices, one of them with a target, and a named rack that is
empty. -/
def mixedSource : Source :=
  .text ("<racks><rack name=\"\"><gap/><san href=\"\">a</san><san href=\"#\"/></rack>" ++
    "<rack name=\"B\"/></racks>")

/-- The racks of that source. -/
def mixedSet : RackSet where
  racks := [
    { name := some "", slots := [.gap {}, .device { kind := "san", href := some "", label := "a" },
      .device { kind := "san", href := some "#" }] },
    { name := some "B" }]

/-- The trace of a drawing with a linked device, a gap and an empty rack. -/
theorem Session.trace_tells_mixedSource :
    standardSession.settings.AllowedColors ∧
    ∃ drawing, (standardSession.generate mixedSource true).2.outcome = .ok drawing ∧
      ∃ trace tree, (standardSession.generate mixedSource true).1.trace = some trace ∧
        trace.value? "parse" "slot_counts" =
          some (.list [.number (.int 3), .number (.int 0)]) ∧
        trace.value? "assemble" "primitive_count" = some (.number (.int 11)) ∧
        (∃ text, (standardSession.svg mixedSource).2.outcome = .ok text ∧
          readTree (.text text) = .ok tree) ∧
        tree.descendants.length = 11 := by
  have hread : RackSet.read mixedSource = .ok mixedSet := by decide +kernel
  have hok : (standardSession.generate mixedSource true).2.outcome.isOk = true := by
    decide +kernel
  cases houtcome : (standardSession.generate mixedSource true).2.outcome with
  | error failure =>
      rw [houtcome] at hok
      exact absurd hok Bool.false_ne_true
  | ok drawing =>
      obtain ⟨trace, set, layout, text, tree, htrace, hset, -, htells, -, htext, htree, hcount⟩ :=
        Session.trace_tells allowedColors_standard houtcome
      obtain rfl := Except.ok.inj (hread.symm.trans hset)
      exact ⟨allowedColors_standard, drawing, rfl, trace, tree, htrace, htells.slotCounts,
        htells.primitiveCount, ⟨text, htext standardSession rfl, htree⟩, hcount⟩

end RackElevation
