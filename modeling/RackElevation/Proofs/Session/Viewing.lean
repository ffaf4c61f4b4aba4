import RackElevation.Proofs.Drawing.Viewing
import RackElevation.Proofs.Layout.Geometry
import RackElevation.Proofs.Session.Independence
import RackElevation.Proofs.Session.ReadBack

/-!
# What a viewer reads of a source

The text that a session gives for a source is read as the racks of its layout: their names, and for
each device, from the bottom slot to the top one, its fill, its label and its target.  Fills and
targets are read as they are.  So are names and labels, up to their line ends: a carriage return is
written as it stands in a text, and read as a line feed.
-/

namespace RackElevation

open Markup

/-! ## Strings of a layout -/

/-- What should be read of a device. -/
def Device.view (settings : Settings) (device : Device) : DeviceView where
  fill := some (settings.colorFor device.kind device.color)
  label := device.label
  href := nonempty? device.href

/-- What should be read of a rack, with its devices from the bottom to the top. -/
def Rack.view (settings : Settings) (rack : Rack) : RackView where
  name := nonempty? rack.name
  devices := (rack.slots.reverse.filterMap Slot.device?).map (Device.view settings)

section Layouts

variable {settings : Settings}

/-- Leaving out empty texts twice is leaving them out once. -/
theorem nonempty?_nonempty? (text : Option String) :
    nonempty? (nonempty? text) = nonempty? text := by
  rw [nonempty?, nonempty?, Option.filter_filter]
  simp only [Bool.and_self]

/-- The devices of a rack are seen from below, as they are placed. -/
theorem views_devicesGeometry (bottom : Number) (slots : List Slot) :
    (devicesGeometry settings bottom (placements slots)).map DeviceLayout.view =
      (slots.reverse.filterMap Slot.device?).map (Device.view settings) := by
  have hslots : slots.reverse = (placements slots).map Placement.slot :=
    (map_slot_placementsFrom 0 slots.reverse).symm
  rw [hslots, List.filterMap_map, List.map_filterMap, devicesGeometry, List.map_filterMap]
  refine List.filterMap_congr fun p _ => ?_
  rw [Option.map_map]
  rfl

/-- A rack that is laid out is seen as it was given, wherever it stands. -/
theorem view_geometry (rack : Rack) (units xOffset : Number) :
    (rack.geometry settings units xOffset).view = rack.view settings := by
  rw [RackLayout.view, Rack.geometry, views_devicesGeometry, Rack.view]

/-- Racks that are laid out are seen as they were given. -/
theorem views_racksGeometry (xOffset : Number) (racks : List Rack) :
    (racksGeometry settings xOffset racks).map RackLayout.view =
      racks.map (Rack.view settings) := by
  induction racks generalizing xOffset with
  | nil => rfl
  | cons rack racks ih => rw [racksGeometry_cons, List.map_cons, view_geometry, ih, List.map_cons]

/-- A computed layout has the strings of its rack set. -/
theorem views_of_layout {set : RackSet} {layout : Layout} (h : set.layout settings = .ok layout) :
    layout.views = set.racks.map (Rack.view settings) := by
  rw [(RackSet.eq_geometry_of_layout h).2, Layout.views, RackSet.geometry, views_racksGeometry]

/-- A computed layout has no empty names and targets. -/
theorem hasNoEmpty_of_layout {set : RackSet} {layout : Layout}
    (h : set.layout settings = .ok layout) : ∀ rack ∈ layout.racks, rack.HasNoEmpty := by
  obtain ⟨-, rfl⟩ := RackSet.eq_geometry_of_layout h
  intro rack hrack
  obtain ⟨i, hi, rfl⟩ := List.mem_mapIdx.1 hrack
  refine ⟨nonempty?_nonempty? _, fun device hdevice => ?_⟩
  obtain ⟨p, -, d, -, rfl⟩ := mem_devicesGeometry.1 hdevice
  exact nonempty?_nonempty? _

end Layouts

/-! ## Texts of a session -/

namespace Session

variable {session : Session} {source : Source} {text : String}

/-- A session writes the drawing that it renders. -/
theorem outcome_svg : (session.svg source).2.outcome =
    (render session.settings source).outcome >>= (·.svg nestingLimit) :=
  Report.outcome_andThen _ _

/-- The text of a session is that of the drawing of a layout, and it is read as that drawing. -/
theorem exists_readBack_of_svg (hcolors : session.settings.AllowedColors)
    (h : (session.svg source).2.outcome = .ok text) :
    ∃ set layout node, RackSet.read source = .ok set ∧ set.layout session.settings = .ok layout ∧
      layout.drawing.toNode nestingLimit = .ok node ∧ node.written = text ∧
        ReadsAs text node.readBack := by
  rw [outcome_svg] at h
  obtain ⟨drawing, hdrawing, hsvg⟩ := bind_eq_ok.1 h
  have hallowed := render_allowed hcolors hdrawing
  have hroom := depth_lt_of_render hdrawing
  have hprintable : drawing.IsPrintable := by
    by_contra hlong
    rw [(Drawing.isWrittenIff_svg hroom hallowed.isNative).error hlong] at hsvg
    contradiction
  obtain ⟨node, hnode, hwritten, -, hreads, -⟩ := Drawing.readsBack_of_allowed hallowed.isNative
    hallowed.strings (Drawing.isPrintable_iff.1 hprintable) hroom
  obtain rfl := Except.ok.inj (hwritten.symm.trans hsvg)
  rw [outcome_render_eq_compile, compile] at hdrawing
  obtain ⟨set, hset, hdrawing⟩ := bind_eq_ok.1 hdrawing
  obtain ⟨layout, hlayout, hdrawing⟩ := bind_eq_ok.1 hdrawing
  obtain rfl := pure_eq_ok.1 hdrawing
  exact ⟨set, layout, node, hset, hlayout, hnode, rfl, hreads⟩

/-- A viewer reads the racks of the layout in the text that a session gives, with unified line ends
in their names and labels.  So it reads them as they are exactly when no name and no label holds a
carriage return. -/
theorem rackViews_of_svg (hcolors : session.settings.AllowedColors)
    (h : (session.svg source).2.outcome = .ok text) :
    ∃ set layout tree, RackSet.read source = .ok set ∧
      (session.layout source).outcome = .ok layout ∧
      layout.views = set.racks.map (Rack.view session.settings) ∧ ReadsAs text tree ∧
      rackViews tree = layout.views.map RackView.unified ∧
      (rackViews tree = layout.views ↔ ∀ view ∈ layout.views, view.HasNoReturn) := by
  obtain ⟨set, layout, node, hset, hlayout, hnode, -, hreads⟩ := exists_readBack_of_svg hcolors h
  have hviews := rackViews_readBack (hasNoEmpty_of_layout hlayout) hnode
  refine ⟨set, layout, node.readBack, hset, ?_, views_of_layout hlayout, hreads, hviews, ?_⟩
  · rw [Session.layout, outcome_arrange, hset, ok_bind, hlayout]
  · rw [hviews, unified_views_eq_iff]

end Session

/-! ### A label that is not read as it is -/

/-- The element tree of the device whose label holds a carriage return. -/
def linkedNode : Node String :=
  .element "svg" (rootAttributes "350" "1100") [
    .element "style" [] [.text hoverStyle],
    .element "g" [("transform", "translate(25, 0)")] [
      .element "rect" [("x", "0"), ("y", "25"), ("width", "300"), ("height", "1050"),
        ("fill", "#4A5568"), ("stroke", "black")] [],
      .element "a" [("href", "#a")] [
        .element "rect" [("x", "0"), ("y", "1050"), ("width", "300"), ("height", "25"),
          ("fill", "#4FD1C5"), ("stroke", "black")] [],
        .element "text" [("x", "150"), ("y", "1062.5"), ("text-anchor", "middle"),
          ("dominant-baseline", "central"), ("font-family", "sans-serif")] [.text "x\ry"]]]]

/-- A session with the standard settings. -/
def standardSession : Session where
  settings := {}

/-- The text of the drawing of the linked device. -/
theorem outcome_svg_linkedSource :
    (standardSession.svg linkedSource).2.outcome = .ok linkedNode.written := by
  have hx : (Number.real (Binary64.ofNat 150)).coordinateText = .ok "150" := by decide +kernel
  have hy : (Number.real (Binary64.ofQuotient 2125 2)).coordinateText = .ok "1062.5" := by
    decide +kernel
  have hnode : linkedDrawing.toNode (997 + 3) = .ok linkedNode := by
    simp only [linkedDrawing, Drawing.toNode, Primitive.toNodes, Primitive.toNode, Rect.attributes,
      Label.attributes, groupAttributes, translateText, hx, hy, ok_bind]
    rfl
  have hrender : (render standardSession.settings linkedSource).outcome = .ok linkedDrawing :=
    outcome_render_linkedSource
  have hlimit : nestingLimit = 997 + 3 := rfl
  rw [Session.outcome_svg, hrender, ok_bind, hlimit, Drawing.svg, hnode]
  rfl

/-- The linked device is seen in its text, with a line feed for the carriage return of its label. -/
theorem Session.rackViews_of_svg_linkedSource :
    standardSession.settings.AllowedColors ∧
      (standardSession.svg linkedSource).2.outcome = .ok linkedNode.written ∧
      ∃ set layout tree, RackSet.read linkedSource = .ok set ∧
        (standardSession.layout linkedSource).outcome = .ok layout ∧
        layout.views = set.racks.map (Rack.view standardSession.settings) ∧
        ReadsAs linkedNode.written tree ∧ rackViews tree = layout.views.map RackView.unified ∧
        (rackViews tree = layout.views ↔ ∀ view ∈ layout.views, view.HasNoReturn) :=
  ⟨allowedColors_standard, outcome_svg_linkedSource,
    rackViews_of_svg allowedColors_standard outcome_svg_linkedSource⟩

/-- A carriage return in a label is read as a line feed. -/
theorem rackViews_ne_views_linkedSource :
    standardSession.settings.AllowedColors ∧
      (standardSession.svg linkedSource).2.outcome = .ok linkedNode.written ∧
      ∃ layout tree, (standardSession.layout linkedSource).outcome = .ok layout ∧
        ReadsAs linkedNode.written tree ∧
        layout.views = [⟨none, [⟨some "#4FD1C5", "x\ry", some "#a"⟩]⟩] ∧
        rackViews tree = [⟨none, [⟨some "#4FD1C5", "x\ny", some "#a"⟩]⟩] := by
  have hread : RackSet.read linkedSource = .ok linkedSet := by decide +kernel
  obtain ⟨set, layout, node, hset, hlayout, hnode, -, hreads⟩ :=
    Session.exists_readBack_of_svg allowedColors_standard outcome_svg_linkedSource
  obtain rfl := Except.ok.inj (hread.symm.trans hset)
  have hviews : layout.views = [⟨none, [⟨some "#4FD1C5", "x\ry", some "#a"⟩]⟩] := by
    rw [views_of_layout hlayout]
    decide
  refine ⟨allowedColors_standard, outcome_svg_linkedSource, layout, node.readBack, ?_, hreads,
    hviews, ?_⟩
  · rw [Session.layout, outcome_arrange, hread, ok_bind, hlayout]
  · rw [rackViews_readBack (hasNoEmpty_of_layout hlayout) hnode, hviews]
    decide

end RackElevation
