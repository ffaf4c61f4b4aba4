import RackElevation.Drawing
import RackElevation.Layout.Arrangement
import RackElevation.Note

/-!
# Assembly of drawings

A layout becomes a drawing: the hover style if it is wanted, then one group for each rack, shifted
by the rack's offset.  A group holds the rack's name, its body and its devices.  A device is a
rectangle and a label, wrapped in a link when it has a target.
-/

namespace RackElevation

/-- The rectangle of a device. -/
def DeviceLayout.rect (device : DeviceLayout) : Rect where
  x := device.x
  y := device.y
  width := device.width
  height := device.height
  fill := device.fill
  stroke := outlineColor

/-- The label of a device. -/
def DeviceLayout.caption (device : DeviceLayout) : Label where
  x := device.labelX
  y := device.labelY
  content := device.label

/-- The primitives of a device. -/
def DeviceLayout.primitives (device : DeviceLayout) : List Primitive :=
  match nonempty? device.href with
  | some href => [.link href [.rect device.rect, .label device.caption]]
  | none => [.rect device.rect, .label device.caption]

/-- The body of a rack. -/
def RackLayout.body (rack : RackLayout) : Rect where
  x := rack.bodyX
  y := rack.bodyY
  width := rack.bodyWidth
  height := rack.bodyHeight
  fill := bodyColor
  stroke := outlineColor

/-- The label with the name of a rack, if it has one. -/
def RackLayout.caption (rack : RackLayout) : List Primitive :=
  match nonempty? rack.name with
  | some name => [.label { x := rack.labelX, y := rack.labelY, content := name }]
  | none => []

/-- The group of a rack. -/
def RackLayout.group (rack : RackLayout) : Primitive :=
  .group (some (rack.xOffset, 0))
    (rack.caption ++ .rect rack.body :: rack.devices.flatMap DeviceLayout.primitives)

/-- The drawing of a layout, with or without the hover style. -/
def Layout.drawing (layout : Layout) (hover : Bool := true) : Drawing where
  width := layout.width
  height := layout.height
  children := (if hover then [.style hoverStyle] else []) ++ layout.racks.map RackLayout.group

/-- The drawing of a layout with its note. -/
def Layout.drawingReport (layout : Layout) (hover : Bool := true) : Report Drawing :=
  ⟨[.assembled layout.racks.length], .ok (layout.drawing hover)⟩

end RackElevation
