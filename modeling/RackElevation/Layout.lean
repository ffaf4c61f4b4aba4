import RackElevation.Number

/-!
# Layouts

The computed geometry of a rack set: a canvas, a body for every rack and a rectangle for every
device.  Rack geometry is local to the rack, which is drawn shifted right by its offset.  The
devices of a rack stand in drawing order.
-/

namespace RackElevation

/-- The rectangle, fill and label of a device, relative to its rack. -/
structure DeviceLayout where
  kind : String
  /-- The lowest unit, counted from zero. -/
  unit : Number
  /-- The number of units. -/
  units : Number
  x : Number
  y : Number
  width : Number
  height : Number
  fill : String
  href : Option String := none
  label : String := ""
  labelX : Number := 0
  labelY : Number := 0
  deriving DecidableEq

/-- The body and the devices of a rack. -/
structure RackLayout where
  name : Option String
  xOffset : Number
  /-- The number of units of the rack. -/
  units : Number
  bodyX : Number
  bodyY : Number
  bodyWidth : Number
  bodyHeight : Number
  labelX : Number
  labelY : Number
  devices : List DeviceLayout := []
  deriving DecidableEq

/-- The bottom edge of a rack body. -/
def RackLayout.bottom (rack : RackLayout) : Except Failure Number :=
  rack.bodyY.add rack.bodyHeight

/-- A canvas with its racks. -/
structure Layout where
  width : Number
  height : Number
  racks : List RackLayout := []
  deriving DecidableEq

/-- The number of units of the tallest rack, zero without racks. -/
def Layout.tallest (layout : Layout) : Number :=
  Number.maximum (layout.racks.map (·.units))

end RackElevation
