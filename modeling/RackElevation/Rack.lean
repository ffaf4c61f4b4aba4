/-!
# Racks and their slots

The contents of a rack set as they are declared: racks from left to right, and in each rack its
slots from top to bottom.  A slot holds a device or leaves a gap.  Positions and heights are kept as
written; `Rack.Placement` and `Layout.Arrangement` read them.
-/

namespace RackElevation

/-- A piece of equipment. -/
structure Device where
  /-- What the device is, for example `server`. -/
  kind : String
  /-- The unit of its lowest row, counted from one, as written. -/
  position : Option String := none
  /-- The number of its units, as written. -/
  height : Option String := none
  /-- A fill that takes precedence over the one of its kind. -/
  color : Option String := none
  /-- The target of its link. -/
  href : Option String := none
  /-- The text drawn on it. -/
  label : String := ""
  deriving DecidableEq, Repr

/-- Rack space that holds no device. -/
structure Gap where
  /-- The unit of its lowest row, counted from one, as written. -/
  position : Option String := none
  /-- The number of its units, as written. -/
  height : Option String := none
  deriving DecidableEq, Repr

/-- One entry of a rack. -/
inductive Slot where
  | device (device : Device)
  | gap (gap : Gap)
  deriving DecidableEq, Repr

namespace Slot

/-- The position of a slot, as written. -/
def position : Slot → Option String
  | .device d => d.position
  | .gap g => g.position

/-- The height of a slot, as written. -/
def height : Slot → Option String
  | .device d => d.height
  | .gap g => g.height

/-- The device of a slot, if it holds one. -/
def device? : Slot → Option Device
  | .device d => some d
  | .gap _ => none

end Slot

/-- A rack with its slots from top to bottom. -/
structure Rack where
  /-- The text drawn above the rack. -/
  name : Option String := none
  /-- The number of its units, as written. -/
  height : Option String := none
  slots : List Slot := []
  deriving DecidableEq, Repr

/-- Racks from left to right. -/
structure RackSet where
  racks : List Rack := []
  deriving DecidableEq, Repr

end RackElevation
