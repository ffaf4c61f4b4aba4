import RackElevation.Layout
import RackElevation.Rack.Placement
import RackElevation.Settings

/-!
# Arrangement of racks on a canvas

Racks hang side by side from the top margin.  The canvas is as wide as its racks, spaces and margins
and as high as its tallest rack.  Units count upwards and coordinates downwards, so a device's top
edge lies its end's units above the bottom edge of its rack.
-/

namespace RackElevation

/-- A text that is there and not empty. -/
def nonempty? (text : Option String) : Option String :=
  text.filter fun s => !s.isEmpty

/-- The number of units of a rack, the configured one without a usable height. -/
def Rack.unitCount (settings : Settings) (rack : Rack) : Except Failure Number := do
  match ← leadingPositive? rack.height with
  | some n => return .int n
  | none => return settings.defaultRackHeight

/-- The geometry of a device on its units, in a rack with the given bottom edge. -/
def Device.layout (settings : Settings) (bottom : Number) (device : Device) (offset span : Int) :
    Except Failure DeviceLayout := do
  let rise ← Number.mul (.int (offset + span)) settings.unitHeight
  let top ← bottom.sub rise
  let height ← Number.mul (.int span) settings.unitHeight
  let labelX ← settings.rackWidth.half
  let labelY ← top.add (← height.half)
  return {
    kind := device.kind
    unit := .int offset
    units := .int span
    x := 0
    y := top
    width := settings.rackWidth
    height := height
    fill := settings.colorFor device.kind device.color
    href := nonempty? device.href
    label := device.label
    labelX := labelX
    labelY := labelY }

/-- The geometry of the devices among placements. -/
def layoutDevices (settings : Settings) (bottom : Number) :
    List Placement → Except Failure (List DeviceLayout)
  | [] => .ok []
  | p :: rest =>
      match p.device? with
      | none => layoutDevices settings bottom rest
      | some device => do
          let d ← device.layout settings bottom p.offset p.span
          let ds ← layoutDevices settings bottom rest
          return d :: ds

/-- The geometry of a rack with a given number of units at a given offset. -/
def Rack.layout (settings : Settings) (rack : Rack) (units xOffset : Number) :
    Except Failure RackLayout := do
  let bodyHeight ← units.mul settings.unitHeight
  let bottom ← settings.margin.add bodyHeight
  let placements ← placeSlots rack.slots
  let devices ← layoutDevices settings bottom placements
  let labelX ← settings.rackWidth.half
  let labelY ← settings.margin.half
  return {
    name := nonempty? rack.name
    xOffset := xOffset
    units := units
    bodyX := 0
    bodyY := settings.margin
    bodyWidth := settings.rackWidth
    bodyHeight := bodyHeight
    labelX := labelX
    labelY := labelY
    devices := devices }

/-- The offset of the rack to the right of a rack. -/
def Settings.nextOffset (settings : Settings) (xOffset : Number) : Except Failure Number := do
  let stride ← settings.rackWidth.add settings.rackSpacing
  xOffset.add stride

/-- The geometry of racks with their numbers of units, from an offset to the right. -/
def layoutRacks (settings : Settings) (xOffset : Number) :
    List (Rack × Number) → Except Failure (List RackLayout)
  | [] => .ok []
  | (rack, units) :: rest => do
      let r ← rack.layout settings units xOffset
      let next ← settings.nextOffset xOffset
      let rs ← layoutRacks settings next rest
      return r :: rs

/-- The geometry of a rack set. -/
def RackSet.layout (settings : Settings) (set : RackSet) : Except Failure Layout := do
  let heights ← set.racks.mapM (·.unitCount settings)
  let (width, height) ← settings.canvasSize set.racks.length (Number.maximum heights)
  let racks ← layoutRacks settings settings.margin (set.racks.zip heights)
  return ⟨width, height, racks⟩

end RackElevation
