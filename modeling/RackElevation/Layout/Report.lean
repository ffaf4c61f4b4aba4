import RackElevation.Layout.Arrangement
import RackElevation.Note

/-!
# Notes of the arrangement

What is noted while racks are arranged: a height or position that is given but cannot be used, and
at the end the size of the canvas.  Notes are made up to the point where the arrangement fails, if
it does.  Each function here stands beside the one of `Rack.Placement` or `Layout.Arrangement` that
it accompanies.
-/

namespace RackElevation

/-- Whether an outcome is a result. -/
def succeeds {α : Type} : Except Failure α → Bool
  | .ok _ => true
  | .error _ => false

/-- The note on a text that was given but could not be used. -/
def unusedNotes (given : Option String) (read : Except Failure (Option Int))
    (note : String → Note) : List Note :=
  match given, read with
  | some text, .ok none => [note text]
  | _, _ => []

namespace Slot

/-- The notes on placing one slot. -/
def placeNotes (slot : Slot) (cursor : Int) : List Note :=
  if succeeds (slot.placeAt cursor) then
    unusedNotes slot.position slot.usablePosition (.unusablePosition · cursor) ++
      unusedNotes slot.height slot.usableHeight .unusableHeight
  else []

end Slot

/-- The notes on placing slots from a cursor on. -/
def placeFromNotes (cursor : Int) : List Slot → List Note
  | [] => []
  | slot :: rest =>
      slot.placeNotes cursor ++
        match slot.placeAt cursor with
        | .ok p => placeFromNotes p.stop rest
        | .error _ => []

/-- The notes on placing the slots of a rack. -/
def placeSlotsNotes (slots : List Slot) : List Note :=
  placeFromNotes 0 slots.reverse

/-- The notes on the number of units of a rack. -/
def Rack.unitCountNotes (settings : Settings) (rack : Rack) : List Note :=
  unusedNotes rack.height (leadingPositive? rack.height)
    (.unusableRackHeight rack.name · settings.defaultRackHeight)

/-- The notes on the numbers of units of racks. -/
def unitCountsNotes (settings : Settings) : List Rack → List Note
  | [] => []
  | rack :: rest =>
      rack.unitCountNotes settings ++
        if succeeds (rack.unitCount settings) then unitCountsNotes settings rest else []

/-- The notes on the geometry of a rack. -/
def Rack.layoutNotes (settings : Settings) (rack : Rack) (units : Number) : List Note :=
  if succeeds (units.mul settings.unitHeight >>= settings.margin.add) then
    placeSlotsNotes rack.slots
  else []

/-- The notes on the geometry of racks from an offset to the right. -/
def layoutRacksNotes (settings : Settings) (xOffset : Number) : List (Rack × Number) → List Note
  | [] => []
  | (rack, units) :: rest =>
      rack.layoutNotes settings units ++
        match (rack.layout settings units xOffset), (settings.nextOffset xOffset) with
        | .ok _, .ok next => layoutRacksNotes settings next rest
        | _, _ => []

/-- The notes on the geometry of a rack set. -/
def RackSet.layoutNotes (settings : Settings) (set : RackSet) : List Note :=
  unitCountsNotes settings set.racks ++
    match set.racks.mapM (·.unitCount settings) with
    | .error _ => []
    | .ok heights =>
        match settings.canvasSize set.racks.length (Number.maximum heights) with
        | .error _ => []
        | .ok (width, height) =>
            layoutRacksNotes settings settings.margin (set.racks.zip heights) ++
              if succeeds (set.layout settings) then
                [.laidOut set.racks.length width height]
              else []

/-- The layout of a rack set with its notes. -/
def RackSet.report (settings : Settings) (set : RackSet) : Report Layout :=
  ⟨set.layoutNotes settings, set.layout settings⟩

end RackElevation
