import RackElevation.Rack
import RackElevation.Number.Numeral

/-!
# Placement of slots on units

Units are counted from the bottom of a rack, slots are declared from the top, so the slots are
placed in reverse order by one cursor that holds the next free unit.  A slot with a usable position
starts there; any other slot starts at the cursor.  Either way the cursor goes on from the end of
the slot just placed.  Overlaps are not looked for.
-/

namespace RackElevation

/-- A slot on its units. -/
structure Placement where
  slot : Slot
  /-- The lowest unit, counted from zero at the bottom of the rack. -/
  offset : Int
  /-- The number of units. -/
  span : Int
  deriving DecidableEq, Repr

namespace Placement

/-- The first unit above a placement. -/
def stop (p : Placement) : Int :=
  p.offset + p.span

/-- The device of a placement, if its slot holds one. -/
def device? (p : Placement) : Option Device :=
  p.slot.device?

end Placement

namespace Slot

/-- The position of a slot, if it is usable. -/
def usablePosition (slot : Slot) : Except Failure (Option Int) :=
  leadingPositive? slot.position

/-- The height of a slot, if it is usable. -/
def usableHeight (slot : Slot) : Except Failure (Option Int) :=
  leadingPositive? slot.height

/-- A slot at its own position, or at the cursor when it has no usable one.  Its height is one unit
when it has no usable one. -/
def placeAt (slot : Slot) (cursor : Int) : Except Failure Placement := do
  let position ← slot.usablePosition
  let height ← slot.usableHeight
  return ⟨slot, (position.map (· - 1)).getD cursor, height.getD 1⟩

end Slot

/-- The placements of slots in the order of placing, from a cursor on. -/
def placeFrom (cursor : Int) : List Slot → Except Failure (List Placement)
  | [] => .ok []
  | slot :: rest => do
      let p ← slot.placeAt cursor
      let ps ← placeFrom p.stop rest
      return p :: ps

/-- The placements of the slots of a rack, which are given from top to bottom. -/
def placeSlots (slots : List Slot) : Except Failure (List Placement) :=
  placeFrom 0 slots.reverse

end RackElevation
