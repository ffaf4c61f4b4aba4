import RackElevation.Number

/-!
# Geometry settings

The sizes that a layout is computed from, and the table of fills by kind of device.

## Acceptance

Settings are accepted when the four lengths are finite, the unit height, the rack width and the
default rack height are positive, and the spacing and the margin are not negative.  The checks are
made in a fixed order, so the first fault decides the failure.
-/

namespace RackElevation

/-- Fills by kind of device, one entry for a kind. -/
abbrev ColorTable := List (String × String)

namespace ColorTable

/-- A table with the fill of a kind set; a kind that is already there keeps its place. -/
def insert (table : ColorTable) (kind fill : String) : ColorTable :=
  if table.any (·.1 = kind) then
    table.map fun entry => if entry.1 = kind then (kind, fill) else entry
  else table ++ [(kind, fill)]

/-- A table with the entries of another set in it. -/
def merge (table more : ColorTable) : ColorTable :=
  more.foldl (fun t entry => insert t entry.1 entry.2) table

/-- The fill of a kind, if the table has one. -/
def fill? (table : ColorTable) (kind : String) : Option String :=
  (table.find? (·.1 = kind)).map (·.2)

/-- The entries in the order of their kinds. -/
def sorted (table : ColorTable) : ColorTable :=
  table.mergeSort fun a b => !decide (b.1 < a.1)

end ColorTable

/-- The fills that apply unless others are given. -/
def standardColors : ColorTable := [
  ("ups", "#38A169"),
  ("pdu", "#38A169"),
  ("firewall", "#F56565"),
  ("switch", "#FC8181"),
  ("blank", "#E2E8F0"),
  ("patch", "#FAF089"),
  ("cables", "#F6AD55"),
  ("server", "#63B3ED"),
  ("san", "#4FD1C5")]

/-- The fill of a device whose kind is not in the table. -/
def fallbackColor : String := "white"

/-- The fill of a rack body. -/
def bodyColor : String := "#4A5568"

/-- The outline of rack bodies and devices. -/
def outlineColor : String := "black"

/-- The sizes of a layout and the fills of devices. -/
structure Settings where
  unitHeight : Number := 25
  rackWidth : Number := 300
  rackSpacing : Number := 25
  margin : Number := 25
  /-- The number of units of a rack without a usable height. -/
  defaultRackHeight : Number := 42
  colors : ColorTable := standardColors
  deriving DecidableEq

namespace Settings

/-- A condition on one setting: the given failure when it does not hold. -/
def require (holds : Bool) (failure : Failure) : Except Failure Unit :=
  if holds then .ok () else .error failure

/-- A length must be finite. -/
def requireFinite (value : Number) (setting : Setting) : Except Failure Unit := do
  require (← value.isFinite) (.settingNotFinite setting)

/-- The conditions on settings, in the order in which they are checked. -/
def check (s : Settings) : Except Failure Unit := do
  requireFinite s.unitHeight .unitHeight
  requireFinite s.rackWidth .rackWidth
  requireFinite s.rackSpacing .rackSpacing
  requireFinite s.margin .margin
  require (!s.unitHeight.le 0) (.settingNotPositive .unitHeight)
  require (!s.rackWidth.le 0) (.settingNotPositive .rackWidth)
  require (!s.defaultRackHeight.le 0) (.settingNotPositive .defaultRackHeight)
  require (!s.rackSpacing.lt 0) (.settingNegative .rackSpacing)
  require (!s.margin.lt 0) (.settingNegative .margin)

/-- The settings themselves, if they pass the check. -/
def accept (s : Settings) : Except Failure Settings := do
  s.check
  return s

/-- New values for some of the settings. -/
structure Changes where
  unitHeight : Option Number := none
  rackWidth : Option Number := none
  rackSpacing : Option Number := none
  margin : Option Number := none
  defaultRackHeight : Option Number := none
  colors : Option ColorTable := none
  deriving DecidableEq

/-- Settings with some values changed, before any check. -/
def change (s : Settings) (c : Changes) : Settings where
  unitHeight := c.unitHeight.getD s.unitHeight
  rackWidth := c.rackWidth.getD s.rackWidth
  rackSpacing := c.rackSpacing.getD s.rackSpacing
  margin := c.margin.getD s.margin
  defaultRackHeight := c.defaultRackHeight.getD s.defaultRackHeight
  colors := c.colors.getD s.colors

/-- Settings with some values changed, if the result passes the check. -/
def replace (s : Settings) (c : Changes) : Except Failure Settings :=
  (s.change c).accept

/-- The standard settings with some values changed, if the result passes the check. -/
def make (c : Changes) : Except Failure Settings :=
  replace {} c

/-- The fill of a device: an explicit one that is not empty, else the one of its kind, else the
fallback. -/
def colorFor (s : Settings) (kind : String) (explicit : Option String) : String :=
  match explicit with
  | some color => if color.isEmpty then byKind else color
  | none => byKind
where
  /-- The fill of the kind, else the fallback. -/
  byKind : String := (s.colors.fill? kind).getD fallbackColor

/-- The width of a canvas for a number of racks. -/
def canvasWidth (s : Settings) (racks : Int) : Except Failure Number := do
  let margins ← Number.mul 2 s.margin
  let bodies ← Number.mul (.int racks) s.rackWidth
  let sum ← margins.add bodies
  let spaces ← Number.mul (.int (max (racks - 1) 0)) s.rackSpacing
  sum.add spaces

/-- The height of a canvas for the number of units of its tallest rack. -/
def canvasHeight (s : Settings) (units : Number) : Except Failure Number := do
  let margins ← Number.mul 2 s.margin
  let body ← Number.mul s.unitHeight units
  margins.add body

/-- The width and height of a canvas. -/
def canvasSize (s : Settings) (racks : Int) (units : Number) :
    Except Failure (Number × Number) := do
  let width ← s.canvasWidth racks
  let height ← s.canvasHeight units
  return (width, height)

end Settings

end RackElevation
