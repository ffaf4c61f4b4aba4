import RackElevation.Drawing
import RackElevation.Layout.Arrangement
import RackElevation.Note
import RackElevation.Raster.Canvas
import RackElevation.Raster.Color.Text

/-!
# Painting layouts

A painter draws a layout at a scale, rack by rack: the name above the rack, its body, and every
device with its label.  A coordinate is scaled and rounded to the nearest pixel, a tie going to the
even one.  A colour text that says no colour is drawn as white, with a note.

Labels are placed by the box that a measure gives for their text, which depends on the font at hand;
`nominalExtent` measures every character as seven pixels wide.
-/

namespace RackElevation.Raster

/-- The box of a text that is drawn at the origin. -/
structure Extent where
  left : Int
  top : Int
  right : Int
  bottom : Int
  deriving DecidableEq, Repr

/-- How texts are measured in one font. -/
abbrev Measure := String → Extent

/-- How texts are measured in the font of every size. -/
abbrev Typeface := Int → Measure

/-- The box of a text in a font whose characters are all seven pixels wide. -/
def nominalExtent : Measure := fun text =>
  ⟨1, 3, 1 + 7 * text.length, 14⟩

/-- The typeface in which every size is measured so. -/
def nominalTypeface : Typeface := fun _ => nominalExtent

/-- What a painter draws. -/
inductive Call where
  | rectangle (box : Box) (fill outline : Color) (thickness : Int)
  | text (content : String) (x y : Number) (fill : Color)

/-- The colour of a text, white if it says none. -/
def colorOf (text : String) : Color :=
  (Color.read? text).getD .white

/-- The note on a colour text. -/
def colorNotes (text : String) : List Note :=
  if (Color.read? text).isSome then [] else [.unknownColor text]

/-- How layouts are painted. -/
structure Painter where
  scale : Int
  fontSize : Int
  background : Color
  textColor : Color
  deriving DecidableEq, Repr

/-- What a painter is made from. -/
structure PainterOptions where
  scale : Int := 1
  fontSize : Int := 14
  background : String := "#FFFFFF"
  textColor : String := "#000000"
  deriving DecidableEq, Repr

namespace Painter

/-- A painter from its options, with the notes on its colours. -/
def make (options : PainterOptions) : Report Painter :=
  if options.scale < 1 then ⟨[], .error .scaleTooSmall⟩
  else
    ⟨colorNotes options.background ++ colorNotes options.textColor, .ok {
      scale := options.scale
      fontSize := options.fontSize
      background := colorOf options.background
      textColor := colorOf options.textColor }⟩

/-- A coordinate in pixels. -/
def scaled (painter : Painter) (value : Number) : Except Failure Int := do
  (← value.mul (.int painter.scale)).round

/-- The box of pixels of a rectangle. -/
def box (painter : Painter) (x y width height : Number) : Except Failure Box := do
  let left ← painter.scaled x
  let top ← painter.scaled y
  let right ← painter.scaled (← x.add width)
  let bottom ← painter.scaled (← y.add height)
  return ⟨left, top, right, bottom⟩

/-- The call for a rectangle. -/
def rectangle (painter : Painter) (x y width height : Number) (fill : Color) :
    Except Failure Call := do
  return .rectangle (← painter.box x y width height) fill (colorOf outlineColor)
    (max 1 painter.scale)

/-- Half of a length in pixels, taken from a coordinate, and the near edge of a box with it. -/
def centred (middle near far : Int) : Except Failure Number := do
  let shifted ← (Number.int middle).sub (← (Number.int (far - near)).half)
  shifted.sub (.int near)

/-- The calls for a text that is centred on a point: none for the empty text. -/
def text (painter : Painter) (measure : Measure) (x y : Number) (content : String) :
    Except Failure (List Call) :=
  if content.isEmpty then .ok []
  else do
    let size := painter.fontSize * painter.scale
    if size ≤ 0 then throw (.fontTooSmall size)
    let extent := measure content
    let column ← painter.scaled x
    let line ← painter.scaled y
    let left ← centred column extent.left extent.right
    let top ← centred line extent.top extent.bottom
    return [.text content left top painter.textColor]

/-- The calls for the name of a rack. -/
def nameCalls (painter : Painter) (measure : Measure) (rack : RackLayout) :
    Except Failure (List Call) :=
  match nonempty? rack.name with
  | none => .ok []
  | some name => do painter.text measure (← rack.xOffset.add rack.labelX) rack.labelY name

/-- The call for the body of a rack. -/
def bodyCall (painter : Painter) (rack : RackLayout) : Except Failure Call := do
  painter.rectangle (← rack.xOffset.add rack.bodyX) rack.bodyY rack.bodyWidth rack.bodyHeight
    (colorOf bodyColor)

/-- The call for the rectangle of a device, with the note on its colour. -/
def deviceCall (painter : Painter) (xOffset : Number) (device : DeviceLayout) : Report Call :=
  (Report.ofOutcome (xOffset.add device.x)).andThen fun x =>
    ⟨colorNotes device.fill,
      painter.rectangle x device.y device.width device.height (colorOf device.fill)⟩

/-- The calls for the label of a device. -/
def labelCalls (painter : Painter) (measure : Measure) (xOffset : Number) (device : DeviceLayout) :
    Except Failure (List Call) := do
  painter.text measure (← xOffset.add device.labelX) device.labelY device.label

/-- The steps of painting a rack. -/
def rackSteps (painter : Painter) (measure : Measure) (rack : RackLayout) :
    List (Report (List Call)) :=
  .ofOutcome (painter.nameCalls measure rack) ::
    .ofOutcome ((painter.bodyCall rack).map ([·])) ::
      rack.devices.flatMap fun device =>
        [(painter.deviceCall rack.xOffset device).map ([·]),
          .ofOutcome (painter.labelCalls measure rack.xOffset device)]

/-- The steps of painting a layout. -/
def steps (painter : Painter) (layout : Layout) (measure : Measure) :
    List (Report (List Call)) :=
  layout.racks.flatMap (painter.rackSteps measure)

/-- What a painter draws for a layout. -/
def calls (painter : Painter) (layout : Layout) (measure : Measure) :
    Report (List Call) :=
  (Report.sequence (painter.steps layout measure)).map List.flatten

end Painter

/-! ## Canvases -/

/-- The marks that a call makes; the shapes of letters are left out. -/
def Call.marks : Call → Except Failure (List Mark)
  | .rectangle box fill outline thickness => do
      let outline ← outline.pixel
      let fill ← fill.pixel
      if box.right < box.left then throw .reversedWidth
      if box.bottom < box.top then throw .reversedHeight
      return rectangleMarks box fill outline thickness
  | .text _ _ _ fill => fill.pixel.map fun _ => []

namespace Painter

/-- The empty canvas for a layout, at least one pixel wide and high. -/
def blank (painter : Painter) (layout : Layout) : Except Failure Canvas := do
  let width ← painter.scaled layout.width
  let height ← painter.scaled layout.height
  Canvas.blank (max 1 width) (max 1 height) painter.background

/-- The canvas of a layout. -/
def canvas (painter : Painter) (layout : Layout) (measure : Measure) :
    Report Canvas :=
  (Report.ofOutcome (painter.blank layout)).andThen fun canvas =>
    let marks := (painter.steps layout measure).map fun step =>
      step.andThen fun calls => .ofOutcome ((calls.mapM Call.marks).map List.flatten)
    (Report.sequence marks).map fun marks => { canvas with marks := marks.flatten }

end Painter

end RackElevation.Raster
