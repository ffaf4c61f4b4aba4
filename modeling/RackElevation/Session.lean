import RackElevation.Drawing.Assembly
import RackElevation.Layout.Report
import RackElevation.Rack.Reading
import RackElevation.Raster.Painter
import RackElevation.Store
import RackElevation.Trace

/-!
# Rendering sessions

A session renders sources under fixed settings.  Rendering a drawing goes through three stages, and
on request the session keeps a trace of them:

    source  →  rack set  →  layout  →  drawing

The trace is always that of the last drawing that was rendered; it ends with the last stage that was
completed.  Layouts and pictures do not touch it.
-/

namespace RackElevation

open Markup Raster

/-! ## Rendering -/

/-- The layout of a source. -/
def arrange (settings : Settings) (source : Source) : Report Layout :=
  (RackSet.readReport source).andThen (RackSet.report settings)

/-- The drawing of a source. -/
def render (settings : Settings) (source : Source) : Report Drawing :=
  (arrange settings source).andThen (·.drawingReport)

/-- The count of things as a value. -/
def countDatum (n : Nat) : Datum :=
  .number (.int n)

/-- The stage of reading. -/
def RackSet.stage (set : RackSet) : Stage where
  name := "parse"
  values := [("rack_count", countDatum set.racks.length),
    ("slot_counts", .list (set.racks.map fun rack => countDatum rack.slots.length))]

/-- The values of a device in the stage of the layout. -/
def DeviceLayout.datum (device : DeviceLayout) : Datum :=
  .tuple [.text device.kind, .number device.unit, .number device.units, .number device.y]

/-- The stage of the layout. -/
def Layout.stage (layout : Layout) : Stage where
  name := "layout"
  values := [("canvas", .tuple [.number layout.width, .number layout.height]),
    ("rack_units", .list (layout.racks.map fun rack => .number rack.units)),
    ("devices", .list (layout.racks.flatMap fun rack => rack.devices.map DeviceLayout.datum))]

/-- The stage of the drawing, which keeps its text. -/
def Drawing.stage (drawing : Drawing) : Except Failure Stage := do
  return {
    name := "assemble"
    values := [("primitive_count", countDatum drawing.walk.length)]
    snapshot := some (← drawing.svg nestingLimit) }

/-- The drawing of a layout, and the trace with the stages from the layout on. -/
def tracedDrawing (trace : Trace) (layout : Layout) : Trace × Report Drawing :=
  let trace := trace.addStage layout.stage
  let drawn := layout.drawingReport
  match drawn.outcome.bind Drawing.stage with
  | .error failure => (trace, ⟨drawn.notes, .error failure⟩)
  | .ok stage => (trace.addStage stage, drawn)

/-- The drawing of a source, with the trace of the stages that were completed. -/
def tracedRender (settings : Settings) (source : Source) : Trace × Report Drawing :=
  let read := RackSet.readReport source
  match read.outcome with
  | .error failure => ({ source }, ⟨read.notes, .error failure⟩)
  | .ok set =>
      let trace := Trace.addStage { source } set.stage
      let laidOut := RackSet.report settings set
      let notes := read.notes ++ laidOut.notes
      match laidOut.outcome with
      | .error failure => (trace, ⟨notes, .error failure⟩)
      | .ok layout =>
          let (trace, drawn) := tracedDrawing trace layout
          (trace, ⟨notes ++ drawn.notes, drawn.outcome⟩)

/-! ## Files -/

/-- The name of a file for a drawing when none is given. -/
def drawingName : String := "rack.svg"

/-- The name of a file for a picture when none is given. -/
def pictureName : String := "rack.png"

/-- A file that is ready to be written: what it holds, and the note that is made when it was
written to a given path. -/
structure Export where
  content : Content
  note : String → Note

/-- A drawing as a file. -/
def Drawing.toExport (drawing : Drawing) : Except Failure Export := do
  return { content := .text (← drawing.svgFile nestingLimit), note := .wroteDrawing }

/-- A canvas as a file. -/
def Raster.Canvas.toExport (canvas : Canvas) : Export where
  content := .picture canvas
  note := .wroteRaster canvas.width canvas.height

/-- A layout painted as a file, with the texts measured in a given typeface. -/
def Layout.picture (layout : Layout) (typeface : Typeface) (options : PainterOptions) :
    Report Export :=
  (Painter.make options).andThen fun painter =>
    (painter.canvas layout (typeface (painter.fontSize * painter.scale))).map Canvas.toExport

/-- The store after an export was written to a path, where failures and notes show a given text. -/
def Export.save (file : Export) (store : Store) (path : Path) (shown : String) : Report Store :=
  (Report.ofOutcome (store.writeShown path shown file.content)).andThen fun store =>
    ⟨[file.note shown], .ok store⟩

/-- A trace written to a file in full: the store after it, and what was written.  The file is made
before the trace is shown, so it stays empty when a value cannot be shown. -/
def Trace.save (trace : Trace) (store : Store) (path : Path) : Store × Except Failure String :=
  match store.write path (.text "") with
  | .error failure => (store, .error failure)
  | .ok opened =>
      match trace.dump with
      | .error failure => (opened, .error failure)
      | .ok text =>
          match store.write path (.text text) with
          | .error failure => (opened, .error failure)
          | .ok written => (written, .ok text)

/-! ## Sessions -/

/-- Settings, and the trace of the last drawing that was rendered. -/
structure Session where
  settings : Settings
  trace : Option Trace := none

namespace Session

/-- A session under the standard settings with some values changed.  Given fills are put into the
standard table. -/
def make (changes : Settings.Changes) : Except Failure Session := do
  let colors := changes.colors.map standardColors.merge
  return { settings := ← Settings.make { changes with colors } }

/-- The drawing of a source, and the session after it. -/
def generate (session : Session) (source : Source) (debug : Bool := false) :
    Session × Report Drawing :=
  if debug then
    let (trace, drawn) := tracedRender session.settings source
    ({ session with trace := some trace }, drawn)
  else ({ session with trace := none }, render session.settings source)

/-- The text of the drawing of a source, and the session after it. -/
def svg (session : Session) (source : Source) : Session × Report String :=
  let (session, drawn) := session.generate source
  (session, drawn.andThen fun drawing => .ofOutcome (drawing.svg nestingLimit))

/-- The drawing of a source as a file, and the session after it. -/
def drawingFile (session : Session) (source : Source) : Session × Report Export :=
  let (session, drawn) := session.generate source
  (session, drawn.andThen fun drawing => .ofOutcome drawing.toExport)

/-- The layout of a source. -/
def layout (session : Session) (source : Source) : Report Layout :=
  arrange session.settings source

/-- The painted layout of a source as a file. -/
def pictureFile (session : Session) (typeface : Typeface) (source : Source)
    (options : PainterOptions) : Report Export :=
  (session.layout source).andThen fun layout => layout.picture typeface options

end Session

end RackElevation
