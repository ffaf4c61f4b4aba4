import RackElevation.Number.Text

/-!
# Notes

What the stages of a rendering report while they run, as data.  A note belongs to the channel of its
stage and has a level; `Note.message` gives its wording, which fails when it needs the text of an
integer beyond the limit.

A `Report` is the outcome of a stage together with the notes made on the way.  Stages are joined by
`Report.andThen`, which runs the second stage only on a result of the first.
-/

namespace RackElevation

open Text

/-- How urgent a note is. -/
inductive Level where
  | debug
  | warning
  deriving DecidableEq, Repr

/-- The word for a level. -/
def Level.name : Level → String
  | .debug => "DEBUG"
  | .warning => "WARNING"

/-- One report of a stage. -/
inductive Note where
  /-- The markup is not well formed. -/
  | parseFailed
  /-- The markup holds this many racks. -/
  | parsed (racks : Nat)
  /-- The height of a rack cannot be used. -/
  | unusableRackHeight (name : Option String) (height : String) (used : Number)
  /-- The position of a slot cannot be used. -/
  | unusablePosition (position : String) (cursor : Int)
  /-- The height of a slot cannot be used. -/
  | unusableHeight (height : String)
  /-- Racks were arranged on a canvas. -/
  | laidOut (racks : Nat) (width height : Number)
  /-- A drawing was assembled. -/
  | assembled (racks : Nat)
  /-- A colour text was not understood. -/
  | unknownColor (color : String)
  /-- A drawing was written to a file. -/
  | wroteDrawing (path : String)
  /-- A raster was written to a file. -/
  | wroteRaster (width height : Int) (path : String)
  deriving DecidableEq

namespace Note

/-- The channel of the stage that makes a note. -/
def channel : Note → String
  | .parseFailed | .parsed _ => "rackml.parser"
  | .unusableRackHeight .. | .unusablePosition .. | .unusableHeight _ | .laidOut .. =>
      "rackml.layout"
  | .assembled _ => "rackml.assembler"
  | .unknownColor _ | .wroteRaster .. => "rackml.png_renderer"
  | .wroteDrawing _ => "rackml.export"

/-- The level of a note. -/
def level : Note → Level
  | .unknownColor _ => .warning
  | _ => .debug

/-- The wording of a note. -/
def message : Note → Except Failure String
  | .parseFailed => .ok "RackML parse failed"
  | .parsed racks => .ok ("Parsed " ++ countText racks ++ " rack(s)")
  | .unusableRackHeight name height used => do
      let units ← integerText (← used.truncate)
      return "Rack " ++ quotedOption name ++ " has unusable height " ++ quoted height ++
        ", using " ++ units
  | .unusablePosition position cursor => do
      return "Ignoring unusable at=" ++ quoted position ++ ", auto-placing at " ++
        (← integerText cursor)
  | .unusableHeight height => .ok ("Ignoring unusable height=" ++ quoted height ++ ", using 1")
  | .laidOut racks width height => do
      return "Laid out " ++ countText racks ++ " rack(s) on a " ++ (← width.text) ++ "x" ++
        (← height.text) ++ " canvas"
  | .assembled racks =>
      .ok ("Assembled document with " ++ countText racks ++ " rack group(s)")
  | .unknownColor color => .ok ("Unrecognized colour " ++ quoted color ++ ", drawing it as white")
  | .wroteDrawing path => .ok ("Wrote SVG to " ++ path)
  | .wroteRaster width height path => do
      return "Wrote " ++ (← integerText width) ++ "x" ++ (← integerText height) ++ " PNG to " ++
        path

end Note

/-- The outcome of a stage and the notes made on the way. -/
structure Report (α : Type) where
  notes : List Note
  outcome : Except Failure α

namespace Report

/-- A result without notes. -/
def ofOutcome {α : Type} (outcome : Except Failure α) : Report α :=
  ⟨[], outcome⟩

/-- A stage followed by another one on its result. -/
def andThen {α β : Type} (first : Report α) (next : α → Report β) : Report β :=
  match first.outcome with
  | .error failure => ⟨first.notes, .error failure⟩
  | .ok a =>
      let second := next a
      ⟨first.notes ++ second.notes, second.outcome⟩

/-- A stage with its result changed. -/
def map {α β : Type} (f : α → β) (report : Report α) : Report β :=
  ⟨report.notes, report.outcome.map f⟩

/-- Stages run one after the other, with all their results. -/
def sequence {α : Type} : List (Report α) → Report (List α)
  | [] => ofOutcome (.ok [])
  | first :: rest => first.andThen fun a => (sequence rest).map (a :: ·)

@[simp] theorem outcome_ofOutcome {α : Type} (outcome : Except Failure α) :
    (ofOutcome outcome).outcome = outcome := rfl

/-- The outcome of joined stages is that of the outcomes joined. -/
@[simp] theorem outcome_andThen {α β : Type} (first : Report α) (next : α → Report β) :
    (first.andThen next).outcome = first.outcome.bind fun a => (next a).outcome := by
  cases h : first.outcome <;> simp [andThen, h, Except.bind]

/-- The wordings of notes, up to the first one that has none, and the failure of that one. -/
def wordings : List Note → List (Note × String) × Option Failure
  | [] => ([], none)
  | note :: rest =>
      match note.message with
      | .error failure => ([], some failure)
      | .ok text =>
          let r := wordings rest
          ((note, text) :: r.1, r.2)

/-- What is seen of a report whose notes are written down as they are made: a note without wording
ends the stage with that failure. -/
def observed {α : Type} (report : Report α) : List (Note × String) × Except Failure α :=
  match wordings report.notes with
  | (texts, none) => (texts, report.outcome)
  | (texts, some failure) => (texts, .error failure)

end Report

end RackElevation
