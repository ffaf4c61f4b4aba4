import RackElevation.Datum
import RackElevation.Markup.Source

/-!
# Traces

A trace keeps what the stages of one rendering found, in the order of the stages.  A stage has a
name, some named values, and it may keep the text of a drawing.  Long values are cut when they are
shown.
-/

namespace RackElevation

open Text Markup

/-- What a stage of a rendering found. -/
structure Stage where
  name : String
  values : List (String × Datum)
  /-- The text of the drawing at this stage. -/
  snapshot : Option String := none

/-- The number of characters after which shown values and sources are cut. -/
def shownLimit : Nat := 100

/-- Lines joined to a text. -/
def joinLines (lines : List String) : String :=
  "\n".intercalate lines

/-- A text cut after the limit, with dots in place of the rest. -/
def cutText (text : String) : String :=
  let cs := text.toList
  if shownLimit < cs.length then String.ofList (cs.take shownLimit) ++ "..." else text

namespace Stage

/-- Whether a stage keeps a drawing that is not empty. -/
def hasSnapshot (stage : Stage) : Bool :=
  stage.snapshot.any fun text => !text.isEmpty

/-- The line of a value. -/
def valueLine (entry : String × Datum) : Except Failure String := do
  return "  " ++ entry.1 ++ ": " ++ cutText (← entry.2.inWords)

/-- The line that tells the length of the drawing, if there is one. -/
def snapshotLines (stage : Stage) : List String :=
  match stage.snapshot with
  | none => []
  | some text =>
      if text.isEmpty then [] else ["  SVG: " ++ countText text.length ++ " characters"]

/-- A stage in full. -/
def text (stage : Stage) : Except Failure String := do
  let values ← stage.values.mapM valueLine
  return joinLines (("=== Stage: " ++ stage.name ++ " ===") :: (values ++ stage.snapshotLines))

end Stage

/-- The stages of a rendering of a source. -/
structure Trace where
  source : Source
  stages : List Stage := []

namespace Trace

/-- The trace with one more stage. -/
def addStage (trace : Trace) (stage : Stage) : Trace :=
  { trace with stages := trace.stages ++ [stage] }

/-- The first stage of a given name. -/
def stage? (trace : Trace) (name : String) : Option Stage :=
  trace.stages.find? (·.name == name)

/-- The names of the stages. -/
def stageNames (trace : Trace) : List String :=
  trace.stages.map (·.name)

/-- A source as it is shown: quoted, with dots after it when it was cut. -/
def shownSource : Source → String
  | .text content =>
      let cs := content.toList
      quoted (String.ofList (cs.take shownLimit)) ++ if shownLimit < cs.length then "..." else ""
  | .bytes content =>
      quotedBytes (content.take shownLimit) ++ if shownLimit < content.length then "..." else ""

/-- The line between the parts of a shown trace. -/
def rule : String :=
  String.ofList (List.replicate 60 '=')

/-- A title between rules. -/
def title (words : String) : List String :=
  [rule, words, rule]

/-- The line of a stage in the summary. -/
def stageLine (stage : Stage) : String :=
  "  [" ++ (if stage.hasSnapshot then "+" else "-") ++ "] " ++ stage.name

/-- A trace in short. -/
def summary (trace : Trace) : String :=
  joinLines (title "RENDER TRACE SUMMARY" ++ ["", "Input: " ++ shownSource trace.source, "",
    "Pipeline stages: " ++ countText trace.stages.length] ++ trace.stages.map stageLine)

/-- A trace in full. -/
def dump (trace : Trace) : Except Failure String := do
  let stages ← trace.stages.mapM Stage.text
  return joinLines ([trace.summary, ""] ++ title "DETAILED TRACE" ++ [""] ++
    stages.flatMap fun text => [text, ""])

end Trace

end RackElevation
