import RackElevation.Command.Invocation
import RackElevation.Session

/-!
# Running a command line

A run reads its input, makes a session, renders the input and writes the outcome.  It ends with an
exit code:

    0   the output was written
    1   the input cannot be read, or the settings or the output make no sense
    2   the command line or the markup cannot be read
    3   the output cannot be written

Reading and writing are left to the caller: a `Plan` says what remains to be done once the input is
known.  `Invocation.run` carries a plan out in a store.
-/

namespace RackElevation.Command

open Text Markup Raster

/-- The exit codes. -/
def exitDone : Nat := 0

/-- The input cannot be read, or the settings or the output make no sense. -/
def exitInput : Nat := 1

/-- The command line or the markup cannot be read. -/
def exitMarkup : Nat := 2

/-- The output cannot be written. -/
def exitWrite : Nat := 3

/-- What remains to be done. -/
inductive Plan where
  /-- Nothing but to tell why. -/
  | stop (exit : Nat) (message : String)
  /-- Write a text to the standard output. -/
  | print (text : String)
  /-- Write an output in a given format to a file. -/
  | save (format : Format) (path : Path) (file : Export)

namespace Invocation

/-- The path of the output, if there is one. -/
def outputPath? (i : Invocation) : Option String :=
  i.output.bind fun path => if path.isEmpty then none else some path

/-- Whether the output goes to the standard output. -/
def toStandardOutput (i : Invocation) : Bool :=
  i.output == some "-"

/-- The format of the output: the given one, or the one that its suffix tells. -/
def outputFormat (i : Invocation) : Format :=
  match i.format with
  | some format => format
  | none =>
      match i.outputPath? with
      | some path =>
          if path != "-" && (Path.ofText path).suffix.map Char.toLower == ".png" then .png else .svg
      | none => .svg

/-- The settings that are given. -/
def changes (i : Invocation) : Settings.Changes where
  unitHeight := some i.unitHeight
  rackWidth := some i.rackWidth
  rackSpacing := some i.rackSpacing
  margin := some i.margin
  defaultRackHeight := some (.int i.defaultRackHeight)

/-- The file that the output goes to, when it has a format. -/
def outputFile (i : Invocation) (format : Format) : Path :=
  .ofText (i.outputPath?.getD (match format with
    | .svg => drawingName
    | .png => pictureName))

/-- What remains to be done with the outcome of rendering: markup that cannot be read stops the
run. -/
def rendered {α : Type} (report : Report α) (plan : α → Plan) : Report Plan :=
  ⟨report.notes,
    match report.outcome with
    | .ok a => .ok (plan a)
    | .error .malformedMarkup => .ok (.stop exitMarkup Failure.malformedMarkup.message)
    | .error failure => .error failure⟩

/-- What remains to be done with a source in a session. -/
def renderPlan (i : Invocation) (typeface : Typeface) (session : Session) (source : Source) :
    Report Plan :=
  let format := i.outputFormat
  match format, i.toStandardOutput with
  | .png, true => ⟨[], .ok (.stop exitInput "PNG output cannot be written to stdout")⟩
  | .svg, true => rendered (session.svg source).2 .print
  | .png, false =>
      rendered (session.pictureFile typeface source { scale := i.scale })
        (.save format (i.outputFile format))
  | .svg, false => rendered (session.drawingFile source).2 (.save format (i.outputFile format))

/-- The text about settings that make no sense. -/
def settingsText (failure : Failure) : String :=
  "Invalid layout settings: " ++ failure.message

/-- What remains to be done once the input was read. -/
def plan (i : Invocation) (typeface : Typeface) (input : Except Failure (List UInt8)) :
    Report Plan :=
  match input, Session.make i.changes with
  | .error failure, _ =>
      if failure.isPathFailure then
        ⟨[], .ok (.stop exitInput ("Failed to read input file: " ++ failure.message))⟩
      else ⟨[], .error failure⟩
  | .ok _, .error failure =>
      if failure.isSettingFailure then ⟨[], .ok (.stop exitInput (settingsText failure))⟩
      else ⟨[], .error failure⟩
  | .ok bytes, .ok session =>
      if i.scale < 1 then ⟨[], .ok (.stop exitInput (settingsText .scaleTooSmall))⟩
      else i.renderPlan typeface session (.bytes bytes)

end Invocation

/-! ## Runs -/

/-- What a run leaves behind. -/
structure Run where
  exit : Nat
  output : String := ""
  errors : String := ""
  store : Store

/-- The line of a note: with its level and channel when everything is told, else only a warning by
itself. -/
def noteLine (verbose : Bool) (note : Note) : String :=
  match note.message with
  | .error _ => ""
  | .ok text =>
      if verbose then note.level.name ++ ":" ++ note.channel ++ ":" ++ text ++ "\n"
      else if note.level = .warning then text ++ "\n"
      else ""

/-- The lines of some notes. -/
def noteLines (verbose : Bool) (notes : List Note) : String :=
  String.join (notes.map (noteLine verbose))

/-- The line about an output that was written. -/
def doneLine (format : Format) (place : String) : String :=
  format.heading ++ " -> " ++ place ++ "\n"

/-- The line about an output that cannot be written. -/
def writeLine (failure : Failure) : String :=
  "Failed to write output: " ++ failure.message ++ "\n"

namespace Invocation

/-- The input of an invocation. -/
def readInput (i : Invocation) (store : Store) (standardInput : List UInt8) :
    Except Failure (List UInt8) :=
  if i.input == "-" then .ok standardInput
  else (store.read (.ofText i.input)).map Content.toBytes

/-- The place that a path comes to from the current directory. -/
def placeOf (here : String) (path : Path) : String :=
  here ++ String.join ((Store.resolved path.names).map ("/" ++ ·))

/-- What a run in a store leaves behind, when the current directory has a given name. -/
def run (i : Invocation) (typeface : Typeface) (store : Store) (standardInput : List UInt8)
    (here : String) : Except Failure Run := do
  let report := i.plan typeface (i.readInput store standardInput)
  let lines := noteLines i.verbose report.notes
  match ← report.outcome with
  | .stop exit message => return { exit, errors := lines ++ message ++ "\n", store }
  | .print text => return { exit := exitDone, output := text ++ "\n", errors := lines, store }
  | .save format path file =>
      let saved := file.save store path path.text
      match saved.outcome with
      | .ok store =>
          return {
            exit := exitDone
            errors := lines ++ noteLines i.verbose saved.notes ++
              doneLine format (placeOf here path)
            store }
      | .error failure =>
          if failure.isPathFailure then
            return { exit := exitWrite, errors := lines ++ writeLine failure, store }
          else throw failure

end Invocation

/-- The part of a text after its last line feed. -/
def lastLine (text : String) : String :=
  String.ofList (text.toList.reverse.takeWhile (· != '\n')).reverse

/-- What a command line that asks for nothing leaves behind.  Of the text about a wrong command line
the last line is told. -/
def Refusal.run (refusal : Refusal) (store : Store) : Except Failure Run :=
  match refusal with
  | .usage error =>
      .ok
        { exit := exitMarkup
          errors := lastLine ("rackml: error: " ++ error.message) ++ "\n"
          store }
  | .helpWanted => .ok { exit := exitDone, store }
  | .failure cause => .error cause

/-- What a command line leaves behind. -/
def run (typeface : Typeface) (texts : List String) (store : Store) (standardInput : List UInt8)
    (here : String) : Except Failure Run :=
  match Invocation.ofTexts texts with
  | .error refusal => refusal.run store
  | .ok invocation => invocation.run typeface store standardInput here

end RackElevation.Command
