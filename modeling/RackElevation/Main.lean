import RackElevation.Command

/-!
# The command line program

The program reads its input, lets the library plan what to do, and does it.  What can be decided
without looking at files is decided by `Command.Invocation.ofTexts` and `Command.Invocation.plan`;
this module only reads, writes and tells.
-/

namespace RackElevation.Command

/-- How the program is used. -/
def usageText : String :=
  "usage: rackml [options] input\n\n" ++
  "Render a RackML file to an SVG or PNG rack diagram.\n\n" ++
  "The input is a path, or - for the standard input.\n\n" ++
  "  -o, --output PATH            where to write, - for SVG on the standard output\n" ++
  "  -f, --format svg|png         the output format (default: from the output suffix, else svg)\n" ++
  "  --scale N                    PNG resolution multiplier\n" ++
  "  --unit-height LENGTH\n" ++
  "  --rack-width LENGTH\n" ++
  "  --rack-spacing LENGTH\n" ++
  "  --margin LENGTH\n" ++
  "  --default-rack-height N      units of racks without a usable height\n" ++
  "  -v, --verbose                tell every step\n"

/-- The failure that a number of the file system stands for. -/
def failureOfNumber? (path : String) : Nat → Option Failure
  | 2 => some (.noSuchPath path)
  | 20 => some (.notDirectory path)
  | 21 => some (.isDirectory path)
  | 36 => some (.pathTooLong path)
  | _ => none

/-- The number of an error of the file system, which may be given with a minus sign. -/
def errorNumber : IO.Error → Nat
  | .noFileOrDirectory _ code _ | .inappropriateType _ code _ | .invalidArgument _ code _ =>
      (min code (-code)).toNat
  | _ => 0

/-- What is said about an error of the file system. -/
def errorText (path : String) (error : IO.Error) : String :=
  match failureOfNumber? path (errorNumber error) with
  | some failure => failure.message
  | none => error.toString

/-- All bytes that a stream still holds. -/
partial def readAll (stream : IO.FS.Stream) (start : ByteArray) : IO ByteArray := do
  let bytes ← stream.read 65536
  if bytes.isEmpty then return start
  readAll stream (start ++ bytes)

/-- The bytes of the input. -/
def inputBytes (i : Invocation) : IO ByteArray := do
  if i.input == "-" then readAll (← IO.getStdin) .empty
  else IO.FS.readBinFile (Path.ofText i.input).text

/-- What a program run ends with after some lines of text. -/
def tell (exit : Nat) (lines : String) : IO UInt32 := do
  IO.eprint lines
  return exit.toUInt32

/-- A plan carried out in the file system. -/
def carryOut (verbose : Bool) : Plan → IO UInt32
  | .stop exit message => tell exit (message ++ "\n")
  | .print text => do
      IO.print (text ++ "\n")
      return exitDone.toUInt32
  | .save format path file => do
      try
        IO.FS.writeBinFile path.text ⟨file.content.toBytes.toArray⟩
      catch error =>
        return ← tell exitWrite ("Failed to write output: " ++ errorText path.text error ++ "\n")
      let place ← IO.FS.realPath path.text
      tell exitDone (noteLines verbose [file.note path.text] ++ doneLine format place.toString)

/-- An invocation carried out in the file system. -/
def perform (i : Invocation) : IO UInt32 := do
  let input ← try
      let bytes ← inputBytes i
      pure (Except.ok bytes.data.toList)
    catch error =>
      match failureOfNumber? (Path.ofText i.input).text (errorNumber error) with
      | some failure => pure (Except.error failure)
      | none => return ← tell exitInput ("Failed to read input file: " ++ error.toString ++ "\n")
  let report := i.plan Raster.nominalTypeface input
  IO.eprint (noteLines i.verbose report.notes)
  match report.outcome with
  | .ok plan => carryOut i.verbose plan
  | .error failure => tell exitInput (failure.message ++ "\n")

/-- What a refused command line ends with. -/
def refuse : Refusal → IO UInt32
  | .usage error => tell exitMarkup ("rackml: error: " ++ error.message ++ "\n")
  | .helpWanted => do
      IO.print usageText
      return exitDone.toUInt32
  | .failure failure => tell exitInput (failure.message ++ "\n")

/-- The program with a given command line. -/
def program (texts : List String) : IO UInt32 :=
  match Invocation.ofTexts texts with
  | .error refusal => refuse refusal
  | .ok invocation => perform invocation

end RackElevation.Command

/-- Render the input that the command line names. -/
def main (texts : List String) : IO UInt32 :=
  RackElevation.Command.program texts
