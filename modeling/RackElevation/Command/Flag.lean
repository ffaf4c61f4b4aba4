import RackElevation.Text.Digit
import RackElevation.Text.Quoted

/-!
# Flags of the command line

The flags, the names they go by, and the words of a command line.  A long name may be cut short as
long as only one name starts so; a value may follow a long name after an equals sign, and a short
name directly.
-/

namespace RackElevation.Command

open Text

/-- A flag of the command line. -/
inductive Flag where
  | help
  | output
  | format
  | scale
  | unitHeight
  | rackWidth
  | rackSpacing
  | margin
  | defaultRackHeight
  | verbose
  deriving DecidableEq, Repr

/-- The names of the flags. -/
def flagNames : List (String × Flag) := [
  ("-h", .help), ("--help", .help), ("--output", .output), ("-o", .output),
  ("--format", .format), ("-f", .format), ("--scale", .scale), ("--unit-height", .unitHeight),
  ("--rack-width", .rackWidth), ("--rack-spacing", .rackSpacing), ("--margin", .margin),
  ("--default-rack-height", .defaultRackHeight), ("--verbose", .verbose), ("-v", .verbose)]

namespace Flag

/-- The flag of a given name. -/
def ofName? (name : String) : Option Flag :=
  (flagNames.find? (·.1 == name)).map (·.2)

/-- Whether a flag has a value. -/
def takesValue : Flag → Bool
  | .help | .verbose => false
  | _ => true

/-- All names of a flag. -/
def title (flag : Flag) : String :=
  "/".intercalate ((flagNames.filter (·.2 = flag)).map (·.1))

end Flag

/-- What can be wrong with a command line. -/
inductive UsageError where
  /-- A name that several names start with. -/
  | ambiguous (text : String) (names : List String)
  | valueExpected (flag : Flag)
  /-- A value for a flag that has none. -/
  | valueIgnored (flag : Flag) (value : String)
  | invalidInteger (flag : Flag) (value : String)
  | invalidNumber (flag : Flag) (value : String)
  | invalidChoice (flag : Flag) (value : String) (choices : List String)
  | inputMissing
  | unrecognized (texts : List String)
  deriving DecidableEq, Repr

/-- A text about a flag. -/
def aboutFlag (flag : Flag) (text : String) : String :=
  "argument " ++ flag.title ++ ": " ++ text

/-- What is said about a wrong command line. -/
def UsageError.message : UsageError → String
  | .ambiguous text names =>
      "ambiguous option: " ++ text ++ " could match " ++ ", ".intercalate names
  | .valueExpected flag => aboutFlag flag "expected one argument"
  | .valueIgnored flag value => aboutFlag flag ("ignored explicit argument " ++ quoted value)
  | .invalidInteger flag value => aboutFlag flag ("invalid int value: " ++ quoted value)
  | .invalidNumber flag value => aboutFlag flag ("invalid float value: " ++ quoted value)
  | .invalidChoice flag value choices =>
      aboutFlag flag ("invalid choice: " ++ quoted value ++ " (choose from " ++
        ", ".intercalate (choices.map quoted) ++ ")")
  | .inputMissing => "the following arguments are required: input"
  | .unrecognized texts => "unrecognized arguments: " ++ " ".intercalate texts

/-! ## Words -/

/-- A word of the command line. -/
inductive Word where
  | plain (text : String)
  /-- Two hyphens, after which every word is plain. -/
  | separator
  /-- A flag, the name it goes by, and the value that is joined to it. -/
  | flag (name : String) (flag : Flag) (value? : Option String)
  /-- A word that looks like a flag. -/
  | unknown (text : String)
  deriving DecidableEq, Repr

/-- A text up to its first equals sign, and the text after it. -/
def splitEquals (text : String) : String × Option String :=
  let cs := text.toList
  match cs.dropWhile (· != '=') with
  | [] => (text, none)
  | _ :: value => (String.ofList (cs.takeWhile (· != '=')), some (String.ofList value))

/-- The flags that a shortened long name may stand for, with their full names and a joined value. -/
def longCandidates (text : String) : List (String × Flag × Option String) :=
  let (start, value?) := splitEquals text
  (flagNames.filter fun entry => start.toList.isPrefixOf entry.1.toList).map fun entry =>
    (entry.1, entry.2, value?)

/-- The flag that a short name directly followed by a value stands for. -/
def shortCandidates (text : String) : List (String × Flag × Option String) :=
  let cs := text.toList
  let name := String.ofList (cs.take 2)
  match Flag.ofName? name with
  | some flag => [(name, flag, some (String.ofList (cs.drop 2)))]
  | none => []

/-- The flags that a text with a hyphen before it may stand for. -/
def candidates (text : String) : List (String × Flag × Option String) :=
  match text.toList with
  | '-' :: '-' :: _ => longCandidates text
  | _ => shortCandidates text

/-- Whether a text is a number with a minus sign: digits, or a point with digits after it.  A line
feed at its end does not count. -/
def isNegativeNumeral (text : String) : Bool :=
  let cs := text.toList
  let cs := if cs.getLast? == some '\n' then cs.dropLast else cs
  match cs with
  | '-' :: numeral =>
      let whole := numeral.takeWhile isDigit
      match numeral.drop whole.length with
      | [] => !whole.isEmpty
      | '.' :: fraction => !fraction.isEmpty && fraction.all isDigit
      | _ => false
  | _ => false

/-- The word that a text is before any separator. -/
def Word.ofText (text : String) : Except UsageError Word :=
  match text.toList with
  | '-' :: _ :: _ =>
      let (start, value?) := splitEquals text
      match Flag.ofName? text, value?.bind fun _ => Flag.ofName? start with
      | some f, _ => .ok (.flag text f none)
      | none, some f => .ok (.flag start f value?)
      | none, none =>
          match candidates text with
          | [] =>
              if isNegativeNumeral text || text.toList.contains ' ' then .ok (.plain text)
              else .ok (.unknown text)
          | [(name, f, value?)] => .ok (.flag name f value?)
          | several => .error (.ambiguous text (several.map (·.1)))
  | _ => .ok (.plain text)

/-- The words that some texts are. -/
def Word.ofTexts : List String → Except UsageError (List Word)
  | [] => .ok []
  | text :: rest =>
      if text == "--" then .ok (.separator :: rest.map .plain)
      else do
        let word ← Word.ofText text
        return word :: (← Word.ofTexts rest)

end RackElevation.Command
