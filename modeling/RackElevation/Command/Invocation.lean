import RackElevation.Command.Flag
import RackElevation.Number.Numeral

/-!
# Invocations

What a command line asks for.  The first plain word is the input; every flag may come before or
after it, and the last one of its kind counts.  Short flags without a value can be joined in one
word.
-/

namespace RackElevation.Command

/-- The format of an output. -/
inductive Format where
  | svg
  | png
  deriving DecidableEq, Repr

namespace Format

/-- The formats with their names. -/
def named : List (String × Format) :=
  [("svg", .svg), ("png", .png)]

/-- The format of a given name. -/
def ofName? (name : String) : Option Format :=
  (named.find? (·.1 == name)).map (·.2)

/-- The name of a format as a heading. -/
def heading : Format → String
  | .svg => "SVG"
  | .png => "PNG"

end Format

/-- What a command line asks for.  Lengths keep the standard integers unless they are given. -/
structure Invocation where
  input : String
  output : Option String := none
  format : Option Format := none
  scale : Int := 1
  unitHeight : Number := 25
  rackWidth : Number := 300
  rackSpacing : Number := 25
  margin : Number := 25
  defaultRackHeight : Int := 42
  verbose : Bool := false
  deriving DecidableEq

/-- Why a command line asks for nothing. -/
inductive Refusal where
  | usage (error : UsageError)
  | helpWanted
  | failure (failure : Failure)
  deriving DecidableEq

/-- A command line that is being read: what it asks for so far, whether the input was given, and the
words that nothing is asked for with, in reverse. -/
structure Reading where
  invocation : Invocation := { input := "" }
  hasInput : Bool := false
  extras : List String := []

/-- The integer of a flag. -/
def integerValue (flag : Flag) (text : String) : Except Refusal Int :=
  match integerNumeral? text.toList with
  | some n => .ok n
  | none => .error (.usage (.invalidInteger flag text))

/-- The binary64 number of a flag. -/
def realValue (flag : Flag) (text : String) : Except Refusal Number :=
  match realNumeral? text.toList with
  | some x => .ok (.real x)
  | none => .error (.usage (.invalidNumber flag text))

/-- The format of a flag. -/
def formatValue (flag : Flag) (text : String) : Except Refusal Format :=
  match Format.ofName? text with
  | some format => .ok format
  | none => .error (.usage (.invalidChoice flag text (Format.named.map (·.1))))

namespace Invocation

/-- An invocation with a flag that has a value. -/
def withValue (i : Invocation) (flag : Flag) (text : String) : Except Refusal Invocation :=
  if text == "--" then .error (.failure .noOptionValue)
  else
    match flag with
    | .output => .ok { i with output := some text }
    | .format => do return { i with format := some (← formatValue flag text) }
    | .scale => do return { i with scale := ← integerValue flag text }
    | .unitHeight => do return { i with unitHeight := ← realValue flag text }
    | .rackWidth => do return { i with rackWidth := ← realValue flag text }
    | .rackSpacing => do return { i with rackSpacing := ← realValue flag text }
    | .margin => do return { i with margin := ← realValue flag text }
    | .defaultRackHeight => do return { i with defaultRackHeight := ← integerValue flag text }
    | .help | .verbose => .ok i

/-- An invocation with a flag that has no value. -/
def withFlag (i : Invocation) : Flag → Except Refusal Invocation
  | .help => .error .helpWanted
  | .verbose => .ok { i with verbose := true }
  | _ => .ok i

/-- An invocation with some flags and their values. -/
def withAll (i : Invocation) (flags : List (Flag × Option String)) : Except Refusal Invocation :=
  flags.foldlM (fun i entry =>
    match entry with
    | (flag, some text) => i.withValue flag text
    | (flag, none) => i.withFlag flag) i

end Invocation

/-- A flag without a value, and the short flags that are joined to it.  The last one may have a
value, which is the rest of the word if there is any. -/
def joinedFlags (flag : Flag) : List Char → Except UsageError (List (Flag × Option String))
  | [] => .ok [(flag, none)]
  | c :: rest =>
      match Flag.ofName? (String.ofList ['-', c]) with
      | none => .error (.valueIgnored flag (String.ofList (c :: rest)))
      | some next =>
          if next.takesValue then
            .ok [(flag, none), (next, if rest.isEmpty then none else some (String.ofList rest))]
          else do return (flag, none) :: (← joinedFlags next rest)

/-- The flags in a word, with the values that are joined to them. -/
def wordFlags (name : String) (flag : Flag) (value? : Option String) :
    Except UsageError (List (Flag × Option String)) :=
  match value? with
  | none => .ok [(flag, none)]
  | some value =>
      if flag.takesValue then .ok [(flag, some value)]
      else if value.isEmpty || name.toList.take 2 == ['-', '-'] then
        .error (.valueIgnored flag value)
      else joinedFlags flag value.toList

/-- The flag at the end of some flags that still lacks its value. -/
def lackingFlag? (flags : List (Flag × Option String)) : Option Flag :=
  match flags.getLast? with
  | some (flag, none) => if flag.takesValue then some flag else none
  | _ => none

namespace Reading

/-- A plain word: the input, or one too many. -/
def addPlain (r : Reading) (text : String) : Reading :=
  if r.hasInput then { r with extras := text :: r.extras }
  else { r with invocation := { r.invocation with input := text }, hasInput := true }

/-- A word that nothing is asked for with. -/
def addExtra (r : Reading) (text : String) : Reading :=
  { r with extras := text :: r.extras }

/-- Flags with their values. -/
def addFlags (r : Reading) (flags : List (Flag × Option String)) : Except Refusal Reading := do
  return { r with invocation := ← r.invocation.withAll flags }

/-- The words of a command line read one after the other.  A separator next to the input belongs to
it. -/
def addAll (r : Reading) : List Word → Except Refusal Reading
  | [] => .ok r
  | .plain text :: .separator :: rest =>
      if r.hasInput then addAll ((r.addPlain text).addExtra "--") rest
      else addAll (r.addPlain text) rest
  | .plain text :: rest => addAll (r.addPlain text) rest
  | .separator :: .plain text :: rest =>
      if r.hasInput then addAll ((r.addExtra "--").addPlain text) rest
      else addAll (r.addPlain text) rest
  | .separator :: rest => addAll (r.addExtra "--") rest
  | .unknown text :: rest => addAll (r.addExtra text) rest
  | .flag name flag value? :: rest =>
      match wordFlags name flag value? with
      | .error error => .error (.usage error)
      | .ok flags =>
          match lackingFlag? flags, rest with
          | none, rest => do addAll (← r.addFlags flags) rest
          | some lacking, .plain text :: rest => do
              addAll (← r.addFlags (flags.dropLast ++ [(lacking, some text)])) rest
          | some lacking, _ => .error (.usage (.valueExpected lacking))

end Reading

/-- What a command line asks for. -/
def Invocation.ofTexts (texts : List String) : Except Refusal Invocation :=
  match Word.ofTexts texts with
  | .error error => .error (.usage error)
  | .ok words => do
      let r ← Reading.addAll {} words
      if !r.hasInput then throw (.usage .inputMissing)
      if !r.extras.isEmpty then throw (.usage (.unrecognized r.extras.reverse))
      return r.invocation

end RackElevation.Command
