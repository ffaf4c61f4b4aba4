import RackElevation.Failure
import RackElevation.Markup.Character

/-!
# Declarations

The first line of a document, which may name its encoding and tell whether it stands alone:

    <?xml version="1.0" encoding="UTF-8" standalone="yes"?>

The settings come in this order, and only the version is required.  Any version is accepted.
-/

namespace RackElevation.Markup

/-- What a document declares about itself. -/
structure Declaration where
  encoding : Option String := none
  standalone : Bool := false
  deriving DecidableEq, Repr

namespace Declaration

/-- The characters of a declared value. -/
def isValueChar (c : Char) : Bool :=
  c.isAlphanum || c == '.' || c == '-' || c == '_'

/-- One setting at the start of a text: its name, its value and the text after it.  The text may
also end after white space, which makes no setting. -/
def readSetting? (cs : List Char) : Option (Option (String × String × List Char)) := do
  if cs.isEmpty then return none
  guard (cs.head?.any isSpace)
  let body := dropSpace cs
  if body.isEmpty then return none
  let name := body.takeWhile fun c => c != '=' && !isSpace c
  guard !name.isEmpty
  match dropSpace (body.drop name.length) with
  | '=' :: rest =>
      match dropSpace rest with
      | quote :: rest =>
          guard (quote == '\x22' || quote == '\x27')
          let value := rest.takeWhile isValueChar
          let rest := rest.drop value.length
          guard (rest.head? == some quote)
          return some (String.ofList name, String.ofList value, rest.drop 1)
      | [] => none
  | _ => none

/-- The settings of a text, of which there may be at most a given number. -/
def readSettings? : Nat → List Char → Option (List (String × String))
  | 0, cs => if (dropSpace cs).isEmpty then some [] else none
  | n + 1, cs => do
      match ← readSetting? cs with
      | none => return []
      | some (name, value, rest) => return (name, value) :: (← readSettings? n rest)

/-- What an encoding setting names: something that starts with a letter. -/
def encodingName? (value : String) : Option String :=
  if value.toList.head?.any Char.isAlpha then some value else none

/-- What a standalone setting says. -/
def standalone? : String → Option Bool
  | "yes" => some true
  | "no" => some false
  | _ => none

/-- What the settings of a declaration say. -/
def ofSettings? : List (String × String) → Option Declaration
  | [("version", _)] => some {}
  | [("version", _), ("encoding", name)] => do
      return { encoding := some (← encodingName? name) }
  | [("version", _), ("standalone", value)] => do
      return { standalone := ← standalone? value }
  | [("version", _), ("encoding", name), ("standalone", value)] => do
      return { encoding := some (← encodingName? name), standalone := ← standalone? value }
  | _ => none

/-- The text up to the end of the declaration, after some characters in reverse. -/
def body? (read : List Char) : List Char → Option (List Char)
  | [] => none
  | '?' :: '>' :: _ => some read.reverse
  | c :: rest => body? (c :: read) rest

/-- The declaration that a document starts with and the number of its characters; a document that
starts with no declaration declares nothing. -/
def ofStart : List Char → Except Failure (Declaration × Nat)
  | '<' :: '?' :: 'x' :: 'm' :: 'l' :: c :: rest =>
      if isSpace c || c == '?' then
        match body? [] (c :: rest) with
        | none => .error .malformedMarkup
        | some body =>
            match (readSettings? 3 body).bind ofSettings? with
            | none => .error .malformedMarkup
            | some declaration => .ok (declaration, body.length + 7)
      else .ok ({}, 0)
  | _ => .ok ({}, 0)

end Declaration

end RackElevation.Markup
