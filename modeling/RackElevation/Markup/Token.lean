import RackElevation.Markup.Piece
import RackElevation.Markup.Doctype.Token

/-!
# Tokens

A document is read character by character into tokens: the characters of text one by one, sections
of plain text, references, tags with their attributes cut into pieces, and the parts of a document
type.  Comments and instructions leave no token.

Reading is a run of `Mode.step` over the characters, so what is read from two texts one after the
other is what is read from the second, starting in the mode in which the first one ends.
-/

namespace RackElevation.Markup

/-- A token of a document. -/
inductive Token where
  /-- A character of text. -/
  | char (c : Char)
  /-- A character that is given by its number. -/
  | numbered (c : Char)
  /-- A section of plain text. -/
  | plain (content : List Char)
  /-- A reference to an entity. -/
  | entity (name : String)
  /-- The start of an element; an empty element ends at once. -/
  | startTag (name : String) (attributes : List (String × List Piece)) (isEmpty : Bool)
  /-- The end of an element. -/
  | endTag (name : String)
  /-- A document type. -/
  | doctype (parts : List DoctypeToken)
  deriving Repr

/-- The token of a reference. -/
def Token.ofPiece : Piece → Token
  | .char c => .char c
  | .numbered c => .numbered c
  | .entity name => .entity name

/-- The start of a tag: the name and the attributes so far, in reverse. -/
structure OpenTag where
  name : String
  attributes : List (String × List Piece) := []
  deriving Repr

/-- The token of a finished tag. -/
def OpenTag.token (tag : OpenTag) (isEmpty : Bool) : Token :=
  .startTag tag.name tag.attributes.reverse isEmpty

/-- Where in a token the reader is.  Characters that were read are kept in reverse. -/
inductive Mode where
  /-- In text, after so many closing brackets. -/
  | text (brackets : Nat)
  /-- After an ampersand. -/
  | reference (read : List Char)
  /-- After an opening angle bracket. -/
  | opening
  /-- After an exclamation mark. -/
  | marked (read : List Char)
  /-- Inside a comment, after so many hyphens. -/
  | comment (hyphens : Nat)
  | instruction (read : List Char)
  /-- Inside a section of plain text. -/
  | plain (read : List Char)
  /-- Inside the name of an end tag. -/
  | closing (read : List Char)
  /-- Inside the name of a start tag. -/
  | openName (read : List Char)
  /-- Between the attributes of a tag; the flag tells whether white space was read. -/
  | inTag (tag : OpenTag) (spaced : Bool)
  /-- After the slash at the end of a tag. -/
  | slash (tag : OpenTag)
  /-- Inside the name of an attribute. -/
  | attributeName (tag : OpenTag) (read : List Char)
  /-- After the name of an attribute. -/
  | afterName (tag : OpenTag) (name : String)
  /-- Before the value of an attribute. -/
  | beforeValue (tag : OpenTag) (name : String)
  | quoted (tag : OpenTag) (name : String) (quote : Char) (read : List Char)
  /-- Inside a document type: whether inside its brackets, and its parts so far in reverse. -/
  | doctype (inside : Bool) (mode : DoctypeMode) (parts : List DoctypeToken)
  deriving Repr

namespace Mode

/-- A character of text. -/
def stepText (brackets : Nat) (c : Char) : Option (Mode × List Token) :=
  match c with
  | '<' => some (.opening, [])
  | '&' => some (.reference [], [])
  | ']' => some (.text (brackets + 1), [.char c])
  | '>' => if 2 ≤ brackets then none else some (.text 0, [.char c])
  | _ => some (.text 0, [.char c])

/-- A character between the attributes of a tag. -/
def stepTag (alphabet : Alphabet) (tag : OpenTag) (spaced : Bool) (c : Char) :
    Option (Mode × List Token) :=
  if isSpace c then some (.inTag tag true, [])
  else if c == '>' then some (.text 0, [tag.token false])
  else if c == '/' then some (.slash tag, [])
  else if spaced && alphabet.isStart c then some (.attributeName tag [c], [])
  else none

/-- The start of a tag whose name was read. -/
def named? (alphabet : Alphabet) (read : List Char) : Option OpenTag :=
  if alphabet.isQualifiedName read.reverse then some { name := String.ofList read.reverse }
  else none

/-- Whether a character goes on with a name and its colon. -/
def continuesName (alphabet : Alphabet) (c : Char) : Bool :=
  alphabet.isPart c || c == ':'

/-- A character after an exclamation mark. -/
def stepMarked (read : List Char) (c : Char) : Option (Mode × List Token) :=
  let read := c :: read
  if read == "--".toList then some (.comment 0, [])
  else if read == "[CDATA[".toList.reverse then some (.plain [], [])
  else if read.length == 8 then
    if isSpace c && read.drop 1 == "DOCTYPE".toList.reverse then
      some (.doctype false .between [], [])
    else none
  else some (.marked read, [])

/-- A character inside a document type, which ends with the first stop outside its brackets. -/
def stepDoctype (alphabet : Alphabet) (inside : Bool) (mode : DoctypeMode)
    (parts : List DoctypeToken) (c : Char) : Option (Mode × List Token) := do
  let (mode, ended) ← mode.step alphabet c
  let parts := ended.reverse ++ parts
  match parts.head? with
  | some .stop =>
      if inside || ended.isEmpty then return (.doctype inside mode parts, [])
      else return (.text 0, [.doctype (parts.drop 1).reverse])
  | some .openBracket => return (.doctype true mode parts, [])
  | some .closeBracket => return (.doctype false mode parts, [])
  | _ => return (.doctype inside mode parts, [])

/-- One more character: where the reader is then, and the tokens that have ended. -/
def step (alphabet : Alphabet) (mode : Mode) (c : Char) : Option (Mode × List Token) :=
  match mode with
  | .text brackets => stepText brackets c
  | .reference read =>
      if c == ';' then do
        let piece ← referenced? alphabet read.reverse
        return (.text 0, [.ofPiece piece])
      else some (.reference (c :: read), [])
  | .opening =>
      if c == '!' then some (.marked [], [])
      else if c == '?' then some (.instruction [], [])
      else if c == '/' then some (.closing [], [])
      else if alphabet.isStart c then some (.openName [c], [])
      else none
  | .marked read => stepMarked read c
  | .comment 0 => some (.comment (if c == '-' then 1 else 0), [])
  | .comment 1 => some (.comment (if c == '-' then 2 else 0), [])
  | .comment _ => if c == '>' then some (.text 0, []) else none
  | .instruction read =>
      if c == '>' && read.head? == some '?' then
        if isInstruction alphabet (read.drop 1).reverse then some (.text 0, []) else none
      else some (.instruction (c :: read), [])
  | .plain read =>
      if c == '>' && read.take 2 == [']', ']'] then
        some (.text 0, [.plain (read.drop 2).reverse])
      else some (.plain (c :: read), [])
  | .closing read =>
      if c == '>' then
        let name := dropFinalSpace read.reverse
        if alphabet.isQualifiedName name then some (.text 0, [.endTag (String.ofList name)])
        else none
      else some (.closing (c :: read), [])
  | .openName read =>
      if continuesName alphabet c then some (.openName (c :: read), [])
      else do stepTag alphabet (← named? alphabet read) false c
  | .inTag tag spaced => stepTag alphabet tag spaced c
  | .slash tag => if c == '>' then some (.text 0, [tag.token true]) else none
  | .attributeName tag read =>
      if continuesName alphabet c then some (.attributeName tag (c :: read), [])
      else if alphabet.isQualifiedName read.reverse then
        if c == '=' then some (.beforeValue tag (String.ofList read.reverse), [])
        else if isSpace c then some (.afterName tag (String.ofList read.reverse), [])
        else none
      else none
  | .afterName tag name =>
      if isSpace c then some (.afterName tag name, [])
      else if c == '=' then some (.beforeValue tag name, [])
      else none
  | .beforeValue tag name =>
      if isSpace c then some (.beforeValue tag name, [])
      else if c == '\x22' || c == '\x27' then some (.quoted tag name c [], [])
      else none
  | .quoted tag name quote read =>
      if c == quote then do
        let pieces ← attributePieces? alphabet read.reverse
        return (.inTag { tag with attributes := (name, pieces) :: tag.attributes } false, [])
      else some (.quoted tag name quote (c :: read), [])
  | .doctype inside mode parts => stepDoctype alphabet inside mode parts c

/-- A comment ends after two hyphens in a row, which are followed by nothing else. -/
theorem step_comment (alphabet : Alphabet) (hyphens : Nat) (c : Char) :
    step alphabet (.comment hyphens) c =
      if hyphens < 2 then some (.comment (if c == '-' then hyphens + 1 else 0), [])
      else if c == '>' then some (.text 0, []) else none := by
  match hyphens with
  | 0 => rfl
  | 1 => rfl
  | _ + 2 => rw [if_neg (Nat.not_lt.2 (Nat.le_add_left 2 _))]; rfl

end Mode

namespace Token

/-- One more character of a text, with the tokens so far in reverse. -/
def read (alphabet : Alphabet) (s : Mode × List Token) (c : Char) : Option (Mode × List Token) := do
  let (mode, tokens) ← s.1.step alphabet c
  return (mode, tokens.reverse ++ s.2)

/-- The tokens of a text.  A text must not end inside a token. -/
def ofChars? (alphabet : Alphabet) (cs : List Char) : Option (List Token) := do
  match ← cs.foldlM (read alphabet) (.text 0, []) with
  | (.text _, tokens) => return tokens.reverse
  | _ => none

end Token

end RackElevation.Markup
