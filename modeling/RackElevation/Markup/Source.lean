import RackElevation.Markup.Encoding
import RackElevation.Markup.Declaration
import RackElevation.Markup.Document
import RackElevation.Markup.Limit

/-!
# Reading a source

A source is text, or bytes in an encoding of their own.  Text is read as its bytes in UTF-8,
whatever encoding it declares.

    first bytes  →  encoding, declaration  →  characters  →  tokens  →  root element

A declaration that cannot be read, and an encoding that cannot be used, is found before anything
that comes after the declaration.  Characters whose entities stand for far too much are not read.
-/

namespace RackElevation.Markup

/-- Where markup comes from. -/
inductive Source where
  | text (content : String)
  | bytes (content : List UInt8)
  deriving DecidableEq

/-- The bytes of a source. -/
def Source.toBytes : Source → List UInt8
  | .text content => content.toUTF8.data.toList
  | .bytes content => content

/-- The encoding of a source whose first bytes show one and whose declaration may name one. -/
def Source.encoding (source : Source) (shown : Encoding) (name? : Option String) :
    Except Failure Encoding :=
  match source, name? with
  | .bytes _, some name => shown.declared name
  | _, _ => .ok shown

/-- The root element of the characters after a declaration. -/
def rootOfChars? (alphabet : Alphabet) (definitions : Definitions) (cs : List Char) :
    Option (Node ExpandedName) := do
  if cs.all isAllowed then
    rootOf? alphabet definitions (← Token.ofChars? alphabet (unifyLineEnds cs))
  else none

/-- The root element of the characters after a declaration, which is so many bytes long, unless the
limit on expansions stops them. -/
def rootWithin? (encoding : Encoding) (before : Nat) (standalone : Bool) (cs : List Char) :
    Option (Node ExpandedName) :=
  if isWithinLimit encoding.charSize before standalone cs then
    rootOfChars? encoding.alphabet { standalone } cs
  else none

/-- The root element of a source. -/
def readTree (source : Source) : Except Failure (Node ExpandedName) := do
  let bytes := source.toBytes
  let (shown, data) := detect bytes
  let (declaration, length) ← Declaration.ofStart (shown.asciiStart data)
  let encoding ← source.encoding shown declaration.encoding
  let rest := data.drop (length * shown.asciiSize)
  let before := bytes.length - rest.length
  match (encoding.decode rest).bind (rootWithin? encoding before declaration.standalone) with
  | some root => return root
  | none => throw .malformedMarkup

end RackElevation.Markup
