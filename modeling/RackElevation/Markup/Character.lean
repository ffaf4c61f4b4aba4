/-!
# Characters of markup

Which characters a document may hold, its white space, and its line ends.  A carriage return, alone
or followed by a line feed, is read as one line feed.
-/

namespace RackElevation.Markup

/-- Whether a document may hold a character: no control characters other than tab, line feed and
carriage return, and neither U+FFFE nor U+FFFF. -/
def isAllowed (c : Char) : Bool :=
  if c.toNat < 0x20 then c == '\t' || c == '\n' || c == '\r'
  else c.toNat != 0xFFFE && c.toNat != 0xFFFF

/-- The character with a given number, if a document may hold it. -/
def charOfNumber? (n : Nat) : Option Char :=
  if n.isValidChar && isAllowed (Char.ofNat n) then some (Char.ofNat n) else none

/-- White space between the parts of a tag or a declaration. -/
def isSpace (c : Char) : Bool :=
  c == ' ' || c == '\t' || c == '\n' || c == '\r'

/-- Characters from the first one that is no white space on. -/
def dropSpace (cs : List Char) : List Char :=
  cs.dropWhile isSpace

/-- Characters up to the last one that is no white space. -/
def dropFinalSpace (cs : List Char) : List Char :=
  (dropSpace cs.reverse).reverse

/-- One more character of a text whose line ends are made line feeds.  The text so far is reversed;
the flag tells whether its last line feed was a carriage return. -/
def addUnified (read : List Char × Bool) (c : Char) : List Char × Bool :=
  if c == '\r' then ('\n' :: read.1, true)
  else if c == '\n' && read.2 then (read.1, false)
  else (c :: read.1, false)

/-- A text with every line end made a line feed. -/
def unifyLineEnds (cs : List Char) : List Char :=
  (cs.foldl addUnified ([], false)).1.reverse

end RackElevation.Markup
