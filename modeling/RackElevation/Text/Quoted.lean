import RackElevation.Text.Printable

/-!
# Quoted text

How strings and byte strings are shown in log lines, error texts and traces.  A string stands
between single quotes, or between double quotes when it has a single quote and no double one.  The
backslash and the quote in use are escaped, and so is every character that is not printable: line
feed, carriage return and tab by a letter, the others by their code point in two, four or eight
hexadecimal digits.
-/

namespace RackElevation.Text

/-- The single quote. -/
def apostrophe : Char := '\x27'

/-- The double quote. -/
def quotationMark : Char := '\x22'

/-- The backslash. -/
def backslash : Char := '\x5c'

/-- A number in hexadecimal, filled up with zeros to a width. -/
def hexadecimal (width n : Nat) : List Char :=
  let ds := Nat.toDigits 16 n
  List.replicate (width - ds.length) '0' ++ ds

/-- The quote that a text is put between. -/
def quoteFor (cs : List Char) : Char :=
  if cs.contains apostrophe && !cs.contains quotationMark then quotationMark else apostrophe

/-- The escape of an unprintable character by its code point. -/
def codePointEscape (n : Nat) : List Char :=
  if n ≤ 0xFF then backslash :: 'x' :: hexadecimal 2 n
  else if n ≤ 0xFFFF then backslash :: 'u' :: hexadecimal 4 n
  else backslash :: 'U' :: hexadecimal 8 n

/-- One character of a quoted text. -/
def quotedChar (quote : Char) (c : Char) : List Char :=
  if c = quote || c = backslash then [backslash, c]
  else if c = '\n' then [backslash, 'n']
  else if c = '\r' then [backslash, 'r']
  else if c = '\t' then [backslash, 't']
  else if (0x20 ≤ c.toNat && c.toNat < 0x7F) || (0x7F < c.toNat && isPrintable c) then [c]
  else codePointEscape c.toNat

/-- A text between quotes, with its escapes. -/
def quotedChars (cs : List Char) : List Char :=
  let quote := quoteFor cs
  quote :: (cs.flatMap (quotedChar quote) ++ [quote])

/-- A string as it is shown. -/
def quoted (s : String) : String :=
  String.ofList (quotedChars s.toList)

/-- A string as it is shown, or the word for its absence. -/
def quotedOption : Option String → String
  | none => "None"
  | some s => quoted s

/-- One byte of a quoted byte string. -/
def quotedByte (quote : Char) (b : UInt8) : List Char :=
  let c := Char.ofNat b.toNat
  if c = quote || c = backslash then [backslash, c]
  else if c = '\n' then [backslash, 'n']
  else if c = '\r' then [backslash, 'r']
  else if c = '\t' then [backslash, 't']
  else if 0x20 ≤ b.toNat && b.toNat < 0x7F then [c]
  else codePointEscape b.toNat

/-- A byte string as it is shown. -/
def quotedBytes (bs : List UInt8) : String :=
  let quote := quoteFor (bs.map fun b => Char.ofNat b.toNat)
  String.ofList ('b' :: quote :: (bs.flatMap (quotedByte quote) ++ [quote]))

end RackElevation.Text
