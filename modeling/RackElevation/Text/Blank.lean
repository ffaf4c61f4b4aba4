/-!
# Blank characters

The characters that count as blank around and inside numerals, labels and colour texts: the Unicode
white space characters together with the four information separators U+001C to U+001F.  Zero width
characters (U+200B, U+FEFF) are not blank.
-/

namespace RackElevation.Text

/-- The blank characters. -/
def isBlank (c : Char) : Bool :=
  let n := c.toNat
  (0x09 ≤ n && n ≤ 0x0D) || (0x1C ≤ n && n ≤ 0x20) || n == 0x85 || n == 0xA0 || n == 0x1680 ||
    (0x2000 ≤ n && n ≤ 0x200A) || n == 0x2028 || n == 0x2029 || n == 0x202F || n == 0x205F ||
    n == 0x3000

/-- The blank characters that may stand around a whole numeral: the information separators may
not. -/
def isNumeralBlank (c : Char) : Bool :=
  isBlank c && !(0x1C ≤ c.toNat && c.toNat ≤ 0x1F)

/-- A text without the characters of a class at its two ends. -/
def trimBy (p : Char → Bool) (cs : List Char) : List Char :=
  ((cs.dropWhile p).reverse.dropWhile p).reverse

/-- A text without its leading blank characters. -/
def trimLeft (cs : List Char) : List Char :=
  cs.dropWhile isBlank

/-- A text without the blank characters at its two ends. -/
def trim (cs : List Char) : List Char :=
  trimBy isBlank cs

/-- The text of a string without the blank characters at its two ends. -/
def trimString (s : String) : String :=
  String.ofList (trim s.toList)

end RackElevation.Text
