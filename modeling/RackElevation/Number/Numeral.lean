import RackElevation.Failure.Message
import RackElevation.Binary64.Shortest
import RackElevation.Number
import RackElevation.Text.Blank

/-!
# Reading numerals

Three readers of numbers in text.  Digits of every script count.

* `leadingPositive`: the integer that a text starts with, after blank characters and an optional
  sign, if it is positive; whatever follows the digits is ignored.
* `integerNumeral`: a text that is an integer as a whole, between blanks, with single underscores
  allowed between digits.
* `realNumeral?`: a text that is a decimal number, an infinity or not-a-number as a whole.

The first two refuse more digits than the limit on integer text.
-/

namespace RackElevation

open Text

/-- A text without its sign, and whether the sign is a minus. -/
def takeSign : List Char → Bool × List Char
  | '+' :: rest => (false, rest)
  | '-' :: rest => (true, rest)
  | cs => (false, cs)

/-- The number of a row of digits within the limit on integer text. -/
def boundedValue (ds : List Char) : Except Failure Nat :=
  if ds.length ≤ integerTextLimit then .ok (value ds) else .error (.numeralTooLong ds.length)

/-- The positive integer that a text starts with. -/
def leadingPositive (cs : List Char) : Except Failure (Option Int) :=
  let signed := takeSign (trimLeft cs)
  let ds := signed.2.takeWhile isDigit
  if ds.isEmpty then .ok none
  else (boundedValue ds).map fun n => if signed.1 || n = 0 then none else some n

/-- The positive integer that an optional text starts with. -/
def leadingPositive? (text : Option String) : Except Failure (Option Int) :=
  match text with
  | none => .ok none
  | some s => leadingPositive s.toList

/-- The digits of a row in which single underscores may stand between two digits. -/
def groupedDigits? : List Char → Option (List Char)
  | [] => none
  | [d] => if isDigit d then some [d] else none
  | d :: '_' :: rest => if isDigit d then (groupedDigits? rest).map (d :: ·) else none
  | d :: rest => if isDigit d then (groupedDigits? rest).map (d :: ·) else none

/-- The integer that a text denotes as a whole, if it is one. -/
def integerNumeral? (cs : List Char) : Option Int :=
  let signed := takeSign (trimBy isNumeralBlank cs)
  match groupedDigits? signed.2 with
  | none => none
  | some ds =>
      if ds.length ≤ integerTextLimit then
        some (if signed.1 then -(value ds : Int) else value ds)
      else none

/-- The part of a text before a character, and the part after it if the character occurs. -/
def splitAtFirst (p : Char → Bool) (cs : List Char) : List Char × Option (List Char) :=
  match cs.dropWhile (fun c => !p c) with
  | [] => (cs, none)
  | _ :: rest => (cs.takeWhile (fun c => !p c), some rest)

/-- The digits of a row that may also be empty. -/
def optionalDigits? (cs : List Char) : Option (List Char) :=
  if cs.isEmpty then some [] else groupedDigits? cs

/-- The exponent after its mark, zero without one. -/
def exponent? : Option (List Char) → Option Int
  | none => some 0
  | some cs =>
      let signed := takeSign cs
      (groupedDigits? signed.2).map fun ds =>
        if signed.1 then -(value ds : Int) else value ds

/-- The decimal that an unsigned text denotes. -/
def decimalNumeral? (cs : List Char) : Option Decimal := do
  let (mantissa, mark) := splitAtFirst (fun c => c = 'e' || c = 'E') cs
  let (whole, fraction) := splitAtFirst (· = '.') mantissa
  let ws ← optionalDigits? whole
  let fs ← optionalDigits? (fraction.getD [])
  if ws.isEmpty && fs.isEmpty then none
  else
    let e ← exponent? mark
    return ⟨value (ws ++ fs), e - fs.length⟩

/-- The binary64 number that a text denotes as a whole, if it is one. -/
def realNumeral? (cs : List Char) : Option Binary64 :=
  let signed := takeSign (trimBy isNumeralBlank cs)
  let word := signed.2.map Char.toLower
  if word = "inf".toList || word = "infinity".toList then some (.infinite signed.1)
  else if word = "nan".toList then some .nan
  else (decimalNumeral? signed.2).map (Decimal.toBinary64 signed.1)

end RackElevation
