import RackElevation.Number
import RackElevation.Binary64.Shortest
import RackElevation.Failure.Message

/-!
# The text of numbers

An integer is written in decimal, up to the limit on integer text.  A binary64 number is written
with its shortest digits: positionally when the exponent of its leading digit is from -4 to 15, and
then always with a point, else with an exponent of at least two digits and a sign.  A coordinate is
written like a number, except that a whole binary64 number is written as an integer.
-/

namespace RackElevation

open Text

/-- The decimal text of an integer. -/
def integerChars (n : Int) : List Char :=
  if n < 0 then '-' :: decimalDigits n.natAbs else decimalDigits n.natAbs

/-- The decimal text of an integer within the limit on integer text. -/
def integerText (n : Int) : Except Failure String :=
  if (decimalDigits n.natAbs).length ≤ integerTextLimit then .ok (String.ofList (integerChars n))
  else .error .integerTooLong

/-- The exponents of the leading digit for which a number is written positionally. -/
def isPositional (order : Int) : Bool :=
  -4 ≤ order && order < 16

/-- Digits with a point after the digit of exponent zero. -/
def positionalChars (ds : List Char) (order : Int) : List Char :=
  if order < 0 then '0' :: '.' :: (List.replicate (-order - 1).toNat '0' ++ ds)
  else
    let whole := order.toNat + 1
    let fraction := ds.drop whole
    ds.take whole ++ List.replicate (whole - ds.length) '0' ++
      '.' :: (if fraction.isEmpty then ['0'] else fraction)

/-- Digits with a point after the first, and an exponent. -/
def scientificChars (ds : List Char) (order : Int) : List Char :=
  let exponent := decimalDigits order.natAbs
  ds.take 1 ++ (if ds.length ≤ 1 then [] else '.' :: ds.drop 1) ++
    'e' :: (if order < 0 then '-' else '+') ::
      (List.replicate (2 - exponent.length) '0' ++ exponent)

/-- The text of a decimal. -/
def decimalChars (d : Decimal) : List Char :=
  let ds := decimalDigits d.digits
  let order := d.exponent + ds.length - 1
  if isPositional order then positionalChars ds order else scientificChars ds order

/-- The text of a magnitude. -/
def magnitudeChars (steps : Nat) : List Char :=
  if steps = 0 then ['0', '.', '0'] else decimalChars (Binary64.shortestDecimal steps)

/-- The text of a binary64 number. -/
def realText : Binary64 → String
  | .nan => "nan"
  | .infinite negative => if negative then "-inf" else "inf"
  | .finite negative steps _ =>
      String.ofList (if negative then '-' :: magnitudeChars steps else magnitudeChars steps)

/-- The text of a number. -/
def Number.text : Number → Except Failure String
  | .int n => integerText n
  | .real x => .ok (realText x)

/-- The text of a number in a drawing: a whole number has no point and no exponent. -/
def Number.coordinateText : Number → Except Failure String
  | .int n => integerText n
  | .real x =>
      match x.whole? with
      | some n => integerText n
      | none => .ok (realText x)

end RackElevation
