import RackElevation.Failure
import RackElevation.Text.Digit
import RackElevation.Text.Quoted

/-!
# The wording of failures

`Failure.message` gives the text of every cause.  Path failures carry the system's number for the
cause and the path as it is shown.
-/

namespace RackElevation

open Text

/-- The most digits that a numeral or the text of an integer may have. -/
def integerTextLimit : Nat := 4300

/-- A number in words of a message. -/
def countText (n : Nat) : String :=
  String.ofList (decimalDigits n)

/-- The start of both messages about the limit on integer text. -/
def integerLimitText : String :=
  "Exceeds the limit (" ++ countText integerTextLimit ++ " digits) for integer string conversion"

/-- The advice at the end of both messages about the limit on integer text. -/
def integerLimitAdvice : String :=
  "; use sys.set_int_max_str_digits() to increase the limit"

/-- The text of a failure. -/
def Failure.message : Failure → String
  | .integerTooLarge => "int too large to convert to float"
  | .quotientTooLarge => "integer division result too large for a float"
  | .infinityToInteger => "cannot convert float infinity to integer"
  | .nanToInteger => "cannot convert float NaN to integer"
  | .numeralTooLong n =>
      integerLimitText ++ ": value has " ++ countText n ++ " digits" ++ integerLimitAdvice
  | .integerTooLong => integerLimitText ++ integerLimitAdvice
  | .settingNotFinite s => s.name ++ " must be a finite number"
  | .settingNotPositive s => s.name ++ " must be positive"
  | .settingNegative s => s.name ++ " must not be negative"
  | .malformedMarkup => "Failed to parse input"
  | .unknownEncoding name => "unknown encoding: " ++ name
  | .notTextEncoding name =>
      "'" ++ name ++ "' is not a text encoding; use codecs.decode() to handle arbitrary codecs"
  | .multiByteEncoding => "multi-byte encodings are not supported"
  | .unsupportedPrimitive shown => "Unsupported primitive: " ++ shown
  | .nestedTooDeep => "maximum recursion depth exceeded"
  | .scaleTooSmall => "scale must be at least 1"
  | .halfWordTooLarge => "signed integer is greater than maximum"
  | .halfWordTooSmall => "signed integer is less than minimum"
  | .wordTooLarge => "Python int too large to convert to C long"
  | .redTooLarge => "int too big to convert"
  | .rasterTooLarge => ""
  | .reversedWidth => "x1 must be greater than or equal to x0"
  | .reversedHeight => "y1 must be greater than or equal to y0"
  | .fontTooSmall size =>
      "font size must be greater than 0, not " ++
        (if size < 0 then "-" else "") ++ countText size.natAbs
  | .noSuchPath path => "[Errno 2] No such file or directory: " ++ quoted path
  | .notDirectory path => "[Errno 20] Not a directory: " ++ quoted path
  | .isDirectory path => "[Errno 21] Is a directory: " ++ quoted path
  | .pathTooLong path => "[Errno 36] File name too long: " ++ quoted path
  | .nullInPath => "embedded null byte"
  | .noOptionValue => "not enough values to unpack (expected 1, got 0)"

end RackElevation
