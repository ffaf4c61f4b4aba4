/-!
# Causes of failure

Every computation of the library that can fail says why with one of these causes.  The wording of a
cause is `Failure.message`; nothing else in the library writes an error text.

## Groups

* numbers: an integer that no binary64 number can hold, a quotient out of range, a value that is not
  a number, a numeral longer than the limit on integer text;
* settings: a geometry setting that is not finite, not positive or negative;
* markup: text that is not well formed, and the two ways a declared encoding can be unusable;
* drawings: a value in a drawing tree that is no primitive, and a tree that is too deep;
* painting: a scale below one, a canvas or a colour component that the raster cannot hold;
* paths: a file that is missing or of the wrong kind, and a path that can be none;
* options: a value that counts as none.
-/

namespace RackElevation

/-- The geometry settings that are checked by name. -/
inductive Setting where
  | unitHeight
  | rackWidth
  | rackSpacing
  | margin
  | defaultRackHeight
  deriving DecidableEq, Repr

/-- The name under which a setting is reported. -/
def Setting.name : Setting → String
  | .unitHeight => "unit_height"
  | .rackWidth => "rack_width"
  | .rackSpacing => "rack_spacing"
  | .margin => "margin"
  | .defaultRackHeight => "default_rack_height"

/-- Why a computation failed. -/
inductive Failure where
  /-- An integer rounds to no finite binary64 number. -/
  | integerTooLarge
  /-- The quotient of two integers rounds to no finite binary64 number. -/
  | quotientTooLarge
  /-- An infinite number was to be made an integer. -/
  | infinityToInteger
  /-- A value that is not a number was to be made an integer. -/
  | nanToInteger
  /-- A numeral has more digits than the limit on integer text. -/
  | numeralTooLong (digits : Nat)
  /-- An integer has more digits than the limit on integer text. -/
  | integerTooLong
  /-- A setting is infinite or not a number. -/
  | settingNotFinite (setting : Setting)
  /-- A setting is zero or less. -/
  | settingNotPositive (setting : Setting)
  /-- A setting is less than zero. -/
  | settingNegative (setting : Setting)
  /-- The markup is not well formed. -/
  | malformedMarkup
  /-- The declared encoding has no decoder. -/
  | unknownEncoding (name : String)
  /-- The declared encoding turns bytes into something that is not text. -/
  | notTextEncoding (name : String)
  /-- The declared encoding needs more than one byte for some characters. -/
  | multiByteEncoding
  /-- A drawing tree holds a value that is no primitive; the value is given as it is shown. -/
  | unsupportedPrimitive (shown : String)
  /-- More calls would be nested in each other than the interpreter allows. -/
  | nestedTooDeep
  /-- The raster scale is below one. -/
  | scaleTooSmall
  /-- An integer is above the range of 32 bits. -/
  | halfWordTooLarge
  /-- An integer is below the range of 32 bits. -/
  | halfWordTooSmall
  /-- An integer has no 64 bit form. -/
  | wordTooLarge
  /-- A red component has no 64 bit form. -/
  | redTooLarge
  /-- The rows of a raster are longer than can be addressed. -/
  | rasterTooLarge
  /-- A rectangle's right edge lies left of its left edge. -/
  | reversedWidth
  /-- A rectangle's bottom edge lies above its top edge. -/
  | reversedHeight
  /-- Labels cannot be drawn at this font size. -/
  | fontTooSmall (size : Int)
  /-- No file has this path. -/
  | noSuchPath (path : String)
  /-- A step of the path is no directory. -/
  | notDirectory (path : String)
  /-- The path names a directory. -/
  | isDirectory (path : String)
  /-- A step of the path, or the whole path, is longer than a file system allows. -/
  | pathTooLong (path : String)
  /-- A path holds the character U+0000. -/
  | nullInPath
  /-- An option was given a value that counts as none. -/
  | noOptionValue
  deriving DecidableEq, Repr

/-- Whether a failure comes from looking up a path. -/
def Failure.isPathFailure : Failure → Bool
  | .noSuchPath _ | .notDirectory _ | .isDirectory _ | .pathTooLong _ => true
  | _ => false

/-- Whether a failure is about a geometry setting. -/
def Failure.isSettingFailure : Failure → Bool
  | .settingNotFinite _ | .settingNotPositive _ | .settingNegative _ => true
  | _ => false

end RackElevation
