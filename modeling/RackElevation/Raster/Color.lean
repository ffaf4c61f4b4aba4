import RackElevation.Failure
import RackElevation.Text.Quoted

/-!
# Colours of a raster

A colour has a red, a green and a blue component.  What a colour text says is not limited to the
range of a byte; a pixel holds the nearest bytes.
-/

namespace RackElevation.Raster

/-- A colour by its red, green and blue components. -/
structure Color where
  red : Int
  green : Int
  blue : Int
  deriving DecidableEq, Repr

namespace Color

/-- The colour drawn for a text that names none. -/
def white : Color := ⟨255, 255, 255⟩

/-- The colour with given bytes in one number, red in the highest one. -/
def ofCode (code : Nat) : Color :=
  ⟨code / 0x10000, code / 0x100 % 0x100, code % 0x100⟩

end Color

/-- The three bytes of a pixel. -/
structure Pixel where
  red : Nat
  green : Nat
  blue : Nat
  deriving DecidableEq, Repr

/-- The six hexadecimal digits of a pixel. -/
def Pixel.code (p : Pixel) : String :=
  String.ofList ([p.red, p.green, p.blue].flatMap (Text.hexadecimal 2))

/-- The byte nearest to an integer. -/
def nearestByte (n : Int) : Nat :=
  (min n 255).toNat

/-- Whether an integer has a form in a word of so many bits. -/
def fitsBits (bits : Nat) (n : Int) : Bool :=
  let half : Nat := Nat.pow 2 (bits - 1)
  decide (-(half : Int) ≤ n) && decide (n < half)

/-- A condition that an integer has a form of 32 bits. -/
def requireHalfWord (n : Int) : Except Failure Unit :=
  if !fitsBits 64 n then .error .wordTooLarge
  else if fitsBits 32 n then .ok ()
  else .error (if n < 0 then .halfWordTooSmall else .halfWordTooLarge)

/-- The pixel of a colour.  Red must have a form of 64 bits, green and blue one of 32 bits. -/
def Color.pixel (c : Color) : Except Failure Pixel := do
  if !fitsBits 64 c.red then throw .redTooLarge
  requireHalfWord c.green
  requireHalfWord c.blue
  return ⟨nearestByte c.red, nearestByte c.green, nearestByte c.blue⟩

end RackElevation.Raster
