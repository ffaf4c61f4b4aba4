import RackElevation.Number.Numeral
import RackElevation.Raster.Color.Name

/-!
# Colour texts

The texts that say a colour, in letters of either case:

    navy   #000080   #008   rgb(0, 0, 128)   rgb(0%, 0%, 50%)   hsl(240, 100%, 25%)   hsv(240, 100%,
    50%)

A fourth component, which tells how solid a colour is, is read and dropped.  Blank characters may
stand around the numbers between the parentheses, and one line feed after any form but a name.

Shades given by hue are computed in binary64 arithmetic, in the order in which the formulas are
written here.
-/

namespace RackElevation.Raster

open Text

namespace Color

/-! ## Shades given by hue -/

/-- The binary64 number one half. -/
def half : Binary64 := .ofQuotient 1 2

/-- The integer nearest to a number of bytes, a half going up. -/
def roundedUp (x : Binary64) : Int :=
  ((x.add half).truncateToInt?).getD 0

/-- The bytes of a share of full intensity. -/
def shareBytes (x : Binary64) : Int :=
  roundedUp (x.mul (.ofNat 255))

/-- The colour of three shares of full intensity. -/
def ofShares (red green blue : Binary64) : Color :=
  ⟨shareBytes red, shareBytes green, shareBytes blue⟩

/-- The share of one component between a low and a high share, for a hue counted in turns. -/
def hueShare (low high hue : Binary64) : Binary64 :=
  let hue := hue.fractionalPart
  let twoThirds := Binary64.ofQuotient 2 3
  if hue.lt (.ofQuotient 1 6) then low.add (((high.sub low).mul hue).mul (.ofNat 6))
  else if hue.lt half then high
  else if hue.lt twoThirds then
    low.add (((high.sub low).mul (twoThirds.sub hue)).mul (.ofNat 6))
  else low

/-- The colour of a hue in turns, a lightness and a saturation. -/
def ofHueLightness (hue lightness saturation : Binary64) : Color :=
  if saturation.eqv (.ofNat 0) then ofShares lightness lightness lightness
  else
    let high :=
      if lightness.le half then lightness.mul ((Binary64.ofNat 1).add saturation)
      else (lightness.add saturation).sub (lightness.mul saturation)
    let low := ((Binary64.ofNat 2).mul lightness).sub high
    let third := Binary64.ofQuotient 1 3
    ofShares (hueShare low high (hue.add third)) (hueShare low high hue)
      (hueShare low high (hue.sub third))

/-- The colour of a hue in turns, a saturation and a value. -/
def ofHueValue (hue saturation value : Binary64) : Color :=
  if saturation.eqv (.ofNat 0) then ofShares value value value
  else
    let one := Binary64.ofNat 1
    let turned := hue.mul (.ofNat 6)
    let sector := (turned.truncateToInt?).getD 0
    let rest := turned.sub (.ofInt sector)
    let p := value.mul (one.sub saturation)
    let q := value.mul (one.sub (saturation.mul rest))
    let t := value.mul (one.sub (saturation.mul (one.sub rest)))
    match (sector % 6).toNat with
    | 0 => ofShares value t p
    | 1 => ofShares q value p
    | 2 => ofShares p value t
    | 3 => ofShares p q value
    | 4 => ofShares t p value
    | _ => ofShares value p q

/-! ## Parts of a text -/

/-- A character in lower case, as far as a colour text can tell: the Kelvin sign is a letter too. -/
def lower (c : Char) : Char :=
  if c == '\u212a' then 'k' else c.toLower

/-- The value of a hexadecimal digit. -/
def hexDigit? (c : Char) : Option Nat :=
  if c.isDigit then some (c.toNat - '0'.toNat)
  else if 'a' ≤ c && c ≤ 'f' then some (c.toNat - 'a'.toNat + 10)
  else none

/-- The colour of some hexadecimal digits: one or two for each of three or four components. -/
def ofHexDigits? : List Nat → Option Color
  | [r, g, b] | [r, g, b, _] => some ⟨17 * r, 17 * g, 17 * b⟩
  | [r, r', g, g', b, b'] | [r, r', g, g', b, b', _, _] =>
      some ⟨16 * r + r', 16 * g + g', 16 * b + b'⟩
  | _ => none

/-- The parts of a text between commas. -/
def commaParts (cs : List Char) : List (List Char) :=
  cs.foldr (fun c parts =>
    if c == ',' then [] :: parts
    else
      match parts with
      | part :: parts => (c :: part) :: parts
      | [] => [[c]]) [[]]

/-- The whole number that a part is. -/
def whole? (part : List Char) : Option Nat :=
  if !part.isEmpty && part.all isDigit then some (Text.value part) else none

/-- The number with or without a fraction that a part is. -/
def decimal? (part : List Char) : Option Binary64 :=
  let split := splitAtFirst (· == '.') part
  if !split.1.isEmpty && split.1.all isDigit && (split.2.getD []).all isDigit then realNumeral? part
  else none

/-- A part without the percent sign at its end. -/
def percent? (part : List Char) : Option (List Char) :=
  if part.getLast? == some '%' then some part.dropLast else none

/-- A percentage of full intensity. -/
def percentBytes (n : Nat) : Int :=
  roundedUp ((Binary64.ofNat (n * 255)).div (.ofNat 100))

/-- A number divided by another one. -/
def per (x : Binary64) (n : Nat) : Binary64 :=
  x.div (.ofNat n)

/-- The colour of a name and the parts between parentheses. -/
def ofParts? (name : String) (parts : List (List Char)) : Option Color :=
  match name, parts with
  | "rgb", [r, g, b] =>
      match whole? r, whole? g, whole? b with
      | some r, some g, some b => some ⟨r, g, b⟩
      | _, _, _ => do
          let r ← whole? (← percent? r)
          let g ← whole? (← percent? g)
          let b ← whole? (← percent? b)
          return ⟨percentBytes r, percentBytes g, percentBytes b⟩
  | "rgba", [r, g, b, solidity] => do
      let _ ← whole? solidity
      return ⟨← whole? r, ← whole? g, ← whole? b⟩
  | "hsl", [hue, saturation, lightness] => do
      let hue ← decimal? hue
      let saturation ← decimal? (← percent? saturation)
      let lightness ← decimal? (← percent? lightness)
      return ofHueLightness (per hue 360) (per lightness 100) (per saturation 100)
  | "hsv", [hue, saturation, value] | "hsb", [hue, saturation, value] => do
      let hue ← decimal? hue
      let saturation ← decimal? (← percent? saturation)
      let value ← decimal? (← percent? value)
      return ofHueValue (per hue 360) (per saturation 100) (per value 100)
  | _, _ => none

/-- The colour of a name followed by parts between parentheses. -/
def ofCall? (cs : List Char) : Option Color :=
  match splitAtFirst (· == '(') cs with
  | (name, some rest) =>
      if rest.getLast? == some ')' then
        ofParts? (String.ofList name) ((commaParts rest.dropLast).map trim)
      else none
  | _ => none

/-- A text without one line feed at its end. -/
def dropLineFeed (cs : List Char) : List Char :=
  if cs.getLast? == some '\n' then cs.dropLast else cs

/-- The number of characters that a colour text may have. -/
def textLimit : Nat := 100

/-- The colour that a text says. -/
def read? (text : String) : Option Color :=
  let cs := text.toList.map lower
  if textLimit < cs.length then none
  else
    match ofName? (String.ofList cs) with
    | some color => some color
    | none =>
        match dropLineFeed cs with
        | '#' :: digits => (digits.mapM hexDigit?).bind ofHexDigits?
        | cs => ofCall? cs

end Color

end RackElevation.Raster
