import RackElevation.Binary64
import RackElevation.Text.Digit

/-!
# Decimals and the shortest decimal of a number

A decimal is a natural times a power of ten.  Reading rounds it to the nearest binary64 number.
The *shortest* decimal of a positive number is found grid by grid: with 1, 2, … 17 digits the two
neighbours of the number on the decimal grid are tried, and the first grid on which one of them
reads back to the number wins.  Of two that read back the nearer one is taken, and of two equally
near the even one.  Should no grid do, the exact decimal expansion is used.
-/

namespace RackElevation

/-- The decimal `digits · 10 ^ exponent`. -/
structure Decimal where
  digits : Nat
  exponent : Int
  deriving DecidableEq, Repr

namespace Decimal

/-- The number of digits of a natural, at least one. -/
def width (n : Nat) : Nat :=
  (Text.decimalDigits n).length

/-- A decimal as a quotient of naturals. -/
def quotient (d : Decimal) : Nat × Nat :=
  match d.exponent with
  | .ofNat e => (d.digits * Nat.pow 10 e, 1)
  | .negSucc e => (d.digits, Nat.pow 10 (e + 1))

/-- The number nearest to a decimal with a sign.  Decimals from 10^400 on are infinite and those
below 10^-400 are zero without their powers of ten being computed. -/
def toBinary64 (negative : Bool) (d : Decimal) : Binary64 :=
  let order := d.exponent + width d.digits
  if d.digits = 0 || order < -400 then Binary64.zero negative
  else if 400 < order then .infinite negative
  else
    let q := d.quotient
    Binary64.ofRatio negative (q.1 * Binary64.unit) q.2

end Decimal

namespace Binary64

/-- Whether a decimal reads back to the magnitude of a count of steps. -/
def readsBack (steps : Nat) (d : Decimal) : Bool :=
  d.toBinary64 false = ofSteps false steps

/-- The exponent of the leading decimal digit of a positive count of steps. -/
def decimalOrder (steps : Nat) : Int :=
  if unit ≤ steps then (Decimal.width (steps / unit) : Int) - 1
  else -(Decimal.width ((unit + steps - 1) / steps - 1) : Int)

/-- A count of steps over a power of ten, as a quotient of naturals. -/
def overPowerOfTen (steps : Nat) : Int → Nat × Nat
  | .ofNat e => (steps, unit * Nat.pow 10 e)
  | .negSucc e => (steps * Nat.pow 10 (e + 1), unit)

/-- The neighbour on the decimal grid with the given exponent that reads back and is nearest. -/
def gridNeighbour? (steps : Nat) (exponent : Int) : Option Decimal :=
  let q := overPowerOfTen steps exponent
  let low := q.1 / q.2
  let rest := q.1 % q.2
  let lower : Decimal := ⟨low, exponent⟩
  let upper : Decimal := ⟨low + 1, exponent⟩
  let lowerFirst := 2 * rest < q.2 || (2 * rest == q.2 && low % 2 == 0)
  let (first, second) := if lowerFirst then (lower, upper) else (upper, lower)
  if readsBack steps first then some first
  else if readsBack steps second then some second
  else none

/-- The exact decimal expansion of a count of steps. -/
def exactDecimal (steps : Nat) : Decimal :=
  ⟨steps * Nat.pow 5 1074, -1074⟩

/-- A natural and a count of its trailing zeros that were dropped, at most `fuel` of them. -/
def dropZeros : Nat → Nat → Nat × Nat
  | 0, n => (n, 0)
  | fuel + 1, n =>
      if n ≠ 0 && n % 10 = 0 then
        let r := dropZeros fuel (n / 10)
        (r.1, r.2 + 1)
      else (n, 0)

/-- A decimal without trailing zeros in its digits. -/
def trimmed (d : Decimal) : Decimal :=
  let r := dropZeros (Decimal.width d.digits) d.digits
  ⟨r.1, d.exponent + r.2⟩

/-- The shortest decimal that reads back to the magnitude of a positive count of steps. -/
def shortestDecimal (steps : Nat) : Decimal :=
  let order := decimalOrder steps
  let grids := (List.range 17).map fun (k : Nat) => order - (k : Int)
  trimmed ((grids.findSome? (gridNeighbour? steps)).getD (exactDecimal steps))

end Binary64

end RackElevation
